import PrintGateway.Machine.Keyed
import PrintGateway.Model.Agent.DesiredCollection

/-!
# The desired state arrives whole

The rows the Agent has collected and the rows still to come always make up the printers of the agent in
the order of the database, and the cursor names the last row collected as long as a row is to come.
Every continuation brings at least one row, so the collection ends, and it ends with all of them or with
an error.
-/

namespace PrintGateway.Gateway

open Machine Text

/-- A filled page is a beginning of the rows, and not an empty one. -/
theorem fillPage_eq_ok {items rows filled : List DesiredPrinter} {bytes : ℕ}
    (done : fillPage items bytes rows = .ok filled) :
    ∃ taken rest, rows = taken ++ rest ∧ filled = items ++ taken ∧ (items = [] → rows ≠ [] → taken ≠ []) := by
  induction rows generalizing items bytes with
  | nil =>
    obtain rfl : items = filled := by simpa only [fillPage, Except.ok.injEq] using done
    exact ⟨[], [], rfl, by simp, by simp⟩
  | cons row rows ih =>
    simp only [fillPage] at done
    by_cases long : desiredStatePageBytes < bytes + (row.byteLength + if items = [] then 0 else 1)
    · rw [if_pos long] at done
      split at done
      · simp at done
      next started =>
        cases done
        exact ⟨[], row :: rows, rfl, by simp, fun none => absurd none started⟩
    · rw [if_neg long] at done
      obtain ⟨taken, rest, rfl, rfl, -⟩ := ih done
      exact ⟨row :: taken, rest, rfl, by simp, by simp⟩

/-- The cursor written for an id reads back as that id, if it is read at all. -/
theorem readFleetCursorId_encode {decoder : Utf8Decoder} {id : Text} {read : Option Text}
    (accepted : readFleetCursorId decoder none (some (encodeCursorId id)) = .ok read) : read = some id := by
  obtain ⟨decoded, named, accepted⟩ := exists_of_bind_eq_ok accepted
  have same : decoded = some id := by
    simp only [decodeCursorId] at named
    split at named
    · simp at named
    split at named
    · simp at named
    split at named
    · simp at named
    rw [← Except.ok.inj named, encodeCursorId, Base64.decodeLenient_encodeRaw_url, decoder.decode_utf8]
  split at accepted
  · simp at accepted
  · rw [← Except.ok.inj accepted, same]

namespace DesiredReader

variable {reader : DesiredReader} {page : DesiredPage} {front rest : List DesiredPrinter}

/-- The printers of the agent in the order of the database. -/
def ordered (reader : DesiredReader) : List DesiredPrinter :=
  reader.collation.ordered (·.id) reader.printers

theorem nodup_ids (reader : DesiredReader) : (reader.printers.map (·.id)).Nodup := by
  rw [printers, PrinterRecords.managerPrinters, List.map_map]
  refine List.Nodup.of_map (fun id => (reader.tenantId, id)) ?_
  rw [List.map_map]
  refine Eq.subst (motive := List.Nodup) (List.map_congr_left fun row member => ?_)
    (reader.records.unique.sublist (List.filter_sublist.map _))
  have own := (List.mem_filter.mp member).2
  simp only [decide_eq_true_eq] at own
  simp [own.1]

/-- What a page says about the rows it is read from: a beginning of them, and a cursor when rows are
left. -/
structure PageOf (page : DesiredPage) (remaining rest : List DesiredPrinter) : Prop where
  split : remaining = page.items ++ rest
  inhabited : remaining ≠ [] → page.items ≠ []
  cursor : page.nextCursor = if rest = [] then none else page.items.getLast?.map (encodeCursorId ·.id)

/-- One row more than a page holds is read, so a page knows whether it is the last one. -/
theorem pageOf_of_fillPage {limit : ℕ} {remaining items : List DesiredPrinter}
    (filled : fillPage [] 2 ((remaining.take (limit + 1)).take limit) = .ok items) (positive : 0 < limit) :
    ∃ rest, PageOf ⟨items, if items.length < (remaining.take (limit + 1)).length then
      items.getLast?.map (encodeCursorId ·.id) else none⟩ remaining rest := by
  rw [List.take_take, Nat.min_eq_left (Nat.le_succ limit)] at filled
  obtain ⟨taken, left, split, same, inhabited⟩ := fillPage_eq_ok filled
  obtain rfl : taken = items := same.symm
  have whole : remaining = taken ++ (left ++ remaining.drop limit) := by
    rw [← List.append_assoc, ← split, List.take_append_drop]
  have more : taken.length < (remaining.take (limit + 1)).length ↔ left ++ remaining.drop limit ≠ [] := by
    have read := congrArg List.length split
    rw [← List.length_pos_iff, List.length_append, List.length_drop, List.length_take]
    rw [List.length_append, List.length_take] at read
    omega
  refine ⟨left ++ remaining.drop limit, whole, fun some => inhabited rfl ?_, ?_⟩
  · rw [Ne, List.take_eq_nil_iff]
    rintro (none | none)
    · omega
    · exact some none
  · by_cases last : left ++ remaining.drop limit = []
    · rw [if_pos last, if_neg fun left => more.mp left last]
    · rw [if_neg last, if_pos (more.mpr last)]

/-- The first page is read from all rows. -/
theorem pageOf_first (read : reader.getDesiredPrinterPage none = .ok page) :
    ∃ rest, PageOf page reader.ordered rest := by
  obtain ⟨_, first, read⟩ := exists_of_bind_eq_ok read
  cases first
  obtain ⟨items, filled, built⟩ := exists_of_bind_eq_ok read
  cases built
  have all : reader.printers.filter (reader.collation.isAfter (·.id) none) = reader.printers := by
    simp [Collation.isAfter]
  rw [Collation.readAfter, all] at filled ⊢
  exact pageOf_of_fillPage filled (by decide)

/-- A continuation is read from the rows behind the one its cursor names. -/
theorem pageOf_next {last : DesiredPrinter} (split : reader.ordered = front ++ last :: rest)
    (read : reader.getDesiredPrinterPage (some (encodeCursorId last.id)) = .ok page) :
    ∃ left, PageOf page rest left := by
  obtain ⟨afterId, named, read⟩ := exists_of_bind_eq_ok read
  obtain rfl := readFleetCursorId_encode named
  obtain ⟨items, filled, built⟩ := exists_of_bind_eq_ok read
  cases built
  rw [Collation.readAfter, Collation.ordered_after (nodup_ids reader) split] at filled ⊢
  exact pageOf_of_fillPage filled (by decide)

end DesiredReader

end PrintGateway.Gateway

namespace PrintGateway.Agent

open Machine Text
open Gateway (DesiredPrinter DesiredReader encodeCursorId)

variable {conditions : Conditions} {agentId : Text} {reader : DesiredReader}
  {collection next : Collection} {rest : List DesiredPrinter}

/-- Rows that pass have an id. -/
theorem id_ne_nil_of_validate {rows : List DesiredPrinter} {seen seenIds : List Text}
    (valid : validateDesiredStateRows rows seen = .ok seenIds) : ∀ row ∈ rows, row.id ≠ [] := by
  induction rows generalizing seen with
  | nil => simp
  | cons row rows ih =>
    rw [validateDesiredStateRows, List.foldlM_cons] at valid
    obtain ⟨seen', first, valid⟩ := exists_of_bind_eq_ok valid
    rintro other (_ | ⟨_, member⟩)
    · rintro empty
      simp [validateDesiredStateRow, empty] at first
    · exact ih valid other member

/-- What has been collected and what is to come. -/
structure Progress (reader : DesiredReader) (collection : Collection) (rest : List DesiredPrinter) : Prop where
  split : reader.ordered = collection.all ++ rest
  named : ∀ row ∈ collection.all, row.id ≠ []
  done : rest = [] → collection.cursor = []
  pending : rest ≠ [] → ∃ front last, collection.all = front ++ [last] ∧ collection.cursor = encodeCursorId last.id

theorem encodeCursorId_ne_nil {id : Text} (named : id ≠ []) : encodeCursorId id ≠ [] := by
  obtain ⟨c, id, rfl⟩ := List.exists_cons_of_ne_nil named
  intro empty
  have decoded := Base64.decodeLenient_encodeRaw_url (utf8 (c :: id))
  rw [show Base64.encodeRaw .url (utf8 (c :: id)) = [] from empty] at decoded
  have nothing : utf8 (c :: id) = [] := decoded.symm
  simp [utf8, String.utf8EncodeChar_ne_nil] at nothing

/-- An empty cursor ends a collection that is complete. -/
theorem Progress.rest_eq_nil (progress : Progress reader collection rest) (ended : collection.cursor = []) :
    rest = [] := by
  by_contra more
  obtain ⟨front, last, all, cursor⟩ := progress.pending more
  have named : last.id ≠ [] := progress.named last (by simp [all])
  exact encodeCursorId_ne_nil named (cursor.symm.trans ended)

/-- A page of the rows to come is accepted behind those collected. -/
theorem Progress.accept {page : Gateway.DesiredPage} {seen : List Text} {left : List DesiredPrinter}
    (split : reader.ordered = collection.all ++ rest) (named : ∀ row ∈ collection.all, row.id ≠ [])
    (pageOf : DesiredReader.PageOf page rest left)
    (accepted : collection.accept conditions seen page.items (page.nextCursor.getD []) = .ok next) :
    Progress reader next left := by
  obtain ⟨seenIds, valid, accepted⟩ := exists_of_bind_eq_ok accepted
  simp only at accepted
  split at accepted
  · simp at accepted
  cases accepted
  refine ⟨by simp [split, pageOf.split], ?_, ?_, ?_⟩
  · intro row member
    rcases List.mem_append.mp member with earlier | new
    · exact named row earlier
    · exact id_ne_nil_of_validate valid row new
  · rintro rfl
    simp [pageOf.cursor]
  · intro more
    have some : rest ≠ [] := by
      rw [pageOf.split]
      exact List.append_ne_nil_of_right_ne_nil _ more
    obtain ⟨front, last, items⟩ := List.eq_nil_or_concat'  page.items |>.resolve_left (pageOf.inhabited some)
    refine ⟨collection.all ++ front, last, by simp [items], ?_⟩
    simp [pageOf.cursor, more, items]

/-- Every continuation brings the collection forward. -/
theorem Progress.fetch (progress : Progress reader collection rest) (more : collection.cursor ≠ [])
    (fetched : collection.fetch conditions agentId (serveDesiredState reader) = .ok next) :
    ∃ left, Progress reader next left ∧ left.length < rest.length := by
  have pending : rest ≠ [] := fun none => more (progress.done none)
  obtain ⟨front, last, all, cursor⟩ := progress.pending pending
  simp only [Collection.fetch] at fetched
  split at fetched
  · simp at fetched
  split at fetched
  · simp at fetched
  split at fetched
  · simp at fetched
  split at fetched
  · simp at fetched
  next page served =>
  split at fetched
  · simp at fetched
  simp only [serveDesiredState] at served
  split at served
  next page read =>
    cases served
    have whole : reader.ordered = front ++ last :: rest := by simp [progress.split, all]
    rw [cursor] at read
    obtain ⟨left, pageOf⟩ := DesiredReader.pageOf_next whole read
    refine ⟨left, Progress.accept progress.split progress.named pageOf fetched, ?_⟩
    have items := List.length_pos_iff.mpr (pageOf.inhabited pending)
    have length := congrArg List.length pageOf.split
    rw [List.length_append] at length
    omega
  · simp at served

/-- From any point on, the collection ends with all rows or with an error. -/
theorem Progress.run (progress : Progress reader collection rest) {fuel : ℕ} (enough : rest.length < fuel) :
    ∃ outcome, collection.run conditions agentId (serveDesiredState reader) fuel = some outcome ∧
      ∀ rows, outcome = .ok rows → rows = reader.ordered := by
  -- The fuel counts continuations; each leaves fewer rows to come.
  induction fuel generalizing collection rest with
  | zero => omega
  | succ fuel ih =>
    rw [Collection.run]
    split
    next ended =>
      refine ⟨_, rfl, fun rows complete => ?_⟩
      split at complete
      · rw [← Except.ok.inj complete, progress.split, progress.rest_eq_nil ended, List.append_nil]
      · simp at complete
    next more =>
    split
    · exact ⟨_, rfl, by simp⟩
    next next fetched =>
    obtain ⟨left, progress, fewer⟩ := progress.fetch more fetched
    exact ih progress (by omega)

/-- The collection ends, and a collection without an error has every printer of the agent once. -/
theorem desired_collection_exact (conditions : Conditions) (agentId : Text) (reader : DesiredReader)
    {fuel : ℕ} (enough : reader.printers.length < fuel) :
    ∃ outcome, synchronizeDesiredState conditions agentId reader fuel = some outcome ∧
      ∀ rows, outcome = .ok rows → rows.Perm reader.printers ∧ (rows.map (·.id)).Nodup := by
  suffices ∃ outcome, synchronizeDesiredState conditions agentId reader fuel = some outcome ∧
      ∀ rows, outcome = .ok rows → rows = reader.ordered by
    obtain ⟨outcome, ended, complete⟩ := this
    refine ⟨outcome, ended, fun rows collected => ?_⟩
    obtain rfl := complete rows collected
    have same : reader.ordered.Perm reader.printers := Collation.ordered_perm _
    exact ⟨same, (same.map _).nodup_iff.mpr (DesiredReader.nodup_ids reader)⟩
  unfold synchronizeDesiredState
  split
  · exact ⟨_, rfl, by simp⟩
  next reply replied =>
  obtain ⟨page, read, built⟩ := exists_of_bind_eq_ok replied
  obtain rfl := Except.ok.inj built
  simp only [true_or, if_true, collectGatewayDesiredState]
  split
  · exact ⟨_, rfl, by simp⟩
  next collection accepted =>
  obtain ⟨rest, pageOf⟩ := DesiredReader.pageOf_first read
  have progress : Progress reader collection rest := Progress.accept (by simp) (by simp) pageOf accepted
  refine progress.run ?_
  have length := congrArg List.length progress.split
  rw [DesiredReader.ordered, (Collation.ordered_perm _).length_eq, List.length_append] at length
  omega

/-- A decoder that gives up on what is no UTF-8. -/
def strictUtf8 : Gateway.Utf8Decoder where
  decode bytes := (bytes.toByteArray.utf8Decode?).elim [Char.ofNat 65533] Array.toList
  decode_utf8 text := by
    have decoded := @List.utf8Decode?_utf8Encode text
    rw [List.utf8Encode] at decoded
    simp [utf8, decoded]

/-- Texts in the order of their characters. -/
def codePointCollation : Collation Text where
  le a b := decide (a ≤ b)
  total a b := by simpa using le_total a b
  trans below above := by simpa using le_trans (by simpa using below) (by simpa using above)
  antisymm below above := le_antisymm (by simpa using below) (by simpa using above)

def sampleDesiredPrinter (id : Text) : DesiredPrinter :=
  ⟨id, "Office", "physical", "thermal", "network", "raw", "active", .obj [("ip", .str "10.0.0.7")], 1⟩

/-- Two printers more of one agent than fit into a page. -/
def sampleReader : DesiredReader where
  collation := codePointCollation
  decoder := strictUtf8
  records := ⟨(List.range 66).map fun n => ⟨"t", "a", .manager, sampleDesiredPrinter [Char.ofNat (130 - n)]⟩,
    by decide +kernel⟩
  tenantId := "t"
  agentId := "a"

/-- All are collected in two pages, the first one last. -/
theorem desired_collection_exact_two :
    ((sampleReader.getDesiredPrinterPage none).toOption.bind (·.nextCursor)).isSome = true ∧
      ((synchronizeDesiredState ⟨fun _ => true, true, fun _ => 0⟩ "a" sampleReader 67).bind
        fun outcome => outcome.toOption.map fun rows => (rows.length, rows.getLast?.map (·.id))) =
        some (66, some [Char.ofNat 130]) ∧
      ∃ outcome, synchronizeDesiredState ⟨fun _ => true, true, fun _ => 0⟩ "a" sampleReader 67 = some outcome ∧
        ∀ rows, outcome = .ok rows → rows.Perm sampleReader.printers ∧ (rows.map (·.id)).Nodup :=
  ⟨by decide +kernel, by decide +kernel, desired_collection_exact _ _ sampleReader (by decide +kernel)⟩

/-! ### Against any Gateway -/

/-- No printer is named twice, and every row passes the check. -/
def ValidRows (all : List DesiredPrinter) : Prop :=
  (all.map (·.id)).Nodup ∧ ∀ row ∈ all, validateDesiredStateRow [] row = .ok [row.id]

theorem ValidRows.append {all rows : List DesiredPrinter} {seenIds : List Text} (valid : ValidRows all)
    (validated : validateDesiredStateRows rows (all.map (·.id)).reverse = .ok seenIds) :
    ValidRows (all ++ rows) ∧ seenIds = ((all ++ rows).map (·.id)).reverse := by
  induction rows generalizing all with
  | nil =>
    cases validated
    simpa
  | cons row rows ih =>
    rw [validateDesiredStateRows, List.foldlM_cons] at validated
    obtain ⟨seen, first, validated⟩ := exists_of_bind_eq_ok validated
    simp only [validateDesiredStateRow] at first
    split_ifs at first with invalid duplicate
    cases first
    have longer : ValidRows (all ++ [row]) := by
      refine ⟨?_, List.forall_mem_append.mpr ⟨valid.2, List.forall_mem_singleton.mpr ?_⟩⟩
      · simpa [List.nodup_append, valid.1] using duplicate
      · rw [validateDesiredStateRow, if_neg invalid, if_neg List.not_mem_nil]
    simpa using ih longer (by simpa [validateDesiredStateRows] using validated)

/-- What holds of the variables of the loop whatever the Gateway answers. -/
structure Collected (collection : Collection) : Prop where
  valid : ValidRows collection.all
  noted : collection.seenIds = (collection.all.map (·.id)).reverse
  counted : collection.all.length ≤ collection.bytes
  budget : collection.bytes ≤ maxDesiredStateSnapshotBytes
  turns : collection.seen.length + collection.rows.length ≤ collection.all.length

namespace Collected

variable {serve : Text → Option Continuation} (marshalled : ∀ rows, rows.length ≤ conditions.marshalled rows)
  (collected : Collected collection)

include marshalled collected

theorem accept {seen : List Text} (turns : seen.length ≤ collection.all.length) {rows : List DesiredPrinter}
    {cursor : Text} (accepted : collection.accept conditions seen rows cursor = .ok next) :
    Collected next ∧ next.seen = seen := by
  obtain ⟨seenIds, validated, accepted⟩ := exists_of_bind_eq_ok accepted
  simp only at accepted
  split_ifs at accepted with above
  cases accepted
  obtain ⟨valid, noted⟩ := collected.valid.append (collected.noted ▸ validated)
  have counted := collected.counted
  have grown := marshalled rows
  refine ⟨⟨valid, noted, ?_, not_lt.mp above, ?_⟩, rfl⟩ <;>
    simp only [List.length_append] <;> omega

/-- A cursor is followed once, and only behind a row. -/
theorem fetch (more : collection.cursor ≠ []) (fetched : collection.fetch conditions agentId serve = .ok next) :
    Collected next ∧ next.seen.length = collection.seen.length + 1 := by
  simp only [Collection.fetch] at fetched
  split_ifs at fetched with mismatch
  split at fetched
  · simp at fetched
  split_ifs at fetched
  have row : 0 < collection.rows.length := by
    refine List.length_pos_iff.mpr fun none => ?_
    simp [desiredStateCursorMatchesRows, none, more] at mismatch
  have turns := collected.turns
  obtain ⟨collected, seen⟩ := collected.accept marshalled (by simp only [List.length_cons]; omega) fetched
  exact ⟨collected, by simp [seen]⟩

theorem run {fuel : ℕ} (enough : maxDesiredStateSnapshotBytes < collection.seen.length + fuel) :
    ∃ outcome, collection.run conditions agentId serve fuel = some outcome ∧
      ∀ all, outcome = .ok all → ValidRows all := by
  induction fuel generalizing collection with
  | zero =>
    have ⟨_, _, counted, budget, turns⟩ := collected
    omega
  | succ fuel ih =>
    rw [Collection.run]
    split
    · refine ⟨_, rfl, fun all complete => ?_⟩
      split_ifs at complete
      cases complete
      exact collected.valid
    next more =>
    split
    · exact ⟨_, rfl, by simp⟩
    next next fetched =>
    obtain ⟨collected, turned⟩ := collected.fetch marshalled more fetched
    exact ih collected (by omega)

end Collected

/-- Whatever the Gateway answers, the collection ends, and its rows have passed the check. -/
theorem collection_ends (conditions : Conditions) (agentId : Text) (serve : Text → Option Continuation)
    (marshalled : ∀ rows, rows.length ≤ conditions.marshalled rows) (rows : List DesiredPrinter) (cursor : Text) :
    ∃ outcome, collectGatewayDesiredState conditions agentId serve (maxDesiredStateSnapshotBytes + 1) rows cursor =
        some outcome ∧ ∀ all, outcome = .ok all → ValidRows all := by
  rw [collectGatewayDesiredState]
  split
  · exact ⟨_, rfl, by simp⟩
  next collection accepted =>
  have start : Collected ⟨[], [], [], [], [], 0⟩ := by constructor <;> simp [ValidRows]
  exact (start.accept marshalled le_rfl accepted).1.run marshalled (by omega)

/-- A Gateway whose pages never end. -/
theorem collection_ends_endless : ∃ outcome, collectGatewayDesiredState ⟨fun _ => true, true, List.length⟩ "a"
        (fun cursor => some ⟨"a", [sampleDesiredPrinter cursor], encodeCursorId cursor⟩)
        (maxDesiredStateSnapshotBytes + 1) [sampleDesiredPrinter "p"] (encodeCursorId "p") =
      some outcome ∧ ∀ all, outcome = .ok all → ValidRows all :=
  collection_ends _ _ _ (fun _ => le_rfl) _ _

end PrintGateway.Agent
