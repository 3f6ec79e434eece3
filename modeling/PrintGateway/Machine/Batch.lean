import Mathlib.Algebra.GroupWithZero.Nat
import Mathlib.Algebra.Order.BigOperators.Group.List
import Mathlib.Algebra.Order.Group.Nat
import Mathlib.Data.List.MinMax
import Mathlib.Data.List.Pairwise
import Mathlib.Order.Nat
import PrintGateway.Machine.Update

/-!
# Batched statements

An `UPDATE` whose rows come from `SELECT … WHERE … ORDER BY key LIMIT n`.  Which rows a batch takes is
left open where the query leaves it open: `marked` pairs every row of the table with whether it is
taken.  A pass runs a list of such statements one after the other, and a table is settled when no
further pass changes it.

A rank that every assignment lowers makes passes settle.  When the statements behind the first one exclude each
other, rows that the first one matches as well are the only ones whose end may depend on the limit.  The first
statement gets all of them when enough other rows stand before each of them in the other statement.
-/

namespace Machine

variable {Row : Type*}

/-- Rows taken by `SELECT … WHERE Matches ORDER BY key LIMIT limit`; a constant key is no order. -/
structure Batch (Matches : Row → Prop) [DecidablePred Matches] (key : Row → ℤ) (limit : ℕ)
    (marked : List (Row × Bool)) : Prop where
  sound : ∀ m ∈ marked, m.2 = true → Matches m.1
  full : marked.countP (·.2) = min limit (marked.countP fun m => Matches m.1)
  ordered : ∀ a ∈ marked, ∀ b ∈ marked, a.2 = true → b.2 = false → Matches b.1 → key a.1 ≤ key b.1

instance (Matches : Row → Prop) [DecidablePred Matches] (key : Row → ℤ) (limit : ℕ)
    (marked : List (Row × Bool)) : Decidable (Batch Matches key limit marked) :=
  decidable_of_iff
    ((∀ m ∈ marked, m.2 = true → Matches m.1) ∧ marked.countP (·.2) = min limit (marked.countP fun m => Matches m.1) ∧
      ∀ a ∈ marked, ∀ b ∈ marked, a.2 = true → b.2 = false → Matches b.1 → key a.1 ≤ key b.1)
    ⟨fun h => ⟨h.1, h.2.1, h.2.2⟩, fun h => ⟨h.sound, h.full, h.ordered⟩⟩

namespace Batch

variable {Matches : Row → Prop} [DecidablePred Matches] {key : Row → ℤ} {limit : ℕ}
  {marked : List (Row × Bool)}

theorem exists_minimal (rows : List Row) (key : Row → ℤ) (inhabited : rows ≠ []) :
    ∃ least ∈ rows, ∀ row ∈ rows, key least ≤ key row := by
  obtain ⟨least, found⟩ := Option.ne_none_iff_exists'.mp (mt (List.argmin_eq_none (f := key)).mp inhabited)
  exact ⟨least, List.argmin_mem found, fun row member => List.le_of_mem_argmin member found⟩

theorem countP_taken_le (sound : ∀ m ∈ marked, m.2 = true → Matches m.1) :
    marked.countP (·.2) ≤ marked.countP fun m => Matches m.1 :=
  List.countP_mono_left fun m member taken => by simpa using sound m member taken

/-- When as many rows are taken as match, every match is taken. -/
theorem taken_of_countP_eq (sound : ∀ m ∈ marked, m.2 = true → Matches m.1)
    (equal : marked.countP (·.2) = marked.countP fun m => Matches m.1) :
    ∀ m ∈ marked, Matches m.1 → m.2 = true := by
  have among : marked.countP (·.2) = (marked.filter fun m => Matches m.1).countP (·.2) := by
    rw [List.countP_filter]
    exact List.countP_congr fun m member => by simpa using sound m member
  have all := List.countP_eq_length.mp (among.symm.trans (equal.trans List.countP_eq_length_filter))
  exact fun m member matched => all m (List.mem_filter.mpr ⟨member, decide_eq_true matched⟩)

section

variable (batch : Batch Matches key limit marked)

include batch

variable {m : Row × Bool}

/-- A match is left out only of a full batch, and everything taken comes first. -/
theorem full_of_left (member : m ∈ marked) (matched : Matches m.1) (left : m.2 = false) :
    marked.countP (·.2) = limit ∧ ∀ a ∈ marked, a.2 = true → key a.1 ≤ key m.1 := by
  refine ⟨?_, fun a inside taken => batch.ordered a inside m member taken left matched⟩
  rw [batch.full]
  refine min_eq_left (le_of_not_gt fun fits => ?_)
  have all : marked.countP (·.2) = marked.countP fun m => Matches m.1 := by
    rw [batch.full]
    exact min_eq_right fits.le
  cases left.symm.trans (taken_of_countP_eq batch.sound all m member matched)

/-- A row behind as many matches as the limit allows is not taken. -/
theorem left_of_behind (member : m ∈ marked)
    (behind : limit ≤ marked.countP fun b => Matches b.1 ∧ key b.1 < key m.1) : m.2 = false := by
  by_contra untaken
  have taken : m.2 = true := eq_true_of_ne_false untaken
  have earlier : ∀ b ∈ marked, decide (Matches b.1 ∧ key b.1 < key m.1) = true → b.2 = true := by
    intro b inside before
    obtain ⟨matched, smaller⟩ := of_decide_eq_true before
    by_contra left
    exact absurd (batch.ordered m member b inside taken (eq_false_of_ne_true left) matched) (not_le.mpr smaller)
  have bounded : marked.countP (·.2) ≤ limit := batch.full.trans_le (min_le_left _ _)
  obtain ⟨before, after, rfl⟩ := List.append_of_mem member
  have first : before.countP (fun b => Matches b.1 ∧ key b.1 < key m.1) ≤ before.countP (·.2) :=
    List.countP_mono_left fun b inside => earlier b (List.mem_append_left _ inside)
  have second : after.countP (fun b => Matches b.1 ∧ key b.1 < key m.1) ≤ after.countP (·.2) :=
    List.countP_mono_left fun b inside => earlier b (by simp [inside])
  have self : decide (Matches m.1 ∧ key m.1 < key m.1) = false :=
    decide_eq_false fun both => lt_irrefl _ both.2
  rw [List.countP_append, List.countP_cons, self, if_neg Bool.false_ne_true] at behind
  rw [List.countP_append, List.countP_cons, taken, if_pos rfl] at bounded
  omega

/-- A positive limit takes some row when one matches. -/
theorem exists_taken (positive : 0 < limit) (member : m ∈ marked) (matched : Matches m.1) :
    ∃ m ∈ marked, m.2 = true := by
  have some : 0 < marked.countP fun m => Matches m.1 :=
    List.countP_pos_iff.mpr ⟨m, member, by simpa using matched⟩
  refine List.countP_pos_iff.mp ?_
  rw [batch.full]
  exact lt_min positive some

end

/-- Take one more row, the least of those left over. -/
theorem extend (batch : Batch Matches key limit marked) :
    ∃ marked', marked'.map Prod.fst = marked.map Prod.fst ∧ Batch Matches key (limit + 1) marked' := by
  by_cases left : marked.filter (fun m => !m.2 && decide (Matches m.1)) = []
  · -- every match is taken, also with a higher limit
    have all : marked.countP (·.2) = marked.countP fun m => Matches m.1 := by
      refine List.countP_congr fun m member => ⟨fun taken => by simpa using batch.sound m member taken, ?_⟩
      intro matched
      by_contra untaken
      exact List.filter_eq_nil_iff.mp left m member
        (by simpa using ⟨Bool.eq_false_iff.mpr untaken, of_decide_eq_true matched⟩)
    have full := batch.full
    exact ⟨marked, rfl, batch.sound, by omega, batch.ordered⟩
  obtain ⟨least, member, below⟩ := exists_minimal _ (fun m => key m.1) left
  obtain ⟨member, untaken, matched⟩ : least ∈ marked ∧ least.2 = false ∧ Matches least.1 := by
    simpa using member
  obtain ⟨limited, -⟩ := batch.full_of_left member matched untaken
  obtain ⟨before, after, rfl⟩ := List.append_of_mem member
  have sound : ∀ m ∈ before ++ (least.1, true) :: after, m.2 = true → Matches m.1 := by
    intro m h taken
    rcases List.mem_append.mp h with h | h
    · exact batch.sound m (by simp [h]) taken
    · rcases List.mem_cons.mp h with rfl | h
      · exact matched
      · exact batch.sound m (by simp [h]) taken
  refine ⟨before ++ (least.1, true) :: after, by simp, sound, ?_, ?_⟩
  · have most := countP_taken_le sound
    simp only [List.countP_append, List.countP_cons, untaken, Bool.false_eq_true, if_true, if_false]
      at limited most ⊢
    omega
  · intro a ha b hb taken left matchedB
    have hb : b ∈ before ++ least :: after := by
      rcases List.mem_append.mp hb with h | h
      · simp [h]
      · rcases List.mem_cons.mp h with rfl | h
        · cases left
        · simp [h]
    rcases List.mem_append.mp ha with h | h
    · exact batch.ordered a (by simp [h]) b hb taken left matchedB
    · rcases List.mem_cons.mp h with rfl | h
      · exact below b (List.mem_filter.mpr ⟨hb, by simpa using ⟨left, matchedB⟩⟩)
      · exact batch.ordered a (by simp [h]) b hb taken left matchedB

/-- The query always has an answer. -/
theorem exists_batch (Matches : Row → Prop) [DecidablePred Matches] (key : Row → ℤ) (limit : ℕ)
    (rows : List Row) : ∃ marked, marked.map Prod.fst = rows ∧ Batch Matches key limit marked := by
  induction limit with
  | zero =>
    refine ⟨rows.map fun row => (row, false), by simp [Function.comp_def], by simp, ?_, by simp⟩
    rw [Nat.zero_min]
    exact List.countP_eq_zero.mpr (by simp)
  | succ limit ih =>
    obtain ⟨marked, rfl, batch⟩ := ih
    exact batch.extend

end Batch

/-- A batched statement: a guarded update and the key its rows are taken by. -/
structure BatchStatement (Row : Type*) extends Update Row where
  key : Row → ℤ

instance (statement : BatchStatement Row) : DecidablePred statement.guard := statement.decidable

/-- Assign the taken rows. -/
def assignTaken (set : Row → Row) (marked : List (Row × Bool)) : List Row :=
  marked.map fun m => if m.2 then set m.1 else m.1

/-- One pass of a list of batched statements over a table. -/
inductive Pass (limit : ℕ) : List (BatchStatement Row) → List Row → List Row → Prop
  | done (rows : List Row) : Pass limit [] rows rows
  | run {statement : BatchStatement Row} {statements : List (BatchStatement Row)}
      {marked : List (Row × Bool)} {rows' : List Row} :
      Batch statement.guard statement.key limit marked →
      Pass limit statements (assignTaken statement.set marked) rows' →
      Pass limit (statement :: statements) (marked.map Prod.fst) rows'

/-- Passes repeated until they change nothing. -/
def Settles (limit : ℕ) (statements : List (BatchStatement Row)) (rows final : List Row) : Prop :=
  Relation.ReflTransGen (Pass limit statements) rows final ∧
    ∀ rows', Pass limit statements final rows' → rows' = final

/-- No statement matches the row. -/
def Normal (statements : List (BatchStatement Row)) (row : Row) : Prop :=
  ∀ statement ∈ statements, ¬ statement.guard row

instance (statements : List (BatchStatement Row)) (row : Row) : Decidable (Normal statements row) :=
  inferInstanceAs (Decidable (∀ statement ∈ statements, ¬ statement.guard row))

variable {limit : ℕ} {statements : List (BatchStatement Row)} {rows rows' final : List Row}

theorem Pass.exists_pass (limit : ℕ) (statements : List (BatchStatement Row)) (rows : List Row) :
    ∃ rows', Pass limit statements rows rows' := by
  induction statements generalizing rows with
  | nil => exact ⟨rows, .done rows⟩
  | cons statement statements ih =>
    obtain ⟨marked, rfl, batch⟩ := Batch.exists_batch statement.guard statement.key limit rows
    obtain ⟨rows', pass⟩ := ih (assignTaken statement.set marked)
    exact ⟨rows', .run batch pass⟩

/-- Execute a pass with given choices, failing when a choice is no batch of its statement. -/
def passWith (limit : ℕ) : List (BatchStatement Row) → List (List Bool) → List Row → Option (List Row)
  | [], _, rows => some rows
  | statement :: statements, marks :: choices, rows =>
    if rows.length ≤ marks.length ∧ Batch statement.guard statement.key limit (rows.zip marks) then
      passWith limit statements choices (assignTaken statement.set (rows.zip marks))
    else none
  | _ :: _, [], _ => none

theorem pass_of_passWith (choices : List (List Bool))
    (executed : passWith limit statements choices rows = some rows') :
    Pass limit statements rows rows' := by
  induction statements generalizing choices rows with
  | nil =>
    cases executed
    exact .done _
  | cons statement statements ih =>
    cases choices with
    | nil => cases executed
    | cons marks choices =>
      obtain ⟨⟨long, batch⟩, rest⟩ := Option.ite_none_right_eq_some.mp executed
      have pass := Pass.run batch (ih choices rest)
      rwa [List.map_fst_zip long] at pass

theorem assignTaken_none {marked : List (Row × Bool)} {set : Row → Row} (untaken : ¬ ∃ m ∈ marked, m.2 = true) :
    assignTaken set marked = marked.map Prod.fst :=
  List.map_congr_left fun m member => if_neg fun taken => untaken ⟨m, member, taken⟩

/-- A pass over rows that match nothing changes nothing. -/
theorem Pass.eq_of_normal (pass : Pass limit statements rows rows')
    (normal : ∀ row ∈ rows, Normal statements row) : rows' = rows := by
  induction pass with
  | done => rfl
  | @run statement statements marked rows' batch _ ih =>
    have untaken : ¬ ∃ m ∈ marked, m.2 = true := fun ⟨m, member, taken⟩ =>
      normal m.1 (List.mem_map_of_mem member) statement List.mem_cons_self (batch.sound m member taken)
    rw [assignTaken_none untaken] at ih
    exact ih fun row member other listed => normal row member other (List.mem_cons_of_mem _ listed)

section Rank

variable (rank : Row → ℕ)

theorem assignTaken_rank_lt {marked : List (Row × Bool)} {set : Row → Row}
    (lower : ∀ m ∈ marked, m.2 = true → rank (set m.1) < rank m.1) (taken : ∃ m ∈ marked, m.2 = true) :
    ((assignTaken set marked).map rank).sum < ((marked.map Prod.fst).map rank).sum := by
  rw [assignTaken, List.map_map, List.map_map]
  refine List.sum_lt_sum _ _ (fun m member => ?_) ?_
  · by_cases taken : m.2 = true
    · simpa [taken] using (lower m member taken).le
    · simp [taken]
  · obtain ⟨m, member, taken⟩ := taken
    exact ⟨m, member, by simpa [taken] using lower m member taken⟩

variable (positive : 0 < limit)
  (lower : ∀ statement ∈ statements, ∀ row, statement.guard row → rank (statement.set row) < rank row)

include positive lower

/-- A pass lowers the rank of the table, or no row matches any of its statements. -/
theorem Pass.rank_lt_or_normal (pass : Pass limit statements rows rows') :
    (rows'.map rank).sum < (rows.map rank).sum ∨ (rows' = rows ∧ ∀ row ∈ rows, Normal statements row) := by
  induction pass with
  | done rows => exact .inr ⟨rfl, nofun⟩
  | @run statement statements marked rows' batch _ ih =>
    have lowerHere : ∀ m ∈ marked, m.2 = true → rank (statement.set m.1) < rank m.1 :=
      fun m member taken => lower statement List.mem_cons_self m.1 (batch.sound m member taken)
    have rest := ih fun other member => lower other (List.mem_cons_of_mem _ member)
    by_cases taken : ∃ m ∈ marked, m.2 = true
    · have drop := assignTaken_rank_lt rank lowerHere taken
      refine .inl ?_
      rcases rest with rest | ⟨rfl, -⟩
      · exact rest.trans drop
      · exact drop
    · rw [assignTaken_none taken] at rest
      rcases rest with rest | ⟨same, normal⟩
      · exact .inl rest
      · refine .inr ⟨same, fun row member other listed => ?_⟩
        rcases List.mem_cons.mp listed with rfl | listed
        · intro matched
          obtain ⟨m, h, rfl⟩ := List.mem_map.mp member
          exact taken (batch.exists_taken positive h matched)
        · exact normal row member other listed

/-- Repeated passes settle, from every table. -/
theorem exists_settles (rows : List Row) : ∃ final, Settles limit statements rows final := by
  induction bound : (rows.map rank).sum using Nat.strong_induction_on generalizing rows with
  | _ total ih =>
    by_cases settled : ∀ rows', Pass limit statements rows rows' → rows' = rows
    · exact ⟨rows, .refl, settled⟩
    · push Not at settled
      obtain ⟨rows', pass, changed⟩ := settled
      have drop : (rows'.map rank).sum < total :=
        bound ▸ (pass.rank_lt_or_normal rank positive lower).resolve_right fun h => changed h.1
      obtain ⟨final, passes, fixed⟩ := ih _ drop rows' rfl
      exact ⟨final, .head pass passes, fixed⟩

/-- In a settled table no row matches any statement. -/
theorem Settles.normal (settles : Settles limit statements rows final) : ∀ row ∈ final, Normal statements row := by
  obtain ⟨rows', pass⟩ := Pass.exists_pass limit statements final
  rcases pass.rank_lt_or_normal rank positive lower with drop | ⟨-, normal⟩
  · rw [settles.2 rows' pass] at drop
    exact absurd drop (lt_irrefl _)
  · exact normal

end Rank

theorem forall₂_trans {r : Row → Row → Prop} {first second third : List Row}
    (left : List.Forall₂ (Relation.ReflTransGen r) first second)
    (right : List.Forall₂ (Relation.ReflTransGen r) second third) :
    List.Forall₂ (Relation.ReflTransGen r) first third := by
  induction left generalizing third with
  | nil =>
    cases right
    exact .nil
  | cons head _ ih =>
    cases right with
    | cons head' tail' => exact .cons (head.trans head') (ih tail')

theorem forall₂_assignTaken {r : Row → Row → Prop} {marked : List (Row × Bool)} {set : Row → Row}
    (assigned : ∀ m ∈ marked, m.2 = true → r m.1 (set m.1)) :
    List.Forall₂ (Relation.ReflTransGen r) (marked.map Prod.fst) (assignTaken set marked) := by
  rw [assignTaken, List.forall₂_map_left_iff, List.forall₂_map_right_iff, List.forall₂_same]
  intro m member
  split
  · rename_i taken
    exact .single (assigned m member taken)
  · exact .refl

section Priority

variable (first : BatchStatement Row)

/-- A statement may assign the row; where the first one matches, it is the first one. -/
def Preferred (rest : List (BatchStatement Row)) (row row' : Row) : Prop :=
  ∃ statement ∈ first :: rest, statement.guard row ∧ (first.guard row → statement = first) ∧ statement.set row = row'

/-- The first statement takes the row not after the other one. -/
def Precedes (row other : Row) : Prop := first.guard other ∧ first.key other ≤ first.key row

instance (row other : Row) : Decidable (Precedes first row other) := inferInstanceAs (Decidable (_ ∧ _))

/-- The rows that the first statement may take before a row. -/
def ahead (rows : List Row) (row : Row) : ℕ := rows.countP (Precedes first row ·) - 1

/-- The rows that a statement takes before a row, and the first statement after it or not at all. -/
def aheadOf (statement : BatchStatement Row) (rows : List Row) (row : Row) : ℕ :=
  rows.countP fun other => statement.guard other ∧ statement.key other < statement.key row ∧ ¬Precedes first row other

/-- Wherever a statement competes with the first one for a row, it has to pass at least as many batches before. -/
def Yields (limit lead : ℕ) (statements : List (BatchStatement Row)) (rows : List Row) : Prop :=
  ∀ row ∈ rows, first.guard row → ∀ statement ∈ statements, statement.guard row →
    ahead first rows row / limit + lead ≤ aheadOf first statement rows row / limit

variable {first} {rest done : List (BatchStatement Row)} {marked : List (Row × Bool)}

theorem countP_assignTaken_add {p : Row → Bool} {set : Row → Row}
    (cleared : ∀ m ∈ marked, m.2 = true → p (set m.1) = false) :
    (assignTaken set marked).countP p + marked.countP (fun m => m.2 && p m.1) = (marked.map Prod.fst).countP p := by
  induction marked with
  | nil => rfl
  | cons m marked ih =>
    have ih := ih fun m member => cleared m (List.mem_cons_of_mem _ member)
    have clear := cleared m List.mem_cons_self
    simp only [assignTaken, List.map_cons, List.countP_cons] at ih ⊢
    cases taken : m.2 <;> simp_all <;> omega

theorem countP_le_assignTaken_add (p : Row → Bool) (set : Row → Row) :
    (marked.map Prod.fst).countP p ≤ (assignTaken set marked).countP p + marked.countP fun m => m.2 && p m.1 := by
  induction marked with
  | nil => exact le_rfl
  | cons m marked ih =>
    simp only [assignTaken, List.map_cons, List.countP_cons] at ih ⊢
    cases taken : m.2 <;> simp_all <;> split <;> omega

/-- A row that the first statement matches after an assignment was not assigned. -/
theorem untaken_of_guard {statement : BatchStatement Row} {row : Row}
    (batch : Batch statement.guard statement.key limit marked)
    (settled : ∀ row, statement.guard row → ¬first.guard (statement.set row))
    (member : row ∈ assignTaken statement.set marked) (matched : first.guard row) : (row, false) ∈ marked := by
  obtain ⟨⟨row', taken⟩, listed, same⟩ := List.mem_map.mp member
  cases taken with
  | true =>
    subst same
    exact absurd matched (settled _ (batch.sound _ listed rfl))
  | false =>
    cases same
    exact listed

theorem Batch.countP_precedes {statement : BatchStatement Row}
    (batch : Batch statement.guard statement.key limit marked)
    (settled : ∀ row, statement.guard row → ¬first.guard (statement.set row)) (row : Row) :
    (assignTaken statement.set marked).countP (Precedes first row ·) +
      marked.countP (fun m => m.2 && decide (Precedes first row m.1)) =
      (marked.map Prod.fst).countP (Precedes first row ·) := by
  refine countP_assignTaken_add fun m member taken => decide_eq_false fun precedes => ?_
  exact settled m.1 (batch.sound m member taken) precedes.1

section

variable (positive : 0 < limit)
  (settled : ∀ statement ∈ first :: rest, ∀ row, statement.guard row → ¬first.guard (statement.set row))

include positive settled

/-- The first statement takes a full batch before every row that it leaves. -/
theorem Batch.yields_first (batch : Batch first.guard first.key limit marked)
    (yields : Yields first limit 0 rest (marked.map Prod.fst)) :
    Yields first limit 1 rest (assignTaken first.set marked) := by
  intro row member matched statement listed other
  have left := untaken_of_guard batch (settled first List.mem_cons_self) member matched
  obtain ⟨full, before⟩ := batch.full_of_left left matched rfl
  have kept := yields row (List.mem_map_of_mem left) matched statement listed other
  have cleared : (assignTaken first.set marked).countP (Precedes first row ·) + limit =
      (marked.map Prod.fst).countP (Precedes first row ·) := by
    rw [← batch.countP_precedes (settled first List.mem_cons_self) row, ← full]
    congr 1
    refine List.countP_congr fun m member => ?_
    simp only [Bool.and_eq_true, decide_eq_true_eq]
    exact ⟨fun taken => ⟨taken, batch.sound m member taken, before m member taken⟩, And.left⟩
  have grown : aheadOf first statement (marked.map Prod.fst) row ≤
      aheadOf first statement (assignTaken first.set marked) row := by
    refine (countP_le_assignTaken_add _ first.set).trans_eq ?_
    rw [aheadOf, Nat.add_eq_left, List.countP_eq_zero]
    intro m member both
    simp only [Bool.and_eq_true, decide_eq_true_eq] at both
    exact both.2.2.2 ⟨batch.sound m member both.1, before m member both.1⟩
  have itself : 0 < (assignTaken first.set marked).countP (Precedes first row ·) :=
    List.countP_pos_iff.mpr ⟨row, member, decide_eq_true ⟨matched, le_rfl⟩⟩
  have turns : ahead first (marked.map Prod.fst) row = ahead first (assignTaken first.set marked) row + limit := by
    unfold ahead
    omega
  rw [turns, Nat.add_div_right _ positive] at kept
  exact kept.trans (Nat.div_le_div_right grown)

/-- Another statement takes at most as many batches before a row as it spends on the competitors. -/
theorem Batch.yields_other {statement : BatchStatement Row} {lead spent : ℕ} (listed : statement ∈ rest)
    (batch : Batch statement.guard statement.key limit marked) {others : List (BatchStatement Row)}
    (spends : ∀ other ∈ others, marked.countP (fun m => m.2 && decide (other.guard m.1)) ≤ spent * limit)
    (yields : Yields first limit (lead + spent) others (marked.map Prod.fst)) :
    Yields first limit lead others (assignTaken statement.set marked) := by
  intro row member matched other among competes
  have settled := settled statement (List.mem_cons_of_mem _ listed)
  have left := untaken_of_guard batch settled member matched
  have kept := yields row (List.mem_map_of_mem left) matched other among competes
  have fewer : ahead first (assignTaken statement.set marked) row ≤ ahead first (marked.map Prod.fst) row :=
    Nat.sub_le_sub_right (le_of_le_of_eq (Nat.le_add_right _ _) (batch.countP_precedes settled row)) 1
  have lost : aheadOf first other (marked.map Prod.fst) row ≤
      aheadOf first other (assignTaken statement.set marked) row + spent * limit := by
    refine (countP_le_assignTaken_add _ statement.set).trans (Nat.add_le_add_left ?_ _)
    refine le_trans (List.countP_mono_left fun m _ both => ?_) (spends other among)
    simp only [Bool.and_eq_true, decide_eq_true_eq] at both ⊢
    exact ⟨both.1, both.2.1⟩
  have turns := Nat.div_le_div_right (c := limit) lost
  rw [Nat.add_mul_div_right _ _ positive] at turns
  have earlier := Nat.div_le_div_right (c := limit) fewer
  omega

omit settled in
/-- A statement that yields does not take a row that the first one matches. -/
theorem Batch.not_guard_of_taken {statement : BatchStatement Row}
    (batch : Batch statement.guard statement.key limit marked)
    (yields : Yields first limit 1 [statement] (marked.map Prod.fst)) {m : Row × Bool} (member : m ∈ marked)
    (taken : m.2 = true) : ¬first.guard m.1 := by
  intro matched
  have competes := batch.sound m member taken
  have kept := yields m.1 (List.mem_map_of_mem member) matched statement List.mem_cons_self competes
  have enough : limit ≤ aheadOf first statement (marked.map Prod.fst) m.1 := by
    exact (Nat.one_le_div_iff positive).mp ((Nat.le_add_left 1 _).trans kept)
  have left := batch.left_of_behind member (enough.trans ?_)
  · cases left.symm.trans taken
  · rw [aheadOf, List.countP_map]
    refine List.countP_mono_left fun b _ before => ?_
    simp only [Function.comp_apply, decide_eq_true_eq] at before ⊢
    exact ⟨before.1, before.2.1⟩

/-- The statements behind the first one leave to it the rows it matches. -/
theorem Pass.prefers_rest (apart : rest.Pairwise fun s t => ∀ row, s.guard row → ¬t.guard row)
    (pass : Pass limit statements rows rows') (split : done ++ statements = rest)
    (yields : Yields first limit 1 statements rows) (yielded : Yields first limit 0 done rows) :
    List.Forall₂ (Relation.ReflTransGen (Preferred first rest)) rows rows' ∧ Yields first limit 0 rest rows' := by
  induction pass generalizing done with
  | done rows =>
    rw [List.append_nil] at split
    exact ⟨List.forall₂_same.mpr fun _ _ => .refl, split ▸ yielded⟩
  | @run statement statements marked rows' batch _ ih =>
    have listed : statement ∈ rest := split ▸ List.mem_append_right _ List.mem_cons_self
    rw [← split, List.pairwise_append, List.pairwise_cons] at apart
    have yieldsHere : Yields first limit 1 [statement] (marked.map Prod.fst) := fun row member matched other among =>
      yields row member matched other (List.mem_singleton.mp among ▸ List.mem_cons_self)
    -- statements that exclude this one lose nothing to its batch
    have spares {other : BatchStatement Row} (excluded : ∀ row, statement.guard row → ¬other.guard row) :
        marked.countP (fun m => m.2 && decide (other.guard m.1)) ≤ 0 * limit := by
      rw [Nat.zero_mul, Nat.le_zero, List.countP_eq_zero]
      intro m member both
      simp only [Bool.and_eq_true, decide_eq_true_eq] at both
      exact excluded m.1 (batch.sound m member both.1) both.2
    have spends : ∀ other ∈ [statement], marked.countP (fun m => m.2 && decide (other.guard m.1)) ≤ 1 * limit := by
      intro other _
      refine (List.countP_mono_left fun m _ both => ?_).trans ((batch.full.trans_le (min_le_left _ _)).trans_eq
        (Nat.one_mul _).symm)
      exact (Bool.and_eq_true_iff.mp both).1
    have here := batch.yields_other positive settled listed spends yieldsHere
    have before := batch.yields_other positive settled listed (fun other among =>
      spares fun row matched competes => apart.2.2 other among statement List.mem_cons_self row competes matched)
      yielded
    have behind := batch.yields_other positive settled listed (fun other among => spares (apart.2.1.1 other among))
      fun row member matched other among => yields row member matched other (List.mem_cons_of_mem _ among)
    have rest' := @ih (done ++ [statement]) (by rw [List.append_assoc, List.singleton_append, split]) behind
      fun row member matched other among => (List.mem_append.mp among).elim
        (before row member matched other) (here row member matched other)
    refine ⟨forall₂_trans (forall₂_assignTaken fun m member taken => ?_) rest'.1, rest'.2⟩
    exact ⟨statement, List.mem_cons_of_mem _ listed, batch.sound m member taken,
      fun matched => absurd matched (batch.not_guard_of_taken positive yieldsHere member taken), rfl⟩

/-- Passes leave to the first statement every row that it matches. -/
theorem passes_prefer (apart : rest.Pairwise fun s t => ∀ row, s.guard row → ¬t.guard row)
    (passes : Relation.ReflTransGen (Pass limit (first :: rest)) rows rows')
    (yields : Yields first limit 0 rest rows) :
    List.Forall₂ (Relation.ReflTransGen (Preferred first rest)) rows rows' ∧ Yields first limit 0 rest rows' := by
  induction passes with
  | refl => exact ⟨List.forall₂_same.mpr fun _ _ => .refl, yields⟩
  | tail _ pass ih =>
    cases pass with
    | @run _ _ marked _ batch pass =>
      have later := pass.prefers_rest positive settled apart (List.nil_append rest)
        (batch.yields_first positive settled ih.2) (fun _ _ _ _ none => absurd none List.not_mem_nil)
      refine ⟨forall₂_trans (forall₂_trans ih.1 (forall₂_assignTaken fun m member taken => ?_)) later.1, later.2⟩
      exact ⟨first, List.mem_cons_self, batch.sound m member taken, fun _ => rfl, rfl⟩

end

theorem preferred_unique (apart : rest.Pairwise fun s t => ∀ row, s.guard row → ¬t.guard row) :
    Relator.RightUnique (Preferred first rest) := by
  rintro row _ _ ⟨s, listed, matched, prefers, rfl⟩ ⟨t, listed', matched', prefers', rfl⟩
  by_cases taken : first.guard row
  · rw [prefers taken, prefers' taken]
  · have others {u : BatchStatement Row} (listed : u ∈ first :: rest) (matched : u.guard row) : u ∈ rest :=
      (List.mem_cons.mp listed).resolve_left fun same => taken (same ▸ matched)
    have : Std.Symm fun s t : BatchStatement Row => ∀ row, s.guard row → ¬t.guard row :=
      ⟨fun _ _ excluded row second first => excluded row first second⟩
    by_contra different
    have unequal : s ≠ t := fun same => different (same ▸ rfl)
    exact apart.forall (others listed matched) (others listed' matched') unequal row matched matched'

/-- Two settled tables that rewrite the same table row by row are equal. -/
theorem settled_unique (apart : rest.Pairwise fun s t => ∀ row, s.guard row → ¬t.guard row) {final' : List Row}
    (toFirst : List.Forall₂ (Relation.ReflTransGen (Preferred first rest)) rows final)
    (toSecond : List.Forall₂ (Relation.ReflTransGen (Preferred first rest)) rows final')
    (normal : ∀ row ∈ final, Normal (first :: rest) row) (normal' : ∀ row ∈ final', Normal (first :: rest) row) :
    final = final' := by
  have stuck {a b : Row} (normal : Normal (first :: rest) a)
      (path : Relation.ReflTransGen (Preferred first rest) a b) : a = b := by
    rcases path.cases_head with same | ⟨c, ⟨statement, member, matched, -⟩, -⟩
    · exact same
    · exact absurd matched (normal statement member)
  induction toFirst generalizing final' with
  | nil =>
    cases toSecond
    rfl
  | cons head _ ih =>
    cases toSecond with
    | cons head' tail' =>
      simp only [List.forall_mem_cons] at normal normal'
      rw [ih tail' normal.2 normal'.2]
      congr 1
      rcases Relation.ReflTransGen.total_of_right_unique (preferred_unique apart) head head' with path | path
      · exact stuck normal.1 path
      · exact (stuck normal'.1 path).symm

end Priority

end Machine
