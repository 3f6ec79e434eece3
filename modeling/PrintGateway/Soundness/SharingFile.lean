import PrintGateway.Model.Agent.PrinterSharing

/-!
# The policy file

What the decoder accepts is well formed, what a well-formed policy marshals to is accepted, and it
comes back as the policy it was.  The decoder checks every field it reads, so a policy read from any
file can be changed and written again.
-/

namespace PrintGateway.Agent

open Machine Text Json Json.Decoder

/-! ### Well-formed policies -/

variable {d' d : Decoder} {policy : PrinterSharing} {Value : Type}

/-- Aliases while they are collected. -/
structure AliasDigests (aliases : List Text) : Prop where
  valid : ∀ digest ∈ aliases, validBindingDigest digest = true
  distinct : aliases.Nodup
  bounded : aliases.length ≤ maxPrinterSharingAliases

/-- The aliases recorded for a printer. -/
structure ValidAliases (aliases : List Text) : Prop extends AliasDigests aliases where
  nonempty : aliases ≠ []

theorem AliasDigests.nil : AliasDigests [] :=
  ⟨nofun, List.nodup_nil, Nat.zero_le _⟩

theorem AliasDigests.append {aliases : List Text} {digest : Text} (collected : AliasDigests aliases)
    (valid : validBindingDigest digest = true) (fresh : digest ∉ aliases)
    (room : aliases.length < maxPrinterSharingAliases) : AliasDigests (aliases ++ [digest]) := by
  refine ⟨?_, ?_, ?_⟩
  · intro other member
    rcases List.mem_append.mp member with earlier | here
    · exact collected.valid other earlier
    · exact List.mem_singleton.mp here ▸ valid
  · rw [List.nodup_append]
    refine ⟨collected.distinct, List.nodup_singleton digest, ?_⟩
    intro a member b single
    obtain rfl := List.mem_singleton.mp single
    rintro rfl
    exact fresh member
  · rw [List.length_append, List.length_singleton]
    exact room

/-- What every policy read from a file satisfies, and every policy written to one. -/
structure PrinterSharing.WellFormed (policy : PrinterSharing) : Prop where
  version : policy.version = 1
  denied : ∀ entry ∈ policy.deniedPrinters.entries, validSharingId entry.1 = true ∧ validBindingDigest entry.2 = true
  aliases : ∀ entry ∈ policy.deniedPrinterAliases.entries, validSharingId entry.1 = true ∧ ValidAliases entry.2
  anchored : ∀ entry ∈ policy.deniedPrinterAliases.entries, policy.isDenied entry.1 = true

/-- A map with valid ids and valid values. -/
abbrev ValidEntries (Valid : Value → Prop) (table : Keyed Text Value) : Prop :=
  ∀ entry ∈ table.entries, validSharingId entry.1 = true ∧ Valid entry.2

/-- The entries of a policy while it is read. -/
structure PolicyFields.Valid (fields : PolicyFields) : Prop where
  denied : ValidEntries (validBindingDigest · = true) fields.policy.deniedPrinters
  aliases : ValidEntries ValidAliases fields.policy.deniedPrinterAliases
  present : fields.policy.present = true

theorem decodeDenied_valid {denied denied' : Keyed Text Text}
    (decoded : decodeDenied denied d = .ok (denied', d'))
    (valid : ValidEntries (validBindingDigest · = true) denied) :
    ValidEntries (validBindingDigest · = true) denied' := by
  unfold decodeDenied at decoded
  split at decoded
  · rename_i id _ _
    split at decoded
    · cases decoded
    · rename_i validId
      split at decoded
      · cases decoded
      · split at decoded
        · split at decoded
          · rename_i validDigest
            cases decoded
            intro entry member
            rcases Keyed.mem_insert member with earlier | rfl
            · exact valid entry earlier
            · exact ⟨by simpa using validId, validDigest⟩
          · cases decoded
        · cases decoded
  · cases decoded

theorem decodeAliasDigest_valid {aliases aliases' : List Text}
    (decoded : decodeAliasDigest aliases d = .ok (aliases', d')) (valid : AliasDigests aliases) :
    AliasDigests aliases' := by
  unfold decodeAliasDigest at decoded
  split at decoded
  · split at decoded
    · rename_i accepted
      cases decoded
      exact valid.append accepted.1 accepted.2.1 accepted.2.2
    · cases decoded
  · cases decoded

theorem decodeAliasDigests_valid {aliases : List Text} (decoded : decodeAliasDigests d = .ok (aliases, d')) :
    ValidAliases aliases := by
  unfold decodeAliasDigests at decoded
  obtain ⟨opened, -, decoded⟩ := exists_of_bind_eq_ok decoded
  obtain ⟨⟨digests, read⟩, looped, decoded⟩ := exists_of_bind_eq_ok decoded
  obtain ⟨closed, -, decoded⟩ := exists_of_bind_eq_ok decoded
  have kept := loop_keeps AliasDigests (fun _ _ _ _ valid turned => decodeAliasDigest_valid turned valid)
    .nil looped
  split at decoded
  · cases decoded
  · rename_i nonempty
    cases decoded
    exact ⟨kept, nonempty⟩

theorem decodeAliases_valid {aliases aliases' : Keyed Text (List Text)}
    (decoded : decodeAliases aliases d = .ok (aliases', d'))
    (valid : ValidEntries ValidAliases aliases) : ValidEntries ValidAliases aliases' := by
  unfold decodeAliases at decoded
  split at decoded
  · split at decoded
    · cases decoded
    · rename_i validId
      split at decoded
      · cases decoded
      · obtain ⟨⟨digests, read⟩, array, same⟩ := exists_of_map_eq_ok decoded
        cases same
        intro entry member
        rcases Keyed.mem_insert member with earlier | rfl
        · exact valid entry earlier
        · exact ⟨by simpa using validId, decodeAliasDigests_valid array⟩
  · cases decoded

/-- The entries of a decoded object satisfy what every entry keeps. -/
theorem decodeObject_keeps {Entries : Type} {entry : Entries → Decoder → Except Text (Entries × Decoder)}
    (Inv : Entries → Prop) (keep : ∀ s d s' d', Inv s → entry s d = .ok (s', d') → Inv s')
    {openError closeError : Text} {entries entries' : Entries} {d d' : Decoder} (start : Inv entries)
    (decoded : decodeObject entry openError closeError entries d = .ok (entries', d')) : Inv entries' := by
  unfold decodeObject at decoded
  obtain ⟨opened, -, decoded⟩ := exists_of_bind_eq_ok decoded
  obtain ⟨⟨looped, read⟩, turns, decoded⟩ := exists_of_bind_eq_ok decoded
  obtain ⟨closed, -, decoded⟩ := exists_of_bind_eq_ok decoded
  cases decoded
  exact loop_keeps Inv keep start turns

theorem decodeField_valid {fields fields' : PolicyFields}
    (decoded : decodeField fields d = .ok (fields', d')) (valid : fields.Valid) : fields'.Valid := by
  unfold decodeField at decoded
  split at decoded
  · split at decoded
    · cases decoded
    split at decoded
    · split at decoded
      · cases decoded
        exact ⟨valid.denied, valid.aliases, valid.present⟩
      · cases decoded
    split at decoded
    · obtain ⟨⟨denied, read⟩, object, same⟩ := exists_of_map_eq_ok decoded
      cases same
      refine ⟨?_, valid.aliases, valid.present⟩
      exact decodeObject_keeps _ (fun _ _ _ _ kept turned => decodeDenied_valid turned kept) valid.denied object
    split at decoded
    · obtain ⟨⟨aliases, read⟩, object, same⟩ := exists_of_map_eq_ok decoded
      cases same
      refine ⟨valid.denied, ?_, valid.present⟩
      exact decodeObject_keeps _ (fun _ _ _ _ kept turned => decodeAliases_valid turned kept) valid.aliases object
    · cases decoded
  · cases decoded

/-- What the decoder accepts is well formed. -/
theorem decodePrinterSharing_wellFormed {text : Text} (decoded : decodePrinterSharing text = .ok policy) :
    policy.WellFormed ∧ policy.present = true := by
  unfold decodePrinterSharing at decoded
  obtain ⟨⟨fields, d⟩, object, decoded⟩ := exists_of_bind_eq_ok decoded
  have valid : fields.Valid := decodeObject_keeps PolicyFields.Valid
    (fun _ _ _ _ kept turned => decodeField_valid turned kept)
    ⟨fun _ member => (by cases member), fun _ member => (by cases member), rfl⟩
    object
  dsimp only at decoded
  split at decoded
  · unfold PolicyFields.complete at decoded
    split at decoded
    · cases decoded
    · rename_i complete
      split at decoded
      · rename_i anchored
        cases decoded
        refine ⟨⟨?_, valid.denied, valid.aliases, List.all_eq_true.mp anchored⟩, valid.present⟩
        by_contra other
        exact complete (.inr (.inr other))
      · cases decoded
  · cases decoded

theorem decoded_of_load {data : Text} (loaded : loadPrinterSharing (.content data) = .ok policy) :
    decodePrinterSharing data = .ok policy := by
  simp only [loadPrinterSharing] at loaded
  split at loaded
  · cases loaded
  · cases decoded : decodePrinterSharing data with
    | error error =>
      rw [decoded] at loaded
      cases loaded
    | ok decodedPolicy =>
      rw [decoded] at loaded
      cases loaded
      rfl

/-- What is loaded, from whichever file, is well formed. -/
theorem loadPrinterSharing_wellFormed {file : SharingFile} (loaded : loadPrinterSharing file = .ok policy) :
    policy.WellFormed := by
  cases file with
  | absent =>
    cases loaded
    exact ⟨rfl, nofun, nofun, nofun⟩
  | unreadable error => cases loaded
  | content data => exact (decodePrinterSharing_wellFormed (decoded_of_load loaded)).1

/-! ### Written policies -/

/-- A map with its entries in the order in which they are written. -/
def sortedTable {Value : Type} (table : Keyed Text Value) : Keyed Text Value where
  entries := table.entries.insertionSort fun a b => a.1 ≤ b.1
  distinct := ((List.perm_insertionSort _ _).map Prod.fst).nodup_iff.mpr table.distinct

theorem mem_sortedTable {table : Keyed Text Value} {entry : Text × Value} :
    entry ∈ (sortedTable table).entries ↔ entry ∈ table.entries :=
  List.mem_insertionSort _

/-- The order of the entries does not show in a lookup. -/
theorem find?_sortedTable (table : Keyed Text Value) (id : Text) : (sortedTable table).find? id = table.find? id := by
  apply Option.ext
  intro value
  rw [Keyed.find?_eq_some_iff, Keyed.find?_eq_some_iff, mem_sortedTable]

section Written

variable {d d' : Decoder} (rest : List Char) (stack : List TokenState) (first : Bool)
  {digest : Text}

theorem expectDelim_of_token {c : Char} (error : Text) (read : d.token = .ok (.delim c, d')) :
    expectDelim c error d = .ok d' := by
  rw [expectDelim, read]
  exact if_pos rfl

theorem decodeDenied_written {denied : Keyed Text Text} {id : Text} (validId : validSharingId id = true)
    (validDigest : validBindingDigest digest = true) (fresh : denied.find? id = none) :
    decodeDenied denied ⟨comma first ++ quoteHtml id ++ (':' :: quoteHtml digest ++ rest),
        Container.object.state first, stack⟩ =
      .ok (denied.insert id digest, ⟨rest, Container.object.state false, stack⟩) := by
  unfold decodeDenied
  rw [token_key, List.cons_append]
  simp [validId, validDigest, fresh, decodeString_value]

theorem decodeAliasDigest_written {aliases : List Text} (valid : validBindingDigest digest = true)
    (fresh : digest ∉ aliases) (room : aliases.length < maxPrinterSharingAliases) :
    decodeAliasDigest aliases ⟨comma first ++ quoteHtml digest ++ rest, Container.array.state first, stack⟩ =
      .ok (aliases ++ [digest], ⟨rest, Container.array.state false, stack⟩) := by
  unfold decodeAliasDigest
  rw [decodeString_element]
  exact if_pos ⟨valid, fresh, room⟩

theorem decodeAliasDigests_written {aliases : List Text} (valid : ValidAliases aliases) :
    decodeAliasDigests ⟨':' :: (marshalTexts aliases ++ rest), .objectColon, stack⟩ =
      .ok (aliases, ⟨rest, Container.object.state false, stack⟩) := by
  have text : ':' :: (marshalTexts aliases ++ rest) = ':' :: Container.array.opening ::
      (elements true (aliases.map fun digest => quoteHtml (id digest) ++ []) ++ Container.array.closing :: rest) := by
    simp [marshalTexts]
  have appended : ∀ listed : List Text, listed.foldl (fun listed digest => listed ++ [digest]) [] = listed := by
    intro listed
    rw [List.foldl_append_eq_append, List.nil_append, ← List.flatMap_def, List.flatMap_singleton']
  have turns := whileMore_elements decodeAliasDigest .array (.objectValue :: stack) id (fun _ => [])
    (fun listed digest => listed ++ [digest])
    (fun listed digest => validBindingDigest digest = true ∧ digest ∉ listed ∧
      listed.length < maxPrinterSharingAliases)
    (fun listed digest first rest fits _ =>
      decodeAliasDigest_written rest _ first fits.1 fits.2.1 fits.2.2) rest aliases (s := []) ?_
  · rw [appended] at turns
    unfold decodeAliasDigests
    rw [text, expectDelim_of_token _ (token_openValue _ stack .array)]
    simp only [bind, Except.bind, turns]
    rw [expectDelim_of_token _ (token_close rest stack _ .array .objectValue)]
    simp [valid.nonempty, TokenState.valueEnd, Container.state]
  · rintro before digest after rfl
    rw [appended]
    refine ⟨valid.valid digest (by simp), ?_, ?_⟩
    · intro member
      exact (List.nodup_append.mp valid.distinct).2.2 digest member digest List.mem_cons_self rfl
    · have bounded := valid.bounded
      rw [List.length_append, List.length_cons] at bounded
      omega

theorem decodeAliases_written {aliases : Keyed Text (List Text)} {id : Text} {digests : List Text}
    (validId : validSharingId id = true) (valid : ValidAliases digests)
    (fresh : aliases.find? id = none) :
    decodeAliases aliases ⟨comma first ++ quoteHtml id ++ (':' :: marshalTexts digests ++ rest),
        Container.object.state first, stack⟩ =
      .ok (aliases.insert id digests, ⟨rest, Container.object.state false, stack⟩) := by
  unfold decodeAliases
  rw [token_key, List.cons_append]
  simp [validId, fresh, decodeAliasDigests_written rest stack valid, Except.map]

/-- A written map is decoded entry by entry. -/
theorem decodeObject_written {Value : Type}
    {entry : Keyed Text Value → Decoder → Except Text (Keyed Text Value × Decoder)}
    (marshal : Value → Text) (Valid : Text × Value → Prop)
    (turns : ∀ rest stack first (table : Keyed Text Value) (e : Text × Value), Valid e → table.find? e.1 = none →
      entry table ⟨comma first ++ quoteHtml e.1 ++ (':' :: marshal e.2 ++ rest),
          Container.object.state first, stack⟩ =
        .ok (table.insert e.1 e.2, ⟨rest, Container.object.state false, stack⟩))
    (openError closeError : Text) {table : Keyed Text Value} (valid : ∀ e ∈ table.entries, Valid e) :
    decodeObject entry openError closeError .empty
        ⟨':' :: (marshalMap marshal table ++ rest), .objectColon, stack⟩ =
      .ok (sortedTable table, ⟨rest, Container.object.state false, stack⟩) := by
  have text : ':' :: (marshalMap marshal table ++ rest) = ':' :: Container.object.opening ::
      (elements true ((sortedTable table).entries.map fun e => quoteHtml e.1 ++ ':' :: marshal e.2) ++
        Container.object.closing :: rest) := by
    simp [marshalMap, sortedTable]
  have looped := whileMore_elements entry .object (.objectValue :: stack) Prod.fst
    (fun e => ':' :: marshal e.2) (fun table e => table.insert e.1 e.2)
    (fun table e => Valid e ∧ table.find? e.1 = none)
    (fun table e first rest fits _ => turns rest _ first table e fits.1 fits.2) rest
    (sortedTable table).entries (s := .empty) ?_
  · have collected : (sortedTable table).entries.foldl (fun table e => table.insert e.1 e.2)
        (.empty : Keyed Text Value) = sortedTable table := by
      apply Keyed.ext
      exact Keyed.entries_foldl_insert .empty (sortedTable table).distinct
    rw [collected] at looped
    unfold decodeObject
    rw [text, expectDelim_of_token _ (token_openValue _ stack .object)]
    simp only [bind, Except.bind, looped]
    rw [expectDelim_of_token _ (token_close rest stack _ .object .objectValue)]
    rfl
  · intro before e after split
    have distinct := (sortedTable table).distinct
    rw [split, List.map_append, List.map_cons] at distinct
    refine ⟨valid e (mem_sortedTable.mp (by rw [split]; simp)), ?_⟩
    apply Keyed.find?_eq_none_of_not_mem
    have collected : (before.foldl (fun table e => table.insert e.1 e.2)
        (.empty : Keyed Text Value)).entries = before :=
      Keyed.entries_foldl_insert .empty (List.nodup_append.mp distinct).1
    rw [collected]
    intro member
    exact (List.nodup_append.mp distinct).2.2 e.1 member e.1 List.mem_cons_self rfl

end Written

/-- A policy as it is read back. -/
def reread (policy : PrinterSharing) : PrinterSharing where
  version := policy.version
  deniedPrinters := sortedTable policy.deniedPrinters
  deniedPrinterAliases := sortedTable policy.deniedPrinterAliases
  present := true

/-- A field of a written policy: its key, its value, and what reading it sets. -/
structure WrittenField where
  key : Text
  value : Text
  set : PrinterSharing → PrinterSharing

namespace WrittenField

def version : WrittenField where
  key := "version"
  value := [':', '1']
  set read := { read with version := 1 }

def denied (policy : PrinterSharing) : WrittenField where
  key := "deniedPrinters"
  value := ':' :: marshalMap quoteHtml policy.deniedPrinters
  set read := { read with deniedPrinters := sortedTable policy.deniedPrinters }

def aliases (policy : PrinterSharing) : WrittenField where
  key := "deniedPrinterAliases"
  value := ':' :: marshalMap marshalTexts policy.deniedPrinterAliases
  set read := { read with deniedPrinterAliases := sortedTable policy.deniedPrinterAliases }

/-- Reading the field. -/
def turn (fields : PolicyFields) (field : WrittenField) : PolicyFields :=
  ⟨field.set fields.policy, field.key :: fields.seen⟩

/-- The decoder accepts the field after the ones read so far. -/
def Fits (stack : List TokenState) (fields : PolicyFields) (field : WrittenField) : Prop :=
  ∀ first rest, Delimited rest → decodeField fields ⟨comma first ++ quoteHtml field.key ++ (field.value ++ rest),
      Container.object.state first, stack⟩ =
    .ok (field.turn fields, ⟨rest, Container.object.state false, stack⟩)

variable {policy : PrinterSharing} {fields : PolicyFields} (stack : List TokenState)

theorem fits_version (fresh : "version".toList ∉ fields.seen) : version.Fits stack fields := by
  intro first rest delimited
  unfold decodeField
  rw [token_key]
  dsimp only [version]
  rw [if_neg fresh, if_pos rfl, List.cons_append, List.singleton_append, decodeInt_digit stack (by decide) delimited]
  rfl

theorem fits_denied (wellFormed : policy.WellFormed) (fresh : "deniedPrinters".toList ∉ fields.seen)
    (empty : fields.policy.deniedPrinters = .empty) : (denied policy).Fits stack fields := by
  intro first rest _
  have read := decodeObject_written rest stack quoteHtml
    (fun entry => validSharingId entry.1 = true ∧ validBindingDigest entry.2 = true)
    (fun rest stack first table e valid absent =>
      decodeDenied_written rest stack first valid.1 valid.2 absent)
    "deniedPrinters must be an object".toList "invalid deniedPrinters object" wellFormed.denied
  unfold decodeField
  rw [token_key]
  dsimp only [denied]
  rw [if_neg fresh, if_neg (by decide), if_pos rfl, empty, List.cons_append, read]
  rfl

theorem fits_aliases (wellFormed : policy.WellFormed) (fresh : "deniedPrinterAliases".toList ∉ fields.seen)
    (empty : fields.policy.deniedPrinterAliases = .empty) : (aliases policy).Fits stack fields := by
  intro first rest _
  have read := decodeObject_written rest stack marshalTexts
    (fun entry => validSharingId entry.1 = true ∧ ValidAliases entry.2)
    (fun rest stack first table e valid absent =>
      decodeAliases_written rest stack first valid.1 valid.2 absent)
    "deniedPrinterAliases must be an object".toList "invalid deniedPrinterAliases object"
    wellFormed.aliases
  unfold decodeField
  rw [token_key]
  dsimp only [aliases]
  rw [if_neg fresh, if_neg (by decide), if_neg (by decide), if_pos rfl, empty, List.cons_append, read]
  rfl

/-- The fields of a written policy. -/
def all (policy : PrinterSharing) : List WrittenField :=
  version :: denied policy :: if policy.deniedPrinterAliases.entries = [] then [] else [aliases policy]

/-- The decoder before the first field. -/
def start : PolicyFields := ⟨⟨0, .empty, .empty, true⟩, []⟩

theorem fits_all (wellFormed : policy.WellFormed) : ∀ before field after, all policy = before ++ field :: after →
      field.Fits stack (before.foldl turn start) := by
  intro before field after split
  unfold all at split
  -- the fields come in this order, each with the ones before it read
  rcases before with _ | ⟨one, _ | ⟨two, _ | ⟨three, more⟩⟩⟩
  · injection split with here
    subst here
    exact fits_version stack List.not_mem_nil
  · injection split with first' split
    injection split with here
    subst first' here
    refine fits_denied stack wellFormed ?_ rfl
    exact fun listed => absurd (List.mem_singleton.mp listed) (by decide)
  · injection split with first' split
    injection split with second' split
    subst first' second'
    by_cases none : policy.deniedPrinterAliases.entries = []
    · rw [if_pos none] at split
      cases split
    · rw [if_neg none] at split
      injection split with here
      subst here
      refine fits_aliases stack wellFormed ?_ rfl
      intro listed
      rcases List.mem_cons.mp listed with same | listed
      · have same : "deniedPrinterAliases".toList = "deniedPrinters" := same
        exact absurd same (by decide)
      · exact absurd (List.mem_singleton.mp listed) (by decide)
  · have short := congrArg List.length split
    simp only [List.length_cons, List.length_append] at short
    split at short
    · simp only [List.length_nil] at short
      omega
    · simp only [List.length_singleton] at short
      omega

end WrittenField

theorem marshalPrinterSharing_eq {policy : PrinterSharing} (wellFormed : policy.WellFormed) :
    marshalPrinterSharing policy = Container.object.opening ::
      (elements true ((WrittenField.all policy).map fun field => quoteHtml field.key ++ field.value) ++
        [Container.object.closing]) := by
  have one : marshalInt policy.version = ['1'] := by
    rw [wellFormed.version]
    rfl
  unfold marshalPrinterSharing WrittenField.all
  rw [one]
  split <;> rfl

/-- What the fields of a written policy make of the decoder's start. -/
theorem foldl_turn {policy : PrinterSharing} (wellFormed : policy.WellFormed) :
    ((WrittenField.all policy).foldl WrittenField.turn WrittenField.start).policy = reread policy ∧
      "version".toList ∈ ((WrittenField.all policy).foldl WrittenField.turn WrittenField.start).seen ∧
      "deniedPrinters".toList ∈ ((WrittenField.all policy).foldl WrittenField.turn WrittenField.start).seen := by
  unfold WrittenField.all
  by_cases none : policy.deniedPrinterAliases.entries = []
  · rw [if_pos none]
    refine ⟨?_, List.mem_cons_of_mem _ List.mem_cons_self, List.mem_cons_self⟩
    have empty : sortedTable policy.deniedPrinterAliases = .empty := by
      apply Keyed.ext
      simp [sortedTable, none, Keyed.empty]
    simp only [reread, wellFormed.version, empty]
    rfl
  · rw [if_neg none]
    refine ⟨?_, ?_, List.mem_cons_of_mem _ List.mem_cons_self⟩
    · simp only [reread, wellFormed.version]
      rfl
    · exact List.mem_cons_of_mem _ (List.mem_cons_of_mem _ List.mem_cons_self)

/-- Decoding a marshalled policy returns the policy. -/
theorem decodePrinterSharing_marshal {policy : PrinterSharing} (wellFormed : policy.WellFormed) :
    decodePrinterSharing (marshalPrinterSharing policy) = .ok (reread policy) := by
  have looped := whileMore_elements decodeField .object [.topValue] WrittenField.key WrittenField.value
    WrittenField.turn (fun fields field => field.Fits [.topValue] fields)
    (fun fields field first rest fits delimited => fits first rest delimited) []
    (WrittenField.all policy) (s := WrittenField.start) (WrittenField.fits_all _ wellFormed)
  obtain ⟨policyRead, version, denied⟩ := foldl_turn wellFormed
  have object : decodeObject decodeField "sharing policy must be an object"
      "invalid sharing policy object" WrittenField.start
      (Decoder.start (marshalPrinterSharing policy)) =
        .ok ((WrittenField.all policy).foldl WrittenField.turn WrittenField.start, ⟨[], .topValue, []⟩) := by
    rw [marshalPrinterSharing_eq wellFormed]
    unfold decodeObject
    rw [expectDelim_of_token _ (token_start _)]
    simp only [bind, Except.bind, looped]
    rw [expectDelim_of_token _ (token_close [] [] _ .object .topValue)]
    rfl
  have anchored : (reread policy).deniedPrinterAliases.entries.all
      (fun entry => (reread policy).isDenied entry.1) = true := by
    rw [List.all_eq_true]
    intro entry member
    have stored := wellFormed.anchored entry (mem_sortedTable.mp member)
    rw [PrinterSharing.isDenied] at stored ⊢
    rwa [reread, find?_sortedTable]
  have complete : ((WrittenField.all policy).foldl WrittenField.turn WrittenField.start).complete =
      .ok (reread policy) := by
    unfold PolicyFields.complete
    rw [policyRead, if_neg, if_pos anchored]
    rintro (unseen | unseen | other)
    · exact unseen version
    · exact unseen denied
    · exact other wellFormed.version
  change (decodeObject decodeField _ _ WrittenField.start _ >>= _) = _
  rw [object]
  exact complete

/-- Loading what was written returns the policy. -/
theorem loadPrinterSharing_marshal {policy : PrinterSharing} (wellFormed : policy.WellFormed)
    (bounded : byteSize (marshalPrinterSharing policy) ≤ maxPrinterSharingBytes) :
    loadPrinterSharing (.content (marshalPrinterSharing policy)) = .ok (reread policy) := by
  rw [loadPrinterSharing, if_neg (Nat.not_lt.mpr bounded), decodePrinterSharing_marshal wellFormed]
  rfl

/-- A policy is written in the same way before and after it was read back. -/
theorem marshalPrinterSharing_reread (policy : PrinterSharing) :
    marshalPrinterSharing (reread policy) = marshalPrinterSharing policy := by
  have sorted {Value : Type} (marshal : Value → Text) (table : Keyed Text Value) :
      marshalMap marshal (sortedTable table) = marshalMap marshal table := by
    rw [marshalMap, sortedTable, (List.pairwise_insertionSort _ table.entries).insertionSort_eq, marshalMap]
  have empty : (sortedTable policy.deniedPrinterAliases).entries = [] ↔ policy.deniedPrinterAliases.entries = [] := by
    simp [← List.length_eq_zero_iff, sortedTable]
  simp only [marshalPrinterSharing, reread, sorted, empty]

/-- A policy read from any accepted text and written again is accepted, denies and aliases what it did, and
is written in the same way from then on. -/
theorem decoded_policy_rewrites {text : Text} {policy : PrinterSharing}
    (decoded : decodePrinterSharing text = .ok policy) :
    ∃ again, decodePrinterSharing (marshalPrinterSharing policy) = .ok again ∧ again.version = policy.version ∧
      (∀ id, again.deniedPrinters.find? id = policy.deniedPrinters.find? id) ∧
      (∀ id, again.deniedPrinterAliases.find? id = policy.deniedPrinterAliases.find? id) ∧
      marshalPrinterSharing again = marshalPrinterSharing policy :=
  ⟨reread policy, decodePrinterSharing_marshal (decodePrinterSharing_wellFormed decoded).1, rfl,
    find?_sortedTable _, find?_sortedTable _, marshalPrinterSharing_reread policy⟩

/-- Two denied printers, one with an alias, as the text below has them. -/
def handWrittenPolicy : PrinterSharing where
  version := 1
  deniedPrinters := ⟨[("q", .replicate 64 'b'), ("p", .replicate 64 'a')], by decide⟩
  deniedPrinterAliases := ⟨[("p", [.replicate 64 'c'])], by decide⟩
  present := true

def handWrittenFile : Text :=
  "\x7b \"deniedPrinters\" :\x7b\"q\":\"" ++ .replicate 64 'b' ++ "\", \"p\":\"" ++ .replicate 64 'a' ++
    "\"\x7d,\n \"deniedPrinterAliases\":\x7b\"p\":[\"" ++ .replicate 64 'c' ++ "\"]\x7d, \"version\":1\x7d"

theorem decoded_policy_rewrites_handWritten : decodePrinterSharing handWrittenFile = .ok handWrittenPolicy ∧
    ∃ again, decodePrinterSharing (marshalPrinterSharing handWrittenPolicy) = .ok again ∧ again.version = 1 ∧
      again.deniedPrinters.find? "q" = some (.replicate 64 'b') ∧
      again.deniedPrinterAliases.find? "p" = some [.replicate 64 'c'] ∧
      marshalPrinterSharing again = marshalPrinterSharing handWrittenPolicy := by
  have decoded : decodePrinterSharing handWrittenFile = .ok handWrittenPolicy := by decide +kernel
  obtain ⟨again, read, version, denied, aliases, rewritten⟩ := decoded_policy_rewrites decoded
  exact ⟨decoded, again, read, version, (denied _).trans (by decide), (aliases _).trans (by decide), rewritten⟩

end PrintGateway.Agent
