import PrintGateway.Soundness.SharingFile

/-!
# What a sharing decision does

A denial is recorded under the printer's id and under the digests of its bindings, survives the file,
and withholds every printer it covers whatever is known later.  Denying a printer again replaces the
digest recorded for it, and sharing a printer deletes the denials that recorded its digest, so both can
share something else; the theorems say when they do not.
-/

namespace PrintGateway.Agent

open Machine Text

/-! ### Policies stay well formed -/

namespace PrinterSharing.WellFormed

variable {policy : PrinterSharing} {bindings : BindingDigest} {selected : PrinterConfig} {digest : Text}

section

variable (wellFormed : policy.WellFormed)

include wellFormed

variable {policy' : PrinterSharing}

/-- Entries may be removed, as long as those of a printer go together. -/
theorem filter {keep : Text → Text → Bool} {keepAliases : Text → List Text → Bool}
    (together : ∀ id digest aliases, policy.deniedPrinters.find? id = some digest →
      keepAliases id aliases = true → keep id digest = true) :
    ({ policy with
      deniedPrinters := policy.deniedPrinters.filter keep
      deniedPrinterAliases := policy.deniedPrinterAliases.filter keepAliases } : PrinterSharing).WellFormed := by
  refine ⟨wellFormed.version, ?_, ?_, fun entry member => ?_⟩
  · exact fun entry member => wellFormed.denied entry (List.mem_filter.mp member).1
  · exact fun entry member => wellFormed.aliases entry (List.mem_filter.mp member).1
  · obtain ⟨listed, kept⟩ := List.mem_filter.mp member
    obtain ⟨digest, found⟩ := Option.isSome_iff_exists.mp (wellFormed.anchored _ listed)
    have stays := Keyed.find?_filter_eq_some_iff.mpr ⟨found, together _ _ _ found kept⟩
    exact Option.isSome_iff_exists.mpr ⟨digest, stays⟩

theorem remove (id : Text) : (policy.remove id).WellFormed := wellFormed.filter fun _ _ _ _ kept => kept

theorem removeRecorded (digest : Text) : (policy.removeRecorded digest).WellFormed := by
  refine wellFormed.filter fun id recorded _ found kept => ?_
  rw [found] at kept
  simpa using kept

theorem removeCurrent {current : PrinterConfig}
    (removed : policy.removeCurrent bindings digest current = .ok policy') : policy'.WellFormed := by
  unfold PrinterSharing.removeCurrent at removed
  repeat' split at removed
  all_goals cases removed
  · exact wellFormed.remove _
  · exact wellFormed
  · exact wellFormed

theorem share {known : List PrinterConfig}
    (changed : policy.share bindings selected digest known = .ok policy') : policy'.WellFormed := by
  have start := (wellFormed.remove selected.id).removeRecorded digest
  exact foldlM_keeps PrinterSharing.WellFormed start
    (fun _ _ _ _ wellFormed removed => wellFormed.removeCurrent removed) changed

end

end PrinterSharing.WellFormed

/-! ### Aliases -/

section Aliases

variable {bindings : BindingDigest} {selected : PrinterConfig} {digest : Text}
  {aliases' aliases : List Text} {known : List PrinterConfig}

/-- One known row: nothing changes, or its digest is appended. -/
theorem addAlias_cases {current : PrinterConfig}
    (added : PrinterSharing.addAlias bindings selected digest aliases current = .ok aliases') :
    (aliases' = aliases ∧ (current.id = selected.id → current.verifiedSpoolerSharingAlias = true →
        ∃ found, bindings.digest current = .ok found ∧ (found = digest ∨ found ∈ aliases))) ∨
      ∃ found, bindings.digest current = .ok found ∧ found ∉ aliases ∧
        aliases.length < maxPrinterSharingAliases ∧ aliases' = aliases ++ [found] ∧
        current.id = selected.id ∧ current.verifiedSpoolerSharingAlias = true := by
  unfold PrinterSharing.addAlias at added
  split at added
  · rename_i skipped
    cases added
    refine .inl ⟨rfl, fun same verified => ?_⟩
    rcases skipped with other | unverified
    · exact absurd same other
    · cases verified.symm.trans unverified
  · rename_i own
    rw [not_or, not_not, Bool.not_eq_false] at own
    split at added
    · cases added
    · rename_i found resolved
      split at added
      · rename_i fresh
        split at added
        · cases added
        · rename_i room
          cases added
          exact .inr ⟨found, resolved, fresh.2, Nat.lt_of_not_le room, rfl, own⟩
      · rename_i recorded
        cases added
        refine .inl ⟨rfl, fun _ _ => ⟨found, resolved, ?_⟩⟩
        by_contra missing
        exact recorded (not_or.mp missing)

section

variable (added : known.foldlM (PrinterSharing.addAlias bindings selected digest) aliases = .ok aliases')

include added

theorem addAlias_grows : aliases ⊆ aliases' := by
  refine foldlM_keeps (fun listed => aliases ⊆ listed) (List.Subset.refl _) ?_ added
  intro listed current _ next subset step
  rcases addAlias_cases step with ⟨rfl, -⟩ | ⟨found, -, -, -, rfl, -⟩
  · exact subset
  · exact List.Subset.trans subset (List.subset_append_left _ _)

theorem addAlias_collects (collected : AliasDigests aliases) : AliasDigests aliases' := by
  refine foldlM_keeps AliasDigests collected ?_ added
  intro listed current _ next valid step
  rcases addAlias_cases step with ⟨rfl, -⟩ | ⟨found, resolved, fresh, room, rfl, -⟩
  · exact valid
  · exact valid.append (bindings.valid resolved) fresh room

/-- The aliases are the earlier ones and the digests of the verified rows of the printer. -/
theorem mem_addAlias_iff {found : Text} : found = digest ∨ found ∈ aliases' ↔ found = digest ∨ found ∈ aliases ∨
    ∃ row ∈ known, row.id = selected.id ∧ row.verifiedSpoolerSharingAlias = true ∧
      bindings.digest row = .ok found := by
  induction known generalizing aliases with
  | nil =>
    cases added
    simp
  | cons first known ih =>
    obtain ⟨next, turned, added⟩ := exists_of_bind_eq_ok added
    rw [ih added, List.exists_mem_cons_iff]
    rcases addAlias_cases turned with ⟨rfl, recorded⟩ | ⟨alone, resolved, -, -, rfl, own, verified⟩
    · refine ⟨.imp_right (.imp_right .inr), ?_⟩
      rintro (same | earlier | ⟨own, verified, resolved⟩ | later)
      · exact .inl same
      · exact .inr (.inl earlier)
      · -- what the row resolves to is there already
        obtain ⟨other, resolved', listed⟩ := recorded own verified
        obtain rfl := Except.ok.inj (resolved.symm.trans resolved')
        exact listed.imp_right .inl
      · exact .inr (.inr later)
    · simp only [own, verified, resolved, Except.ok.injEq, true_and, List.mem_append, List.mem_singleton, or_assoc,
        @eq_comm _ alone]

end

end Aliases

section Changes

variable {bindings : BindingDigest} {selected : PrinterConfig} {known : List PrinterConfig}
  {policy changed : PrinterSharing} {digest : Text} {aliases : List Text} {shared : Bool}
  {written : WrittenPolicy} {file : SharingFile}

theorem isDenied_record {id : Text} {other : Text} :
    (policy.record id digest aliases).isDenied other = true ↔ other = id ∨ policy.isDenied other = true := by
  unfold PrinterSharing.isDenied PrinterSharing.record
  by_cases same : other = id
  · subst same
    simp [Keyed.find?_put_self]
  · simp [Keyed.find?_put_of_ne _ _ same, same]

theorem PrinterSharing.WellFormed.record {id : Text} (wellFormed : policy.WellFormed)
    (validId : validSharingId id = true) (validDigest : validBindingDigest digest = true)
    (collected : AliasDigests aliases) : (policy.record id digest aliases).WellFormed := by
  have listed : ∀ entry ∈ (policy.record id digest aliases).deniedPrinterAliases.entries,
      entry ∈ policy.deniedPrinterAliases.entries ∨ (entry = (id, aliases) ∧ aliases ≠ []) := by
    intro entry member
    by_cases empty : aliases = []
    · rw [PrinterSharing.record, if_pos empty] at member
      exact .inl member
    · rw [PrinterSharing.record, if_neg empty] at member
      exact (Keyed.mem_put member).symm.imp_right fun same => ⟨same, empty⟩
  refine ⟨wellFormed.version, ?_, ?_, ?_⟩
  · intro entry member
    rcases Keyed.mem_put member with rfl | earlier
    · exact ⟨validId, validDigest⟩
    · exact wellFormed.denied entry earlier
  · intro entry member
    rcases listed entry member with earlier | ⟨rfl, nonempty⟩
    · exact wellFormed.aliases entry earlier
    · exact ⟨validId, collected, nonempty⟩
  · intro entry member
    rw [isDenied_record]
    rcases listed entry member with earlier | ⟨rfl, -⟩
    · exact .inr (wellFormed.anchored entry earlier)
    · exact .inl rfl

theorem aliasDigests_of_find? (wellFormed : policy.WellFormed) (id : Text) :
    AliasDigests ((policy.deniedPrinterAliases.find? id).getD []) := by
  cases stored : policy.deniedPrinterAliases.find? id with
  | none => exact .nil
  | some aliases =>
    exact (wellFormed.aliases _ (Keyed.mem_of_find?_eq_some stored)).2.toAliasDigests

/-- What a successful denial recorded. -/
theorem exists_of_deny (denied : policy.deny bindings selected digest known = .ok changed) :
    ∃ aliases, known.foldlM (PrinterSharing.addAlias bindings selected digest)
        ((policy.deniedPrinterAliases.find? selected.id).getD []) = .ok aliases ∧
      policy.record selected.id digest aliases = changed :=
  exists_of_map_eq_ok denied

theorem changedPolicy_wellFormed (wellFormed : policy.WellFormed)
    (validId : validSharingId selected.id = true) (resolved : bindings.digest selected = .ok digest)
    (succeeded : changedPolicy bindings policy selected digest known shared = .ok changed) :
    changed.WellFormed := by
  cases shared with
  | true =>
    obtain ⟨taken, removed, succeeded⟩ := exists_of_bind_eq_ok succeeded
    obtain ⟨allowed, -, succeeded⟩ := exists_of_bind_eq_ok succeeded
    have kept := wellFormed.share removed
    split at succeeded
    · cases succeeded
      exact ⟨kept.version, kept.denied, kept.aliases, kept.anchored⟩
    · cases succeeded
  | false =>
    obtain ⟨aliases, added, rfl⟩ := exists_of_deny succeeded
    exact wellFormed.record validId (bindings.valid resolved)
      (addAlias_collects added (aliasDigests_of_find? wellFormed _))

/-- A successful call, unpacked. -/
structure Wrote (bindings : BindingDigest) (file : SharingFile) (selected : PrinterConfig)
    (known : List PrinterConfig) (shared : Bool) (written : WrittenPolicy) (digest : Text)
    (old : PrinterSharing) : Prop where
  validId : validSharingId selected.id = true
  resolved : bindings.digest selected = .ok digest
  loaded : loadPrinterSharing file = .ok old
  changed : changedPolicy bindings old selected digest known shared = .ok written.policy
  data : written.data = marshalPrinterSharing written.policy
  bounded : byteSize (marshalPrinterSharing written.policy) ≤ maxPrinterSharingBytes

theorem exists_wrote (succeeded : setPrinterSharing bindings file selected known shared = .ok written) :
    ∃ digest old, Wrote bindings file selected known shared written digest old := by
  unfold setPrinterSharing at succeeded
  split at succeeded
  · cases succeeded
  · rename_i validId
    obtain ⟨digest, resolved, succeeded⟩ := exists_of_bind_eq_ok succeeded
    obtain ⟨old, loaded, succeeded⟩ := exists_of_bind_eq_ok succeeded
    obtain ⟨changed, change, succeeded⟩ := exists_of_bind_eq_ok succeeded
    split at succeeded
    · cases succeeded
    · rename_i bounded
      cases succeeded
      exact ⟨digest, old, by simpa using validId, resolved, loaded, change, rfl, Nat.le_of_not_lt bounded⟩

/-- Loading after a successful call returns what it wrote. -/
theorem Wrote.reloaded {old : PrinterSharing}
    (wrote : Wrote bindings file selected known shared written digest old) :
    loadPrinterSharing (.content written.data) = .ok (reread written.policy) := by
  rw [wrote.data]
  refine loadPrinterSharing_marshal ?_ wrote.bounded
  exact changedPolicy_wellFormed (loadPrinterSharing_wellFormed wrote.loaded) wrote.validId
    wrote.resolved wrote.changed

end Changes

/-! ### Decisions -/

section Decisions

variable {policy old new : PrinterSharing} {bindings : BindingDigest} {known : List PrinterConfig}
  {pc : PrinterConfig} {digest : Text}

theorem mem_recorded : digest ∈ policy.recorded ↔ (∃ id, policy.deniedPrinters.find? id = some digest) ∨
      ∃ id aliases, policy.deniedPrinterAliases.find? id = some aliases ∧ digest ∈ aliases := by
  simp only [PrinterSharing.recorded, List.mem_append, List.mem_map, List.mem_flatMap, Prod.exists,
    exists_eq_right, Keyed.find?_eq_some_iff]

/-- An id is denied now: by its entry, or because its binding was recorded with a denial. -/
def DeniedNow (policy : PrinterSharing) (bindings : BindingDigest) (known : List PrinterConfig)
    (id : Text) : Prop :=
  policy.isDenied id = true ∨ ∃ current ∈ known, current.id = id ∧
    ∃ digest, bindings.digest current = .ok digest ∧ digest ∈ policy.recorded

theorem ok?_eq_some_iff : bindings.ok? pc = some digest ↔ bindings.digest pc = .ok digest := by
  unfold BindingDigest.ok?
  cases bindings.digest pc <;> simp [Except.toOption]

theorem deniedCurrentIds_iff {id : Text} :
    policy.deniedCurrentIds bindings known id = true ↔ DeniedNow policy bindings known id := by
  simp only [PrinterSharing.deniedCurrentIds, DeniedNow, Bool.or_eq_true, List.any_eq_true,
    Bool.and_eq_true, beq_iff_eq, Option.any_eq_true, decide_eq_true_eq, ok?_eq_some_iff]

/-- The bindings of a resolved policy: the recorded ones and those of the printers denied now. -/
theorem mem_resolve_bindings : digest ∈ (policy.resolve bindings known).bindings ↔ digest ∈ policy.recorded ∨
      ∃ current ∈ known, DeniedNow policy bindings known current.id ∧ bindings.digest current = .ok digest := by
  simp only [PrinterSharing.resolve, List.mem_append, List.mem_filterMap, List.mem_filter,
    deniedCurrentIds_iff, ok?_eq_some_iff, and_assoc]

theorem mem_knownSpoolerBindings : digest ∈ (policy.resolve bindings known).knownSpoolerBindings ↔
    ∃ row ∈ known, row.normalizedType = "spooler" ∧ independentlyKnownSpoolerBinding row = true ∧
      bindings.digest row = .ok digest := by
  simp only [PrinterSharing.resolve, List.mem_filterMap, List.mem_filter, Bool.and_eq_true, decide_eq_true_eq,
    ok?_eq_some_iff, and_assoc]

theorem resolve_err_eq_none : (policy.resolve bindings known).err = none ↔
      ∀ current ∈ known, DeniedNow policy bindings known current.id →
        ∃ digest, bindings.digest current = .ok digest := by
  simp only [PrinterSharing.resolve, List.findSome?_eq_none_iff, List.mem_filter, deniedCurrentIds_iff, and_imp]
  refine forall₃_congr fun current _ _ => ?_
  cases bindings.digest current <;> simp

/-- What it takes to be shared under a policy that is present. -/
structure SharedUnder (policy : PrinterSharing) (bindings : BindingDigest) (known : List PrinterConfig)
    (pc : PrinterConfig) (digest : Text) : Prop where
  notDenied : policy.isDenied pc.id = false
  resolvable : ∀ current ∈ known, DeniedNow policy bindings known current.id →
    ∃ digest, bindings.digest current = .ok digest
  resolved : bindings.digest pc = .ok digest
  unrecorded : digest ∉ policy.recorded
  free : ∀ current ∈ known, DeniedNow policy bindings known current.id → bindings.digest current ≠ .ok digest
  spooler : pc.normalizedType = "spooler" → policy.deniedPrinters.entries ≠ [] →
    digest ∈ (policy.resolve bindings known).knownSpoolerBindings

theorem SharedUnder.not_mem_bindings (shared : SharedUnder policy bindings known pc digest) :
    digest ∉ (policy.resolve bindings known).bindings := by
  rw [mem_resolve_bindings]
  rintro (recorded | ⟨current, listed, denied, same⟩)
  · exact shared.unrecorded recorded
  · exact shared.free current listed denied same

theorem shared_of_sharedUnder (shared : SharedUnder policy bindings known pc digest) :
    policy.shared bindings pc known = .ok true := by
  unfold PrinterSharing.shared ResolvedPrinterSharing.shared
  split
  · rfl
  · split
    · rename_i denied
      cases shared.notDenied.symm.trans denied
    · rw [resolve_err_eq_none.mpr shared.resolvable, shared.resolved]
      dsimp only
      rw [if_neg shared.not_mem_bindings]
      split
      · rename_i native
        rw [decide_eq_true (shared.spooler native.1 native.2)]
      · rfl

/-- A printer is shared exactly when nothing in the policy covers it. -/
theorem shared_eq_true_iff : policy.shared bindings pc known = .ok true ↔
      policy.present = false ∨ ∃ digest, SharedUnder policy bindings known pc digest := by
  constructor
  · intro shared
    unfold PrinterSharing.shared ResolvedPrinterSharing.shared at shared
    split at shared
    · rename_i absent
      exact .inl absent
    · split at shared
      · cases shared
      · rename_i allowed
        have allowed : ¬ policy.isDenied pc.id = true := allowed
        split at shared
        · cases shared
        · rename_i resolvable
          split at shared
          · cases shared
          · rename_i digest resolved
            split at shared
            · cases shared
            · rename_i unlisted
              rw [mem_resolve_bindings, not_or] at unlisted
              refine .inr ⟨digest, by simpa using allowed, resolve_err_eq_none.mp resolvable, resolved,
                unlisted.1, ?_, ?_⟩
              · intro current listed denied same
                exact unlisted.2 ⟨current, listed, denied, same⟩
              · intro native nonempty
                split at shared
                · exact of_decide_eq_true (Except.ok.inj shared)
                · rename_i other
                  exact absurd ⟨native, nonempty⟩ other
  · rintro (absent | ⟨digest, shared⟩)
    · exact if_pos absent
    · exact shared_of_sharedUnder shared

/-- The later policy withholds what the earlier one does; a digest that no printer has may be forgotten. -/
structure Withholds (bindings : BindingDigest) (old new : PrinterSharing) : Prop where
  present : old.present = true → new.present = true
  denied : ∀ id, old.isDenied id = true → new.isDenied id = true
  recorded : ∀ digest ∈ old.recorded, ∀ pc, bindings.digest pc = .ok digest → digest ∈ new.recorded

theorem Withholds.deniedNow (withholds : Withholds bindings old new) {id : Text}
    (denied : DeniedNow old bindings known id) : DeniedNow new bindings known id := by
  rcases denied with entry | ⟨current, listed, same, digest, resolved, recorded⟩
  · exact .inl (withholds.denied id entry)
  · exact .inr ⟨current, listed, same, digest, resolved, withholds.recorded digest recorded current resolved⟩

/-- Sharing is antitone: what is shared under the later policy was shared under the earlier one. -/
theorem Withholds.shared (withholds : Withholds bindings old new) (shared : new.shared bindings pc known = .ok true) :
    old.shared bindings pc known = .ok true := by
  rw [shared_eq_true_iff] at shared ⊢
  rcases shared with absent | ⟨digest, shared⟩
  · refine .inl ?_
    by_contra present
    have present := withholds.present (by simpa using present)
    cases absent.symm.trans present
  · refine .inr ⟨digest, ?_, ?_, shared.resolved, ?_, ?_, ?_⟩
    · by_contra denied
      have denied := withholds.denied _ (by simpa using denied)
      cases shared.notDenied.symm.trans denied
    · exact fun current listed denied => shared.resolvable current listed (withholds.deniedNow denied)
    · exact fun recorded => shared.unrecorded (withholds.recorded digest recorded pc shared.resolved)
    · exact fun current listed denied => shared.free current listed (withholds.deniedNow denied)
    · intro native nonempty
      refine shared.spooler native ?_
      obtain ⟨entry, member⟩ := List.exists_mem_of_ne_nil _ nonempty
      have entered : old.isDenied entry.1 = true :=
        Option.isSome_iff_exists.mpr ⟨entry.2, Keyed.find?_eq_some_iff.mpr member⟩
      obtain ⟨digest', found⟩ := Option.isSome_iff_exists.mp (withholds.denied _ entered)
      exact List.ne_nil_of_mem (Keyed.mem_of_find?_eq_some found)

end Decisions

/-! ### Reading back -/

variable {other policy : PrinterSharing} {digest recorded : Text}

/-- The policies agree: the same version, and the same entry under every id. -/
structure SamePolicy (policy other : PrinterSharing) : Prop where
  version : other.version = policy.version
  denied : ∀ id, other.deniedPrinters.find? id = policy.deniedPrinters.find? id
  aliases : ∀ id, other.deniedPrinterAliases.find? id = policy.deniedPrinterAliases.find? id

theorem samePolicy_reread (policy : PrinterSharing) : SamePolicy policy (reread policy) :=
  ⟨rfl, find?_sortedTable _, find?_sortedTable _⟩

theorem SamePolicy.isDenied (same : SamePolicy policy other) (id : Text) :
    other.isDenied id = policy.isDenied id := by
  rw [PrinterSharing.isDenied, PrinterSharing.isDenied, same.denied]

theorem SamePolicy.mem_recorded (same : SamePolicy policy other) :
    digest ∈ other.recorded ↔ digest ∈ policy.recorded := by
  simp only [PrintGateway.Agent.mem_recorded, same.denied, same.aliases]

/-- What is recorded after a denial that kept the aliases of its printer. -/
theorem mem_recorded_record {id : Text} {aliases : List Text}
    (grown : (policy.deniedPrinterAliases.find? id).getD [] ⊆ aliases) :
    recorded ∈ (policy.record id digest aliases).recorded ↔
      (recorded = digest ∨ recorded ∈ aliases) ∨ (∃ other ≠ id, policy.deniedPrinters.find? other = some recorded) ∨
        ∃ other listed, policy.deniedPrinterAliases.find? other = some listed ∧ recorded ∈ listed := by
  have aliased : aliases ≠ [] →
      (policy.record id digest aliases).deniedPrinterAliases = policy.deniedPrinterAliases.put id aliases :=
    fun some => if_neg some
  rw [mem_recorded]
  constructor
  · rintro (⟨other, found⟩ | ⟨other, listed, found, member⟩)
    · by_cases own : other = id
      · subst own
        exact .inl (.inl (Option.some.inj (found.symm.trans (Keyed.find?_put_self _ _ _))))
      · exact .inr (.inl ⟨other, own, (Keyed.find?_put_of_ne _ _ own).symm.trans found⟩)
    · by_cases own : other = id ∧ aliases ≠ []
      · obtain ⟨rfl, some⟩ := own
        rw [aliased some, Keyed.find?_put_self] at found
        exact .inl (.inr (Option.some.inj found ▸ member))
      · refine .inr (.inr ⟨other, listed, ?_, member⟩)
        by_cases none : aliases = []
        · rwa [PrinterSharing.record, if_pos none] at found
        · rwa [aliased none, Keyed.find?_put_of_ne _ _ fun same => own ⟨same, none⟩] at found
  · have own (member : recorded ∈ aliases) := aliased (List.ne_nil_of_mem member) ▸
      Keyed.find?_put_self policy.deniedPrinterAliases id aliases
    rintro ((rfl | member) | ⟨other, different, found⟩ | ⟨other, listed, found, member⟩)
    · exact .inl ⟨id, Keyed.find?_put_self _ _ _⟩
    · exact .inr ⟨id, aliases, own member, member⟩
    · exact .inl ⟨other, (Keyed.find?_put_of_ne _ _ different).trans found⟩
    · by_cases same : other = id
      · subst same
        rw [found] at grown
        exact .inr ⟨other, aliases, own (grown member), grown member⟩
      · refine .inr ⟨other, listed, ?_, member⟩
        by_cases none : aliases = []
        · rwa [PrinterSharing.record, if_pos none]
        · rwa [aliased none, Keyed.find?_put_of_ne _ _ same]

/-! ### Denials -/

/-- What stays recorded when `p` is denied: its binding now, what other denials recorded, every alias, and the
bindings of its verified queues. -/
def StaysRecorded (bindings : BindingDigest) (old : PrinterSharing) (p : PrinterConfig) (known : List PrinterConfig)
    (recorded : Text) : Prop :=
  bindings.digest p = .ok recorded ∨ (∃ id ≠ p.id, old.deniedPrinters.find? id = some recorded) ∨
    (∃ id aliases, old.deniedPrinterAliases.find? id = some aliases ∧ recorded ∈ aliases) ∨
    ∃ row ∈ known, row.id = p.id ∧ row.verifiedSpoolerSharingAlias = true ∧ bindings.digest row = .ok recorded

theorem mem_recorded_deny {bindings : BindingDigest} {p : PrinterConfig} {known : List PrinterConfig}
    {changed : PrinterSharing} (denied : policy.deny bindings p digest known = .ok changed)
    (resolved : bindings.digest p = .ok digest) :
    recorded ∈ changed.recorded ↔ StaysRecorded bindings policy p known recorded := by
  obtain ⟨aliases, added, rfl⟩ := exists_of_deny denied
  rw [mem_recorded_record (addAlias_grows added), mem_addAlias_iff added, StaysRecorded, resolved, Except.ok.injEq]
  constructor
  · rintro ((rfl | earlier | row) | other | aliased)
    · exact .inl rfl
    · cases stored : policy.deniedPrinterAliases.find? p.id with
      | none =>
        rw [stored] at earlier
        cases earlier
      | some listed =>
        rw [stored] at earlier
        exact .inr (.inr (.inl ⟨p.id, listed, stored, earlier⟩))
    · exact .inr (.inr (.inr row))
    · exact .inr (.inl other)
    · exact .inr (.inr (.inl aliased))
  · rintro (rfl | other | aliased | row)
    · exact .inl (.inl rfl)
    · exact .inr (.inl other)
    · exact .inr (.inr aliased)
    · exact .inl (.inr (.inr row))

def samplePrinter (id endpoint : Text) : PrinterConfig where
  id := id
  type := "network"
  connectionType := []
  endpoint := endpoint
  protocol := "raw"
  spoolerName := []
  usbVid := []
  usbPid := []
  registrationSource := none
  verification := none
  verifiedSpoolerSharingAlias := false

def sampleAddress : Text := "10.0.0.1:9100"

def sampleOtherAddress : Text := "10.0.0.2:9100"

/-- SHA-256 of the binding at the first address. -/
def sampleDigest : Text := "ab52b7bc43f05ecd0c08c1b88b208842c7a0c2d10af55eef7d17b6bedda26789"

/-- SHA-256 of the binding at the other address. -/
def sampleOtherDigest : Text := "2e80000d1728787a5d81b8668c3338d464b54d46039be46dd4c2c1abf736848a"

/-- The digests of the two addresses. -/
def sampleBindings : BindingDigest where
  nfc := id
  lower := toLower
  hostname := none
  sha256 binding := if binding = "tcp:10.0.0.1:9100" then sampleDigest else sampleOtherDigest
  hex binding := by split <;> decide +kernel

/-- A policy with some denials. -/
def policyOf (denied : Keyed Text Text) : PrinterSharing where
  version := 1
  deniedPrinters := denied
  deniedPrinterAliases := .empty
  present := true

/-- A stored policy that denied the printer `p` at the first address. -/
def samplePolicy : PrinterSharing := policyOf ⟨[("p", sampleDigest)], by decide⟩

def fileOf (policy : PrinterSharing) : SharingFile := .content (marshalPrinterSharing policy)

/-- What a denial of `p` under the bindings of that time has to cover among later printers. -/
def CoveredBy (now later : BindingDigest) (p : PrinterConfig) (known known' : List PrinterConfig)
    (x : PrinterConfig) : Prop :=
  x.id = p.id ∨ (∃ digest, now.digest p = .ok digest ∧ later.digest x = .ok digest) ∨
    (∃ row ∈ known, row.id = p.id ∧ row.verifiedSpoolerSharingAlias = true ∧
      ∃ digest, now.digest row = .ok digest ∧ later.digest x = .ok digest) ∨
    ∃ row ∈ known', row.id = p.id ∧ ∃ digest, later.digest row = .ok digest ∧ later.digest x = .ok digest

/-- Whatever the stored policy was, a successful call leaves a file that loads as the policy written,
and if the call denied a printer then nothing its denial covers is shared under it, whatever is known
later and whatever the bindings have become. -/
theorem denial_effective_and_durable (now later : BindingDigest) (file : SharingFile) (p : PrinterConfig)
    (known : List PrinterConfig) {shared : Bool} {written : WrittenPolicy}
    (succeeded : setPrinterSharing now file p known shared = .ok written) :
    ∃ loaded, loadPrinterSharing (.content written.data) = .ok loaded ∧ SamePolicy written.policy loaded ∧
      (shared = false → ∀ known' x, CoveredBy now later p known known' x →
        loaded.shared later x known' ≠ .ok true) := by
  obtain ⟨digest, old, wrote⟩ := exists_wrote succeeded
  have same := samePolicy_reread written.policy
  refine ⟨reread written.policy, wrote.reloaded, same, ?_⟩
  rintro rfl known' x covered shared
  have recorded {found : Text} (stays : StaysRecorded now old p known found) : found ∈ written.policy.recorded :=
    (mem_recorded_deny wrote.changed wrote.resolved).mpr stays
  have denied : (reread written.policy).isDenied p.id = true := by
    obtain ⟨aliases, -, changed⟩ := exists_of_deny wrote.changed
    rw [same.isDenied, ← changed, isDenied_record]
    exact .inl rfl
  rcases shared_eq_true_iff.mp shared with absent | ⟨found, shared⟩
  · cases absent
  · have unrecorded {found' : Text} (equal : later.digest x = .ok found') : found' ∉ written.policy.recorded := by
      obtain rfl := Except.ok.inj (shared.resolved.symm.trans equal)
      exact fun member => shared.unrecorded (same.mem_recorded.mpr member)
    rcases covered with sameId | ⟨digest', resolved, equal⟩ |
      ⟨row, listed, sameId, verified, digest', resolved, equal⟩ | ⟨row, listed, sameId, digest', resolved, equal⟩
    · have allowed := shared.notDenied
      rw [sameId] at allowed
      cases allowed.symm.trans denied
    · exact unrecorded equal (recorded (.inl resolved))
    · exact unrecorded equal (recorded (.inr (.inr (.inr ⟨row, listed, sameId, verified, resolved⟩))))
    · -- the row carries the denied id, so its binding is denied now
      obtain rfl := Except.ok.inj (shared.resolved.symm.trans equal)
      refine shared.free row listed (.inl ?_) resolved
      rw [sameId]
      exact denied

/-- What writing a policy leaves. -/
def writtenPolicy (policy : PrinterSharing) : WrittenPolicy := ⟨policy, marshalPrinterSharing policy⟩

theorem denial_effective_and_durable_first :
    setPrinterSharing sampleBindings .absent (samplePrinter "p" sampleAddress) [] false =
        .ok (writtenPolicy { samplePolicy with present := false }) ∧
      ∃ loaded, loadPrinterSharing (fileOf samplePolicy) = .ok loaded ∧
        loaded.shared sampleBindings (samplePrinter "x" sampleAddress) [] ≠ .ok true := by
  refine (and_iff_left_of_imp fun written => ?_).mpr (by decide +kernel)
  obtain ⟨loaded, reloaded, -, withheld⟩ := denial_effective_and_durable _ sampleBindings _ _ _ written
  exact ⟨loaded, reloaded, withheld rfl [] _ (.inr (.inl ⟨sampleDigest, by decide +kernel, by decide +kernel⟩))⟩

/-! ### Renaming -/

section Renaming

variable (pc : PrinterConfig) (id : Text) (source : Option Text)

theorem toOption_bind {First Second : Type} (first : Except Text First) (next : First → Except Text Second) :
    (first.bind next).toOption = first.toOption.bind fun value => (next value).toOption := by
  cases first <;> rfl

theorem toOption_error {Value : Type} (error : Text) : (Except.error error : Except Text Value).toOption = none := rfl

/-- The printer under another id and with another source. -/
def PrinterConfig.renamed : PrinterConfig := { pc with id, registrationSource := source }

theorem normalizedProtocol_renamed :
    (pc.renamed id source).normalizedProtocol.toOption = pc.normalizedProtocol.toOption := by
  simp only [PrinterConfig.normalizedProtocol, apply_ite Except.toOption, toOption_error]
  rfl

theorem validateURLEndpoint_renamed (nt ep : Text) :
    (validateURLEndpoint (pc.renamed id source) nt ep).toOption = (validateURLEndpoint pc nt ep).toOption := by
  unfold validateURLEndpoint
  cases Net.Go.Url.parse ep with
  | none => rfl
  | some u =>
    dsimp only
    generalize (if u.port = [] then some 631 else (Net.Go.atoi u.port).filter fun n => 1 ≤ n ∧ n ≤ 65535) = port
    cases port <;> simp only [apply_ite Except.toOption, refuse, toOption_error]

theorem validateSocketEndpoint_renamed (ep : Text) :
    (validateSocketEndpoint (pc.renamed id source) ep).toOption = (validateSocketEndpoint pc ep).toOption := by
  unfold validateSocketEndpoint
  split
  · rfl
  · simp only [apply_ite Except.toOption, refuse, toOption_error]

theorem validatePrinterEndpoint_renamed :
    (validatePrinterEndpoint (pc.renamed id source)).toOption = (validatePrinterEndpoint pc).toOption := by
  simp only [validatePrinterEndpoint, apply_ite Except.toOption, toOption_bind, normalizedProtocol_renamed,
    validateURLEndpoint_renamed, validateSocketEndpoint_renamed]
  rfl

/-- A digest does not depend on the id and the source. -/
theorem ok?_renamed (bindings : BindingDigest) : bindings.ok? (pc.renamed id source) = bindings.ok? pc := by
  unfold BindingDigest.ok? BindingDigest.digest
  rw [toOption_bind, toOption_bind, validatePrinterEndpoint_renamed]
  congr 1
  funext
  have protocols := normalizedProtocol_renamed pc id source
  revert protocols
  cases (pc.renamed id source).normalizedProtocol <;> cases pc.normalizedProtocol <;> intro protocols <;>
    cases protocols <;> rfl

end Renaming

theorem digest_renamed {bindings : BindingDigest} {pc : PrinterConfig} (id : Text) (source : Option Text)
    (resolved : bindings.digest pc = .ok digest) : bindings.digest (pc.renamed id source) = .ok digest :=
  ok?_eq_some_iff.mp ((ok?_renamed pc id source bindings).trans (ok?_eq_some_iff.mpr resolved))

/-- A policy with an entry was read from a file. -/
theorem loadPrinterSharing_present {file : SharingFile} {id : Text} (loaded : loadPrinterSharing file = .ok policy)
    (denied : policy.deniedPrinters.find? id = some recorded) : policy.present = true := by
  cases file with
  | absent =>
    cases loaded
    cases denied
  | unreadable error => cases loaded
  | content data => exact (decodePrinterSharing_wellFormed (decoded_of_load loaded)).2

/-- Where a recorded digest was forgotten, a new printer with that binding is shared. -/
theorem exists_shared_of_forgotten {bindings : BindingDigest} {new : PrinterSharing} {x : PrinterConfig}
    (resolved : bindings.digest x = .ok recorded) (forgotten : recorded ∉ new.recorded) :
    ∃ y, bindings.digest y = .ok recorded ∧ new.shared bindings y [y] = .ok true := by
  -- an id longer than all denied ones
  let ids := new.deniedPrinters.entries.map Prod.fst
  let id : Text := 'x' :: ids.flatten
  have fresh : id ∉ ids := fun listed => by
    have shorter := (List.sublist_flatten_of_mem listed).length_le
    simp [id] at shorter
  have resolved := digest_renamed id (some "manual") resolved
  generalize same : x.renamed id (some "manual") = y at resolved
  have allowed : new.isDenied y.id = false := by
    rw [← same, PrinterSharing.isDenied, Option.isSome_eq_false_iff, Option.isNone_iff_eq_none]
    exact Keyed.find?_eq_none_of_not_mem fresh
  have free : ¬DeniedNow new bindings [y] y.id := by
    rintro (denied | ⟨current, listed, -, found, resolved', member⟩)
    · cases allowed.symm.trans denied
    · obtain rfl := List.mem_singleton.mp listed
      exact forgotten (Except.ok.inj (resolved.symm.trans resolved') ▸ member)
  refine ⟨y, resolved, shared_of_sharedUnder ⟨allowed, ?_, resolved, forgotten, ?_, fun native _ => ?_⟩⟩
  · exact fun current listed _ => ⟨recorded, List.mem_singleton.mp listed ▸ resolved⟩
  · exact fun current listed denied _ => free (List.mem_singleton.mp listed ▸ denied)
  · refine mem_knownSpoolerBindings.mpr ⟨y, List.mem_singleton_self _, native, ?_, resolved⟩
    rw [← same]
    rfl

/-- A denial takes nothing back exactly when the binding recorded for the printer stays recorded, or is that of no
printer. -/
theorem denial_never_shares_iff (bindings : BindingDigest) {file : SharingFile} {old loaded : PrinterSharing}
    {p : PrinterConfig} {known : List PrinterConfig} {written : WrittenPolicy}
    (loadedOld : loadPrinterSharing file = .ok old)
    (succeeded : setPrinterSharing bindings file p known false = .ok written)
    (reloaded : loadPrinterSharing (.content written.data) = .ok loaded) :
    (∀ x known', old.shared bindings x known' ≠ .ok true → loaded.shared bindings x known' ≠ .ok true) ↔
      ∀ recorded, old.deniedPrinters.find? p.id = some recorded →
        StaysRecorded bindings old p known recorded ∨ ∀ x, bindings.digest x ≠ .ok recorded := by
  obtain ⟨digest, old', wrote⟩ := exists_wrote succeeded
  obtain rfl := Except.ok.inj (loadedOld.symm.trans wrote.loaded)
  obtain rfl := Except.ok.inj (wrote.reloaded.symm.trans reloaded)
  have same := samePolicy_reread written.policy
  have mem_recorded_loaded {found : Text} :
      found ∈ (reread written.policy).recorded ↔ StaysRecorded bindings old p known found :=
    same.mem_recorded.trans (mem_recorded_deny wrote.changed wrote.resolved)
  constructor
  · intro withheld recorded found
    by_contra lost
    push Not at lost
    obtain ⟨forgotten, x, resolved⟩ := lost
    rw [← mem_recorded_loaded] at forgotten
    obtain ⟨y, resolved, shared⟩ := exists_shared_of_forgotten resolved forgotten
    refine withheld y [y] (fun sharedOld => ?_) shared
    rcases shared_eq_true_iff.mp sharedOld with absent | ⟨digest', sharedOld⟩
    · cases absent.symm.trans (loadPrinterSharing_present wrote.loaded found)
    · refine sharedOld.unrecorded (mem_recorded.mpr (.inl ⟨p.id, ?_⟩))
      rw [found, Except.ok.inj (resolved.symm.trans sharedOld.resolved)]
  · intro kept x known' withheld shared
    refine withheld (Withholds.shared ⟨fun _ => rfl, fun id denied => ?_, fun recorded member pc resolved => ?_⟩ shared)
    · obtain ⟨aliases, -, changed⟩ := exists_of_deny wrote.changed
      rw [same.isDenied, ← changed, isDenied_record]
      exact .inr denied
    · rw [mem_recorded_loaded]
      rcases mem_recorded.mp member with ⟨id, found⟩ | aliased
      · by_cases own : id = p.id
        · subst own
          exact (kept recorded found).resolve_right fun nowhere => nowhere pc resolved
        · exact .inr (.inl ⟨id, own, found⟩)
      · exact .inr (.inr (.inl aliased))

/-- The printer `p` at another address. -/
def sampleMoved : PrinterConfig := samplePrinter "p" sampleOtherAddress

/-- Two printers that were denied at the first address. -/
def sampleTwins : PrinterSharing :=
  policyOf ⟨[("p", sampleDigest), ("x", sampleDigest)], by decide⟩

/-- What denying the moved `p` leaves of them. -/
def sampleApart : PrinterSharing :=
  policyOf ⟨[("p", sampleOtherDigest), ("x", sampleDigest)], by decide⟩

theorem denial_never_shares_iff_twins :
    setPrinterSharing sampleBindings (fileOf sampleTwins) sampleMoved [sampleMoved] false =
        .ok (writtenPolicy sampleApart) ∧
      ∀ x known', sampleTwins.shared sampleBindings x known' ≠ .ok true →
        sampleApart.shared sampleBindings x known' ≠ .ok true := by
  refine (and_iff_left_of_imp fun written => ?_).mpr (by decide +kernel)
  refine (denial_never_shares_iff sampleBindings (by decide +kernel) written (by decide +kernel)).mpr ?_
  intro recorded found
  obtain rfl : sampleDigest = recorded := Option.some.inj found
  exact .inl (.inr (.inl ⟨"x", by decide, by decide +kernel⟩))

/-- What denying the moved printer writes. -/
def sampleMovedPolicy : PrinterSharing := policyOf ⟨[("p", sampleOtherDigest)], by decide⟩

/-- Denying a printer again at another address shares the one that is at its old address. -/
theorem denial_can_share : loadPrinterSharing (fileOf samplePolicy) = .ok samplePolicy ∧
      setPrinterSharing sampleBindings (fileOf samplePolicy) sampleMoved
          [sampleMoved, samplePrinter "x" sampleAddress] false =
        .ok (writtenPolicy sampleMovedPolicy) ∧
      loadPrinterSharing (fileOf sampleMovedPolicy) = .ok sampleMovedPolicy ∧
      samplePolicy.shared sampleBindings (samplePrinter "x" sampleAddress)
          [sampleMoved, samplePrinter "x" sampleAddress] = .ok false ∧
      sampleMovedPolicy.shared sampleBindings (samplePrinter "x" sampleAddress)
          [sampleMoved, samplePrinter "x" sampleAddress] = .ok true := by
  refine ⟨?_, ?_, ?_, ?_, ?_⟩ <;> decide +kernel

/-! ### Sharing again -/

section Sharing

variable {bindings : BindingDigest} {known : List PrinterConfig}

/-- One known row: its entry goes when its binding is the shared one. -/
theorem removeCurrent_cases {next : PrinterSharing} {current : PrinterConfig}
    (step : policy.removeCurrent bindings digest current = .ok next) :
    (next = policy ∧ (policy.isDenied current.id = true → bindings.digest current ≠ .ok digest)) ∨
      next = policy.remove current.id ∧ bindings.digest current = .ok digest := by
  unfold PrinterSharing.removeCurrent at step
  split at step
  · split at step
    · rename_i resolved
      split at step
      · rename_i same
        cases step
        exact .inr ⟨rfl, same ▸ resolved⟩
      · rename_i different
        cases step
        refine .inl ⟨rfl, fun _ same => different ?_⟩
        exact Except.ok.inj (same.symm.trans resolved)
    · cases step
  · rename_i free
    cases step
    exact .inl ⟨rfl, fun denied => absurd denied free⟩

/-- The entries of a table that stay when the ids of some known rows are removed. -/
def KeptOf {Row : Type} (bindings : BindingDigest) (digest : Text) (known : List PrinterConfig)
    (before after : Keyed Text Row) : Prop :=
  ∀ id row, after.find? id = some row ↔ before.find? id = some row ∧
    ∀ current ∈ known, current.id = id → bindings.digest current ≠ .ok digest

theorem keptOf_removeCurrent (wellFormed : policy.WellFormed) {changed : PrinterSharing}
    (removed : known.foldlM (PrinterSharing.removeCurrent bindings digest) policy = .ok changed) :
    KeptOf bindings digest known policy.deniedPrinters changed.deniedPrinters ∧
      KeptOf bindings digest known policy.deniedPrinterAliases changed.deniedPrinterAliases := by
  induction known generalizing policy with
  | nil =>
    cases removed
    exact ⟨fun _ _ => by simp, fun _ _ => by simp⟩
  | cons current known ih =>
    rw [List.foldlM_cons] at removed
    obtain ⟨next, step, removed⟩ := exists_of_bind_eq_ok removed
    obtain ⟨denied, aliases⟩ := ih (wellFormed.removeCurrent step) removed
    simp only [KeptOf, denied _ _, aliases _ _, List.forall_mem_cons, ← and_assoc]
    rcases removeCurrent_cases step with ⟨rfl, different⟩ | ⟨rfl, same⟩
    · -- an entry that is there is that of a denied id
      refine ⟨fun id recorded => and_congr_left' (iff_self_and.mpr fun found own => ?_),
        fun id listed => and_congr_left' (iff_self_and.mpr fun found own => ?_)⟩
      · subst own
        exact different (Option.isSome_iff_exists.mpr ⟨recorded, found⟩)
      · subst own
        exact different (wellFormed.anchored _ (Keyed.mem_of_find?_eq_some found))
    · have other {id : Text} :
          (id != current.id) = true ↔ (current.id = id → bindings.digest current ≠ .ok digest) := by
        rw [bne_iff_ne]
        exact ⟨fun other own => absurd own.symm other, fun other own => other own.symm same⟩
      simp only [PrinterSharing.remove, Keyed.find?_filter_eq_some_iff, other, implies_true, and_self]

variable (old : PrinterSharing) (bindings) (q : PrinterConfig) (known)

/-- The denial of an id that sharing `q` does not take back: it is not that of `q`, it did not record the binding of
`q`, and no known row of the id has that binding. -/
def Remains (id : Text) : Prop :=
  ∃ recorded, old.deniedPrinters.find? id = some recorded ∧ id ≠ q.id ∧ bindings.digest q ≠ .ok recorded ∧
    ∀ row ∈ known, row.id = id → bindings.digest row ≠ bindings.digest q

/-- A denial that is not taken back recorded the digest. -/
def RemainsRecorded (digest : Text) : Prop :=
  ∃ id, Remains bindings known old q id ∧ (old.deniedPrinters.find? id = some digest ∨
    ∃ aliases, old.deniedPrinterAliases.find? id = some aliases ∧ digest ∈ aliases)

/-- What is denied by the denials that remain. -/
def RemainsDenied (id : Text) : Prop :=
  Remains bindings known old q id ∨ ∃ row ∈ known, row.id = id ∧
    ∃ digest, bindings.digest row = .ok digest ∧ RemainsRecorded bindings known old q digest

/-- The binding of a printer is covered by the denials that remain, or is that of a queue that must not be used while
there are denials. -/
def StillCovered (p : PrinterConfig) (digest : Text) : Prop :=
  RemainsRecorded bindings known old q digest ∨
    (∃ row ∈ known, RemainsDenied bindings known old q row.id ∧ bindings.digest row = .ok digest) ∨
    p.normalizedType = "spooler" ∧ (∃ id, Remains bindings known old q id) ∧
      ¬∃ row ∈ known, row.normalizedType = "spooler" ∧ independentlyKnownSpoolerBinding row = true ∧
        bindings.digest row = .ok digest

variable {old bindings q known}

/-- The policy that sharing a printer leaves. -/
structure TakenBack (bindings : BindingDigest) (known : List PrinterConfig) (old : PrinterSharing) (q : PrinterConfig)
    (new : PrinterSharing) : Prop where
  present : new.present = true
  denied : ∀ id, new.isDenied id = true ↔ Remains bindings known old q id
  recorded : ∀ digest, digest ∈ new.recorded ↔ RemainsRecorded bindings known old q digest

section

variable {file : SharingFile} {written : WrittenPolicy} (wrote : Wrote bindings file q known true written digest old)

include wrote

/-- A sharing is written only if it takes effect. -/
theorem Wrote.shared : ∃ taken, old.share bindings q digest known = .ok taken ∧
    { taken with present := true } = written.policy ∧ written.policy.shared bindings q known = .ok true := by
  obtain ⟨taken, removed, changed⟩ := exists_of_bind_eq_ok wrote.changed
  obtain ⟨allowed, checked, changed⟩ := exists_of_bind_eq_ok changed
  split at changed
  · rename_i permitted
    have same := Except.ok.inj changed
    rw [permitted, same] at checked
    exact ⟨taken, removed, same, checked⟩
  · cases changed

theorem Wrote.takenBack : TakenBack bindings known old q written.policy := by
  have wellFormed := loadPrinterSharing_wellFormed wrote.loaded
  obtain ⟨taken, removed, same, -⟩ := wrote.shared
  obtain ⟨denied, aliases⟩ := keptOf_removeCurrent ((wellFormed.remove q.id).removeRecorded digest) removed
  have remains {id recorded : Text} (entry : old.deniedPrinters.find? id = some recorded) :
      Remains bindings known old q id ↔ id ≠ q.id ∧ recorded ≠ digest ∧
        ∀ row ∈ known, row.id = id → bindings.digest row ≠ .ok digest := by
    simp only [Remains, entry, wrote.resolved, Option.some.injEq, exists_eq_left', ne_eq, Except.ok.injEq,
      @eq_comm _ digest]
  have entries {id recorded : Text} : written.policy.deniedPrinters.find? id = some recorded ↔
      old.deniedPrinters.find? id = some recorded ∧ Remains bindings known old q id := by
    rw [← same]
    refine (denied id recorded).trans ?_
    simp only [PrinterSharing.removeRecorded, PrinterSharing.remove, Keyed.find?_filter_eq_some_iff, bne_iff_ne,
      and_assoc]
    exact and_congr_right fun entry => (remains entry).symm
  refine ⟨by rw [← same], fun id => ?_, fun recorded => ?_⟩
  · rw [PrinterSharing.isDenied, Option.isSome_iff_exists]
    constructor
    · rintro ⟨recorded, found⟩
      exact (entries.mp found).2
    · rintro ⟨recorded, remains⟩
      exact ⟨recorded, entries.mpr ⟨remains.1, recorded, remains⟩⟩
  · have listed {id : Text} {aliases' : List Text} : written.policy.deniedPrinterAliases.find? id = some aliases' ↔
        old.deniedPrinterAliases.find? id = some aliases' ∧ Remains bindings known old q id := by
      rw [← same]
      refine (aliases id aliases').trans ?_
      simp only [PrinterSharing.removeRecorded, PrinterSharing.remove, Keyed.find?_filter_eq_some_iff, bne_iff_ne,
        and_assoc]
      refine and_congr_right fun found => ?_
      obtain ⟨recorded, entry⟩ :=
        Option.isSome_iff_exists.mp (wellFormed.anchored _ (Keyed.mem_of_find?_eq_some found))
      rw [remains entry]
      refine and_congr_right fun other => and_congr_left' (not_congr ?_)
      simp [Keyed.find?_filter_eq_some_iff, entry, other]
    rw [mem_recorded, RemainsRecorded]
    constructor
    · rintro (⟨id, found⟩ | ⟨id, aliases', found, member⟩)
      · exact ⟨id, (entries.mp found).2, .inl (entries.mp found).1⟩
      · exact ⟨id, (listed.mp found).2, .inr ⟨aliases', (listed.mp found).1, member⟩⟩
    · rintro ⟨id, remains, found | ⟨aliases', found, member⟩⟩
      · exact .inl ⟨id, entries.mpr ⟨found, remains⟩⟩
      · exact .inr ⟨id, aliases', listed.mpr ⟨found, remains⟩, member⟩

end

theorem TakenBack.deniedNow {new : PrinterSharing} (taken : TakenBack bindings known old q new) (id : Text) :
    DeniedNow new bindings known id ↔ RemainsDenied bindings known old q id := by
  simp only [DeniedNow, RemainsDenied, taken.denied, taken.recorded]

end Sharing

/-- Sharing a printer leaves another one, which was denied by its own entry and has not the binding that is shared,
withheld exactly when that entry did not record this binding, or the denials that remain cover it. -/
theorem sharing_keeps_other_denials_iff (bindings : BindingDigest) {file : SharingFile}
    {old loaded : PrinterSharing} {q : PrinterConfig} {known : List PrinterConfig}
    {written : WrittenPolicy} (loadedOld : loadPrinterSharing file = .ok old)
    (succeeded : setPrinterSharing bindings file q known true = .ok written)
    (reloaded : loadPrinterSharing (.content written.data) = .ok loaded) (p : PrinterConfig)
    {recorded : Text} (other : p.id ≠ q.id) (entry : old.deniedPrinters.find? p.id = some recorded)
    (elsewhere : ∀ row ∈ known, row.id = p.id → bindings.digest row ≠ bindings.digest q) :
    loaded.shared bindings p known ≠ .ok true ↔ bindings.digest q ≠ .ok recorded ∨
      ∀ digest, bindings.digest p = .ok digest → StillCovered bindings known old q p digest := by
  obtain ⟨digest, old', wrote⟩ := exists_wrote succeeded
  obtain rfl := Except.ok.inj (loadedOld.symm.trans wrote.loaded)
  obtain rfl := Except.ok.inj (wrote.reloaded.symm.trans reloaded)
  have same := samePolicy_reread written.policy
  have written' := wrote.takenBack
  have taken : TakenBack bindings known old q (reread written.policy) :=
    ⟨rfl, fun id => by rw [same.isDenied, written'.denied], fun found => same.mem_recorded.trans (written'.recorded found)⟩
  have entered : (reread written.policy).deniedPrinters.entries ≠ [] ↔ ∃ id, Remains bindings known old q id := by
    simp only [← taken.denied, PrinterSharing.isDenied, Option.isSome_iff_exists, Keyed.find?_eq_some_iff]
    constructor
    · intro some
      obtain ⟨⟨id, digest⟩, member⟩ := List.exists_mem_of_ne_nil _ some
      exact ⟨id, digest, member⟩
    · rintro ⟨id, digest, member⟩
      exact List.ne_nil_of_mem member
  -- the call itself resolved the denials that remain
  have resolvable : ∀ current ∈ known, DeniedNow (reread written.policy) bindings known current.id →
      ∃ digest, bindings.digest current = .ok digest := by
    intro current listed denied
    rcases shared_eq_true_iff.mp wrote.shared.choose_spec.2.2 with absent | ⟨_, shared⟩
    · cases absent.symm.trans written'.present
    · exact shared.resolvable current listed ((written'.deniedNow _).mpr ((taken.deniedNow _).mp denied))
  have shared_iff : (reread written.policy).shared bindings p known = .ok true ↔
      ∃ digest, SharedUnder (reread written.policy) bindings known p digest :=
    shared_eq_true_iff.trans (or_iff_right (by simp [taken.present]))
  rw [Ne, shared_iff]
  by_cases own : bindings.digest q = .ok recorded
  · rw [or_iff_right (not_not.mpr own)]
    constructor
    · intro withheld digest resolved
      by_contra free
      rw [StillCovered, not_or, not_or] at free
      refine withheld ⟨digest, ?_, resolvable, resolved, ?_, ?_, ?_⟩
      · rw [Bool.eq_false_iff, Ne, taken.denied]
        rintro ⟨recorded', entry', -, different, -⟩
        exact different (own.trans (congrArg _ (Option.some.inj (entry.symm.trans entry'))))
      · rw [taken.recorded]
        exact free.1
      · intro row listed denied resolved
        exact free.2.1 ⟨row, listed, (taken.deniedNow _).mp denied, resolved⟩
      · intro native some
        by_contra unknown
        exact free.2.2 ⟨native, entered.mp some, fun listed => unknown (mem_knownSpoolerBindings.mpr listed)⟩
    · rintro covered ⟨digest, shared⟩
      rcases covered digest shared.resolved with recorded | ⟨row, listed, denied, resolved⟩ | ⟨native, some, unknown⟩
      · exact shared.unrecorded ((taken.recorded digest).mpr recorded)
      · exact shared.free row listed ((taken.deniedNow _).mpr denied) resolved
      · exact unknown (mem_knownSpoolerBindings.mp (shared.spooler native (entered.mpr some)))
  · refine iff_of_true ?_ (.inl own)
    rintro ⟨digest, shared⟩
    have denied := (taken.denied p.id).mpr ⟨recorded, entry, other, own, elsewhere⟩
    cases shared.notDenied.symm.trans denied

/-- Denials of `p` at the first address and of `x` at the other one. -/
def sampleCrossed : PrinterSharing :=
  policyOf ⟨[("p", sampleDigest), ("x", sampleOtherDigest)], by decide⟩

/-- The denial of `x`. -/
def sampleOther : PrinterSharing := policyOf ⟨[("x", sampleOtherDigest)], by decide⟩

/-- The printer `q` at the first address, and `p` at the other one. -/
def sampleKnown : List PrinterConfig := [sampleMoved, samplePrinter "q" sampleAddress]

theorem sharing_keeps_other_denials_iff_crossed :
    setPrinterSharing sampleBindings (fileOf sampleCrossed) (samplePrinter "q" sampleAddress) sampleKnown
        true = .ok (writtenPolicy sampleOther) ∧
      sampleOther.shared sampleBindings sampleMoved sampleKnown ≠ .ok true := by
  have loaded : loadPrinterSharing (fileOf sampleCrossed) = .ok sampleCrossed := by decide +kernel
  refine (and_iff_left_of_imp fun written => ?_).mpr (by decide +kernel)
  refine (sharing_keeps_other_denials_iff sampleBindings loaded written (by decide +kernel) sampleMoved (by decide) rfl
    (by decide +kernel)).mpr (.inr fun digest resolved => ?_)
  -- `x` was denied at the address where `p` is now
  obtain rfl : sampleOtherDigest = digest :=
    Except.ok.inj (Eq.trans (by decide +kernel : .ok sampleOtherDigest = sampleBindings.digest sampleMoved) resolved)
  refine .inl ⟨"x", ⟨sampleOtherDigest, ?_, ?_, ?_, ?_⟩, .inl ?_⟩ <;> decide +kernel

/-- Sharing a printer at the address where another one was denied shares the other one, which has moved
since. -/
theorem sharing_can_share_another : loadPrinterSharing (fileOf samplePolicy) = .ok samplePolicy ∧
      setPrinterSharing sampleBindings (fileOf samplePolicy) (samplePrinter "q" sampleAddress) sampleKnown
          true = .ok (writtenPolicy (policyOf .empty)) ∧
      loadPrinterSharing (fileOf (policyOf .empty)) = .ok (policyOf .empty) ∧
      samplePolicy.deniedPrinters.find? sampleMoved.id = some sampleDigest ∧
      sampleBindings.digest sampleMoved ≠ sampleBindings.digest (samplePrinter "q" sampleAddress) ∧
      samplePolicy.shared sampleBindings sampleMoved sampleKnown = .ok false ∧
      (policyOf .empty).shared sampleBindings sampleMoved sampleKnown = .ok true := by
  refine ⟨?_, ?_, ?_, ?_, ?_, ?_, ?_⟩ <;> decide +kernel

end PrintGateway.Agent
