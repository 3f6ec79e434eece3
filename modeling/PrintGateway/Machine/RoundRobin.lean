import Mathlib.Data.Finset.Card

/-!
# Round-robin selection under a budget

Items are taken from several groups in turn, one of each group in every round, and an item that has been
taken already is passed over.  The selection stops at the first new item beyond the budget.

What is selected are distinct items of the groups, as many as the budget allows, and a selection that did
not stop has all of them.  A group that has no item in common with the others has given its first items,
and as many of them as there were rounds.
-/

namespace Machine.RoundRobin

variable {Item : Type*} [DecidableEq Item] {groups : List (List Item)} {offset : ℕ} {item : Item}
  {group : List Item}

/-- Take the new ones of some items, and say whether the budget ended it. -/
def offer (budget : ℕ) : List Item → List Item → List Item × Bool
  | taken, [] => (taken, false)
  | taken, item :: items =>
    if item ∈ taken then offer budget taken items
    else if budget ≤ taken.length then (taken, true)
    else offer budget (taken ++ [item]) items

/-- The items that the groups have at one place. -/
def round (groups : List (List Item)) (offset : ℕ) : List Item := groups.filterMap fun group => group[offset]?

/-- Rounds from one place on, as long as a group reaches it. -/
def select (budget : ℕ) (groups : List (List Item)) (offset : ℕ) (taken : List Item) : List Item × Bool :=
  if reached : groups.any fun group => offset < group.length then
    let result := offer budget taken (round groups offset)
    if result.2 then result else select budget groups (offset + 1) result.1
  else (taken, false)
termination_by groups.flatten.length - offset
decreasing_by
  obtain ⟨group, member, longer⟩ := List.any_eq_true.mp reached
  have inside := (List.sublist_flatten_of_mem member).length_le
  have longer := of_decide_eq_true longer
  omega

/-- What a selection made of the items that were left. -/
structure Selected (budget : ℕ) (left : Item → Prop) (taken : List Item) (result : List Item × Bool) : Prop where
  nodup : result.1.Nodup
  mem : ∀ item ∈ result.1, item ∈ taken ∨ left item
  length_le : result.1.length ≤ budget
  complete : result.2 = false → ∀ item, item ∈ taken ∨ left item → item ∈ result.1
  stopped : result.2 = true → result.1.length = budget ∧ ∃ item, left item ∧ item ∉ result.1

omit [DecidableEq Item] in
/-- The same items may have been taken before or be left. -/
theorem Selected.of_iff {budget : ℕ} {left left' : Item → Prop} {taken taken' : List Item} {result : List Item × Bool}
    (selected : Selected budget left' taken' result) (sub : ∀ item, left' item → left item)
    (same : ∀ item, item ∈ taken' ∨ left' item ↔ item ∈ taken ∨ left item) : Selected budget left taken result where
  nodup := selected.nodup
  mem item chosen := (same item).mp (selected.mem item chosen)
  length_le := selected.length_le
  complete all item given := selected.complete all item ((same item).mpr given)
  stopped full := by
    obtain ⟨exactly, item, later, missing⟩ := selected.stopped full
    exact ⟨exactly, item, sub item later, missing⟩

theorem offer_selected (budget : ℕ) {taken : List Item} (items : List Item) (nodup : taken.Nodup)
    (bounded : taken.length ≤ budget) : Selected budget (· ∈ items) taken (offer budget taken items) := by
  fun_induction offer budget taken items with
  | case1 taken => exact ⟨nodup, by simp, bounded, by simp, by simp⟩
  | case2 taken item items known ih =>
    exact (ih nodup bounded).of_iff (fun _ => List.mem_cons_of_mem _) (by grind)
  | case3 taken item items new full =>
    exact ⟨nodup, fun other chosen => .inl chosen, bounded, by simp,
      fun _ => ⟨le_antisymm bounded full, item, List.mem_cons_self, new⟩⟩
  | case4 taken item items new room ih =>
    have nodup' : (taken ++ [item]).Nodup := by simp [List.nodup_append, nodup]; grind
    exact (ih nodup' (by simp; omega)).of_iff (fun _ => List.mem_cons_of_mem _) (by grind)

omit [DecidableEq Item] in
theorem mem_round : item ∈ round groups offset ↔ ∃ group ∈ groups, group[offset]? = some item := List.mem_filterMap

/-- The items that the rounds from one place on offer. -/
def Left (groups : List (List Item)) (offset : ℕ) (item : Item) : Prop := ∃ group ∈ groups, item ∈ group.drop offset

omit [DecidableEq Item] in
theorem left_iff : Left groups offset item ↔ item ∈ round groups offset ∨ Left groups (offset + 1) item := by
  simp only [Left, mem_round, ← exists_or, ← and_or_left]
  refine exists_congr fun group => and_congr_right fun _ => ?_
  rw [← List.drop_drop, List.drop_one]
  have head : group[offset]? = (group.drop offset).head? := by simp [List.head?_drop]
  rw [head]
  cases group.drop offset with
  | nil => simp
  | cons first rest => simp [eq_comm]

theorem select_selected (budget : ℕ) (groups : List (List Item)) (offset : ℕ) {taken : List Item}
    (nodup : taken.Nodup) (bounded : taken.length ≤ budget) :
    Selected budget (Left groups offset) taken (select budget groups offset taken) := by
  fun_induction select budget groups offset taken with
  | case1 offset taken reached result full =>
    have offered := offer_selected budget (round groups offset) nodup bounded
    refine ⟨offered.nodup, fun item chosen => ?_, offered.length_le, fun all => ?_, fun _ => ?_⟩
    · exact (offered.mem item chosen).imp_right fun here => left_iff.mpr (.inl here)
    · exact absurd full (by simp [all])
    · obtain ⟨exactly, item, here, missing⟩ := offered.stopped full
      exact ⟨exactly, item, left_iff.mpr (.inl here), missing⟩
  | case2 offset taken reached result going ih =>
    have offered := offer_selected budget (round groups offset) nodup bounded
    have all := offered.complete (Bool.eq_false_iff.mpr going)
    refine (ih offered.nodup offered.length_le).of_iff (fun item later => left_iff.mpr (.inr later)) fun item => ?_
    have offeredOrLater := or_congr_left (c := Left groups (offset + 1) item) ⟨offered.mem item, all item⟩
    exact offeredOrLater.trans (or_assoc.trans (or_congr_right left_iff.symm))
  | case3 offset taken reached =>
    have none : ∀ item, ¬Left groups offset item := by
      rintro item ⟨group, member, inside⟩
      refine reached (List.any_eq_true.mpr ⟨group, member, decide_eq_true ?_⟩)
      have := List.length_pos_of_mem inside
      simp only [List.length_drop] at this
      omega
    exact ⟨nodup, fun item chosen => .inl chosen, bounded, fun _ item given => given.resolve_right (none item),
      by simp⟩

/-- How many items there are decides how many are selected, and whether some are missing. -/
theorem select_count (budget : ℕ) (groups : List (List Item)) :
    (select budget groups 0 []).1.length = min budget groups.flatten.toFinset.card ∧
      ((select budget groups 0 []).2 = true ↔ budget < groups.flatten.toFinset.card) := by
  have selected := select_selected budget groups 0 List.nodup_nil (Nat.zero_le _)
  obtain ⟨nodup, mem, length_le, complete, stopped⟩ := selected
  have left_zero (item : Item) : Left groups 0 item ↔ item ∈ groups.flatten.toFinset := by simp [Left]
  have distinct := List.toFinset_card_of_nodup nodup
  have inside : (select budget groups 0 []).1.toFinset ⊆ groups.flatten.toFinset := by
    intro item chosen
    exact (left_zero item).mp ((mem item (List.mem_toFinset.mp chosen)).resolve_left (by simp))
  cases ended : (select budget groups 0 []).2 with
  | false =>
    have same : (select budget groups 0 []).1.toFinset = groups.flatten.toFinset := by
      refine Finset.Subset.antisymm inside fun item given => List.mem_toFinset.mpr ?_
      exact complete ended item (.inr ((left_zero item).mpr given))
    rw [← same, distinct]
    exact ⟨(min_eq_right length_le).symm, by simpa using length_le⟩
  | true =>
    obtain ⟨exactly, item, left, missing⟩ := stopped ended
    have more : (select budget groups 0 []).1.toFinset ⊂ groups.flatten.toFinset :=
      Finset.ssubset_iff_of_subset inside |>.mpr
        ⟨item, (left_zero item).mp left, fun chosen => missing (List.mem_toFinset.mp chosen)⟩
    have := Finset.card_lt_card more
    rw [distinct, exactly] at this
    exact ⟨by omega, by simpa using this⟩

/-! ### Fairness -/

/-- Of some new items, distinct and not taken yet, an initial part is taken, and all without a stop. -/
theorem offer_filter (budget : ℕ) (mine : Item → Bool) (taken items : List Item)
    (nodup : (items.filter mine).Nodup) (fresh : ∀ item ∈ items.filter mine, item ∉ taken) :
    ∃ got, got <+: items.filter mine ∧ (offer budget taken items).1.filter mine = taken.filter mine ++ got ∧
      ((offer budget taken items).2 = false → got = items.filter mine) := by
  fun_induction offer budget taken items with
  | case1 taken => exact ⟨[], by simp, by simp, by simp⟩
  | case2 taken item items known ih =>
    -- An item of the part is not taken yet, so the one passed over is not of it.
    have other : mine item = false := by
      by_contra isMine
      exact fresh item (by simp [isMine]) known
    simp only [List.filter_cons, other, Bool.false_eq_true, if_false] at nodup fresh ⊢
    exact ih nodup fresh
  | case3 taken item items new full => exact ⟨[], List.nil_prefix, by simp, by simp⟩
  | case4 taken item items new room ih =>
    cases isMine : mine item with
    | false =>
      simp only [List.filter_cons, isMine, Bool.false_eq_true, if_false] at nodup fresh ⊢
      obtain ⟨got, initial, result, all⟩ := ih nodup (by
        intro other member
        have := fresh other member
        have := (List.mem_filter.mp member).2
        grind)
      exact ⟨got, initial, by simpa [isMine] using result, all⟩
    | true =>
      simp only [List.filter_cons, isMine, if_true, List.nodup_cons] at nodup fresh ⊢
      obtain ⟨got, initial, result, all⟩ := ih nodup.2 (by
        intro other member
        have := fresh other (List.mem_cons_of_mem _ member)
        grind)
      refine ⟨item :: got, List.prefix_cons_inj item |>.mpr initial, ?_, fun ended => by rw [all ended]⟩
      rw [result, List.filter_append, List.append_assoc]
      simp [isMine]

/-- How many of the selected items are in a group. -/
def takenFrom (selected group : List Item) : ℕ := (selected.filter (· ∈ group)).length

/-- A group that has no item in common with the others. -/
def Alone (groups : List (List Item)) (group : List Item) : Prop :=
  ∃ before after, groups = before ++ group :: after ∧ ∀ other ∈ before ++ after, group.Disjoint other

theorem Alone.filter_round (alone : Alone groups group) (offset : ℕ) :
    (round groups offset).filter (· ∈ group) = group[offset]?.toList := by
  obtain ⟨before, after, rfl, disjoint⟩ := alone
  have others (part : List (List Item)) (within : ∀ other ∈ part, other ∈ before ++ after) :
      (part.filterMap fun other => other[offset]?).filter (· ∈ group) = [] := by
    rw [List.filter_eq_nil_iff]
    intro item member isMine
    obtain ⟨other, inPart, at_⟩ := List.mem_filterMap.mp member
    exact disjoint other (within other inPart) (of_decide_eq_true isMine) (List.mem_of_getElem? at_)
  rw [round, List.filterMap_append, List.filter_append, List.filterMap_cons,
    others before fun other member => List.mem_append_left _ member]
  cases here : group[offset]? with
  | none => simpa using others after fun other member => List.mem_append_right _ member
  | some item =>
    simp only [List.nil_append, List.filter_cons, List.mem_of_getElem? here, decide_true, if_true,
      others after fun other member => List.mem_append_right _ member, Option.toList_some]

/-- One round takes the next item of a group that is alone, or the selection stops before it. -/
theorem Alone.offer_round (alone : Alone groups group) (distinct : group.Nodup) (budget : ℕ) {offset : ℕ}
    {taken : List Item} (held : taken.filter (· ∈ group) = group.take offset) :
    let result := offer budget taken (round groups offset)
    (result.1.filter (· ∈ group) = group.take offset ∨ result.1.filter (· ∈ group) = group.take (offset + 1)) ∧
      (result.2 = false → result.1.filter (· ∈ group) = group.take (offset + 1)) := by
  intro result
  have next := alone.filter_round offset
  have extended : group.take (offset + 1) = group.take offset ++ group[offset]?.toList := List.take_add_one
  obtain ⟨got, initial, filtered, all⟩ := offer_filter budget (fun item => decide (item ∈ group)) taken
    (round groups offset) (by rw [next]; cases group[offset]? <;> simp) (by
      intro item member known
      rw [next] at member
      have at_ : group[offset]? = some item := by simpa using member
      have before : item ∈ group.take offset := by
        rw [← held]
        exact List.mem_filter.mpr ⟨known, decide_eq_true (List.mem_of_getElem? at_)⟩
      -- The group would have the item twice.
      have behind : item ∈ group.drop offset := List.mem_of_mem_head? (List.head?_drop.trans at_)
      exact List.disjoint_take_drop distinct le_rfl before behind)
  rw [next] at initial all
  rw [held] at filtered
  refine ⟨?_, fun ended => ?_⟩
  · cases here : group[offset]? with
    | none =>
      rw [here, Option.toList_none, List.prefix_nil] at initial
      left
      rw [filtered, initial, List.append_nil]
    | some item =>
      obtain ⟨rest, whole⟩ := here ▸ initial
      rcases List.append_eq_singleton_iff.mp whole with ⟨none, -⟩ | ⟨one, -⟩
      · left
        rw [filtered, none, List.append_nil]
      · right
        rw [filtered, one, extended, here, Option.toList_some]
  · rw [filtered, all ended, extended]

omit [DecidableEq Item] in
theorem Alone.mem (alone : Alone groups group) : group ∈ groups := by
  obtain ⟨before, after, rfl, -⟩ := alone
  simp

theorem select_rounds (budget : ℕ) {groups : List (List Item)} (distinct : ∀ group ∈ groups, group.Nodup)
    (offset : ℕ) (taken : List Item)
    (held : ∀ group, Alone groups group → taken.filter (· ∈ group) = group.take offset) :
    ∃ rounds, ∀ group, Alone groups group →
      (select budget groups offset taken).1.filter (· ∈ group) = group.take rounds ∨
        (select budget groups offset taken).1.filter (· ∈ group) = group.take (rounds + 1) := by
  fun_induction select budget groups offset taken with
  | case1 offset taken reached result full =>
    exact ⟨offset, fun group alone => (alone.offer_round (distinct group alone.mem) budget (held group alone)).1⟩
  | case2 offset taken reached result going ih =>
    exact ih fun group alone =>
      (alone.offer_round (distinct group alone.mem) budget (held group alone)).2 (Bool.eq_false_iff.mpr going)
  | case3 offset taken reached => exact ⟨offset, fun group alone => .inl (held group alone)⟩

/-- Of two groups that are alone, one is ahead of the other by at most one item, unless the other has
nothing left. -/
theorem select_fair (budget : ℕ) {groups : List (List Item)} (distinct : ∀ group ∈ groups, group.Nodup)
    {group other : List Item} (alone : Alone groups group) (otherAlone : Alone groups other)
    (more : takenFrom (select budget groups 0 []).1 other < other.length) :
    takenFrom (select budget groups 0 []).1 group ≤ takenFrom (select budget groups 0 []).1 other + 1 := by
  obtain ⟨rounds, taken⟩ := select_rounds budget distinct 0 [] (by simp)
  unfold takenFrom at more ⊢
  rcases taken group alone with here | here <;> rcases taken other otherAlone with there | there <;>
    simp only [here, there, List.length_take] at more ⊢ <;> omega

end Machine.RoundRobin
