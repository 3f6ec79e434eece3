import PrintGateway.Json.Canonical

/-!
# Objects as dictionaries

Reading, replacing and removing the entry of a key, each characterised by what a lookup returns
afterwards.
-/

namespace Json

variable {fields : List Field} {key other : List Char} {value : Value}

/-- Replace the value under a key that is there. -/
def assign (key : List Char) (value : Value) (fields : List Field) : List Field :=
  fields.map fun field => if field.1 = key then (key, value) else field

def discard (key : List Char) (fields : List Field) : List Field :=
  fields.filter fun field => field.1 ≠ key

theorem lookup_cons_of_ne {field : Field} (different : field.1 ≠ key) :
    (field :: fields).lookup key = fields.lookup key := by
  rw [List.lookup_cons, beq_eq_false_iff_ne.mpr (Ne.symm different)]

theorem lookup_cons_of_eq {field : Field} (same : field.1 = key) : (field :: fields).lookup key = some field.2 := by
  subst same
  exact List.lookup_cons_self

theorem mem_of_lookup (found : fields.lookup key = some value) : (key, value) ∈ fields := by
  obtain ⟨before, after, rfl, -⟩ := List.lookup_eq_some_iff.mp found
  simp

theorem exists_lookup_of_mem (member : key ∈ fields.map Prod.fst) : ∃ value, fields.lookup key = some value := by
  obtain ⟨field, listed, rfl⟩ := List.mem_map.mp member
  exact Option.isSome_iff_exists.mp (List.lookup_isSome_iff.mpr ⟨field, listed, beq_self_eq_true _⟩)

theorem mem_of_get? (found : get? fields key = some value) : (key, value) ∈ fields :=
  List.mem_reverse.mp (mem_of_lookup found)

theorem exists_get?_of_mem (member : key ∈ fields.map Prod.fst) : ∃ value, get? fields key = some value := by
  unfold get?
  apply exists_lookup_of_mem
  rwa [List.map_reverse, List.mem_reverse]

theorem lookup_assign_of_ne (different : other ≠ key) :
    (assign key value fields).lookup other = fields.lookup other := by
  unfold assign
  induction fields with
  | nil => rfl
  | cons field fields ih =>
    rw [List.map_cons]
    by_cases same : field.1 = key
    · rw [if_pos same, lookup_cons_of_ne (Ne.symm different), ih, lookup_cons_of_ne (same ▸ Ne.symm different)]
    · rw [if_neg same]
      by_cases hit : field.1 = other
      · rw [lookup_cons_of_eq hit, lookup_cons_of_eq hit]
      · rw [lookup_cons_of_ne hit, lookup_cons_of_ne hit, ih]

theorem lookup_assign_self (present : (fields.lookup key).isSome = true) :
    (assign key value fields).lookup key = some value := by
  unfold assign
  induction fields with
  | nil => simp at present
  | cons field fields ih =>
    rw [List.map_cons]
    by_cases same : field.1 = key
    · rw [if_pos same]
      exact lookup_cons_of_eq rfl
    · rw [if_neg same, lookup_cons_of_ne same]
      rw [lookup_cons_of_ne same] at present
      exact ih present

theorem reverse_assign : (assign key value fields).reverse = assign key value fields.reverse := by
  unfold assign
  rw [List.map_reverse]

theorem get?_assign_of_ne (different : other ≠ key) : get? (assign key value fields) other = get? fields other := by
  unfold get?
  rw [reverse_assign, lookup_assign_of_ne different]

theorem get?_assign_self (present : (get? fields key).isSome = true) :
    get? (assign key value fields) key = some value := by
  unfold get? at present ⊢
  rw [reverse_assign, lookup_assign_self present]

theorem get?_discard_self : get? (discard key fields) key = none := by
  cases found : get? (discard key fields) key with
  | none => rfl
  | some value =>
    have member := mem_of_get? found
    simp [discard] at member

theorem lookup_discard_of_ne (different : other ≠ key) : (discard key fields).lookup other = fields.lookup other := by
  unfold discard
  induction fields with
  | nil => rfl
  | cons field fields ih =>
    by_cases same : field.1 = key
    · rw [List.filter_cons_of_neg (by simpa using same), ih, lookup_cons_of_ne (same ▸ Ne.symm different)]
    · rw [List.filter_cons_of_pos (by simpa using same)]
      by_cases hit : field.1 = other
      · rw [lookup_cons_of_eq hit, lookup_cons_of_eq hit]
      · rw [lookup_cons_of_ne hit, lookup_cons_of_ne hit, ih]

theorem get?_discard_of_ne (different : other ≠ key) : get? (discard key fields) other = get? fields other := by
  have reversed : (discard key fields).reverse = discard key fields.reverse := List.filter_reverse.symm
  unfold get?
  rw [reversed, lookup_discard_of_ne different]

end Json
