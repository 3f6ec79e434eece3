import Mathlib.Data.List.Basic

/-!
# Guarded row updates

One `UPDATE … SET … WHERE …` statement on one row: a decidable guard and the assignment made when the
guard holds.  A statement that matches no row answers `none` and leaves the row as it was.
-/

namespace Machine

variable {Row : Type*}

/-- A statement that rewrites a row when its guard holds. -/
structure Update (Row : Type*) where
  guard : Row → Prop
  set : Row → Row
  decidable : DecidablePred guard := by infer_instance

namespace Update

instance (u : Update Row) (row : Row) : Decidable (u.guard row) := u.decidable row

/-- The updated row, or `none` when no row matched. -/
def exec (u : Update Row) (row : Row) : Option Row :=
  if u.guard row then some (u.set row) else none

/-- The row after the statement, whether it matched or not. -/
def next (u : Update Row) (row : Row) : Row := (u.exec row).getD row

variable {u : Update Row} {row row' : Row}

theorem exec_eq_some_iff : u.exec row = some row' ↔ u.guard row ∧ u.set row = row' := by
  unfold exec
  split <;> simp_all

theorem next_of_guard (matched : u.guard row) : u.next row = u.set row := by
  simp [next, exec, matched]

theorem next_of_not_guard (missed : ¬ u.guard row) : u.next row = row := by
  simp [next, exec, missed]

/-- A statement either matched and assigned, or changed nothing. -/
theorem next_cases (u : Update Row) (row : Row) : (u.guard row ∧ u.next row = u.set row) ∨ u.next row = row := by
  by_cases matched : u.guard row
  · exact .inl ⟨matched, next_of_guard matched⟩
  · exact .inr (next_of_not_guard matched)

end Update

end Machine
