import Mathlib.Data.List.Basic

/-!
# Counting in a table of rows

How many rows of a list satisfy a predicate: after one row, or the rows a statement picked, have been
rewritten in place, and when no two rows satisfy it together.
-/

namespace Machine

variable {Row Pick : Type*} {counted : Row → Bool} {f : Row → Row} {P : Row → Prop}
  {rewrite : Pick → Row → Row} {position : Pick → ℕ}

/-- A rewrite that turns no row into a counted one does not raise the count. -/
theorem countP_modify_le (keep : ∀ row, counted (f row) = true → counted row = true) (rows : List Row)
    (i : ℕ) : (rows.modify i f).countP counted ≤ rows.countP counted := by
  induction rows generalizing i with
  | nil => simp
  | cons row rows ih =>
    cases i with
    | zero =>
      simp only [List.modify_zero_cons, List.countP_cons]
      have := keep row
      split <;> split <;> simp_all
    | succ i =>
      simp only [List.modify_succ_cons, List.countP_cons]
      have := ih i
      omega

/-- Rewriting one row raises a count by at most one. -/
theorem countP_modify_le_succ (counted : Row → Bool) (f : Row → Row) (rows : List Row) (i : ℕ) :
    (rows.modify i f).countP counted ≤ rows.countP counted + 1 := by
  induction rows generalizing i with
  | nil => simp
  | cons row rows ih =>
    cases i with
    | zero =>
      simp only [List.modify_zero_cons, List.countP_cons]
      split <;> split <;> omega
    | succ i =>
      simp only [List.modify_succ_cons, List.countP_cons]
      have := ih i
      omega

/-- What holds of every row and is kept by the rewrite holds of every rewritten row. -/
theorem forall_mem_modify {rows : List Row} (all : ∀ row ∈ rows, P row) (keep : ∀ row, P row → P (f row))
    (i : ℕ) : ∀ row ∈ rows.modify i f, P row := by
  induction rows generalizing i with
  | nil => simp
  | cons row rows ih =>
    obtain ⟨head, tail⟩ := List.forall_mem_cons.mp all
    cases i with
    | zero => exact List.forall_mem_cons.mpr ⟨keep row head, tail⟩
    | succ i => exact List.forall_mem_cons.mpr ⟨head, ih tail i⟩

/-- Rewrite the rows at the picked positions, one after another. -/
def rewriteAll (position : Pick → ℕ) (rewrite : Pick → Row → Row) (picks : List Pick)
    (rows : List Row) : List Row :=
  picks.foldl (fun rows pick => rows.modify (position pick) (rewrite pick)) rows

/-- Rewriting the picked rows raises a count by at most their number. -/
theorem countP_rewriteAll_le (counted : Row → Bool) (position : Pick → ℕ)
    (rewrite : Pick → Row → Row) (picks : List Pick) (rows : List Row) :
    (rewriteAll position rewrite picks rows).countP counted ≤ rows.countP counted + picks.length := by
  induction picks generalizing rows with
  | nil => simp [rewriteAll]
  | cons pick picks ih =>
    have first := countP_modify_le_succ counted (rewrite pick) rows (position pick)
    have rest := ih (rows.modify (position pick) (rewrite pick))
    simp only [rewriteAll, List.foldl_cons, List.length_cons] at rest ⊢
    omega

/-- Rewrites that turn no row into a counted one do not raise the count. -/
theorem countP_rewriteAll_le_of_keep
    (keep : ∀ pick row, counted (rewrite pick row) = true → counted row = true) (picks : List Pick)
    (rows : List Row) : (rewriteAll position rewrite picks rows).countP counted ≤ rows.countP counted := by
  induction picks generalizing rows with
  | nil => exact Nat.le_refl _
  | cons pick picks ih => exact Nat.le_trans (ih _) (countP_modify_le (keep pick) rows _)

theorem forall_mem_rewriteAll (keep : ∀ pick row, P row → P (rewrite pick row)) (picks : List Pick)
    {rows : List Row} (all : ∀ row ∈ rows, P row) :
    ∀ row ∈ rewriteAll position rewrite picks rows, P row := by
  induction picks generalizing rows with
  | nil => exact all
  | cons pick picks ih => exact ih (forall_mem_modify all (keep pick) _)

end Machine
