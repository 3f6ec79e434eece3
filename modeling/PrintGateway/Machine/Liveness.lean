import Mathlib.Order.Nat
import PrintGateway.Machine.Run

/-!
# Infinite executions and ranked progress

An infinite execution takes a step at every moment.  Progress follows from a rank: when every moment
at which `P` holds is followed by one at which it fails or the rank is smaller, `P` does not hold for
ever.
-/

namespace Machine

/-- A rank cannot drop for ever. -/
theorem exists_of_rank {Goal : ℕ → Prop} (rank : ℕ → ℕ) {start : ℕ}
    (drop : ∀ n ≥ start, ∃ m ≥ n, Goal m ∨ rank m < rank n) (n : ℕ) (later : start ≤ n) :
    ∃ m ≥ n, Goal m := by
  induction bound : rank n using Nat.strong_induction_on generalizing n with
  | _ r ih =>
    obtain ⟨m, after, reached | smaller⟩ := drop n later
    · exact ⟨m, after, reached⟩
    · obtain ⟨m', after', reached⟩ := ih _ (bound ▸ smaller) m (le_trans later after) rfl
      exact ⟨m', after.le.trans after', reached⟩

end Machine

namespace Machine.System

variable {State Event : Type*}

/-- An infinite execution: one enabled event after the other. -/
structure Execution (M : System State Event) where
  state : ℕ → State
  event : ℕ → Event
  start : M.init (state 0)
  step : ∀ n, M.step (state n) (event n) = some (state (n + 1))

namespace Execution

variable {M : System State Event} (run : M.Execution)

theorem reachable (n : ℕ) : M.Reachable (run.state n) := by
  induction n with
  | zero => exact .init run.start
  | succ n ih => exact .step _ ih trivial (run.step n)

/-- A part of the state is the same at two moments, or some step in between changed it first. -/
theorem unchanged_or_changes {View : Type*} (view : State → View) {n m : ℕ} (later : n ≤ m) :
    view (run.state m) = view (run.state n) ∨ ∃ k, n ≤ k ∧ k < m ∧ view (run.state k) = view (run.state n) ∧
        view (run.state (k + 1)) ≠ view (run.state n) := by
  induction m, later using Nat.le_induction with
  | base => exact .inl rfl
  | succ m later ih =>
    rcases ih with same | ⟨k, after, before, same, changed⟩
    · by_cases kept : view (run.state (m + 1)) = view (run.state n)
      · exact .inl kept
      · exact .inr ⟨m, later, Nat.lt_succ_self m, same, kept⟩
    · exact .inr ⟨k, after, Nat.lt_succ_of_lt before, same, changed⟩

end Execution

end Machine.System
