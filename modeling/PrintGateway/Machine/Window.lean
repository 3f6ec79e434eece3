import Mathlib.Data.Int.Order.Basic
import Mathlib.Data.List.Basic

/-!
# Fixed windows

Entries of a log that were counted in windows of one length.  A window is known by its start, the
entries counted in it lie inside it, and the starts of two windows are more than one length apart.
An interval of that length meets at most two windows, whatever the order of the log.
-/

namespace Machine

variable {Item : Type*}

/-- Every entry is counted in a window that contains it, and distinct windows do not meet. -/
structure Windowed (length : ℤ) (window : Item → Option ℤ) (time : Item → ℤ) (log : List Item) : Prop where
  inside : ∀ item ∈ log, ∃ start, window item = some start ∧ start ≤ time item ∧ time item ≤ start + length
  apart : ∀ item ∈ log, ∀ other ∈ log, ∀ start start', window item = some start → window other = some start' →
      start = start' ∨ start + length < start' ∨ start' + length < start

namespace Windowed

variable {length : ℤ} {window : Item → Option ℤ} {time : Item → ℤ} {log : List Item}

theorem nil : Windowed length window time [] := ⟨by simp, by simp⟩

section

variable (windowed : Windowed length window time log)

include windowed

/-- One more entry, in the last window or in a new one. -/
theorem cons {item : Item} {start : ℤ} (counted : window item = some start) (since : start ≤ time item)
    (upTo : time item ≤ start + length)
    (older : ∀ other ∈ log, ∀ start' ∈ window other, start' = start ∨ start' + length < start) :
    Windowed length window time (item :: log) where
  inside := List.forall_mem_cons.mpr ⟨⟨start, counted, since, upTo⟩, windowed.inside⟩
  apart := by
    have against : ∀ other ∈ log, ∀ start', window other = some start' →
        start = start' ∨ start + length < start' ∨ start' + length < start := by
      intro other member start' stored
      rcases older other member start' stored with same | before
      · exact .inl same.symm
      · exact .inr (.inr before)
    intro a listedA b listedB start₁ start₂ first second
    rcases List.mem_cons.mp listedA with rfl | oldA <;>
      rcases List.mem_cons.mp listedB with rfl | oldB
    · exact .inl (Option.some.inj (first.symm.trans second))
    · obtain rfl := Option.some.inj (counted.symm.trans first)
      exact against b oldB start₂ second
    · obtain rfl := Option.some.inj (counted.symm.trans second)
      rcases against a oldA start₁ first with same | after | before
      · exact .inl same.symm
      · exact .inr (.inr after)
      · exact .inr (.inl before)
    · exact windowed.apart a oldA b oldB start₁ start₂ first second

/-- The entries of an interval lie in two windows. -/
theorem exists_two (start : ℤ) : ∃ first second, ∀ item ∈ log, start ≤ time item → time item ≤ start + length →
      window item = some first ∨ window item = some second := by
  by_cases one : ∃ item ∈ log, start ≤ time item ∧ time item ≤ start + length
  · obtain ⟨item, listed, after, before⟩ := one
    obtain ⟨first, inFirst, _, _⟩ := windowed.inside item listed
    by_cases two : ∃ other ∈ log, start ≤ time other ∧ time other ≤ start + length ∧ window other ≠ some first
    · obtain ⟨other, listed', after', before', elsewhere⟩ := two
      obtain ⟨second, inSecond, _, _⟩ := windowed.inside other listed'
      refine ⟨first, second, fun third listed'' after'' before'' => ?_⟩
      obtain ⟨window'', inThird, _, _⟩ := windowed.inside third listed''
      have firstSecond := windowed.apart item listed other listed' first second inFirst inSecond
      have firstThird := windowed.apart item listed third listed'' first window'' inFirst inThird
      have secondThird := windowed.apart other listed' third listed'' second window'' inSecond inThird
      have different : first ≠ second := fun same => elsewhere (same ▸ inSecond)
      rw [inThird, Option.some.injEq, Option.some.injEq]
      omega
    · refine ⟨first, first, fun other listed' after' before' => .inl ?_⟩
      by_contra elsewhere
      exact two ⟨other, listed', after', before', elsewhere⟩
  · exact ⟨0, 0, fun item listed after before => absurd ⟨item, listed, after, before⟩ one⟩

/-- At most twice as many entries lie in an interval as in a window. -/
theorem countP_interval_le {most : ℕ}
    (few : ∀ start, log.countP (fun item => window item = some start) ≤ most) (start : ℤ) :
    log.countP (fun item => start ≤ time item ∧ time item ≤ start + length) ≤ 2 * most := by
  obtain ⟨first, second, covered⟩ := windowed.exists_two start
  have either : log.countP (fun item => start ≤ time item ∧ time item ≤ start + length) ≤
      log.countP fun item => window item = some first ∨ window item = some second :=
    List.countP_mono_left fun item listed inside => by
      have inside := of_decide_eq_true inside
      exact decide_eq_true (covered item listed inside.1 inside.2)
  have split (items : List Item) : items.countP (fun item => window item = some first ∨ window item = some second) ≤
        items.countP (fun item => window item = some first) +
          items.countP (fun item => window item = some second) := by
    induction items with
    | nil => exact Nat.zero_le _
    | cons item items ih =>
      simp only [List.countP_cons, decide_eq_true_eq]
      by_cases a : window item = some first <;> by_cases b : window item = some second <;>
        simp only [a, b, or_self, or_true, true_or, if_true, if_false] <;> omega
  have := few first
  have := few second
  have := split log
  omega

end

end Windowed

end Machine
