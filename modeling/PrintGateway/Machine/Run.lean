import Mathlib.Data.List.Basic
import Mathlib.Order.Basic

/-!
# Guarded machines and their runs

A machine has a predicate of initial states and an executable step function that answers `none` when
an event is not enabled.  `Reaches` collects the states reached by runs all of whose steps are
allowed by a side condition, so an assumption about the environment is a statement about the steps
of a run and never about its last state only.
-/

namespace Machine

variable {State Event : Type*}

/-- A guarded machine: initial states and a partial step function. -/
structure System (State Event : Type*) where
  init : State → Prop
  step : State → Event → Option State

namespace System

variable (M : System State Event)

/-- Execute a list of events, failing at the first one that is not enabled. -/
def run : State → List Event → Option State
  | s, [] => some s
  | s, e :: es => (M.step s e).bind fun s' => run s' es

/-- One list of events after another. -/
theorem run_append (s : State) (es es' : List Event) :
    M.run s (es ++ es') = (M.run s es).bind fun s' => M.run s' es' := by
  induction es generalizing s with
  | nil => rfl
  | cons e es ih => simp only [List.cons_append, run, Option.bind_assoc, ih]

/-- The states reached by runs in which every step satisfies `Allowed`. -/
inductive Reaches (Allowed : State → Event → Prop) : State → Prop
  | init {s : State} : M.init s → Reaches Allowed s
  | step {s s' : State} (e : Event) : Reaches Allowed s → Allowed s e → M.step s e = some s' → Reaches Allowed s'

/-- The states reached by arbitrary runs. -/
abbrev Reachable : State → Prop := M.Reaches fun _ _ => True

variable {M} {Allowed : State → Event → Prop}

/-- A property that holds initially and is kept by every allowed step holds in every reached state. -/
theorem Reaches.invariant {Inv : State → Prop} {s : State} (reached : M.Reaches Allowed s)
    (start : ∀ s, M.init s → Inv s)
    (keep : ∀ s e s', Inv s → Allowed s e → M.step s e = some s' → Inv s') : Inv s := by
  induction reached with
  | init initial => exact start _ initial
  | step e _ allowed step ih => exact keep _ e _ ih allowed step

/-- What every step keeps, a run keeps. -/
theorem run_keeps (Inv : State → Prop) (keep : ∀ s e s', Inv s → M.step s e = some s' → Inv s') {s s' : State}
    (holds : Inv s) (es : List Event) (executed : M.run s es = some s') : Inv s' := by
  induction es generalizing s with
  | nil =>
    cases executed
    exact holds
  | cons e es ih =>
    obtain ⟨next, step, rest⟩ := Option.bind_eq_some_iff.mp executed
    exact ih (keep s e next holds step) rest

/-- An executed list of events extends a reachable state. -/
theorem Reaches.run {s s' : State} (reached : M.Reachable s) (es : List Event)
    (executed : M.run s es = some s') : M.Reachable s' :=
  run_keeps M.Reachable (fun _ e _ reached step => .step e reached trivial step) reached es executed

/-- A run takes a step with a property, which may speak about the events that are left. -/
def Passes (M : System State Event) (P : State → Event → State → List Event → Prop) (s : State) (es : List Event) :
    Prop :=
  ∃ before event after mid next, es = before ++ event :: after ∧ M.run s before = some mid ∧
    M.step mid event = some next ∧ P mid event next after

section Passes

variable {P : State → Event → State → List Event → Prop} {s next : State} {e : Event} {es : List Event}

theorem Passes.head (step : M.step s e = some next) (holds : P s e next es) : M.Passes P s (e :: es) :=
  ⟨[], e, es, s, next, rfl, rfl, step, holds⟩

theorem Passes.tail (step : M.step s e = some next) (passes : M.Passes P next es) : M.Passes P s (e :: es) := by
  obtain ⟨before, event, after, mid, last, rfl, ran, moved, holds⟩ := passes
  refine ⟨e :: before, event, after, mid, last, rfl, ?_, moved, holds⟩
  rw [System.run, step]
  exact ran

end Passes

section Within

variable [∀ s e, Decidable (Allowed s e)]

/-- Execute a list of events, failing at the first one that is not allowed or not enabled. -/
def runWithin (M : System State Event) (Allowed : State → Event → Prop)
    [∀ s e, Decidable (Allowed s e)] : State → List Event → Option State
  | s, [] => some s
  | s, e :: es => if Allowed s e then (M.step s e).bind fun s' => runWithin M Allowed s' es else none

/-- An executed list of allowed events extends a reached state. -/
theorem Reaches.runWithin {s s' : State} (reached : M.Reaches Allowed s) (es : List Event)
    (executed : M.runWithin Allowed s es = some s') : M.Reaches Allowed s' := by
  induction es generalizing s with
  | nil =>
    cases executed
    exact reached
  | cons e es ih =>
    obtain ⟨allowed, executed⟩ := Option.ite_none_right_eq_some.mp executed
    obtain ⟨next, step, rest⟩ := Option.bind_eq_some_iff.mp executed
    exact ih (.step e reached allowed step) rest

end Within

end System

end Machine
