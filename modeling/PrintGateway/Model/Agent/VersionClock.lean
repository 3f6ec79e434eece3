import PrintGateway.Machine.Keyed
import PrintGateway.Machine.Run
import PrintGateway.Model.Text

/-!
# The inventory version clock

`inventoryVersionClock`: two loops of `Load` and `CompareAndSwap` on one atomic integer.  A step of the machine is one
access to it.  What was completed before a call of `next` started is recorded with the call.
-/

namespace PrintGateway.Agent

open Machine

/-- `strconv.FormatInt(value, 10)`. -/
def formatInt (value : Int64) : Text :=
  (if value < 0 then ['-'] else []) ++ Nat.toDigits 10 value.toInt.natAbs

/-- `strconv.ParseInt(raw, 10, 64)`. -/
def parseInt (raw : Text) : Option Int64 :=
  let (negative, digits) : Bool × Text := match raw with
    | '-' :: rest => (true, rest)
    | '+' :: rest => (false, rest)
    | _ => (false, raw)
  let magnitude : ℤ := Nat.ofDigitChars 10 digits 0
  let value := if negative then -magnitude else magnitude
  if digits ≠ [] ∧ digits.all Char.isDigit ∧ -2 ^ 63 ≤ value ∧ value < 2 ^ 63 then some (Int64.ofInt value) else none

/-- The version that `observe` accepts. -/
def observedVersion (raw : Text) : Option Int64 :=
  (parseInt raw).filter fun version => 0 ≤ version ∧ formatInt version = raw

/-- A call in progress, with what it has loaded. -/
inductive ClockCall
  | next (now : Int64) (before : List Int64) (previous : Option Int64)
  | observe (version : Int64) (previous : Option Int64)

/-- A value that `next` returned, and the values that were completed before the call started. -/
structure Issued where
  value : Int64
  before : List Int64

structure VersionClock where
  last : Int64
  calls : Keyed ℕ ClockCall
  issued : List Issued
  accepted : List Int64

inductive ClockEvent
  | next (id : ℕ) (now : Int64)
  | observe (id : ℕ) (raw : Text)
  | load (id : ℕ)
  | compareAndSwap (id : ℕ)

namespace VersionClock

def start : VersionClock := ⟨0, .empty, [], []⟩

/-- The values that calls of `next` returned or calls of `observe` accepted. -/
def completed (s : VersionClock) : List Int64 := s.issued.map (·.value) ++ s.accepted

def put (s : VersionClock) (id : ℕ) (call : ClockCall) : VersionClock := { s with calls := s.calls.put id call }

def finish (s : VersionClock) (id : ℕ) : VersionClock := { s with calls := s.calls.filter fun other _ => other ≠ id }

def issue (s : VersionClock) (id : ℕ) (value : Int64) (before : List Int64) : VersionClock :=
  { s.finish id with issued := ⟨value, before⟩ :: s.issued }

def accept (s : VersionClock) (id : ℕ) (version : Int64) : VersionClock :=
  { s.finish id with accepted := version :: s.accepted }

/-- The value `next` wants to store over the previous one. -/
def successor (now previous : Int64) : Int64 := if now ≤ previous then previous + 1 else now

def load (s : VersionClock) (id : ℕ) : ClockCall → Option VersionClock
  | .next now before none =>
    if now ≤ s.last ∧ s.last = Int64.maxValue then some (s.issue id s.last before)
    else some (s.put id (.next now before (some s.last)))
  | .observe version none =>
    if version ≤ s.last then some (s.accept id version) else some (s.put id (.observe version (some s.last)))
  | _ => none

def compareAndSwap (s : VersionClock) (id : ℕ) : ClockCall → Option VersionClock
  | .next now before (some previous) =>
    if s.last = previous then
      some { s.issue id (successor now previous) before with last := successor now previous }
    else some (s.put id (.next now before none))
  | .observe version (some previous) =>
    if s.last = previous then some { s.accept id version with last := version }
    else some (s.put id (.observe version none))
  | _ => none

def step (s : VersionClock) : ClockEvent → Option VersionClock
  | .next id now => if (s.calls.find? id).isSome then none else some (s.put id (.next now s.completed none))
  | .observe id raw =>
    if (s.calls.find? id).isSome then none
    else
      match observedVersion raw with
      | none => some s
      | some version => some (s.put id (.observe version none))
  | .load id => (s.calls.find? id).bind (s.load id)
  | .compareAndSwap id => (s.calls.find? id).bind (s.compareAndSwap id)

def system : System VersionClock ClockEvent := ⟨(· = start), step⟩

end VersionClock

end PrintGateway.Agent
