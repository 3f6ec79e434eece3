import PrintGateway.Model.Text

/-!
# The Odoo print outbox row

One `print_gateway.print_job` row with its two write guards: the ORM `write` override, which checks
the transition matrix, and the locked read of the submission token in front of the writes a
submission worker makes on its own cursor.  A function that raises a `ValidationError` answers
`.error` with its text, and its transaction is rolled back; one that returns `False` answers
`.ok none`.
-/

namespace PrintGateway.Odoo

inductive Status
  | queued
  | submitted
  | claimed
  | printing
  | success
  | failed
  | partialDelivery
  | unknown
  deriving DecidableEq, Repr

namespace Status

def text : Status → Text
  | queued => "queued"
  | submitted => "submitted"
  | claimed => "claimed"
  | printing => "printing"
  | success => "success"
  | failed => "failed"
  | partialDelivery => "partial"
  | unknown => "unknown"

/-- `_TERMINAL`. -/
def isTerminal : Status → Bool
  | success | failed | partialDelivery | unknown => true
  | _ => false

/-- `_VALID_TRANSITIONS`. -/
def validTransitions : Status → List Status
  | queued => [submitted, failed, unknown]
  | submitted => [claimed, failed, unknown]
  | claimed => [printing, failed, unknown]
  | printing => [success, failed, unknown]
  | success => [success]
  | failed => [failed]
  | partialDelivery => [partialDelivery]
  | unknown => [unknown]

/-- `_FORWARD_CHAIN`. -/
def forwardChain : List Status := [queued, submitted, claimed, printing, success]

theorem eq_unknown_of_isTerminal {status : Status} (terminal : status.isTerminal = true)
    (unsuccessful : status ≠ success) (unfailed : status ≠ failed) (whole : status ≠ partialDelivery) :
    status = unknown := by
  cases status <;> first | rfl | contradiction

end Status

inductive PhysicalOutcome
  | notPrinted
  | printed
  | unknown
  deriving DecidableEq, Repr

/-- `_GATEWAY_UNKNOWN_MARKERS`. -/
def gatewayUnknownMarkers : List Text :=
  ["AGENT_EXECUTION_TIMEOUT", "AGENT_RESTART_DURING_PRINT", "JOB_EXPIRED_DURING_PRINT", "UNKNOWN_PARTIAL_DELIVERY",
    "UNKNOWN_SUBMISSION_OUTCOME"]

def startsWithAny (error : Text) (markers : List Text) : Bool := markers.any error.startsWith

/-- The columns of the row that submission and reconciliation read or write. -/
structure PrintJob where
  status : Status
  gatewayJobId : Option Text
  attempts : ℕ
  lastError : Option Text
  nextRetryAt : Option ℤ
  completedAt : Option ℤ
  writeDate : ℤ
  printerId : Text
  destination : Text
  submitClaimToken : Option Token
  submitClaimedAt : Option ℤ
  deriving DecidableEq, Repr

/-- The `values` dictionary of a write; `none` is a key that is absent. -/
structure Values where
  status : Option Status := none
  gatewayJobId : Option Text := none
  attempts : Option ℕ := none
  lastError : Option (Option Text) := none
  nextRetryAt : Option (Option ℤ) := none
  completedAt : Option (Option ℤ) := none
  printerId : Option Text := none
  destination : Option Text := none
  releaseClaim : Bool := false
  deriving DecidableEq, Repr

namespace PrintJob

/-- The row that `create_operation` inserts. -/
def created (now : ℤ) (printerId destination : Text) : PrintJob where
  status := .queued
  gatewayJobId := none
  attempts := 0
  lastError := none
  nextRetryAt := some now
  completedAt := none
  writeDate := now
  printerId := printerId
  destination := destination
  submitClaimToken := none
  submitClaimedAt := none

/-- `str(job.last_error or "")`. -/
def error (row : PrintJob) : Text := row.lastError.getD []

/-- `_compute_physical_outcome`. -/
def physicalOutcome (row : PrintJob) : PhysicalOutcome :=
  if startsWithAny row.error gatewayUnknownMarkers then .unknown
  else if row.status = .queued ∧ row.gatewayJobId = none then .notPrinted
  else if row.status = .failed ∧ row.gatewayJobId = none ∧
      startsWithAny row.error ["GATEWAY_REJECTED_", "CONNECTION_ERROR:"] then .notPrinted
  else .unknown

/-- The rows that `action_retry` submits again under a fresh idempotency key. -/
def Retryable (row : PrintJob) : Prop :=
  row.status = .failed ∧ row.physicalOutcome = .notPrinted

instance (row : PrintJob) : Decidable row.Retryable := inferInstanceAs (Decidable (_ ∧ _))

/-- The assignment of an ORM write. -/
def assign (now : ℤ) (values : Values) (row : PrintJob) : PrintJob where
  status := values.status.getD row.status
  gatewayJobId := values.gatewayJobId <|> row.gatewayJobId
  attempts := values.attempts.getD row.attempts
  lastError := values.lastError.getD row.lastError
  nextRetryAt := values.nextRetryAt.getD row.nextRetryAt
  completedAt := values.completedAt.getD row.completedAt
  writeDate := now
  printerId := values.printerId.getD row.printerId
  destination := values.destination.getD row.destination
  submitClaimToken := if values.releaseClaim then none else row.submitClaimToken
  submitClaimedAt := if values.releaseClaim then none else row.submitClaimedAt

def invalidTransition (current target : Status) : Text :=
  "Invalid print job state transition from '" ++ current.text ++ "' to '" ++ target.text ++ "'."

/-- The `write` override: a changed status must be in the transition matrix. -/
def write (now : ℤ) (values : Values) (row : PrintJob) : Except Text PrintJob :=
  match values.status with
  | none => .ok (row.assign now values)
  | some target =>
    if target = row.status ∨ target ∈ row.status.validTransitions then .ok (row.assign now values)
    else .error (invalidTransition row.status target)

/-- `_stable_terminal_values`: the first terminal timestamp is kept. -/
def stableTerminalValues (now : ℤ) (row : PrintJob) (target : Status) (values : Values) : Values :=
  if !target.isTerminal then values
  else if row.completedAt.isSome then { values with completedAt := none }
  else if row.status.isTerminal then { values with completedAt := some (some row.writeDate) }
  else { values with completedAt := values.completedAt <|> some (some now) }

/-- The chain slice between two statuses, or `none` for a status off the chain or a regression. -/
def hops (current target : Status) : Option (List Status) :=
  if current ∈ Status.forwardChain ∧ target ∈ Status.forwardChain then
    let position := Status.forwardChain.idxOf current
    let destination := Status.forwardChain.idxOf target
    if destination < position then none
    else some ((Status.forwardChain.take (destination + 1)).drop (position + 1))
  else none

/-- One ORM write for each hop; only the last one carries the values. -/
def writeHops (now : ℤ) (target : Status) (values : Values) (row : PrintJob) : Except Text PrintJob :=
  match hops row.status target with
  | none => .error (invalidTransition row.status target)
  | some path =>
    path.foldlM (fun current hop => current.write now
      (if hop = target then { values with status := some hop } else { status := some hop })) row

/-- The row after a transaction: one that raised or answered `False` left it as it was. -/
def stored (row : PrintJob) : Except Text (Option PrintJob) → PrintJob
  | .ok (some row') => row'
  | _ => row

/-- One ORM write of `values`, after hops that changed nothing but the status. -/
def AssignedBy (now : ℤ) (values : Values) (row row' : PrintJob) : Prop :=
  ∃ status date, row' = ({ row with status := status, writeDate := date } : PrintJob).assign now values

section Write

variable {now : ℤ} {values : Values} {row row' : PrintJob} {target : Status} {path : List Status}

theorem stored_cases (row : PrintJob) (answer : Except Text (Option PrintJob)) :
    row.stored answer = row ∨ ∃ row', answer = .ok (some row') ∧ row.stored answer = row' := by
  rcases answer with message | (_ | row')
  · exact .inl rfl
  · exact .inl rfl
  · exact .inr ⟨row', rfl, rfl⟩

theorem ok_of_map_some {answer : Except Text PrintJob} (mapped : answer.map some = .ok (some row')) :
    answer = .ok row' := by
  cases answer with
  | error message => cases mapped
  | ok written => cases mapped; rfl

section

variable (assigned : row.AssignedBy now values row')

include assigned

theorem AssignedBy.status_eq (named : values.status = some target) : row'.status = target := by
  obtain ⟨status, date, rfl⟩ := assigned
  simp [assign, named]

theorem AssignedBy.gatewayJobId_eq : row'.gatewayJobId = (values.gatewayJobId <|> row.gatewayJobId) := by
  obtain ⟨status, date, rfl⟩ := assigned
  rfl

theorem AssignedBy.submitClaimToken_eq :
    row'.submitClaimToken = if values.releaseClaim then none else row.submitClaimToken := by
  obtain ⟨status, date, rfl⟩ := assigned
  rfl

end

theorem write_ok (written : row.write now values = .ok row') : row' = row.assign now values := by
  unfold write at written
  split at written
  · exact (Except.ok.inj written).symm
  · split at written
    · exact (Except.ok.inj written).symm
    · cases written

theorem assignedBy_of_write (written : row.write now values = .ok row') : row.AssignedBy now values row' :=
  ⟨row.status, row.writeDate, write_ok written⟩

/-- A path of hops ends in its target and does not pass through it before. -/
theorem hops_eq_append {current : Status} (found : hops current target = some path)
    (moved : current ≠ target) : ∃ init, path = init ++ [target] ∧ target ∉ init := by
  have ends : path.dropLast ++ [target] = path ∧ target ∉ path.dropLast := by
    revert path
    cases current <;> cases target <;> first | exact absurd rfl moved | decide
  exact ⟨path.dropLast, ends.1.symm, ends.2⟩

/-- The writes of intermediate hops touch nothing but the status. -/
theorem foldlM_hops_ok (passed : target ∉ path)
    (written : path.foldlM (fun current hop => current.write now (if hop =
      target then { values with status := some hop } else { status := some hop })) row = .ok row') :
    ∃ status date, row' = { row with status := status, writeDate := date } := by
  induction path generalizing row with
  | nil => exact ⟨row.status, row.writeDate, (Except.ok.inj written).symm⟩
  | cons hop path ih =>
    rw [List.mem_cons, not_or] at passed
    rw [List.foldlM_cons, if_neg (Ne.symm passed.1)] at written
    cases first : row.write now { status := some hop } with
    | error message => rw [first] at written; cases written
    | ok middle =>
      rw [first] at written
      obtain ⟨status, date, rfl⟩ := ih passed.2 written
      exact ⟨status, date, by rw [write_ok first]; rfl⟩

theorem writeHops_ok (moved : row.status ≠ target) (written : row.writeHops now target values = .ok row') :
    row.AssignedBy now { values with status := some target } row' := by
  unfold writeHops at written
  cases found : hops row.status target with
  | none => rw [found] at written; cases written
  | some path =>
    obtain ⟨init, rfl, passed⟩ := hops_eq_append found moved
    rw [found] at written
    simp only [List.foldlM_append, List.foldlM_cons, List.foldlM_nil, ↓reduceIte, bind_pure] at written
    cases first : init.foldlM (fun current hop => current.write now
        (if hop = target then { values with status := some hop } else { status := some hop })) row with
    | error message => rw [first] at written; cases written
    | ok middle =>
      rw [first] at written
      obtain ⟨status, date, rfl⟩ := foldlM_hops_ok passed first
      exact ⟨status, date, write_ok written⟩

end Write

/-- Only the terminal timestamp differs between the given and the stable values. -/
theorem stableTerminalValues_eq (now : ℤ) (row : PrintJob) (target : Status) (values : Values) :
    ∃ completedAt, row.stableTerminalValues now target values = { values with completedAt := completedAt } := by
  unfold stableTerminalValues
  split
  · exact ⟨values.completedAt, rfl⟩
  · split
    · exact ⟨none, rfl⟩
    · split <;> exact ⟨_, rfl⟩

end PrintJob

end PrintGateway.Odoo
