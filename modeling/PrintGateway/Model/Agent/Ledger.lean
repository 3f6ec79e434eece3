import PrintGateway.Machine.Update
import PrintGateway.Model.Gateway.JobStatus

/-!
# The local ledger of the Agent

The SQLite row the Agent keeps for one job (`queue.go`, `cleanup.go`).  The ledger runs on a single
connection, so every statement or transaction is atomic; a write may fail, and the callers say what
they do then.  A delivery of the Gateway always carries a claim token.
-/

namespace PrintGateway.Agent

open Machine Text Gateway

inductive LedgerStatus
  | queued
  | printing
  | success
  | failed
  deriving DecidableEq, Repr

/-- The row of one job; the printer and the payload it was stored with are never read back. -/
structure LedgerRow where
  status : LedgerStatus
  lastError : Option Text
  claimToken : Option Token
  spoolerJobId : Option Text
  updatedAt : ℤ
  deriving DecidableEq, Repr

def interruptedMarker : Text := agentRestartDuringPrint

def unknownOutcomeMarkers : List Text :=
  [agentExecutionTimeout, agentRestartDuringPrint, jobExpiredDuringPrint, unknownPartialDelivery,
    unknownSubmissionOutcome]

def hasUnknownOutcomeMarker (message : Text) : Bool := unknownOutcomeMarkers.any (startsWith message)

/-- A text keeps the marker it starts with, whatever follows. -/
theorem hasUnknownOutcomeMarker_append {marker : Text} (known : marker ∈ unknownOutcomeMarkers)
    (rest : Text) : hasUnknownOutcomeMarker (marker ++ rest) = true := by
  refine List.any_eq_true.mpr ⟨marker, known, ?_⟩
  simp [startsWith]

namespace LedgerRow

/-- The row an `INSERT OR IGNORE` stores for a first delivery. -/
def inserted (now : ℤ) (token : Token) : LedgerRow := ⟨.queued, none, some token, none, now⟩

/-- The last error says that paper may have come out. -/
def marked (row : LedgerRow) : Bool := row.lastError.any hasUnknownOutcomeMarker

/-- `WasOutcomeUnknown`. -/
def wasOutcomeUnknown (row : LedgerRow) : Bool := row.status == .failed && row.marked

/-- `WasInterrupted`. -/
def wasInterrupted (row : LedgerRow) : Bool := row.lastError.any (startsWith · interruptedMarker)

def isTerminal (row : LedgerRow) : Bool := row.status == .success || row.status == .failed

end LedgerRow

/-- `ReserveBeforeDispatch`: the claim is stored before the wait for the printer. -/
def reserveBeforeDispatch (now : ℤ) (token : Token) (ledger : Option LedgerRow) : LedgerRow :=
  let row := ledger.getD (.inserted now token)
  match row.status with
  | .failed =>
    if row.marked then row
    else { row with
      status := .queued, claimToken := some token, lastError := none, spoolerJobId := none
      updatedAt := now }
  | .queued => { row with claimToken := some token, updatedAt := now }
  | .printing | .success => row

inductive BeginError
  | terminalState
  | alreadyPrinting
  deriving DecidableEq, Repr

/-- `BeginPrint`: the row enters `printing` before the first byte reaches hardware. -/
def beginPrint (now : ℤ) (token : Token) (allowUnknownReprint : Bool) (ledger : Option LedgerRow) :
    Except BeginError LedgerRow :=
  let row := ledger.getD (.inserted now token)
  let begun : LedgerRow :=
    { row with status := .printing, claimToken := some token, spoolerJobId := none, updatedAt := now }
  match row.status with
  | .success => .error .terminalState
  | .printing => if row.claimToken = some token then .error .alreadyPrinting else .error .terminalState
  | .failed => if row.marked && !allowUnknownReprint then .error .terminalState else .ok begun
  | .queued => .ok begun

/-- `AbortPrint`: back to `queued`, whoever put the row into `printing`. -/
def abortPrint (now : ℤ) (reason : Text) : Update LedgerRow where
  guard row := row.status = .printing
  set row :=
    { row with
      status := .queued
      lastError := some reason
      claimToken := none
      spoolerJobId := none
      updatedAt := now }

/-- `UpdateStatusWithError` for a terminal status; the token stays until the Gateway acknowledges. -/
def updateStatusWithError (now : ℤ) (status : LedgerStatus) (message : Text) (row : LedgerRow) : LedgerRow :=
  { row with status := status, lastError := some message, updatedAt := now }

/-- `UpdateTerminalWithEvidence`. -/
def updateTerminalWithEvidence (now : ℤ) (status : LedgerStatus) (message : Text)
    (spoolerJobId : Option Text) (row : LedgerRow) : LedgerRow :=
  { row with
    status := status, lastError := some message, spoolerJobId := spoolerJobId, updatedAt := now }

/-- `RecordSpoolerJobID`: evidence of the platform while the job is at the printer. -/
def recordSpoolerJobId (now : ℤ) (spoolerJobId : Text) : Update LedgerRow where
  guard row := row.status = .printing
  set row := { row with spoolerJobId := some spoolerJobId, updatedAt := now }

/-- `ClearClaimToken`: the Gateway accepted the terminal report of this claim. -/
def clearClaimToken (token : Token) : Update LedgerRow where
  guard row := row.isTerminal = true ∧ row.claimToken = some token
  set row := { row with claimToken := none }

/-- `ClearPreDispatchClaim`: the hand-back of this claim was answered. -/
def clearPreDispatchClaim (now : ℤ) (token : Token) : Update LedgerRow where
  guard row := row.status = .queued ∧ row.claimToken = some token
  set row := { row with claimToken := none, updatedAt := now }

def interruptedMessage : Text :=
  interruptedMarker ++ ": the agent stopped while this job was printing; the physical output is unknown " ++
    "(it may have printed fully, partially, or not at all)"

/-- `MarkInterrupted`: a row still `printing` at start-up belongs to a process that died. -/
def markInterrupted (now : ℤ) : Update LedgerRow where
  guard row := row.status = .printing
  set row := updateStatusWithError now .failed interruptedMessage row

/-- `CleanupTerminalOlderThan(48)`. -/
def RetentionDue (now : ℤ) (row : LedgerRow) : Prop :=
  row.claimToken = none ∧ row.isTerminal = true ∧ row.updatedAt ≤ now - hours 48

/-- `CleanupTerminal(0)`, the operator's cleanup. -/
def ProvablyEnded (row : LedgerRow) : Prop :=
  row.claimToken = none ∧ (row.status = .success ∨ (row.status = .failed ∧ row.marked = false))

/-- `PurgeOutcomeUnknown`, the operator's cleanup with `--include-unknown`. -/
def UnknownReconciled (row : LedgerRow) : Prop :=
  row.status = .failed ∧ row.claimToken = none ∧ row.marked = true

instance (now : ℤ) (row : LedgerRow) : Decidable (RetentionDue now row) :=
  inferInstanceAs (Decidable (_ ∧ _))

instance (row : LedgerRow) : Decidable (ProvablyEnded row) := inferInstanceAs (Decidable (_ ∧ _))

instance (row : LedgerRow) : Decidable (UnknownReconciled row) := inferInstanceAs (Decidable (_ ∧ _))

/-- The row says that the job is at the printer, was printed, or may have been. -/
def LedgerRow.Closed (row : LedgerRow) : Prop :=
  row.status = .printing ∨ row.status = .success ∨ row.wasOutcomeUnknown = true

theorem LedgerRow.closed_of_marked {row : LedgerRow} {message : Text} (failed : row.status = .failed)
    (stored : row.lastError = some message) (marked : hasUnknownOutcomeMarker message = true) :
    row.Closed :=
  .inr (.inr (by simp [LedgerRow.wasOutcomeUnknown, LedgerRow.marked, failed, stored, marked]))

theorem LedgerRow.Closed.ne_queued {row : LedgerRow} (closed : row.Closed) : row.status ≠ .queued := by
  intro queued
  rcases closed with printing | success | unknown
  · cases queued.symm.trans printing
  · cases queued.symm.trans success
  · simp [LedgerRow.wasOutcomeUnknown, queued] at unknown

/-- A reservation leaves a closed row alone. -/
theorem reserveBeforeDispatch_of_closed {now : ℤ} {token : Token} {row : LedgerRow}
    (closed : row.Closed) : reserveBeforeDispatch now token (some row) = row := by
  rcases closed with printing | success | unknown
  · simp [reserveBeforeDispatch, printing]
  · simp [reserveBeforeDispatch, success]
  · obtain ⟨failed, marked⟩ : row.status = .failed ∧ row.marked = true := by
      simpa [LedgerRow.wasOutcomeUnknown] using unknown
    simp [reserveBeforeDispatch, failed, marked]

/-- Without the opt-in, only a row that is not closed enters `printing`. -/
theorem beginPrint_ok {now : ℤ} {token : Token} {ledger : Option LedgerRow} {begun : LedgerRow}
    (accepted : beginPrint now token false ledger = .ok begun) :
    (∀ row ∈ ledger, ¬ row.Closed) ∧ begun.status = .printing ∧ begun.claimToken = some token := by
  have closed_refused : ∀ row : LedgerRow, row.Closed →
      ∀ begun, beginPrint now token false (some row) ≠ .ok begun := by
    rintro row (printing | success | unknown) begun
    · by_cases own : row.claimToken = some token <;> simp [beginPrint, printing, own]
    · simp [beginPrint, success]
    · obtain ⟨failed, marked⟩ : row.status = .failed ∧ row.marked = true := by
        simpa [LedgerRow.wasOutcomeUnknown] using unknown
      simp [beginPrint, failed, marked]
  refine ⟨fun row present closed => ?_, ?_⟩
  · rw [Option.mem_def.mp present] at accepted
    exact closed_refused row closed begun accepted
  · simp only [beginPrint] at accepted
    split at accepted
    · cases accepted
    · split at accepted <;> cases accepted
    · split at accepted
      · cases accepted
      · cases accepted
        exact ⟨rfl, rfl⟩
    · cases accepted
      exact ⟨rfl, rfl⟩

end PrintGateway.Agent
