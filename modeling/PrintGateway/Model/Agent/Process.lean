import PrintGateway.Model.Agent.Ledger
import PrintGateway.Model.Gateway.Retention

/-!
# One job between the Gateway and an Agent

The Gateway row of a job, the Agent's ledger row, the Agent process and the messages between them.
A delivery frame may arrive any number of times once its claim was made, and a status report may be
handled any number of times once it was sent; a message that never arrives is one whose event does
not occur.  A crash takes the process and leaves the ledger.  The Agent runs with
`reprint_after_crash` disabled.
-/

namespace PrintGateway.Agent

open Machine Text Gateway

/-! ### What happens at the printer -/

/-- An error of a transport: its text, and whether the unknown-outcome sentinel is in its chain. -/
structure TransportError where
  text : Text
  wrapsUnknown : Bool
  deriving DecidableEq, Repr

/-- `OutcomeUnknown`. -/
def TransportError.outcomeUnknown (error : TransportError) : Bool :=
  error.wrapsUnknown || hasUnknownOutcomeMarker error.text

/-- What the physical phase of an attempt comes back with: the drawer kick, if there is one, and the
document. -/
inductive PhysicalResult
  | drawerFailed (error : TransportError)
  | drawerThenCancelled
  | printed (spoolerJobId : Option Text)
  | failed (drawerKicked : Bool) (error : TransportError) (spoolerJobId : Option Text)
  deriving DecidableEq, Repr

/-- How a hardware dispatch ended. -/
inductive DispatchEnd
  | success
  | unknown
  | notPrinted
  | crash
  deriving DecidableEq, Repr

/-- Paper may have come out. -/
def DispatchEnd.possiblyPrinted : DispatchEnd → Bool
  | .notPrinted => false
  | .success | .unknown | .crash => true

def unknownDelivery (text : Text) : Text := unknownPartialDelivery ++ ": " ++ text

/-- The stored message of a failed document; an ambiguous one always starts with a marker. -/
def failureMessage (drawerKicked : Bool) (error : TransportError) : Text :=
  let message :=
    if error.outcomeUnknown && !hasUnknownOutcomeMarker error.text then unknownDelivery error.text
    else error.text
  if drawerKicked && !hasUnknownOutcomeMarker message then
    unknownDelivery
      ("peripheral side effect succeeded before main print outcome was known: " ++ message)
  else message

namespace PhysicalResult

def ended : PhysicalResult → DispatchEnd
  | drawerFailed error => if error.outcomeUnknown then .unknown else .notPrinted
  | drawerThenCancelled => .unknown
  | printed _ => .success
  | failed drawerKicked error _ =>
    if drawerKicked || error.outcomeUnknown then .unknown else .notPrinted

def status : PhysicalResult → LedgerStatus
  | printed _ => .success
  | drawerFailed _ | drawerThenCancelled | failed .. => .failed

def message : PhysicalResult → Text
  | drawerFailed error =>
    if error.outcomeUnknown then
      unknownDelivery ("cash-drawer kick outcome is ambiguous; automatic retry is unsafe: " ++ error.text)
    else error.text
  | drawerThenCancelled =>
    unknownDelivery ("cash-drawer kick succeeded but the print attempt was cancelled before the " ++
      "main document dispatch")
  | printed _ => []
  | failed drawerKicked error _ => failureMessage drawerKicked error

def spoolerJobId : PhysicalResult → Option Text
  | printed spoolerJobId | failed _ _ spoolerJobId => spoolerJobId
  | drawerFailed _ | drawerThenCancelled => none

/-- The terminal write: the drawer branches go through `UpdateStatusWithError`. -/
def write (now : ℤ) (result : PhysicalResult) (row : LedgerRow) : LedgerRow :=
  match result with
  | drawerFailed _ | drawerThenCancelled => updateStatusWithError now result.status result.message row
  | printed _ | failed .. =>
    updateTerminalWithEvidence now result.status result.message result.spoolerJobId row

/-- Only the document branches keep a fence in memory when the terminal write fails. -/
def remembered : PhysicalResult → Bool
  | printed _ | failed .. => true
  | drawerFailed _ | drawerThenCancelled => false

end PhysicalResult

theorem unknownDelivery_marked (text : Text) : hasUnknownOutcomeMarker (unknownDelivery text) = true := by
  rw [unknownDelivery, List.append_assoc]
  exact hasUnknownOutcomeMarker_append (by decide) _

theorem failureMessage_marked {drawerKicked : Bool} {error : TransportError}
    (ambiguous : (drawerKicked || error.outcomeUnknown) = true) :
    hasUnknownOutcomeMarker (failureMessage drawerKicked error) = true := by
  unfold failureMessage
  by_cases marked : hasUnknownOutcomeMarker error.text = true
  · simp [marked]
  · rcases Bool.or_eq_true_iff.mp ambiguous with kicked | unknown
    · by_cases unknown : error.outcomeUnknown = true <;>
        simp [marked, kicked, unknown, unknownDelivery_marked]
    · simp [marked, unknown, unknownDelivery_marked]

/-- A result that may have printed is stored as such. -/
theorem PhysicalResult.write_closed {result : PhysicalResult} (now : ℤ) (row : LedgerRow)
    (possible : result.ended.possiblyPrinted = true) : (result.write now row).Closed := by
  cases result with
  | drawerFailed error =>
    have unknown : error.outcomeUnknown = true := by
      by_contra known
      simp [PhysicalResult.ended, known, DispatchEnd.possiblyPrinted] at possible
    refine LedgerRow.closed_of_marked rfl rfl ?_
    simp [PhysicalResult.message, unknown, unknownDelivery_marked]
  | drawerThenCancelled => exact LedgerRow.closed_of_marked rfl rfl (unknownDelivery_marked _)
  | printed spoolerJobId => exact .inr (.inl rfl)
  | failed drawerKicked error spoolerJobId =>
    refine LedgerRow.closed_of_marked rfl rfl (failureMessage_marked ?_)
    by_contra known
    simp [PhysicalResult.ended, known, DispatchEnd.possiblyPrinted] at possible

/-! ### The Agent process -/

/-- How far `processJob` has come. -/
inductive Phase
  | received
  | parsed
  | reserved
  | begun
  | reporting (request : ℕ)
  | admitted
  | atHardware
  deriving DecidableEq, Repr

structure Attempt where
  claimToken : Token
  phase : Phase
  deriving DecidableEq, Repr

/-- The fence kept in memory when a terminal write failed. -/
structure TerminalExecution where
  status : LedgerStatus
  message : Text
  claimToken : Token
  spoolerJobId : Option Text
  deriving DecidableEq, Repr

/-- The memory of the process as far as the job is concerned; a job is in flight at most once. -/
structure Process where
  terminalExecution : Option TerminalExecution
  inFlight : Option Attempt
  deriving DecidableEq, Repr

/-- The checks of `dispatchJob` that turn a delivery away, or none. -/
inductive Intake
  | accepted
  | stopping
  | full (reason : RequeueReason)
  deriving DecidableEq, Repr

/-- The gates between the reservation and `BeginPrint`. -/
inductive Gate
  | cancelled
  | notAtDesiredState
  | notShared
  | unprintable (reason message : Text)
  | noExecutionSlot
  deriving DecidableEq, Repr

def LedgerStatus.reported : LedgerStatus → JobStatus
  | .queued => .queued
  | .printing => .printing
  | .success => .success
  | .failed => .failed

/-- `updateJobStatus`. -/
def statusReport (status : JobStatus) (message : Text) (token : Token) (spoolerJobId : Option Text) : StatusReport :=
  ⟨status, some message, .other, some token, spoolerJobId⟩

/-- `rejectJob`: a hand-back before execution. -/
def rejection (reason : RequeueReason) (token : Token) : StatusReport :=
  ⟨.queued, none, .requeue reason, some token, none⟩

namespace Gate

/-- The reason `AbortPrint` stores. -/
def reason : Gate → Text
  | cancelled =>
    "dispatch_refused: agent context cancelled while waiting for printer execution; " ++ "zero bytes transmitted"
  | notAtDesiredState => "printer_not_at_desired_state"
  | notShared => "printer_not_shared"
  | unprintable reason _ => reason
  | noExecutionSlot =>
    "dispatch_refused: agent shutting down before physical execution slot; " ++ "zero bytes transmitted"

/-- What the Gateway is told. -/
def reports (token : Token) : Gate → List StatusReport
  | cancelled => []
  | notAtDesiredState => [rejection .printerNotAtDesiredState token]
  | notShared => [rejection .printerNotShared token]
  | unprintable _ message => [statusReport .failed message token none]
  | noExecutionSlot => [rejection .agentShuttingDown token]

end Gate

/-- A refused reprint echoes what the ledger knows. -/
def unknownRefusal (row : LedgerRow) (text : Text) : Text :=
  (if row.wasInterrupted then interruptedMarker else unknownPartialDelivery) ++ text

def refusingToReprint : Text :=
  ": refusing to reprint a job whose previous attempt had an unknown outcome " ++
    "(agent.reprint_after_crash=false); the earlier delivery may have produced output"

def ledgerTerminal : Text :=
  ": local ledger terminal with an unknown outcome; this delivery was not dispatched " ++
    "(agent.reprint_after_crash=false)"

/-- `classifyPanicOutcome`, with what the handler could read of the ledger. -/
def classifyPanicOutcome (read : Option (Option LedgerRow)) (panic : Text) : LedgerStatus × Text :=
  let panicMessage := "AGENT_PANIC: " ++ panic
  match read with
  | none => (.failed, unknownDelivery (panicMessage ++
      " (physical outcome cannot be proven absent after agent panic)"))
  | some none => (.failed, panicMessage)
  | some (some row) =>
    if row.status = .printing then
      (.failed, unknownDelivery (panicMessage ++ " (physical outcome cannot be proven absent after agent panic)"))
    else if row.status = .success then (.success, [])
    else if row.wasOutcomeUnknown then
      (.failed, unknownDelivery (panicMessage ++
        (" (prior attempt outcome unknown; physical outcome cannot be proven absent " ++ "after agent panic)")))
    else (.failed, panicMessage)

/-! ### The Gateway's side of a report -/

/-- `PATCH /api/agent/jobs`: the job after the handler ran, and whether it answered with success.  The
handler decides on the row it read before, if it found one. -/
def answer (stamp : Instant) (owners : Owners) (read : Option JobRow) (report : StatusReport) :
    StoredJob → StoredJob × Bool
  | .live row =>
    match read with
    | none => (.live row, false)
    | some job =>
      match (replayAcknowledgement job report).bind fun u => u.exec row with
      | some replayed => (.live replayed, true)
      | none =>
        match (reportStatement stamp owners job report).toOption.bind fun u => u.exec row with
        | some updated => (.live updated, true)
        | none => (.live row, false)
  | .archived receipt =>
    (.archived receipt, read.isNone && receipt.status == report.requested &&
        report.claimToken.any fun token => receipt.closedClaimTokenHash == some ⟨token⟩)

/-! ### Runs -/

inductive HardwareEvent
  | started
  | ended (outcome : DispatchEnd)
  deriving DecidableEq, Repr

/-- The job on both sides.  A report is identified by its position in `reports`, `answers` lists the
answers the Gateway gave, and `log` what happened at the printer, newest first. -/
structure PrintRun where
  gateway : StoredJob
  issued : List Token
  ledger : Option LedgerRow
  process : Option Process
  reports : List StatusReport
  answers : List (ℕ × Bool)
  log : List HardwareEvent
  deriving DecidableEq, Repr

/-- The steps of `processJob`; the flags say which reads and writes of the ledger succeed. -/
inductive AttemptEvent
  | lookUp (readable reread payloadValid : Bool)
  | reserve (now : ℤ) (written : Bool)
  | refuse (now : ℤ) (gate : Gate) (written : Bool)
  | alreadyProcessed
  | beginPrint (now : ℤ) (written reread : Bool)
  | report
  | acknowledged
  | unacknowledged (now : ℤ) (reason : Text) (written : Bool)
  | cancelled (now : ℤ) (reason : Text) (written : Bool)
  | dispatch
  | finish (now : ℤ) (result : PhysicalResult) (written : Bool)
  | panic (now : ℤ) (message : Text) (readable written : Bool)
  deriving DecidableEq, Repr

inductive PrintEvent
  | write (stamp : Instant) (op : JobOp)
  | cleanup (now : ℤ)
  | operatorCleanup (before : ℤ)
  | deleteAgent (stamp : Instant)
  | handle (request : ℕ) (stamp : Instant) (owners : Owners) (read : Option JobRow)
  | deliver (token : Token) (intake : Intake)
  | attempt (event : AttemptEvent)
  | clearToken (request : ℕ)
  | clearReturn (request : ℕ) (now : ℤ)
  | reportPending
  | returnPending (reason : RequeueReason)
  | retain (now : ℤ)
  | localCleanup (includeUnknown : Bool)
  | crash
  | restart (now : ℤ) (written : Bool)
  deriving DecidableEq, Repr

/-- The claim token a Gateway statement hands out. -/
def claimedBy : JobOp → Option Token
  | .claimJobForDelivery _ _ _ token | .pollClaim _ _ token => some token
  | _ => none

/-- A status report is handled by its own event. -/
def isReport : JobOp → Bool
  | .acknowledgeReplay .. | .patch .. => true
  | _ => false

namespace PrintRun

def send (s : PrintRun) (reports : List StatusReport) : PrintRun :=
  { s with reports := s.reports ++ reports }

/-- The attempt goes on in another phase. -/
def goTo (s : PrintRun) (process : Process) (token : Token) (phase : Phase) : PrintRun :=
  { s with process := some { process with inFlight := some ⟨token, phase⟩ } }

/-- `processJob` returns. -/
def leave (s : PrintRun) (process : Process) : PrintRun :=
  { s with process := some { process with inFlight := none } }

/-- A statement on the ledger row, unless the write fails. -/
def onLedger (s : PrintRun) (written : Bool) (statement : LedgerRow → LedgerRow) : PrintRun :=
  if written then { s with ledger := s.ledger.map statement } else s

/-- The ledger lookup at the start of `processJob`. -/
def lookUp (s : PrintRun) (process : Process) (token : Token) (readable reread payloadValid : Bool) : PrintRun :=
  if !readable then (s.leave process).send [rejection .ledgerUnavailable token]
  else if s.ledger.any fun row => row.status == .success then
    (s.leave process).send [statusReport .success [] token none]
  else
    match s.ledger.filter fun row => reread && row.wasOutcomeUnknown with
    | some row =>
      (s.leave process).send
        [statusReport .failed (unknownRefusal row refusingToReprint) token none]
    | none =>
      if payloadValid then s.goTo process token .parsed
      else (s.leave process).send [statusReport .failed "invalid payload" token none]

/-- `BeginPrint` and what `processJob` makes of its errors. -/
def enterPrinting (s : PrintRun) (process : Process) (token : Token) (now : ℤ) (reread : Bool) : PrintRun :=
  match beginPrint now token false s.ledger with
  | .ok row => ({ s with ledger := some row }).goTo process token .begun
  | .error .alreadyPrinting => s.leave process
  | .error .terminalState =>
    (s.leave process).send
      (s.ledger.toList.map fun row =>
        if reread ∧ row.status = .success then statusReport .success [] token none
        else statusReport .failed (unknownRefusal row ledgerTerminal) token none)

/-- The end of the physical phase. -/
def finish (s : PrintRun) (process : Process) (token : Token) (now : ℤ) (result : PhysicalResult)
    (written : Bool) : PrintRun :=
  let fenced : Process :=
    if !written && result.remembered then
      { process with
        terminalExecution :=
          some ⟨result.status, result.message, token, result.spoolerJobId⟩ }
    else process
  let ended := { s with log := .ended result.ended :: s.log }
  ((ended.onLedger written (result.write now)).leave fenced).send
    [statusReport result.status.reported result.message token result.spoolerJobId]

/-- The recovery from a panic of the executing goroutine. -/
def recoverPanic (s : PrintRun) (process : Process) (attempt : Attempt) (now : ℤ) (message : Text)
    (readable written : Bool) : PrintRun :=
  let verdict := classifyPanicOutcome (if readable then some s.ledger else none) message
  let poisons := verdict.1 == .failed && startsWith verdict.2 (unknownDelivery [])
  let fenced : Process :=
    if poisons && !written then
      { process with terminalExecution := some ⟨.failed, verdict.2, attempt.claimToken, none⟩ }
    else process
  let ended :=
    if attempt.phase = .atHardware then { s with log := .ended .unknown :: s.log } else s
  ((ended.onLedger (poisons && written) (updateStatusWithError now .failed verdict.2)).leave fenced).send
    [statusReport verdict.1.reported verdict.2 attempt.claimToken none]

/-- One step of the attempt in flight. -/
def attemptStep (s : PrintRun) (process : Process) (attempt : Attempt) : AttemptEvent → Option PrintRun
  | .lookUp readable reread payloadValid =>
    if attempt.phase = .received then
      some (s.lookUp process attempt.claimToken readable reread payloadValid)
    else none
  | .reserve now written =>
    if attempt.phase = .parsed then
      if written then
        some (({ s with ledger := some (reserveBeforeDispatch now attempt.claimToken s.ledger) }).goTo
          process attempt.claimToken .reserved)
      else some ((s.leave process).send [rejection .ledgerUnavailable attempt.claimToken])
    else none
  | .refuse now gate written =>
    if attempt.phase = .reserved then
      some (((s.onLedger written (abortPrint now gate.reason).next).leave process).send
        (gate.reports attempt.claimToken))
    else none
  | .alreadyProcessed =>
    if (attempt.phase = .reserved ∨ attempt.phase = .admitted) ∧
        s.ledger.any fun row => row.status == .success then some (s.leave process)
    else none
  | .beginPrint now written reread =>
    if attempt.phase = .reserved then
      if written then some (s.enterPrinting process attempt.claimToken now reread)
      else some ((s.leave process).send [rejection .ledgerUnavailable attempt.claimToken])
    else none
  | .report =>
    if attempt.phase = .begun then
      some ((s.goTo process attempt.claimToken (.reporting s.reports.length)).send
        [statusReport .printing [] attempt.claimToken none])
    else none
  | .acknowledged =>
    match attempt.phase with
    | .reporting request =>
      if (request, true) ∈ s.answers then some (s.goTo process attempt.claimToken .admitted) else none
    | _ => none
  | .unacknowledged now reason written =>
    match attempt.phase with
    | .reporting _ => some ((s.onLedger written (abortPrint now reason).next).leave process)
    | _ => none
  | .cancelled now reason written =>
    if attempt.phase = .admitted then
      some ((s.onLedger written (abortPrint now reason).next).leave process)
    else none
  | .dispatch =>
    -- `IsProcessed` answers false when its read fails, so it guards nothing here.
    if attempt.phase = .admitted then
      some (({ s with log := .started :: s.log }).goTo process attempt.claimToken .atHardware)
    else none
  | .finish now result written =>
    if attempt.phase = .atHardware then
      some (s.finish process attempt.claimToken now result written)
    else none
  | .panic now message readable written =>
    some (s.recoverPanic process attempt now message readable written)

/-- `dispatchJob`. -/
def dispatchJob (s : PrintRun) (process : Process) (token : Token) (intake : Intake) : PrintRun :=
  match intake, process.terminalExecution, process.inFlight with
  | .stopping, _, _ => s.send [rejection .agentShuttingDown token]
  | _, some fence, _ =>
    s.send [statusReport fence.status.reported fence.message fence.claimToken fence.spoolerJobId]
  | _, none, some _ => s
  | .full reason, none, none => s.send [rejection reason token]
  | .accepted, none, none => s.goTo process token .received

/-- The report an answered request carried. -/
def answered (s : PrintRun) (request : ℕ) (success : Bool) : Option StatusReport :=
  if (request, success) ∈ s.answers then s.reports[request]? else none

/-- Store the job the Gateway is left with. -/
def archive (s : PrintRun) (archived : JobRow → Option Receipt) : Option PrintRun :=
  match s.gateway with
  | .live row => (archived row).map fun receipt => { s with gateway := .archived receipt }
  | .archived _ => none

/-- Delete the ledger row if it may go. -/
def deleteRow (s : PrintRun) (due : LedgerRow → Bool) : PrintRun :=
  { s with ledger := s.ledger.filter fun row => !due row }

end PrintRun

def interruptedReport : Text :=
  interruptedMarker ++ ": the agent stopped while this job was printing; the physical output is unknown " ++
    "(full, partial or none)"

namespace PrintRun

/-- The death of the process; what it held in memory is gone. -/
def crash (s : PrintRun) (process : Process) : PrintRun :=
  { s with
    process := none
    log :=
      if process.inFlight.any fun attempt => attempt.phase == .atHardware then .ended .crash :: s.log
      else s.log }

/-- A start of the Agent with `recoverInterruptedJobs`, whose ledger write may fail. -/
def restart (s : PrintRun) (now : ℤ) (written : Bool) : PrintRun :=
  let started := { s with process := some ⟨none, none⟩ }
  if written then
    (started.onLedger true (markInterrupted now).next).send
      ((s.ledger.filter fun row => row.status == .printing).toList.flatMap fun row =>
        row.claimToken.toList.map fun token =>
          statusReport .failed interruptedReport token row.spoolerJobId)
  else started

def step (s : PrintRun) : PrintEvent → Option PrintRun
  | .write stamp op =>
    match s.gateway with
    | .live row =>
      if isReport op = false ∧ ∀ token ∈ claimedBy op, token ∉ s.issued then
        some
          { s with
            gateway := .live (op.next stamp row)
            issued :=
              ((claimedBy op).filter fun token => (op.next stamp row).claimToken == some token).toList ++ s.issued }
      else none
    | .archived _ => none
  | .cleanup now => s.archive (cleanupTerminalPrintJobs now)
  | .operatorCleanup before => s.archive (cleanupByOperator before)
  | .deleteAgent stamp => s.archive fun row => some (Gateway.deleteAgent stamp row)
  | .handle request stamp owners read =>
    s.reports[request]?.map fun report =>
      { s with
        gateway := (answer stamp owners read report s.gateway).1
        answers := (request, (answer stamp owners read report s.gateway).2) :: s.answers }
  | .deliver token intake =>
    if token ∈ s.issued then s.process.map fun process => s.dispatchJob process token intake else none
  | .attempt event =>
    s.process.bind fun process => process.inFlight.bind fun attempt =>
      s.attemptStep process attempt event
  | .clearToken request =>
    (s.answered request true).bind fun report =>
      if report.requested = .success ∨ report.requested = .failed then
        report.claimToken.map fun token => s.onLedger true (clearClaimToken token).next
      else none
  | .clearReturn request now =>
    ((s.answered request true).or (s.answered request false)).bind fun report =>
      if report.requested = .queued then
        report.claimToken.map fun token => s.onLedger true (clearPreDispatchClaim now token).next
      else none
  | .reportPending =>
    (s.ledger.filter LedgerRow.isTerminal).bind fun row => row.claimToken.map fun token =>
      s.send [statusReport row.status.reported (row.lastError.getD []) token row.spoolerJobId]
  | .returnPending reason =>
    if s.process.any fun process => process.inFlight.isNone then
      (s.ledger.filter fun row => row.status == .queued).bind fun row =>
        row.claimToken.map fun token => s.send [rejection reason token]
    else none
  | .retain now => some (s.deleteRow fun row => RetentionDue now row)
  | .localCleanup includeUnknown =>
    some (s.deleteRow fun row => ProvablyEnded row ∨ (includeUnknown ∧ UnknownReconciled row))
  | .crash => s.process.map s.crash
  | .restart now written => if s.process.isNone then some (s.restart now written) else none

end PrintRun

/-- One job from its enqueue on, with nothing in the Agent's ledger. -/
def printRun : System PrintRun PrintEvent where
  init s := (∃ createdAt expiresAt, s.gateway = .live (.enqueued createdAt expiresAt)) ∧
    s.issued = [] ∧ s.ledger = none ∧ s.process = none ∧ s.reports = [] ∧ s.answers = [] ∧ s.log = []
  step := PrintRun.step

end PrintGateway.Agent
