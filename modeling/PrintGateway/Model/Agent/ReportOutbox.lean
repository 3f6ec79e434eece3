import Mathlib.Data.List.Sort
import PrintGateway.Machine.Batch
import PrintGateway.Machine.Keyed
import PrintGateway.Machine.Run
import PrintGateway.Model.Agent.Ledger

/-!
# The outbox of terminal reports

A terminal row of the ledger keeps its claim token until the Gateway acknowledges the outcome; the rows
that still have one are the outbox.  `reportPendingTerminalStatuses` scans the oldest of them and reports
one after the other, while jobs go on writing their own rows.  A pass holds a lock, so there is never more
than one.  The Gateway answers a report with an acknowledgement or with a rejection, and a rejection is
permanent.  Local statements succeed, and the clock of the ledger does not go back.
-/

namespace PrintGateway.Agent

open Machine

abbrev LedgerTable := Keyed Text LedgerRow

structure TerminalReport where
  id : Text
  status : LedgerStatus
  lastError : Text
  claimToken : Token
  spoolerJobId : Text
  deriving DecidableEq, Repr

/-- The report of a row in the outbox. -/
def terminalReport (id : Text) (row : LedgerRow) : Option TerminalReport :=
  if row.isTerminal then
    row.claimToken.map fun token =>
      { id
        status := row.status
        lastError := row.lastError.getD []
        claimToken := token
        spoolerJobId := row.spoolerJobId.getD [] }
  else none

/-- The row of a job is in the outbox. -/
def Pending (entry : Text × LedgerRow) : Prop := (terminalReport entry.1 entry.2).isSome = true

instance (entry : Text × LedgerRow) : Decidable (Pending entry) :=
  inferInstanceAs (Decidable (_ = true))

/-- How many reports a pass scans. -/
def reportLimit : ℕ := 32

/-- `PendingTerminalReports`.  The query orders by `updated_at` only, so which rows of one instant it
takes is left open; `marked` says which rows it took. -/
def pendingTerminalReports (marked : List ((Text × LedgerRow) × Bool)) : List TerminalReport :=
  let taken := (marked.filter (·.2)).map Prod.fst
  (taken.insertionSort fun a b => a.2.updatedAt ≤ b.2.updatedAt).filterMap fun entry =>
    terminalReport entry.1 entry.2

/-- The rows a scan may take. -/
def Scans (ledger : LedgerTable) (marked : List ((Text × LedgerRow) × Bool)) : Prop :=
  marked.map Prod.fst = ledger.entries ∧ Batch Pending (fun entry => entry.2.updatedAt) reportLimit marked

instance (ledger : LedgerTable) (marked : List ((Text × LedgerRow) × Bool)) : Decidable (Scans ledger marked) :=
  inferInstanceAs (Decidable (_ ∧ _))

/-- The statements jobs make on their rows. -/
inductive LedgerWrite
  | reserveBeforeDispatch (token : Token)
  | beginPrint (token : Token) (allowUnknownReprint : Bool)
  | abortPrint (reason : Text)
  | updateStatusWithError (status : LedgerStatus) (message : Text)
  | updateTerminalWithEvidence (status : LedgerStatus) (message : Text) (spoolerJobId : Option Text)
  | recordSpoolerJobId (spoolerJobId : Text)
  | clearClaimToken (token : Token)
  | clearPreDispatchClaim (token : Token)
  deriving DecidableEq, Repr

/-- The row after a statement; a refused `BeginPrint` is rolled back. -/
def LedgerWrite.next (now : ℤ) : LedgerWrite → Option LedgerRow → Option LedgerRow
  | .reserveBeforeDispatch token, ledger => some (Agent.reserveBeforeDispatch now token ledger)
  | .beginPrint token allowUnknownReprint, ledger =>
    match Agent.beginPrint now token allowUnknownReprint ledger with
    | .ok begun => some begun
    | .error _ => ledger
  | .abortPrint reason, ledger => ledger.map (Agent.abortPrint now reason).next
  | .updateStatusWithError status message, ledger =>
    ledger.map (Agent.updateStatusWithError now status message)
  | .updateTerminalWithEvidence status message spoolerJobId, ledger =>
    if status = .success ∨ status = .failed then
      ledger.map (Agent.updateTerminalWithEvidence now status message spoolerJobId)
    else ledger
  | .recordSpoolerJobId spoolerJobId, ledger => ledger.map (Agent.recordSpoolerJobId now spoolerJobId).next
  | .clearClaimToken token, ledger => ledger.map (Agent.clearClaimToken token).next
  | .clearPreDispatchClaim token, ledger => ledger.map (Agent.clearPreDispatchClaim now token).next

/-- The statement on the row of a job. -/
def LedgerTable.write (ledger : LedgerTable) (now : ℤ) (id : Text) (write : LedgerWrite) : LedgerTable :=
  match write.next now (ledger.find? id) with
  | some row => ledger.put id row
  | none => ledger

/-- The deletions of `cleanup.go`. -/
inductive Cleanup
  | retention
  | ended
  | unknown
  deriving DecidableEq, Repr

def Cleanup.deletes (now : ℤ) : Cleanup → LedgerRow → Bool
  | .retention, row => decide (RetentionDue now row)
  | .ended, row => decide (ProvablyEnded row)
  | .unknown, row => decide (UnknownReconciled row)

/-- The ledger, the reports the running pass has still to send, and what the Gateway rejected so far. -/
structure OutboxState where
  clock : ℤ
  ledger : LedgerTable
  sending : List TerminalReport
  rejected : List TerminalReport

inductive OutboxEvent
  | write (now : ℤ) (id : Text) (write : LedgerWrite)
  | cleanup (now : ℤ) (cleanup : Cleanup)
  | restart (now : ℤ)
  | scan (now : ℤ) (marked : List ((Text × LedgerRow) × Bool))
  | report (acknowledged : Bool)

/-- The acknowledgement of a report clears its token. -/
def LedgerTable.acknowledge (ledger : LedgerTable) (report : TerminalReport) : LedgerTable :=
  ledger.update fun id row =>
    if id = report.id then (clearClaimToken report.claimToken).next row else row

def OutboxState.step (s : OutboxState) : OutboxEvent → Option OutboxState
  | .write now id write =>
    if s.clock ≤ now then some { s with clock := now, ledger := s.ledger.write now id write } else none
  | .cleanup now cleanup =>
    if s.clock ≤ now then
      some { s with clock := now, ledger := s.ledger.filter fun _ row => !cleanup.deletes now row }
    else none
  | .restart now =>
    -- the pass of the old process ends where it was
    if s.clock ≤ now then
      some { s with
        clock := now
        ledger := s.ledger.update fun _ => (markInterrupted now).next
        sending := [] }
    else none
  | .scan now marked =>
    if s.clock ≤ now ∧ s.sending = [] ∧ Scans s.ledger marked then
      some { s with clock := now, sending := pendingTerminalReports marked }
    else none
  | .report acknowledged =>
    match s.sending with
    | [] => none
    | report :: sending =>
      if acknowledged then
        if report ∈ s.rejected then none
        else some { s with ledger := s.ledger.acknowledge report, sending }
      else some { s with sending, rejected := report :: s.rejected }

/-- The outbox from an empty ledger on. -/
def reportOutbox : System OutboxState OutboxEvent where
  init s := s.ledger = .empty ∧ s.sending = [] ∧ s.rejected = []
  step := OutboxState.step

end PrintGateway.Agent
