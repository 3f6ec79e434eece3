import Mathlib.Data.Finset.Basic
import PrintGateway.Machine.Keyed
import PrintGateway.Machine.Run
import PrintGateway.Model.Agent.Ledger

/-!
# The dispatcher of the Agent

`dispatchJobWithContexts` is called by the WebSocket reader and by the poller at the same time.  A
call has one critical section under `inFlightMu`; the pending slot, the queues of rejections and of
terminal re-reports and the cleanup of an execution come after it, each under a lock of its own.  One
event is one such section, so a run is an interleaving of the calls, of the executions they start, of
the sweep that hands claims back and of the workers that empty the queues.
-/

namespace PrintGateway.Agent

open Machine Text Gateway

def maxPendingJobs : ℕ := 64
def maxPendingJobsPerPrinter : ℕ := 8
def maxRejectQueue : ℕ := 32
def maxTerminalReportQueue : ℕ := 32
def handBackBatch : ℕ := 4

/-- A delivery `decodeJobFields` accepted: what dispatching reads of it, and the session it came in.
The printer is the one its alias resolves to. -/
structure Delivery where
  id : Text
  printer : Text
  claimToken : Text
  session : ℕ
  idPresent : id ≠ []
  tokenPresent : claimToken ≠ []
  deriving DecidableEq

/-- `terminalExecutionResult`. -/
structure TerminalResult where
  status : LedgerStatus
  errMsg : Text
  claimToken : Text
  spoolerJobId : Text
  deriving DecidableEq, Repr

/-- What became of a delivery. -/
inductive DispatchOutcome
  | executing
  | handedBack
  | reReported
  | discarded
  deriving DecidableEq, Repr

/-- Where a call of `dispatchJobWithContexts` stands. -/
inductive DispatchCall
  | entered (delivery : Delivery)
  | rejecting (delivery : Delivery) (reason : RequeueReason)
  | reReporting (delivery : Delivery) (result : TerminalResult)
  -- in the in-flight map, with no pending slot yet
  | reserved (delivery : Delivery)
  -- found no pending slot; the reservation is still in the map
  | overflowing (delivery : Delivery)
  | returned (delivery : Delivery) (outcome : DispatchOutcome)
  deriving DecidableEq

inductive ExecutionPhase
  | running
  | forgotten
  | ended
  deriving DecidableEq, Repr

/-- The goroutine of an accepted delivery; its deferred calls forget the job and then give the slot
back. -/
structure Execution where
  delivery : Delivery
  phase : ExecutionPhase
  deriving DecidableEq

/-- An item of the durable list of claims to hand back. -/
structure PendingReturn where
  id : Text
  claimToken : Text
  deriving DecidableEq, Repr

/-- A pass of `reportPendingPreDispatchReturns`; `current` is the job it holds in the in-flight map. -/
structure HandBackSweep where
  items : List PendingReturn
  attempted : ℕ
  current : Option Text
  deriving DecidableEq, Repr

structure RejectWork where
  id : Text
  claimToken : Text
  reason : RequeueReason
  deriving DecidableEq, Repr

structure TerminalReportWork where
  id : Text
  result : TerminalResult
  deriving DecidableEq, Repr

/-- `rejectKey`. -/
def RejectWork.key (work : RejectWork) : Text :=
  work.id ++ '\x00' :: work.claimToken ++ '\x00' :: work.reason.text

def TerminalReportWork.key (work : TerminalReportWork) : Text :=
  work.id ++ '\x00' :: work.result.claimToken

/-- A bounded channel with the keys of the work that is queued or in a worker's hands. -/
structure WorkQueue (Work : Type) where
  queued : List Work
  taken : List Work
  pending : Finset Text
  deriving DecidableEq

namespace WorkQueue

variable {Work : Type} [DecidableEq Work]

def empty : WorkQueue Work := ⟨[], [], ∅⟩

def push (key : Work → Text) (work : Work) (queue : WorkQueue Work) : WorkQueue Work :=
  { queue with queued := queue.queued ++ [work], pending := insert (key work) queue.pending }

/-- A worker receives the oldest piece of work. -/
def take (queue : WorkQueue Work) : Option (WorkQueue Work) :=
  match queue.queued with
  | [] => none
  | work :: rest => some { queue with queued := rest, taken := work :: queue.taken }

/-- A worker is done with a piece of work. -/
def finish (key : Work → Text) (work : Work) (queue : WorkQueue Work) : Option (WorkQueue Work) :=
  if work ∈ queue.taken then
    some { queue with taken := queue.taken.erase work, pending := queue.pending.erase (key work) }
  else none

end WorkQueue

/-- The memory of the Agent that dispatching reads and writes, and everything that is under way in it. -/
structure Dispatcher where
  stopping : Bool
  execFence : Bool
  endedSessions : List ℕ
  terminalExecution : Keyed Text TerminalResult
  inFlight : Finset Text
  inFlightPrinters : Keyed Text Text
  pendingByPrinter : Keyed Text ℕ
  pendingSlots : ℕ
  rejects : WorkQueue RejectWork
  terminalReports : WorkQueue TerminalReportWork
  calls : List DispatchCall
  executions : List Execution
  sweep : Option HandBackSweep

inductive DispatchEvent
  -- a reader or the poller calls `dispatchJobWithContexts`
  | deliver (delivery : Delivery)
  -- the next section of a call; a `select` that may take its session first does so
  | advance (call : ℕ) (sessionFirst : Bool)
  -- the sections of an execution, which a panic may bring to its end as well
  | remember (execution : ℕ) (status : LedgerStatus) (errMsg spoolerJobId : Text)
  | unwind (execution : ℕ)
  -- the hand-back sweep
  | sweepStart (items : List PendingReturn)
  | sweepNext
  | sweepRelease
  | sweepStop
  -- the workers behind the queues
  | takeReject
  | finishReject (work : RejectWork)
  | takeTerminalReport
  | finishTerminalReport (work : TerminalReportWork)
  -- what happens around
  | shutdown
  | fence (on : Bool)
  | endSession (session : ℕ)

namespace Dispatcher

/-- `a.pendingByPrinter[printer]`, zero when there is no entry. -/
def pendingAt (s : Dispatcher) (printer : Text) : ℕ := (s.pendingByPrinter.find? printer).getD 0

/-- The bookkeeping of an accepted delivery. -/
def reserve (s : Dispatcher) (delivery : Delivery) : Dispatcher :=
  { s with
    inFlight := insert delivery.id s.inFlight
    inFlightPrinters := s.inFlightPrinters.put delivery.id delivery.printer
    pendingByPrinter :=
      if delivery.printer ≠ [] then
        s.pendingByPrinter.put delivery.printer (s.pendingAt delivery.printer + 1)
      else s.pendingByPrinter }

/-- One pending job less at a printer; a count is never negative. -/
def uncount (printer : Text) (pending : Keyed Text ℕ) : Keyed Text ℕ :=
  match pending.find? printer with
  | none => pending
  | some count =>
    if 1 < count then pending.put printer (count - 1) else pending.filter fun other _ => other ≠ printer

/-- `forgetJob`. -/
def forgetJob (s : Dispatcher) (id : Text) : Dispatcher :=
  let printer := (s.inFlightPrinters.find? id).getD []
  { s with
    inFlight := s.inFlight.erase id
    inFlightPrinters := s.inFlightPrinters.filter fun other _ => other ≠ id
    pendingByPrinter := if printer ≠ [] then uncount printer s.pendingByPrinter else s.pendingByPrinter }

/-- `enqueueReject`: the new queue, and whether the rejection is queued.  When the session has ended
and the queue has room, either arm of the `select` may be taken. -/
def enqueueReject (s : Dispatcher) (session : ℕ) (work : RejectWork) (sessionFirst : Bool) : Dispatcher × Bool :=
  if work.id = [] then (s, false)
  else if work.key ∈ s.rejects.pending then (s, true)
  else
    let ended := session ∈ s.endedSessions
    let room := s.rejects.queued.length < maxRejectQueue
    if room ∧ ¬ (ended ∧ sessionFirst) then
      ({ s with rejects := s.rejects.push RejectWork.key work }, true)
    else (s, false)

/-- `enqueueTerminalReReport`. -/
def enqueueTerminalReReport (s : Dispatcher) (session : ℕ) (work : TerminalReportWork) : Dispatcher × Bool :=
  if session ∈ s.endedSessions ∨ work.id = [] ∨ work.result.claimToken = [] then (s, false)
  else if work.key ∈ s.terminalReports.pending then (s, true)
  else if s.terminalReports.queued.length < maxTerminalReportQueue then
    ({ s with terminalReports := s.terminalReports.push TerminalReportWork.key work }, true)
  else (s, false)

/-- The critical section of `dispatchJobWithContexts`. -/
def enter (s : Dispatcher) (delivery : Delivery) : Dispatcher × DispatchCall :=
  if s.stopping then (s, .rejecting delivery .agentShuttingDown)
  else if s.execFence then (s, .rejecting delivery .agentShuttingDown)
  else
    match s.terminalExecution.find? delivery.id with
    | some result => (s, .reReporting delivery result)
    | none =>
      if delivery.id ∈ s.inFlight then (s, .returned delivery .discarded)
      else if delivery.printer ≠ [] ∧ maxPendingJobsPerPrinter ≤ s.pendingAt delivery.printer then
        (s, .rejecting delivery .printerPendingFull)
      else (s.reserve delivery, .reserved delivery)

def setCall (s : Dispatcher) (call : ℕ) (next : DispatchCall) : Dispatcher :=
  { s with calls := s.calls.set call next }

def setPhase (s : Dispatcher) (execution : ℕ) (delivery : Delivery) (phase : ExecutionPhase) : Dispatcher :=
  { s with executions := s.executions.set execution ⟨delivery, phase⟩ }

/-- The next section of a call. -/
def advance (s : Dispatcher) (call : ℕ) (sessionFirst : Bool) : DispatchCall → Option Dispatcher
  | .entered delivery =>
    some ((s.enter delivery).1.setCall call (s.enter delivery).2)
  | .rejecting delivery reason =>
    let queued :=
      s.enqueueReject delivery.session ⟨delivery.id, delivery.claimToken, reason⟩ sessionFirst
    some (queued.1.setCall call (.returned delivery (if queued.2 then .handedBack else .discarded)))
  | .reReporting delivery result =>
    let queued := s.enqueueTerminalReReport delivery.session ⟨delivery.id, result⟩
    some (queued.1.setCall call (.returned delivery (if queued.2 then .reReported else .discarded)))
  | .reserved delivery =>
    if s.pendingSlots < maxPendingJobs then
      some
        { s.setCall call (.returned delivery .executing) with
          pendingSlots := s.pendingSlots + 1
          executions := s.executions ++ [⟨delivery, .running⟩] }
    else some (s.setCall call (.overflowing delivery))
  | .overflowing delivery =>
    some ((s.forgetJob delivery.id).setCall call (.rejecting delivery .pendingFull))
  | .returned _ _ => none

/-- The next section of an execution. -/
def executionStep (s : Dispatcher) (execution : ℕ) : Execution → Option Dispatcher
  | ⟨delivery, .running⟩ => some ((s.forgetJob delivery.id).setPhase execution delivery .forgotten)
  | ⟨delivery, .forgotten⟩ =>
    some { s.setPhase execution delivery .ended with pendingSlots := s.pendingSlots - 1 }
  | ⟨_, .ended⟩ => none

/-- `rememberTerminalExecution`, called by a running execution with the token of its delivery. -/
def remember (s : Dispatcher) (status : LedgerStatus) (errMsg spoolerJobId : Text) : Execution → Option Dispatcher
  | ⟨delivery, .running⟩ =>
    some
      { s with
        terminalExecution :=
          s.terminalExecution.put delivery.id ⟨status, errMsg, delivery.claimToken, spoolerJobId⟩ }
  | _ => none

/-- The next turn of the loop of `reportPendingPreDispatchReturns`. -/
def sweepNext (s : Dispatcher) : HandBackSweep → Option Dispatcher
  | ⟨[], _, none⟩ => some { s with sweep := none }
  | ⟨item :: items, attempted, none⟩ =>
    if handBackBatch ≤ attempted then some { s with sweep := none }
    else if item.id ∈ s.inFlight then some { s with sweep := some ⟨items, attempted, none⟩ }
    else
      some
        { s with
          inFlight := insert item.id s.inFlight
          sweep := some ⟨items, attempted + 1, some item.id⟩ }
  | ⟨_, _, some _⟩ => none

/-- The end of an attempt to hand a claim back, with whatever the Gateway answered. -/
def sweepRelease (s : Dispatcher) : HandBackSweep → Option Dispatcher
  | ⟨items, attempted, some id⟩ =>
    some { s with inFlight := s.inFlight.erase id, sweep := some ⟨items, attempted, none⟩ }
  | ⟨_, _, none⟩ => none

def step (s : Dispatcher) : DispatchEvent → Option Dispatcher
  | .deliver delivery => some { s with calls := s.calls ++ [.entered delivery] }
  | .advance call sessionFirst => s.calls[call]?.bind (s.advance call sessionFirst)
  | .remember execution status errMsg spoolerJobId =>
    s.executions[execution]?.bind (s.remember status errMsg spoolerJobId)
  | .unwind execution => s.executions[execution]?.bind (s.executionStep execution)
  | .sweepStart items =>
    -- `terminalReportMu` lets one pass run at a time
    if s.sweep.isNone ∧ items.length ≤ maxPendingJobs + handBackBatch then
      some { s with sweep := some ⟨items, 0, none⟩ }
    else none
  | .sweepNext => s.sweep.bind s.sweepNext
  | .sweepRelease => s.sweep.bind s.sweepRelease
  | .sweepStop =>
    if s.sweep.any fun sweep => sweep.current.isNone then some { s with sweep := none } else none
  | .takeReject => s.rejects.take.map fun rejects => { s with rejects }
  | .finishReject work =>
    (s.rejects.finish RejectWork.key work).map fun rejects => { s with rejects }
  | .takeTerminalReport => s.terminalReports.take.map fun terminalReports => { s with terminalReports }
  | .finishTerminalReport work =>
    (s.terminalReports.finish TerminalReportWork.key work).map fun terminalReports =>
      { s with terminalReports }
  | .shutdown => some { s with stopping := true }
  | .fence on => some { s with execFence := on }
  | .endSession session => some { s with endedSessions := session :: s.endedSessions }

/-- A started Agent. -/
def started : Dispatcher where
  stopping := false
  execFence := false
  endedSessions := []
  terminalExecution := .empty
  inFlight := ∅
  inFlightPrinters := .empty
  pendingByPrinter := .empty
  pendingSlots := 0
  rejects := .empty
  terminalReports := .empty
  calls := []
  executions := []
  sweep := none

end Dispatcher

/-- The dispatcher of one Agent process from its start on. -/
def dispatcher : System Dispatcher DispatchEvent where
  init s := s = .started
  step := Dispatcher.step

end PrintGateway.Agent
