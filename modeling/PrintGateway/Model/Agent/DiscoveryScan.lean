import PrintGateway.Machine.Run

/-!
# The one-scan semaphore of discovery

A startup scan, a polled session and a WebSocket trigger take the one slot of `discoverySem` and run
`runBoundedDiscovery`, which starts a worker and comes back when the worker does or when the bound is
over.  A caller that leaves its worker behind hands the slot to a detached waiter with a watchdog.

The channel is modelled together with the scan that sent its token, which no code reads: a receive
takes whatever token there is.  Time is not modelled, so a bound and a watchdog may expire at any
moment.
-/

namespace PrintGateway.Agent

open Machine

inductive ScanKind
  | startup
  | session
  | trigger
  deriving DecidableEq, Repr

/-- Where the caller of a scan stands. -/
inductive CallerPhase
  -- a trigger loads its session first
  | lookingUp
  | ready
  | scanning
  -- `runBoundedDiscovery` answered `completed`, with the `Truncated` flag of its result
  | completed (truncated : Bool)
  -- the slot goes to a waiter
  | handingOver
  | releasing
  | done
  deriving DecidableEq, Repr

/-- The goroutine `runBoundedDiscovery` starts. -/
inductive WorkerPhase
  | idle
  | scanning
  -- the result is in `resultCh`
  | returned
  -- `finishedCh` is closed
  | finished
  deriving DecidableEq, Repr

/-- The goroutine of `releaseDiscoverySemaphoreWhenFinished`. -/
inductive WaiterPhase
  | absent
  | waiting (generation : UInt64)
  | releasing
  | done
  deriving DecidableEq, Repr

/-- A scan that got the slot; `published` says whether its worker has published a progress snapshot.  The printers of
a snapshot are a slice of their own, so they are not `nil` even when there are none. -/
structure Scan where
  kind : ScanKind
  caller : CallerPhase
  worker : WorkerPhase
  published : Bool
  waiter : WaiterPhase
  deriving DecidableEq, Repr

/-- What the scans share. -/
structure ScanSlot where
  discoverySem : Option ℕ
  discoveryGen : UInt64
  discoveryWedged : Bool
  deriving DecidableEq, Repr

inductive ScanEvent
  -- the caller
  | lookup (found : Bool)
  | start
  | receiveResult
  | expire
  | proceed
  -- the worker
  | publish
  | sendResult
  | closeFinished
  -- the waiter
  | observeFinished
  | watchdog
  | releaseWaiter
  deriving DecidableEq, Repr

/-- `<-a.discoverySem`, which blocks on an empty channel. -/
def ScanSlot.receive (slot : ScanSlot) : Option ScanSlot :=
  if slot.discoverySem.isSome then some { slot with discoverySem := none } else none

namespace Scan

def acquired (kind : ScanKind) : Scan where
  kind
  caller := if kind = .trigger then .lookingUp else .ready
  worker := .idle
  published := false
  waiter := .absent

/-- The caller once `runBoundedDiscovery` has answered.  The startup scan looks at `completed` only; a
session also looks at `Truncated`. -/
def proceed (slot : ScanSlot) (scan : Scan) : Option (ScanSlot × Scan) :=
  match scan.caller with
  | .completed truncated =>
    let next := if truncated ∧ scan.kind ≠ .startup then CallerPhase.handingOver else .releasing
    some (slot, { scan with caller := next })
  | .handingOver =>
    -- the new generation is the one the waiter keeps
    some ({ slot with discoveryGen := slot.discoveryGen + 1 },
      { scan with caller := .done, waiter := .waiting (slot.discoveryGen + 1) })
  | .releasing => slot.receive.map fun slot => (slot, { scan with caller := .done })
  | .lookingUp | .ready | .scanning | .done => none

/-- The `select` of the waiter. -/
def awake (slot : ScanSlot) (scan : Scan) (generation : UInt64) (forced : Bool) : ScanSlot × Scan :=
  if slot.discoveryGen = generation then
    (if forced then { slot with discoveryGen := generation + 1, discoveryWedged := true } else slot,
      { scan with waiter := .releasing })
  else (slot, { scan with waiter := .done })

def step (slot : ScanSlot) (scan : Scan) : ScanEvent → Option (ScanSlot × Scan)
  | .lookup found =>
    if scan.caller = .lookingUp then
      some (slot, { scan with caller := if found then .ready else .releasing })
    else none
  | .start =>
    if scan.caller = .ready then some (slot, { scan with caller := .scanning, worker := .scanning })
    else none
  | .receiveResult =>
    -- only `runBoundedDiscovery` sets `Truncated`: a result the worker sent has it unset
    if scan.caller = .scanning ∧ (scan.worker = .returned ∨ scan.worker = .finished) then
      some (slot, { scan with caller := .completed false })
    else none
  | .expire =>
    if scan.caller = .scanning then
      some (slot, { scan with caller := if scan.published then .completed true else .handingOver })
    else none
  | .proceed => scan.proceed slot
  | .publish =>
    if scan.worker = .scanning then some (slot, { scan with published := true }) else none
  | .sendResult =>
    if scan.worker = .scanning then some (slot, { scan with worker := .returned }) else none
  | .closeFinished =>
    if scan.worker = .returned then some (slot, { scan with worker := .finished }) else none
  | .observeFinished =>
    match scan.waiter, scan.worker with
    | .waiting generation, .finished => some (scan.awake slot generation false)
    | _, _ => none
  | .watchdog =>
    match scan.waiter with
    | .waiting generation => some (scan.awake slot generation true)
    | _ => none
  | .releaseWaiter =>
    if scan.waiter = .releasing then slot.receive.map fun slot => (slot, { scan with waiter := .done })
    else none

end Scan

structure DiscoveryScans where
  slot : ScanSlot
  scans : List Scan
  deriving DecidableEq, Repr

inductive DiscoveryEvent
  | request (kind : ScanKind)
  | scan (index : ℕ) (event : ScanEvent)
  deriving DecidableEq, Repr

namespace DiscoveryScans

/-- The send of a caller that asks for the slot; it is deferred when the slot is taken. -/
def request (s : DiscoveryScans) (kind : ScanKind) : DiscoveryScans :=
  if s.slot.discoverySem.isNone then
    { slot := { s.slot with discoverySem := some s.scans.length }, scans := s.scans ++ [.acquired kind] }
  else s

def step (s : DiscoveryScans) : DiscoveryEvent → Option DiscoveryScans
  | .request kind => some (s.request kind)
  | .scan index event =>
    s.scans[index]?.bind fun scan => (scan.step s.slot event).map fun next =>
      { slot := next.1, scans := s.scans.set index next.2 }

def started : DiscoveryScans := ⟨⟨none, 0, false⟩, []⟩

end DiscoveryScans

/-- Discovery in one Agent process. -/
def discovery : System DiscoveryScans DiscoveryEvent where
  init s := s = .started
  step := DiscoveryScans.step

end PrintGateway.Agent
