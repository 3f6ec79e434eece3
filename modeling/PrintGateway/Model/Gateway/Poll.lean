import PrintGateway.Model.Gateway.Writers

/-!
# The poll claim as two steps

Under READ COMMITTED the candidate queries of a poll see the snapshot of the statement, while
`claimable` locks the newest version of each candidate row and evaluates only its own conditions on
it.  Sweeps, reports and evidence writes take no advisory lock, so they may commit in between; claims
of the same agent do take it and are excluded until the poll ends.
-/

namespace PrintGateway.Gateway

open Machine

/-- A poll that has evaluated its candidate queries and not yet locked the row. -/
structure PendingPoll where
  now : ℤ
  staleSeconds : ℤ
  deriving DecidableEq, Repr

/-- One job row, the poll that selected it, and how often the job was claimed. -/
structure Polled where
  row : JobRow
  poll : Option PendingPoll
  claims : ℕ
  deriving DecidableEq, Repr

inductive PollEvent
  | write (stamp : Instant) (op : JobOp)
  | snapshot (now : ℤ) (owners : Owners) (queuedLimit : ℕ)
  | lock (clock : ℤ) (owners : Owners) (token : Token)
  | skip
  deriving DecidableEq, Repr

/-- The claim paths, serialized per agent by the advisory lock. -/
def JobOp.takesClaimLock : JobOp → Bool
  | .claimJobForDelivery .. | .pollClaim .. => true
  | _ => false

namespace Polled

/-- A statement other than a poll in progress; claims wait for the advisory lock. -/
def write (stamp : Instant) (op : JobOp) (s : Polled) : Option Polled :=
  if op.takesClaimLock ∧ s.poll.isSome then none
  else
    some
      { s with
        row := op.next stamp s.row
        claims := if op.takesClaimLock ∧ op.next stamp s.row ≠ s.row then s.claims + 1 else s.claims }

/-- The candidate queries select the row on the statement's snapshot. -/
def snapshot (now : ℤ) (owners : Owners) (queuedLimit : ℕ) (s : Polled) : Option Polled :=
  if s.poll = none ∧ PollCandidate now owners queuedLimit s.row then
    some { s with poll := some ⟨now, owners.staleSeconds⟩ }
  else none

/-- `claimable` locks the newest version and the `UPDATE` claims it. -/
def lock (clock : ℤ) (owners : Owners) (token : Token) (s : Polled) : Option Polled :=
  s.poll.bind fun poll =>
    ((lockClaimable ⟨poll.now, clock⟩ owners token).exec s.row).map fun row =>
      { row := row, poll := none, claims := s.claims + 1 }

/-- The row is locked by another transaction, its owners no longer qualify, or a limit cut it off. -/
def skip (s : Polled) : Option Polled := some { s with poll := none }

def step (s : Polled) : PollEvent → Option Polled
  | .write stamp op => s.write stamp op
  | .snapshot now owners queuedLimit => s.snapshot now owners queuedLimit
  | .lock clock owners token => s.lock clock owners token
  | .skip => s.skip

end Polled

/-- One job row under every writer, polls in two steps. -/
def polling : System Polled PollEvent where
  init s := ∃ createdAt expiresAt, s = ⟨.enqueued createdAt expiresAt, none, 0⟩
  step := Polled.step

/-- The inversion lemma of `Polled.step`. -/
inductive PollStep (s : Polled) : PollEvent → Polled → Prop
  | write {stamp : Instant} {op : JobOp} : ¬ (op.takesClaimLock ∧ s.poll.isSome) → PollStep s (.write stamp op)
        { s with
          row := op.next stamp s.row
          claims := if op.takesClaimLock ∧ op.next stamp s.row ≠ s.row then s.claims + 1 else s.claims }
  | snapshot {now : ℤ} {owners : Owners} {queuedLimit : ℕ} :
      s.poll = none → PollCandidate now owners queuedLimit s.row →
      PollStep s (.snapshot now owners queuedLimit) { s with poll := some ⟨now, owners.staleSeconds⟩ }
  | lock {clock : ℤ} {owners : Owners} {token : Token} {poll : PendingPoll} :
      s.poll = some poll → owners.Claimable poll.now →
      PollStep s (.lock clock owners token)
        { row := pollAssignment ⟨poll.now, clock⟩ token s.row, poll := none, claims := s.claims + 1 }
  | skip : PollStep s .skip { s with poll := none }

theorem pollStep_of_step {s s' : Polled} {event : PollEvent}
    (step : polling.step s event = some s') : PollStep s event s' := by
  cases event with
  | write stamp op =>
    simp only [polling, Polled.step, Polled.write, Option.ite_none_left_eq_some, Option.some.injEq] at step
    obtain ⟨free, rfl⟩ := step
    exact .write free
  | snapshot now owners queuedLimit =>
    simp only [polling, Polled.step, Polled.snapshot, Option.ite_none_right_eq_some, Option.some.injEq] at step
    obtain ⟨⟨idle, candidate⟩, rfl⟩ := step
    exact .snapshot idle candidate
  | lock clock owners token =>
    obtain ⟨poll, pending, locked⟩ := Option.bind_eq_some_iff.mp step
    obtain ⟨row, executed, rfl⟩ := Option.map_eq_some_iff.mp locked
    obtain ⟨claimable, rfl⟩ := Update.exec_eq_some_iff.mp executed
    exact .lock pending claimable
  | skip =>
    cases step
    exact .skip

end PrintGateway.Gateway
