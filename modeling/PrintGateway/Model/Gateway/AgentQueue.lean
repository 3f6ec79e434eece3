import PrintGateway.Machine.Counting
import PrintGateway.Model.Gateway.Poll

/-!
# The jobs of one agent

All job rows of an agent, its presence row, and the claim transaction that holds the agent's advisory
lock.  A claim transaction reads `now()` when it starts, counts the occupied slots in one statement
and claims in a later one, each under its own READ COMMITTED snapshot; the tenant row stays locked for
the whole transaction, the agent row only from the claiming statement on.
-/

namespace PrintGateway.Gateway

open Machine

/-- How far a claim transaction has come. -/
inductive ClaimPhase
  | locked
  | counted (inFlight : ℕ)
  | selected (queuedLimit : ℕ) (candidates : List ℕ)
  deriving DecidableEq, Repr

/-- The claim transaction that holds the advisory lock of the agent. -/
structure ClaimTransaction where
  now : ℤ
  phase : ClaimPhase
  deriving DecidableEq, Repr

structure AgentQueue where
  clock : ℤ
  agent : AgentRow
  tenant : TenantLifecycle
  rows : List JobRow
  claim : Option ClaimTransaction
  deriving DecidableEq, Repr

/-- The owner data of one job besides its agent and tenant. -/
structure JobOwner where
  printer : PrinterRow
  subscriptionLive : Bool
  deriving DecidableEq, Repr

/-- A row the poll's `UPDATE` claims. -/
structure Pick where
  position : ℕ
  owner : JobOwner
  token : Token
  deriving DecidableEq, Repr

inductive QueueEvent
  | advance (clock : ℤ)
  | presence (agent : AgentRow)
  | tenant (lifecycle : TenantLifecycle)
  | enqueue (expiresAt : ℤ)
  | write (position : ℕ) (now : ℤ) (op : JobOp)
  | lock (now : ℤ)
  | count
  | push (position : ℕ) (owner : JobOwner) (token : Token)
  | select (candidates : List (ℕ × JobOwner))
  | claimSelected (picks : List Pick)
  | finish
  deriving DecidableEq, Repr

namespace AgentQueue

variable (staleSeconds : ℤ)

def owners (s : AgentQueue) (owner : JobOwner) : Owners where
  agent := s.agent
  printer := owner.printer
  tenant := s.tenant
  subscriptionLive := owner.subscriptionLive
  staleSeconds := staleSeconds

/-- The rows of the agent that occupy a slot at an instant. -/
def inFlightAt (s : AgentQueue) (now : ℤ) : ℕ := s.rows.countP fun row => row.InFlight now

/-- The count both claim paths make: it skips stale claims without evidence, and it is zero when the
agent does not look live. -/
def countInFlight (s : AgentQueue) (now : ℤ) : ℕ :=
  if s.agent.Live staleSeconds now ∧ s.tenant = .active then
    s.rows.countP fun row => row.InFlight now ∧ ¬ row.StaleUnevidencedClaim staleSeconds now
  else 0

/-- The batch a poll may still claim. -/
def queuedLimit (inFlight : ℕ) : ℕ := min maxClaimBatch (maxAgentInFlightJobs - inFlight)

/-- The row is a candidate of the poll under the owner rows of the statement. -/
def selects (s : AgentQueue) (now : ℤ) (limit : ℕ) (candidate : ℕ × JobOwner) : Bool :=
  s.rows[candidate.1]?.any fun row =>
    PollCandidate now (s.owners staleSeconds candidate.2) limit row

def step (s : AgentQueue) : QueueEvent → Option AgentQueue
  | .advance clock => if s.clock ≤ clock then some { s with clock := clock } else none
  | .presence agent => some { s with agent := agent }
  | .tenant lifecycle => if s.claim = none then some { s with tenant := lifecycle } else none
  | .enqueue expiresAt => some { s with rows := s.rows ++ [.enqueued s.clock expiresAt] }
  | .write position now op =>
    if op.takesClaimLock = false ∧ now ≤ s.clock then
      some { s with rows := s.rows.modify position (op.next ⟨now, s.clock⟩) }
    else none
  | .lock now =>
    if s.claim = none ∧ s.tenant = .active ∧ now ≤ s.clock then
      some { s with claim := some ⟨now, .locked⟩ }
    else none
  | .count =>
    match s.claim with
    | some ⟨now, .locked⟩ =>
      some { s with claim := some ⟨now, .counted (s.countInFlight staleSeconds now)⟩ }
    | _ => none
  | .push position owner token =>
    match s.claim with
    | some ⟨now, .counted inFlight⟩ =>
      some
        { s with
          rows := s.rows.modify position (claimJobForDelivery ⟨now, s.clock⟩
            (s.owners staleSeconds owner) inFlight true token).next
          claim := none }
    | _ => none
  | .select candidates =>
    match s.claim with
    | some ⟨now, .counted inFlight⟩ =>
      if candidates.all (s.selects staleSeconds now (queuedLimit inFlight)) then
        some { s with claim := some ⟨now, .selected (queuedLimit inFlight) (candidates.map Prod.fst)⟩ }
      else none
    | _ => none
  | .claimSelected picks =>
    match s.claim with
    | some ⟨now, .selected limit candidates⟩ =>
      if picks.length ≤ limit ∧ (picks.map Pick.position).Nodup ∧ ∀ pick ∈ picks, pick.position ∈ candidates then
        some
          { s with
            rows := rewriteAll Pick.position (fun pick =>
              (lockClaimable ⟨now, s.clock⟩ (s.owners staleSeconds pick.owner) pick.token).next)
              picks s.rows
            claim := none }
      else none
    | _ => none
  | .finish => some { s with claim := none }

end AgentQueue

/-- The jobs of one agent, from an empty table. -/
def agentQueue (staleSeconds : ℤ) : System AgentQueue QueueEvent where
  init s := s.rows = [] ∧ s.claim = none
  step := AgentQueue.step staleSeconds

end PrintGateway.Gateway
