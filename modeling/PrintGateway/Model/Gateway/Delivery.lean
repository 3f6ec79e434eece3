import PrintGateway.Machine.Update
import PrintGateway.Model.Gateway.JobRow

/-!
# Claims and delivery evidence

The statements that hand a job to an Agent and record what is known of the hand-over: the two claim
paths, the delivery-evidence writes and the releases of `job-delivery.ts`, and the heartbeat updates.
Each is one guarded update of the row.
-/

namespace PrintGateway.Gateway

open Machine Text

/-- The assignment made by both claim paths. -/
def claimAssignment (stamp : Instant) (token : Token) (error : Option Text) (row : JobRow) : JobRow :=
  { row with
    status := .claimed
    claimedAt := some stamp.clock
    updatedAt := stamp.clock
    claimToken := some token
    closedClaimTokenHash := none
    deliveredAt := none
    ackedAt := none
    error := error
    deliveryAttempts := row.deliveryAttempts + 1 }

/-- The claim of one job for a WebSocket push, `inFlight` being the count read under the advisory lock.
Without `markDeliveryEvidencePending` the claim keeps the error text of the row. -/
def claimJobForDelivery (stamp : Instant) (owners : Owners) (inFlight : ℕ)
    (markDeliveryEvidencePending : Bool) (token : Token) : Update JobRow where
  guard row := inFlight < maxAgentInFlightJobs ∧ row.status = .queued ∧
    row.error ≠ some printerNotSharedPause ∧ stamp.now < row.expiresAt ∧ row.WithinBudgets ∧
    owners.Claimable stamp.now
  set row := claimAssignment stamp token
    (if markDeliveryEvidencePending then some deliveryEvidencePending else row.error) row

/-- A row of the `stale_candidates` query of a poll. -/
def StaleCandidate (now : ℤ) (owners : Owners) (row : JobRow) : Prop :=
  now < row.expiresAt ∧ row.StaleUnevidencedClaim owners.staleSeconds now ∧ owners.Claimable now

instance (now : ℤ) (owners : Owners) (row : JobRow) : Decidable (StaleCandidate now owners row) :=
  inferInstanceAs (Decidable (_ ∧ _))

/-- A row of the `queued_candidates` query of a poll. -/
def QueuedCandidate (now : ℤ) (owners : Owners) (row : JobRow) : Prop :=
  now < row.expiresAt ∧ row.status = .queued ∧ row.error ≠ some printerNotSharedPause ∧
    row.WithinBudgets ∧ owners.Claimable now

instance (now : ℤ) (owners : Owners) (row : JobRow) : Decidable (QueuedCandidate now owners row) :=
  inferInstanceAs (Decidable (_ ∧ _))

/-- A row of `candidate_ids`; both queries are limited to `queuedLimit` rows. -/
def PollCandidate (now : ℤ) (owners : Owners) (queuedLimit : ℕ) (row : JobRow) : Prop :=
  0 < queuedLimit ∧ (StaleCandidate now owners row ∨ QueuedCandidate now owners row)

instance (now : ℤ) (owners : Owners) (queuedLimit : ℕ) (row : JobRow) :
    Decidable (PollCandidate now owners queuedLimit row) :=
  inferInstanceAs (Decidable (_ ∧ _))

/-- The assignment of the poll's `UPDATE`: a reclaimed claim also pays one retry. -/
def pollAssignment (stamp : Instant) (token : Token) (row : JobRow) : JobRow :=
  { claimAssignment stamp token (some deliveryEvidencePending) row with
    retries := if row.status = .claimed then row.retries + 1 else row.retries }

/-- The poll claim of one row, its statement taken as atomic. -/
def pollClaim (stamp : Instant) (owners : Owners) (queuedLimit : ℕ) (token : Token) : Update JobRow where
  guard row := PollCandidate stamp.now owners queuedLimit row
  set row := pollAssignment stamp token row

/-- The second half of the poll statement: `claimable` locks the newest version of a candidate row and
checks the owner conditions again, and nothing else. -/
def lockClaimable (stamp : Instant) (owners : Owners) (token : Token) : Update JobRow where
  guard _ := owners.Claimable stamp.now
  set row := pollAssignment stamp token row

def markJobDelivered (stamp : Instant) (token : Token) : Update JobRow where
  guard row := (row.status = .claimed ∨ row.status = .printing) ∧ row.claimToken = some token
  set row :=
    { row with
      deliveredAt := some stamp.clock
      error := if row.error = some deliveryEvidencePending then none else row.error
      updatedAt := stamp.clock }

def websocketDeliveryUnknown : Text :=
  unknownPartialDelivery ++ ": WebSocket frame was accepted but delivery evidence could not be persisted; " ++
    "physical output is unknown (reconciliation is allowed only for the same fenced attempt)"

/-- The frame was accepted and its evidence was lost: the attempt ends as unknown and keeps its fence. -/
def markJobDeliveryUnknown (stamp : Instant) (token : Token) : Update JobRow where
  guard row := row.status = .claimed ∧ row.claimToken = some token
  set row :=
    { row with
      status := .failed
      error := some websocketDeliveryUnknown
      deliveredAt := some (row.deliveredAt.getD stamp.clock)
      claimedAt := some (row.claimedAt.getD stamp.clock)
      updatedAt := stamp.clock }

def recordJobAck (stamp : Instant) (agent : Lifecycle) (token : Token) : Update JobRow where
  guard row := (row.status = .claimed ∨ row.status = .printing) ∧ row.claimToken = some token ∧ agent = .active
  set row := { row with ackedAt := some (row.ackedAt.getD stamp.clock), updatedAt := stamp.clock }

/-- The claim a failed push may give back: nothing says the frame left. -/
def Undelivered (token : Option Token) (row : JobRow) : Prop :=
  row.status = .claimed ∧ row.claimToken = token ∧ row.deliveredAt = none ∧ row.ackedAt = none

instance (token : Option Token) (row : JobRow) : Decidable (Undelivered token row) :=
  inferInstanceAs (Decidable (_ ∧ _))

/-- First statement of `releaseUndeliveredClaim`. -/
def requeueUndeliveredClaim (stamp : Instant) (token : Option Token) (reason : Text) : Update JobRow where
  guard row := Undelivered token row ∧ row.deliveryAttempts < maxDeliveryAttempts ∧ stamp.now < row.expiresAt
  set row :=
    { row with
      status := .queued
      claimedAt := none
      claimToken := none
      updatedAt := stamp.clock
      error := some reason }

/-- Second statement of `releaseUndeliveredClaim`, run when the first matched no row. -/
def failUndeliveredClaim (stamp : Instant) (token : Option Token) (reason : Text) : Update JobRow where
  guard row := Undelivered token row ∧ maxDeliveryAttempts ≤ row.deliveryAttempts
  set row :=
    { row with
      status := .failed
      claimToken := none
      claimedAt := none
      updatedAt := stamp.clock
      error := some (reason ++ " (giving up after 5 delivery attempts)") }

/-- Heartbeat keep-alive of a running attempt, stamped with the transaction's `now()`. -/
def keepAlive (stamp : Instant) (token : Token) : Update JobRow where
  guard row := (row.status = .claimed ∨ row.status = .printing) ∧ row.claimToken = some token
  set row := { row with updatedAt := stamp.now }

/-- Heartbeat resume of a job paused until its printer is shared again. -/
def resumeShared : Update JobRow where
  guard row := row.status = .queued ∧ row.error = some printerNotSharedPause
  set row := { row with error := none }

end PrintGateway.Gateway
