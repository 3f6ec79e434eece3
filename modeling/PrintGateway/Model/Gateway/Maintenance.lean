import PrintGateway.Model.Gateway.Delivery

/-!
# The maintenance sweep

The eight statements of `sweepPrintJobs`, in the order the sweep runs them.  Each selects its rows
with `FOR UPDATE SKIP LOCKED` in the query that states the conditions, so for one row it is a guarded
update; the batch limits of a whole table are in `Sweep`.
-/

namespace PrintGateway.Gateway

open Machine Text

def expiredDuringPrint : Text :=
  jobExpiredDuringPrint ++ ": physical output is unknown (full, partial or none)"

@[simp]
theorem expiredDuringPrint_marked : hasUnknownPhysicalOutcomeMarker (some expiredDuringPrint) = true := by decide

def expiredAfterDelivery : Text :=
  unknownPartialDelivery ++ ": job expired after delivery without an execution report (physical output is unknown)"

def silentDelivery : Text :=
  unknownPartialDelivery ++ ": claim lease expired after delivery without an execution report (physical output is " ++
    "unknown; reconciliation is allowed only for the same fenced attempt)"

def executionLeaseExpired : Text :=
  agentExecutionTimeout ++
    ": agent execution lease expired (physical output is unknown; manual reconciliation required)"

@[simp]
theorem executionLeaseExpired_marked :
    hasUnknownPhysicalOutcomeMarker (some executionLeaseExpired) = true := by decide

def exceededAfterStaleClaim : Text :=
  "exceeded max retries after a stale claim (agent likely crashed or lost connection)"

def exceededBeforeDelivery : Text := "exceeded max retries before delivery"

/-- The attempt may have produced paper when its row expires. -/
def AmbiguousAtExpiry (row : JobRow) : Prop :=
  row.status = .printing ∨ (row.status = .claimed ∧ row.Evidenced)

instance (row : JobRow) : Decidable (AmbiguousAtExpiry row) := inferInstanceAs (Decidable (_ ∨ _))

/-- `expired`: only an ambiguous attempt keeps its fence and a marker. -/
def expireOverdue (stamp : Instant) : Update JobRow where
  guard row := row.status.isTerminal = false ∧ row.expiresAt ≤ stamp.now
  set row :=
    { row with
      status := .expired
      error :=
        if row.status = .printing then some expiredDuringPrint
        else if row.status = .claimed ∧ row.Evidenced then some expiredAfterDelivery
        else none
      claimToken := if AmbiguousAtExpiry row then row.claimToken else none
      claimedAt := if AmbiguousAtExpiry row ∧ row.claimToken.isSome then row.claimedAt else none
      updatedAt := stamp.clock }

/-- `requeuedClaims`: a lease ran out without any sign of delivery. -/
def requeueStaleClaim (stamp : Instant) (staleSeconds : ℤ) : Update JobRow where
  guard row := row.StaleUnevidencedClaim staleSeconds stamp.now ∧ stamp.now < row.expiresAt
  set row :=
    { row with
      status := .queued
      claimedAt := none
      claimToken := none
      deliveredAt := none
      ackedAt := none
      retries := row.retries + 1
      updatedAt := stamp.clock }

/-- `silentDeliveries`: delivered, and no report within the lease. -/
def failSilentDelivery (stamp : Instant) (staleSeconds : ℤ) : Update JobRow where
  guard row := row.status = .claimed ∧ row.Evidenced ∧ row.LeaseStale staleSeconds stamp.now
  set row := { row with status := .failed, error := some silentDelivery, updatedAt := stamp.clock }

/-- `stalePrinting`: no report of a running attempt within ten minutes. -/
def failStalePrinting (stamp : Instant) : Update JobRow where
  guard row := row.status = .printing ∧ row.LeaseStale stalePrintingSeconds stamp.now
  set row :=
    { row with
      status := .failed
      error := some (if row.expiresAt ≤ stamp.now then expiredDuringPrint else executionLeaseExpired)
      claimToken := if row.expiresAt ≤ stamp.now then none else row.claimToken
      claimedAt := if row.expiresAt ≤ stamp.now then none else row.claimedAt
      updatedAt := stamp.clock }

/-- `exhaustedClaims`: a stale claim without evidence and without budget. -/
def failExhaustedClaim (stamp : Instant) (staleSeconds : ℤ) : Update JobRow where
  guard row := row.status = .claimed ∧ ¬ row.Evidenced ∧ row.LeaseStale staleSeconds stamp.now ∧ ¬ row.WithinBudgets
  set row :=
    { row with
      status := .failed
      error := some exceededAfterStaleClaim
      claimToken := none
      claimedAt := none
      updatedAt := stamp.clock }

/-- `exhaustedQueued`: a queued job without budget. -/
def failExhaustedQueued (stamp : Instant) : Update JobRow where
  guard row := row.status = .queued ∧ stamp.now < row.expiresAt ∧ ¬ row.WithinBudgets
  set row :=
    { row with
      status := .failed
      error := some exceededBeforeDelivery
      claimToken := none
      claimedAt := none
      updatedAt := stamp.clock }

/-- Drop the fence of an expired row once its grace window is over. -/
def dropExpiredFence (stamp : Instant) : Update JobRow where
  guard row := row.status = .expired ∧ row.claimToken.isSome ∧ row.expiresAt ≤ stamp.now - minutes 5
  set row := { row with claimToken := none, claimedAt := none }

def reconcilableFailurePatterns : List Text :=
  ["UNKNOWN_PARTIAL_DELIVERY:%", "AGENT_EXECUTION_TIMEOUT:%", "AGENT_RESTART_DURING_PRINT:%"]

/-- Drop the fence of an ambiguous failure once its late-success window is over. -/
def dropFailedFence (stamp : Instant) : Update JobRow where
  guard row := row.status = .failed ∧ row.claimToken.isSome ∧
    (∃ error ∈ row.error, ∃ pattern ∈ reconcilableFailurePatterns, like pattern error) ∧
    row.updatedAt ≤ stamp.now - hours 24
  set row := { row with claimToken := none, claimedAt := none }

/-- The statements of one sweep. -/
inductive SweepStatement
  | expired
  | requeuedClaims
  | silentDeliveries
  | stalePrinting
  | exhaustedClaims
  | exhaustedQueued
  | expiredFences
  | failedFences
  deriving DecidableEq, Repr

def SweepStatement.update (stamp : Instant) (staleSeconds : ℤ) : SweepStatement → Update JobRow
  | .expired => expireOverdue stamp
  | .requeuedClaims => requeueStaleClaim stamp staleSeconds
  | .silentDeliveries => failSilentDelivery stamp staleSeconds
  | .stalePrinting => failStalePrinting stamp
  | .exhaustedClaims => failExhaustedClaim stamp staleSeconds
  | .exhaustedQueued => failExhaustedQueued stamp
  | .expiredFences => dropExpiredFence stamp
  | .failedFences => dropFailedFence stamp

end PrintGateway.Gateway
