import PrintGateway.Model.Gateway.Writers

/-!
# Receipts

A job row leaves the table on three paths: the retention sweep, the operator cleanup and the deletion
of its agent.  Each writes a payload-free receipt first.  Only the columns that carry the outcome are
kept here.
-/

namespace PrintGateway.Gateway

open Machine Text

/-- The outcome columns of a `print_job_receipts` row. -/
structure Receipt where
  status : JobStatus
  error : Option Text
  closedClaimTokenHash : Option (Digest Token)
  deliveredAt : Option ℤ
  ackedAt : Option ℤ
  createdAt : ℤ
  updatedAt : ℤ
  deriving DecidableEq, Repr

/-- The receipt both cleanup paths write for a terminal row. -/
def archiveTerminal (row : JobRow) : Receipt where
  status := row.status
  error := row.error
  closedClaimTokenHash := row.closedClaimTokenHash
  deliveredAt := row.deliveredAt
  ackedAt := row.ackedAt
  createdAt := row.createdAt
  updatedAt := row.updatedAt

def printJobRetention : ℤ := hours 48

/-- `cleanupTerminalPrintJobs`. -/
def cleanupTerminalPrintJobs (now : ℤ) (row : JobRow) : Option Receipt :=
  if row.status.isTerminal ∧ row.claimToken = none ∧ row.updatedAt ≤ now - printJobRetention then
    some (archiveTerminal row)
  else none

/-- `DELETE /api/jobs` with its cut-off instant. -/
def cleanupByOperator (before : ℤ) (row : JobRow) : Option Receipt :=
  if row.status.isTerminal ∧ row.claimToken = none ∧ row.updatedAt < before then
    some (archiveTerminal row)
  else none

def agentDeletedDuringExecution : Text :=
  unknownPartialDelivery ++ ": Agent deleted during an accepted execution; inspect the physical printer before " ++
    "reprinting."

@[simp]
theorem agentDeletedDuringExecution_marked :
    hasUnknownPhysicalOutcomeMarker (some agentDeletedDuringExecution) = true := by decide

def agentDeletedBeforeDelivery : Text :=
  "AGENT_DELETED: Cancelled before delivery by workspace administrator."

/-- Something says that the Agent may have worked on the job. -/
def Uncertain (row : JobRow) : Prop :=
  row.status = .printing ∨ row.error = some deliveryEvidencePending ∨ row.deliveredAt.isSome ∨
    row.ackedAt.isSome ∨ row.spoolerJobId.isSome ∨ row.attemptId.isSome

instance (row : JobRow) : Decidable (Uncertain row) := inferInstanceAs (Decidable (_ ∨ _))

/-- `deleteAgent` archives every job of the agent and ends the ones still open. -/
def deleteAgent (stamp : Instant) (row : JobRow) : Receipt where
  status := if row.status.isTerminal then row.status else .failed
  error :=
    if row.status.isTerminal then row.error
    else if Uncertain row then some agentDeletedDuringExecution
    else some agentDeletedBeforeDelivery
  closedClaimTokenHash := row.closedClaimTokenHash.or (row.claimToken.map Digest.mk)
  deliveredAt := row.deliveredAt
  ackedAt := row.ackedAt
  createdAt := row.createdAt
  updatedAt := if row.status.isTerminal then row.updatedAt else stamp.clock

/-- A job is either live or reduced to its receipt. -/
inductive StoredJob
  | live (row : JobRow)
  | archived (receipt : Receipt)
  deriving DecidableEq, Repr

namespace StoredJob

def status : StoredJob → JobStatus
  | live row => row.status
  | archived receipt => receipt.status

def error : StoredJob → Option Text
  | live row => row.error
  | archived receipt => receipt.error

end StoredJob

end PrintGateway.Gateway
