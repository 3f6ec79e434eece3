import PrintGateway.Model.Gateway.JobStatus

/-!
# Rows the Gateway reads and writes when it hands out a job

A `print_jobs` row with the columns its writers touch, and the owner rows (agent, printer, tenant)
that gate a claim.  The predicates are the SQL conditions of `job-delivery.ts` and of the poll and
status handlers; a comparison with a null column is false.
-/

namespace PrintGateway.Gateway

/-- The columns of one `print_jobs` row that its writers read or assign. -/
structure JobRow where
  status : JobStatus
  error : Option Text
  retries : ℤ
  deliveryAttempts : ℤ
  claimedAt : Option ℤ
  claimToken : Option Token
  closedClaimTokenHash : Option (Digest Token)
  deliveredAt : Option ℤ
  ackedAt : Option ℤ
  expiresAt : ℤ
  createdAt : ℤ
  updatedAt : ℤ
  spoolerJobId : Option Text
  attemptId : Option Text
  deriving DecidableEq, Repr

namespace JobRow

/-- The row an accepted request inserts. -/
def enqueued (createdAt expiresAt : ℤ) : JobRow where
  status := .queued
  error := none
  retries := 0
  deliveryAttempts := 0
  claimedAt := none
  claimToken := none
  closedClaimTokenHash := none
  deliveredAt := none
  ackedAt := none
  expiresAt := expiresAt
  createdAt := createdAt
  updatedAt := createdAt
  spoolerJobId := none
  attemptId := none

/-- Some record says that the job may have left the Gateway under its present claim. -/
def Evidenced (row : JobRow) : Prop :=
  row.deliveredAt.isSome ∨ row.ackedAt.isSome ∨ row.error = some deliveryEvidencePending

instance (row : JobRow) : Decidable row.Evidenced := inferInstanceAs (Decidable (_ ∨ _))

/-- The claim lease has run out: the row was last touched before the staleness window. -/
def LeaseStale (staleSeconds : ℤ) (now : ℤ) (row : JobRow) : Prop :=
  row.updatedAt < now - seconds staleSeconds

instance (staleSeconds : ℤ) (now : ℤ) (row : JobRow) : Decidable (row.LeaseStale staleSeconds now) :=
  inferInstanceAs (Decidable (_ < _))

/-- Both delivery budgets still have room. -/
def WithinBudgets (row : JobRow) : Prop :=
  row.retries < maxRetries ∧ row.deliveryAttempts < maxDeliveryAttempts

instance (row : JobRow) : Decidable row.WithinBudgets := inferInstanceAs (Decidable (_ ∧ _))

/-- A claim nobody has evidence for, past its lease and within budget. -/
def StaleUnevidencedClaim (staleSeconds : ℤ) (now : ℤ) (row : JobRow) : Prop :=
  row.status = .claimed ∧ ¬ row.Evidenced ∧ row.LeaseStale staleSeconds now ∧ row.WithinBudgets

instance (staleSeconds : ℤ) (now : ℤ) (row : JobRow) : Decidable (row.StaleUnevidencedClaim staleSeconds now) :=
  inferInstanceAs (Decidable (_ ∧ _))

/-- The job occupies a slot of its Agent. -/
def InFlight (now : ℤ) (row : JobRow) : Prop :=
  (row.status = .claimed ∨ row.status = .printing) ∧ now < row.expiresAt

instance (now : ℤ) (row : JobRow) : Decidable (row.InFlight now) :=
  inferInstanceAs (Decidable (_ ∧ _))

end JobRow

inductive Lifecycle
  | active
  | disabled
  | retired
  deriving DecidableEq, Repr

inductive TenantLifecycle
  | active
  | suspended
  | deleted
  deriving DecidableEq, Repr

inductive AgentStatus
  | online
  | offline
  deriving DecidableEq, Repr

structure AgentRow where
  lifecycle : Lifecycle
  status : AgentStatus
  lastSeenAt : Option ℤ
  deriving DecidableEq, Repr

/-- `last_seen_at` is set, not in the future and not older than the window. -/
def FreshlySeen (windowSeconds : ℤ) (now : ℤ) (lastSeenAt : Option ℤ) : Prop :=
  ∃ seen ∈ lastSeenAt, seen ≤ now ∧ now - seconds windowSeconds ≤ seen

instance (windowSeconds : ℤ) (now : ℤ) :
    (lastSeenAt : Option ℤ) → Decidable (FreshlySeen windowSeconds now lastSeenAt)
  | none => isFalse (by simp [FreshlySeen])
  | some seen => decidable_of_iff (seen ≤ now ∧ now - seconds windowSeconds ≤ seen) (by simp [FreshlySeen])

/-- The agent is active, online and has a fresh heartbeat. -/
def AgentRow.Live (staleSeconds : ℤ) (now : ℤ) (agent : AgentRow) : Prop :=
  agent.lifecycle = .active ∧ agent.status = .online ∧ FreshlySeen staleSeconds now agent.lastSeenAt

instance (staleSeconds : ℤ) (now : ℤ) (agent : AgentRow) : Decidable (agent.Live staleSeconds now) :=
  inferInstanceAs (Decidable (_ ∧ _))

inductive PrinterStatus
  | online
  | busy
  | offline
  | error
  | unknown
  deriving DecidableEq, Repr

inductive ConnectionType
  | network
  | usb
  | spooler
  | ipp
  | ipps
  deriving DecidableEq, Repr

inductive PrinterProtocol
  | raw
  | escpos
  | zpl
  | tspl
  | ipp
  | ipps
  | spooler
  | windowsSpooler
  | unknown
  deriving DecidableEq, Repr

inductive ManagementSource
  | agent
  | manager
  deriving DecidableEq, Repr

structure PrinterRow where
  lifecycle : Lifecycle
  inventoryPresent : Bool
  sharedWithGateway : Bool
  status : PrinterStatus
  connectionType : ConnectionType
  protocol : PrinterProtocol
  managementSource : ManagementSource
  desiredRevision : ℤ
  appliedDesiredRevision : ℤ
  observedDesiredRevision : ℤ
  lastSeenAt : Option ℤ
  deriving DecidableEq, Repr

namespace PrinterRow

def printerStaleSeconds : ℤ := 90

/-- A printer of unknown health is executable only over a fully declared transport. -/
def DeclaredTransport (printer : PrinterRow) : Prop :=
  printer.connectionType = .spooler ∨ printer.connectionType ∈ [ConnectionType.ipp, .ipps] ∨
    (printer.connectionType = .network ∧ printer.protocol ∈ [PrinterProtocol.ipp, .ipps]) ∨
    (printer.connectionType ∈ [ConnectionType.network, .usb] ∧
      printer.protocol ∈ [PrinterProtocol.raw, .escpos, .zpl, .tspl])

instance (printer : PrinterRow) : Decidable printer.DeclaredTransport :=
  inferInstanceAs (Decidable (_ ∨ _))

/-- The Agent runs at least the revision the manager asked for. -/
def AtDesiredRevision (printer : PrinterRow) : Prop :=
  printer.desiredRevision ≤ printer.appliedDesiredRevision ∧ printer.desiredRevision ≤ printer.observedDesiredRevision

instance (printer : PrinterRow) : Decidable printer.AtDesiredRevision :=
  inferInstanceAs (Decidable (_ ∧ _))

/-- The printer part of `printerEligibilityPredicate`. -/
def Eligible (now : ℤ) (printer : PrinterRow) : Prop :=
  printer.lifecycle = .active ∧ printer.inventoryPresent = true ∧ printer.sharedWithGateway = true ∧
    (printer.status = .online ∨ printer.status = .busy ∨ (printer.status = .unknown ∧ printer.DeclaredTransport)) ∧
    (printer.managementSource = .agent ∨ printer.AtDesiredRevision) ∧
    FreshlySeen printerStaleSeconds now printer.lastSeenAt

instance (now : ℤ) (printer : PrinterRow) : Decidable (printer.Eligible now) :=
  inferInstanceAs (Decidable (_ ∧ _))

end PrinterRow

/-- The owner rows a claim or an admission reads besides the job.  `subscriptionLive` is the value of
`liveTenantSubscriptionPredicate`, and `staleSeconds` the configured agent threshold. -/
structure Owners where
  agent : AgentRow
  printer : PrinterRow
  tenant : TenantLifecycle
  subscriptionLive : Bool
  staleSeconds : ℤ
  deriving DecidableEq, Repr

/-- The owner conditions every claim query repeats. -/
def Owners.Claimable (now : ℤ) (owners : Owners) : Prop :=
  owners.agent.Live owners.staleSeconds now ∧ owners.printer.Eligible now ∧
    owners.tenant = .active ∧ owners.subscriptionLive = true

instance (now : ℤ) (owners : Owners) : Decidable (owners.Claimable now) :=
  inferInstanceAs (Decidable (_ ∧ _))

end PrintGateway.Gateway
