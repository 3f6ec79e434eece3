import PrintGateway.Model.Text

/-!
# The print-job life cycle of the Gateway

The closed status vocabulary, the markers an error text carries when paper may have come out, and
the table of transitions an Agent report may request (`job-status.ts`, `job-maintenance.ts`).
-/

namespace PrintGateway.Gateway

open Text

inductive JobStatus
  | queued
  | claimed
  | printing
  | success
  | failed
  | expired
  deriving DecidableEq, Repr

inductive PhysicalOutcome
  | notPrinted
  | printed
  | unknown
  deriving DecidableEq, Repr

def stalePrintingSeconds : ℤ := 600
def maxRetries : ℤ := 5
def maxDeliveryAttempts : ℤ := 5
def maxAgentInFlightJobs : ℕ := 64
def maxClaimBatch : ℕ := 20
def maxErrorLength : ℕ := 2000
def lateSuccessMaxAge : ℤ := hours 24
def expiredLateSuccessGrace : ℤ := minutes 5

def deliveryEvidencePending : Text := "DELIVERY_EVIDENCE_PENDING"

def printerNotSharedPause : Text :=
  "Agent returned job before execution (printer_not_shared)"

def agentExecutionTimeout : Text := "AGENT_EXECUTION_TIMEOUT"
def agentRestartDuringPrint : Text := "AGENT_RESTART_DURING_PRINT"
def jobExpiredDuringPrint : Text := "JOB_EXPIRED_DURING_PRINT"
def unknownPartialDelivery : Text := "UNKNOWN_PARTIAL_DELIVERY"
def unknownSubmissionOutcome : Text := "UNKNOWN_SUBMISSION_OUTCOME"

def physicalOutcomeUnknownMarkers : List Text :=
  [agentExecutionTimeout, agentRestartDuringPrint, jobExpiredDuringPrint, unknownPartialDelivery,
    unknownSubmissionOutcome]

/-- Errors that say the Gateway gave up waiting, and that a late success report may override. -/
def lateSuccessErrorMarkers : List Text := [agentExecutionTimeout, agentRestartDuringPrint]

/-- An absent error is read as the empty text. -/
def hasUnknownPhysicalOutcomeMarker (error : Option Text) : Bool :=
  physicalOutcomeUnknownMarkers.any fun marker => startsWith (error.getD []) marker

/-- Success of a transport is no proof of paper, so it never reads as printed. -/
def derivePhysicalOutcome (status : JobStatus) (error : Option Text) : PhysicalOutcome :=
  if status = .success then .unknown
  else if hasUnknownPhysicalOutcomeMarker error then .unknown
  else .notPrinted

theorem derivePhysicalOutcome_eq_notPrinted_iff {status : JobStatus} {error : Option Text} :
    derivePhysicalOutcome status error = .notPrinted ↔
      status ≠ .success ∧ hasUnknownPhysicalOutcomeMarker error = false := by
  unfold derivePhysicalOutcome
  split <;> simp_all

/-- Every marker survives the cut to the stored error length. -/
theorem hasUnknownPhysicalOutcomeMarker_take (text : Text) :
    hasUnknownPhysicalOutcomeMarker (some (text.take maxErrorLength)) =
      hasUnknownPhysicalOutcomeMarker (some text) := by
  have short : ∀ marker ∈ physicalOutcomeUnknownMarkers, marker.length ≤ maxErrorLength := by decide
  unfold hasUnknownPhysicalOutcomeMarker
  rw [Bool.eq_iff_iff]
  simp only [List.any_eq_true, Option.getD_some]
  refine exists_congr fun marker => and_congr_right fun member => ?_
  rw [startsWith_take (short marker member)]

namespace JobStatus

def isTerminal (status : JobStatus) : Bool :=
  status == .success || status == .failed || status == .expired

/-- The general transition table. -/
def allowedTransitions : JobStatus → List JobStatus
  | .claimed => [.printing, .success, .failed, .queued]
  | .printing => [.success, .failed]
  | .queued | .success | .failed | .expired => []

/-- Terminal statuses have no successor, the authorized late success of a failure apart. -/
def canTransition (source target : JobStatus) (allowLateSuccess : Bool) : Bool :=
  if source.isTerminal then allowLateSuccess && target == .success && source == .failed
  else source.allowedTransitions.contains target

end JobStatus

/-- Reasons with which an Agent hands a job back before it touches the printer. -/
inductive RequeueReason
  | pendingFull
  | printerPendingFull
  | printerNotAtDesiredState
  | printerNotShared
  | agentShuttingDown
  | ledgerUnavailable
  deriving DecidableEq, Repr

namespace RequeueReason

def text : RequeueReason → Text
  | pendingFull => "pending_full"
  | printerPendingFull => "printer_pending_full"
  | printerNotAtDesiredState => "printer_not_at_desired_state"
  | printerNotShared => "printer_not_shared"
  | agentShuttingDown => "agent_shutting_down"
  | ledgerUnavailable => "ledger_unavailable"

end RequeueReason

end PrintGateway.Gateway
