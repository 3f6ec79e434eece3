import PrintGateway.Model.Gateway.Retention

/-!
# Answers to status reports

The reply of `PATCH /api/agent/jobs`: an acknowledgement with the status and the physical outcome, or
a rejection with its HTTP status, code and text.  `patchJob` is the whole handler on one job, given
the version its first query read; `none` means that the query found no live row and the receipts were
consulted.
-/

namespace PrintGateway.Gateway

open Machine Text

def JobStatus.text : JobStatus → Text
  | .queued => "queued"
  | .claimed => "claimed"
  | .printing => "printing"
  | .success => "success"
  | .failed => "failed"
  | .expired => "expired"

inductive Reply
  | acknowledged (status : JobStatus) (physicalOutcome : PhysicalOutcome)
  | rejected (httpStatus : ℕ) (code : Option Text) (error : Text)
  deriving DecidableEq, Repr

/-- The reply carries `success: true`. -/
def Reply.isAcknowledged : Reply → Bool
  | .acknowledged .. => true
  | .rejected .. => false

def jobNotFound : Reply := .rejected 404 none "Job not found"

/-- The rejection of a report that runs no statement. -/
def ReportRefusal.reply (current requested : JobStatus) : ReportRefusal → Reply
  | .claimRequired =>
    .rejected 409 (some "CLAIM_REQUIRED")
      "A valid claim token is required for this status transition"
  | .jobAlreadyTerminal =>
    .rejected 409 (some "JOB_ALREADY_TERMINAL")
      ("Job is already terminal (" ++ current.text ++ "); expiry not allowed")
  | .crashRequeueReserved =>
    .rejected 409 none
      ("Invalid status transition: printing -> queued is reserved for explicit " ++ "crash-reprint recovery")
  | .requeueReasonRequired =>
    .rejected 409 none
      ("Invalid status transition: claimed -> queued requires an explicit pre-execution " ++ "rejection reason")
  | .lateSuccessNotAllowed =>
    .rejected 409 none
      "Invalid status transition: failed -> success (late success not allowed for this job)"
  | .deliveryReconciliationNotPossible =>
    .rejected 409 (some "DELIVERY_RECONCILIATION_NOT_POSSIBLE")
      "Unknown delivery outcome lacks a matching fenced execution attempt"
  | .expiredAttemptNotReconcilable =>
    .rejected 409 (some "EXPIRED_JOB_ATTEMPT_NOT_RECONCILIABLE")
      ("Expired job lacks a matching delivered execution attempt; late success is not " ++ "allowed")
  | .invalidTransition =>
    .rejected 409 none
      ("Invalid status transition: " ++ current.text ++ " -> " ++ requested.text)

/-- The rejection of a report whose statement matched no row; `winner` is the status read afterwards. -/
def lostWrite (job : JobRow) (report : StatusReport) (winner : Option JobStatus) : Reply :=
  if report.requested = .expired then
    .rejected 409 (some "JOB_NOT_EXPIRED_OR_STALE")
      "Job has not expired or the worker claim is stale"
  else if report.requested = .queued ∧ job.status = .printing then
    .rejected 409 (some "CRASH_REQUEUE_REJECTED")
      "Crash requeue rejected: claim is stale, job expired, or retry budget is exhausted"
  else
    .rejected 409 none
      ("Concurrent status transition rejected" ++ match winner with
        | some status => "; current status is " ++ status.text
        | none => [])

/-- The error text the general branch stores. -/
def nextError (job : JobRow) (report : StatusReport) : Option Text :=
  if job.status = .failed ∧ report.requested = .success then
    some ("LATE_SUCCESS: " ++ job.error.getD agentExecutionTimeout)
  else report.errorMessage

/-- The acknowledgement of a report whose statement wrote `persisted`. -/
def acknowledgement (job : JobRow) (report : StatusReport) (persisted : JobRow) : Reply :=
  if report.requested = .expired then
    .acknowledged .expired (derivePhysicalOutcome .expired persisted.error)
  else if report.requested = .queued ∧ job.status = .printing then .acknowledged .queued .unknown
  else if report.requested = .queued ∧ job.status = .claimed then .acknowledged .queued .notPrinted
  else if job.status = .expired ∧ report.requested = .success then
    .acknowledged .success (derivePhysicalOutcome .success (some (lateSuccessPostExpiration report)))
  else if report.requested = .printing ∧ job.status = .printing then .acknowledged .printing .unknown
  else .acknowledged report.requested (derivePhysicalOutcome report.requested (nextError job report))

/-- The answer from a receipt. -/
def receiptReply (receipt : Receipt) (report : StatusReport) : Reply :=
  if receipt.status = report.requested ∧
      (report.claimToken.any fun token => receipt.closedClaimTokenHash == some ⟨token⟩) = true then
    .acknowledged receipt.status (derivePhysicalOutcome receipt.status receipt.error)
  else jobNotFound

/-- The handler on a live row after its first query read the version `job`. -/
def patchLive (stamp : Instant) (owners : Owners) (job : JobRow) (report : StatusReport)
    (row : JobRow) : JobRow × Reply :=
  match (replayAcknowledgement job report).bind fun u => u.exec row with
  | some replayed =>
    (replayed, .acknowledged replayed.status (derivePhysicalOutcome replayed.status replayed.error))
  | none =>
    match reportStatement stamp owners job report with
    | .error refusal => (row, refusal.reply job.status report.requested)
    | .ok u =>
      match u.exec row with
      | some updated => (updated, acknowledgement job report updated)
      | none => (row, lostWrite job report (some row.status))

/-- `PATCH /api/agent/jobs` on one job. -/
def patchJob (stamp : Instant) (owners : Owners) (read : Option JobRow) (report : StatusReport) :
    StoredJob → StoredJob × Reply
  | .live row =>
    match read with
    | none => (.live row, jobNotFound)
    | some job =>
      let (row', reply) := patchLive stamp owners job report row
      (.live row', reply)
  | .archived receipt =>
    match read with
    | none => (.archived receipt, receiptReply receipt report)
    | some job =>
      -- the row was archived after it was read, so no statement finds it
      match reportStatement stamp owners job report with
      | .error refusal => (.archived receipt, refusal.reply job.status report.requested)
      | .ok _ => (.archived receipt, lostWrite job report none)

def StoredJob.closedClaimTokenHash : StoredJob → Option (Digest Token)
  | live row => row.closedClaimTokenHash
  | archived receipt => receipt.closedClaimTokenHash

end PrintGateway.Gateway
