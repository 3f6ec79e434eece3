import PrintGateway.Model.Gateway.Maintenance

/-!
# Status reports of an Agent

`PATCH /api/agent/jobs`.  The handler reads the row without a lock, decides from that version which
statement to run, and runs it against the current version; the statement repeats the status and the
claim token it was decided on.  The decision is `reportStatement`, and the statements are guarded
updates like every other writer.
-/

namespace PrintGateway.Gateway

open Machine Text

/-- The reasons a report to `queued` may carry. -/
inductive ReportReason
  | requeue (reason : RequeueReason)
  | reprintAfterCrash
  | other
  deriving DecidableEq, Repr

/-- A parsed report. -/
structure StatusReport where
  requested : JobStatus
  rawError : Option Text
  reason : ReportReason
  claimToken : Option Token
  spoolerJobId : Option Text
  deriving DecidableEq, Repr

/-- An empty error counts as none, and a stored one is cut. -/
def StatusReport.errorMessage (report : StatusReport) : Option Text :=
  match report.rawError with
  | some (c :: text) => some ((c :: text).take maxErrorLength)
  | _ => none

/-- The statement writes the row only in the status and under the token it was decided on. -/
def FencedJobWrite (expected : JobStatus) (token : Option Token) (row : JobRow) : Prop :=
  row.status = expected ∧ row.claimToken = token

instance (expected : JobStatus) (token : Option Token) (row : JobRow) :
    Decidable (FencedJobWrite expected token row) :=
  inferInstanceAs (Decidable (_ ∧ _))

def expiredWhilePrintingReported : Text :=
  jobExpiredDuringPrint ++ ": physical output is unknown"

@[simp]
theorem expiredWhilePrintingReported_marked :
    hasUnknownPhysicalOutcomeMarker (some expiredWhilePrintingReported) = true := by decide

def expiredAfterPossibleDelivery : Text :=
  unknownPartialDelivery ++ ": job expired after possible delivery without an execution report"

/-- An Agent reports that the time to live has passed; the error is classified on the current row. -/
def expireReported (stamp : Instant) (current : JobStatus) (token : Option Token) : Update JobRow where
  guard row := FencedJobWrite current token row ∧ row.expiresAt ≤ stamp.now
  set row :=
    { row with
      status := .expired
      error :=
        if row.status = .printing then some expiredWhilePrintingReported
        else if row.status = .claimed ∧ row.Evidenced then some expiredAfterPossibleDelivery
        else none
      updatedAt := stamp.clock
      deliveredAt :=
        if current = .printing then some (row.deliveredAt.getD stamp.clock) else row.deliveredAt }

def crashRequeueError : Text :=
  agentRestartDuringPrint ++
    ": operator-enabled at-least-once crash recovery; prior physical outcome is unknown and a " ++
    "new delivery may duplicate output"

/-- `printing` back to `queued` under the opt-in crash policy; nothing is refunded. -/
def crashRequeue (stamp : Instant) (token : Option Token) : Update JobRow where
  guard row := FencedJobWrite .printing token row ∧ stamp.now < row.expiresAt ∧ row.retries < maxRetries
  set row :=
    { row with
      status := .queued
      claimToken := none
      closedClaimTokenHash := none
      claimedAt := none
      deliveredAt := none
      ackedAt := none
      error := some crashRequeueError
      retries := row.retries + 1
      updatedAt := stamp.clock }

def handBackError (reason : RequeueReason) : Text :=
  if reason = .printerNotShared then printerNotSharedPause
  else "Agent returned job before execution (" ++ reason.text ++ ")"

/-- `claimed` back to `queued` before execution: one delivery attempt is refunded, one retry paid. -/
def handBack (stamp : Instant) (reason : RequeueReason) (token : Option Token) : Update JobRow where
  guard row := FencedJobWrite .claimed token row ∧ stamp.now < row.expiresAt ∧ row.retries < maxRetries
  set row :=
    { row with
      status := .queued
      claimToken := none
      closedClaimTokenHash := none
      deliveredAt := none
      ackedAt := none
      claimedAt := none
      error := some (handBackError reason)
      updatedAt := stamp.clock
      deliveryAttempts := max (row.deliveryAttempts - 1) 0
      retries := row.retries + 1 }

def lateSuccessPostExpiration (report : StatusReport) : Text :=
  ("LATE_SUCCESS_POST_EXPIRATION: print execution completed after TTL expiry".toList ++ match report.errorMessage with
    | some message => " (".toList ++ message ++ ")".toList
    | none => []).take maxErrorLength

/-- Late success of an expired attempt inside its grace window. -/
def reconcileExpired (stamp : Instant) (report : StatusReport) : Update JobRow where
  guard row := FencedJobWrite .expired report.claimToken row ∧ row.expiresAt ≤ stamp.now ∧
    stamp.now - expiredLateSuccessGrace < row.expiresAt
  set row :=
    { row with
      status := .success
      error := some (lateSuccessPostExpiration report)
      claimToken := none
      closedClaimTokenHash := report.claimToken.map Digest.mk
      updatedAt := stamp.clock
      deliveredAt := some (row.deliveredAt.getD stamp.clock) }

/-- The owner conditions under which an attempt is admitted to `printing`. -/
def Owners.Admits (now : ℤ) (owners : Owners) : Prop :=
  owners.tenant = .active ∧ owners.agent.lifecycle = .active ∧ owners.printer.Eligible now ∧
    owners.subscriptionLive = true ∧
    (owners.printer.managementSource = .manager → owners.printer.AtDesiredRevision)

instance (now : ℤ) (owners : Owners) : Decidable (owners.Admits now) :=
  inferInstanceAs (Decidable (_ ∧ _))

/-- What `runStatusUpdate` writes: the decided version of the row gives the expected status. -/
structure StatusUpdate where
  current : JobStatus
  requested : JobStatus
  claimToken : Option Token
  nextError : Option Text
  lateSuccess : Bool
  spoolerJobId : Option Text
  deriving DecidableEq, Repr

/-- A failure the Agent may still correct keeps its fence. -/
def StatusUpdate.retainsLateSuccessFence (update : StatusUpdate) : Bool :=
  update.requested == .failed &&
    lateSuccessErrorMarkers.any fun marker => update.nextError.any fun error => startsWith error marker

/-- The request proves that the Agent holds the job. -/
def StatusUpdate.ProvesDelivery (update : StatusUpdate) : Prop :=
  update.requested = .printing ∨ update.requested = .success ∨
    (update.requested = .failed ∧ update.current = .printing)

instance (update : StatusUpdate) : Decidable update.ProvesDelivery :=
  inferInstanceAs (Decidable (_ ∨ _))

/-- `runStatusUpdate`: the general status transition. -/
def runStatusUpdate (stamp : Instant) (owners : Owners) (update : StatusUpdate) : Update JobRow where
  guard row := FencedJobWrite update.current update.claimToken row ∧ (if update.lateSuccess then
      stamp.now - lateSuccessMaxAge ≤ row.updatedAt ∧ row.updatedAt ≤ stamp.now
    else if update.requested = .printing then stamp.now < row.expiresAt
    else True) ∧
    (update.requested = .printing → owners.Admits stamp.now)
  set row :=
    { row with
      status := update.requested
      error := update.nextError
      closedClaimTokenHash :=
        if update.requested.isTerminal then update.claimToken.map Digest.mk
        else row.closedClaimTokenHash
      claimToken :=
        if update.requested.isTerminal && !update.retainsLateSuccessFence then none else row.claimToken
      updatedAt := stamp.clock
      deliveredAt :=
        if update.ProvesDelivery then some (row.deliveredAt.getD stamp.clock) else row.deliveredAt
      spoolerJobId := update.spoolerJobId.or row.spoolerJobId }

/-- Why a report is refused before any statement runs. -/
inductive ReportRefusal
  | claimRequired
  | jobAlreadyTerminal
  | crashRequeueReserved
  | requeueReasonRequired
  | lateSuccessNotAllowed
  | deliveryReconciliationNotPossible
  | expiredAttemptNotReconcilable
  | invalidTransition
  deriving DecidableEq, Repr

/-- The report carries the token of the row it was decided on. -/
def OwnsClaim (job : JobRow) (report : StatusReport) : Prop :=
  job.claimToken.isSome ∧ report.claimToken = job.claimToken

instance (job : JobRow) (report : StatusReport) : Decidable (OwnsClaim job report) :=
  inferInstanceAs (Decidable (_ ∧ _))

def errorStartsWith (job : JobRow) (marker : Text) : Bool := startsWith (job.error.getD []) marker

def executionTimeoutLateSuccess (job : JobRow) : Bool :=
  errorStartsWith job agentExecutionTimeout || errorStartsWith job agentRestartDuringPrint

def deliveryUnknownLateSuccess (job : JobRow) : Bool :=
  errorStartsWith job unknownPartialDelivery && job.claimedAt.isSome && job.claimToken.isSome

/-- An expired attempt is reconcilable when it was claimed and may have been delivered. -/
def ExpiredReconcilable (job : JobRow) (report : StatusReport) : Prop :=
  job.claimedAt.isSome ∧ OwnsClaim job report ∧
    (job.deliveredAt.isSome ∨ job.ackedAt.isSome ∨ errorStartsWith job unknownPartialDelivery) ∧
    (errorStartsWith job jobExpiredDuringPrint ∨ errorStartsWith job unknownPartialDelivery)

instance (job : JobRow) (report : StatusReport) : Decidable (ExpiredReconcilable job report) :=
  inferInstanceAs (Decidable (_ ∧ _))

/-- The general branch of the handler, once late success is decided. -/
def transitionStatement (stamp : Instant) (owners : Owners) (job : JobRow) (report : StatusReport)
    (lateSuccess : Bool) : Except ReportRefusal (Update JobRow) :=
  let printingAdmissionReplay := report.requested == .printing && job.status == .printing
  if !printingAdmissionReplay && !job.status.canTransition report.requested lateSuccess then
    .error .invalidTransition
  else
    .ok (runStatusUpdate stamp owners
      { current := job.status
        requested := report.requested
        claimToken := report.claimToken
        nextError :=
          if lateSuccess then some ("LATE_SUCCESS: " ++ job.error.getD agentExecutionTimeout)
          else report.errorMessage
        lateSuccess := lateSuccess
        spoolerJobId := report.spoolerJobId })

/-- The statement the handler runs for `report` after reading the version `job` of the row. -/
def reportStatement (stamp : Instant) (owners : Owners) (job : JobRow) (report : StatusReport) :
    Except ReportRefusal (Update JobRow) :=
  if report.requested ≠ .expired ∧ ¬ OwnsClaim job report then .error .claimRequired
  else if report.requested = .expired then
    if job.status.isTerminal then .error .jobAlreadyTerminal
    else .ok (expireReported stamp job.status report.claimToken)
  else if report.requested = .queued ∧ job.status = .printing then
    if report.reason = .reprintAfterCrash then .ok (crashRequeue stamp report.claimToken)
    else .error .crashRequeueReserved
  else if report.requested = .queued ∧ job.status = .claimed then
    match report.reason with
    | .requeue reason => .ok (handBack stamp reason report.claimToken)
    | _ => .error .requeueReasonRequired
  else if job.status = .failed ∧ report.requested = .success then
    if !executionTimeoutLateSuccess job && !deliveryUnknownLateSuccess job then
      .error .lateSuccessNotAllowed
    else if deliveryUnknownLateSuccess job ∧ ¬ (job.claimedAt.isSome ∧ OwnsClaim job report) then
      .error .deliveryReconciliationNotPossible
    else transitionStatement stamp owners job report true
  else if job.status = .expired ∧ report.requested = .success then
    if ExpiredReconcilable job report then .ok (reconcileExpired stamp report)
    else .error .expiredAttemptNotReconcilable
  else transitionStatement stamp owners job report false

/-- The replay branch, tried first for a terminal row: it acknowledges the stored result of a closed
claim and assigns the status the row already has. -/
def replayAcknowledgement (job : JobRow) (report : StatusReport) : Option (Update JobRow) :=
  match report.claimToken with
  | some token =>
    if job.status.isTerminal ∧ report.requested = job.status then
      some
        { guard := fun row => row.status = job.status ∧ row.closedClaimTokenHash = some ⟨token⟩
          set := fun row => { row with status := job.status } }
    else none
  | none => none

end PrintGateway.Gateway
