import PrintGateway.Machine.Run
import PrintGateway.Model.Gateway.Report

/-!
# Every writer of a job row

`JobOp` lists the statements that write a `print_jobs` row, each taken as atomic.  A status report
carries the version of the row its handler read; nothing relates that version to the current row, so
a run covers every delay between the unlocked read and the write.
-/

namespace PrintGateway.Gateway

open Machine

variable {report : StatusReport} {u : Update JobRow} {stamp : Instant} {owners : Owners}
  {job : JobRow} {token : Token}

/-- What a status report can run, with the facts the handler established before running it. -/
inductive PlannedReport (stamp : Instant) (owners : Owners) (report : StatusReport) : Update JobRow → Prop
  | expire {current : JobStatus} : report.requested = .expired → current.isTerminal = false →
      PlannedReport stamp owners report (expireReported stamp current report.claimToken)
  | crashRequeue {token : Token} : report.claimToken = some token → report.requested = .queued →
      report.reason = .reprintAfterCrash →
      PlannedReport stamp owners report (crashRequeue stamp (some token))
  | handBack {token : Token} (reason : RequeueReason) : report.claimToken = some token → report.requested = .queued →
      PlannedReport stamp owners report (handBack stamp reason (some token))
  | reconcile {token : Token} : report.claimToken = some token → report.requested = .success →
      PlannedReport stamp owners report (reconcileExpired stamp report)
  | transition {token : Token} (update : StatusUpdate) :
      report.claimToken = some token → update.claimToken = some token →
      update.requested = report.requested → update.lateSuccess = false →
      update.nextError = report.errorMessage →
      update.current = .claimed ∨ update.current = .printing →
      update.requested = .printing ∨ update.requested = .success ∨ update.requested = .failed →
      PlannedReport stamp owners report (runStatusUpdate stamp owners update)
  | lateSuccess {token : Token} (update : StatusUpdate) :
      report.claimToken = some token → update.claimToken = some token →
      report.requested = .success → update.requested = .success → update.lateSuccess = true →
      update.current = .failed →
      PlannedReport stamp owners report (runStatusUpdate stamp owners update)

/-- The transitions left to the general branch once hand-backs have been taken out. -/
theorem open_of_canTransition {current requested : JobStatus}
    (notHandBack : ¬ (requested = .queued ∧ current = .claimed))
    (allowed : ¬ (!(requested == .printing && current == .printing) &&
      !current.canTransition requested false) = true) :
    (current = .claimed ∨ current = .printing) ∧
      (requested = .printing ∨ requested = .success ∨ requested = .failed) := by
  revert notHandBack allowed
  cases current <;> cases requested <;> decide

theorem planned_of_transition (owned : report.claimToken = some token)
    (notHandBack : ¬ (report.requested = .queued ∧ job.status = .claimed))
    (planned : transitionStatement stamp owners job report false = .ok u) :
    PlannedReport stamp owners report u := by
  simp only [transitionStatement] at planned
  split at planned
  · cases planned
  · rename_i allowed
    cases planned
    obtain ⟨current, requested⟩ := open_of_canTransition notHandBack allowed
    exact .transition _ owned owned rfl rfl rfl current requested

theorem planned_of_lateSuccess (owned : report.claimToken = some token)
    (success : report.requested = .success) (failed : job.status = .failed)
    (planned : transitionStatement stamp owners job report true = .ok u) :
    PlannedReport stamp owners report u := by
  simp only [transitionStatement] at planned
  split at planned
  · cases planned
  · cases planned
    exact .lateSuccess _ owned owned success success rfl failed

/-- The handler only ever runs one of the planned statements. -/
theorem planned_of_reportStatement (planned : reportStatement stamp owners job report = .ok u) :
    PlannedReport stamp owners report u := by
  unfold reportStatement at planned
  split at planned
  · cases planned
  rename_i claim
  by_cases expired : report.requested = .expired
  · rw [if_pos expired] at planned
    split at planned
    · cases planned
    · cases planned
      exact .expire expired (by simp_all)
  rw [if_neg expired] at planned
  obtain ⟨token, owned⟩ : ∃ token, report.claimToken = some token := by
    have owns : OwnsClaim job report := by
      by_contra notOwned
      exact claim ⟨expired, notOwned⟩
    obtain ⟨token, held⟩ := Option.isSome_iff_exists.mp owns.1
    exact ⟨token, owns.2.trans held⟩
  split at planned
  · rename_i requeue
    split at planned
    · cases planned
      rw [owned]
      exact .crashRequeue owned requeue.1 ‹_›
    · cases planned
  split at planned
  · rename_i requeue
    split at planned
    · cases planned
      rw [owned]
      exact .handBack _ owned requeue.1
    · cases planned
  rename_i notHandBack
  split at planned
  · rename_i late
    split at planned
    · cases planned
    split at planned
    · cases planned
    exact planned_of_lateSuccess owned late.2 late.1 planned
  split at planned
  · rename_i late
    split at planned
    · cases planned
      exact .reconcile owned late.2
    · cases planned
  exact planned_of_transition owned notHandBack planned

/-- The statements that write a job row. -/
inductive JobOp
  | claimJobForDelivery (owners : Owners) (inFlight : ℕ) (markDeliveryEvidencePending : Bool)
      (token : Token)
  | pollClaim (owners : Owners) (queuedLimit : ℕ) (token : Token)
  | markJobDelivered (token : Token)
  | markJobDeliveryUnknown (token : Token)
  | recordJobAck (agent : Lifecycle) (token : Token)
  | requeueUndeliveredClaim (token : Option Token) (reason : Text)
  | failUndeliveredClaim (token : Option Token) (reason : Text)
  | acknowledgeReplay (job : JobRow) (report : StatusReport)
  | patch (owners : Owners) (job : JobRow) (report : StatusReport)
  | keepAlive (token : Token)
  | resumeShared
  | sweep (statement : SweepStatement) (staleSeconds : ℤ)
  deriving DecidableEq, Repr

namespace JobOp

/-- The statement an operation runs, if it runs one. -/
def update (stamp : Instant) : JobOp → Option (Update JobRow)
  | claimJobForDelivery owners inFlight pending token =>
    some (Gateway.claimJobForDelivery stamp owners inFlight pending token)
  | pollClaim owners queuedLimit token => some (Gateway.pollClaim stamp owners queuedLimit token)
  | markJobDelivered token => some (Gateway.markJobDelivered stamp token)
  | markJobDeliveryUnknown token => some (Gateway.markJobDeliveryUnknown stamp token)
  | recordJobAck agent token => some (Gateway.recordJobAck stamp agent token)
  | requeueUndeliveredClaim token reason => some (Gateway.requeueUndeliveredClaim stamp token reason)
  | failUndeliveredClaim token reason => some (Gateway.failUndeliveredClaim stamp token reason)
  | acknowledgeReplay job report => replayAcknowledgement job report
  | patch owners job report => (reportStatement stamp owners job report).toOption
  | keepAlive token => some (Gateway.keepAlive stamp token)
  | resumeShared => some Gateway.resumeShared
  | sweep statement staleSeconds => some (statement.update stamp staleSeconds)

/-- The row after an operation. -/
def next (stamp : Instant) (op : JobOp) (row : JobRow) : JobRow :=
  match op.update stamp with
  | some u => u.next row
  | none => row

/-- The claim token an operation presents; a sweep, a claim or a resume presents none. -/
def presented : JobOp → Option (Option Token)
  | markJobDelivered token | markJobDeliveryUnknown token | recordJobAck _ token
  | keepAlive token => some (some token)
  | requeueUndeliveredClaim token _ | failUndeliveredClaim token _ => some token
  | acknowledgeReplay _ report | patch _ _ report => some report.claimToken
  | claimJobForDelivery .. | pollClaim .. | resumeShared | sweep .. => none

end JobOp

variable {u : Update JobRow} {row : JobRow}

/-- What can happen to a row: nothing, a claim, or one of the statements, each with its guard. -/
inductive Written (stamp : Instant) (row : JobRow) : JobOp → JobRow → Prop
  | unchanged (op : JobOp) : Written stamp row op row
  | claim {owners : Owners} {inFlight : ℕ} {pending : Bool} {token : Token} :
      (claimJobForDelivery stamp owners inFlight pending token).guard row →
      Written stamp row (.claimJobForDelivery owners inFlight pending token)
        ((claimJobForDelivery stamp owners inFlight pending token).set row)
  | poll {owners : Owners} {queuedLimit : ℕ} {token : Token} : PollCandidate stamp.now owners queuedLimit row →
      Written stamp row (.pollClaim owners queuedLimit token) (pollAssignment stamp token row)
  | delivered {token : Token} : (markJobDelivered stamp token).guard row →
      Written stamp row (.markJobDelivered token) ((markJobDelivered stamp token).set row)
  | deliveryUnknown {token : Token} : (markJobDeliveryUnknown stamp token).guard row →
      Written stamp row (.markJobDeliveryUnknown token) ((markJobDeliveryUnknown stamp token).set row)
  | acked {agent : Lifecycle} {token : Token} : (recordJobAck stamp agent token).guard row →
      Written stamp row (.recordJobAck agent token) ((recordJobAck stamp agent token).set row)
  | released {token : Option Token} {reason : Text} : (requeueUndeliveredClaim stamp token reason).guard row →
      Written stamp row (.requeueUndeliveredClaim token reason)
        ((requeueUndeliveredClaim stamp token reason).set row)
  | givenUp {token : Option Token} {reason : Text} : (failUndeliveredClaim stamp token reason).guard row →
      Written stamp row (.failUndeliveredClaim token reason)
        ((failUndeliveredClaim stamp token reason).set row)
  | reported {owners : Owners} {job : JobRow} {report : StatusReport} {u : Update JobRow} :
      PlannedReport stamp owners report u → u.guard row →
      Written stamp row (.patch owners job report) (u.set row)
  | keptAlive {token : Token} : (keepAlive stamp token).guard row →
      Written stamp row (.keepAlive token) ((keepAlive stamp token).set row)
  | resumed : resumeShared.guard row → Written stamp row .resumeShared (resumeShared.set row)
  | swept {statement : SweepStatement} {staleSeconds : ℤ} : (statement.update stamp staleSeconds).guard row →
      Written stamp row (.sweep statement staleSeconds)
        ((statement.update stamp staleSeconds).set row)

/-- The replay branch assigns the status the row already has. -/
theorem replayAcknowledgement_next {job : JobRow} {report : StatusReport}
    (planned : replayAcknowledgement job report = some u) : u.next row = row := by
  unfold replayAcknowledgement at planned
  split at planned
  · split at planned
    · cases planned
      rcases Update.next_cases _ row with ⟨matched, assigned⟩ | missed
      · exact assigned.trans (by rw [← matched.1])
      · exact missed
    · cases planned
  · cases planned

theorem written_of_matched {stamp : Instant} {op : JobOp} (planned : op.update stamp = some u)
    (matched : u.guard row) : Written stamp row op (u.next row) := by
  rw [Update.next_of_guard matched]
  cases op with
  | acknowledgeReplay job report =>
    rw [← Update.next_of_guard matched, replayAcknowledgement_next planned]
    exact .unchanged _
  | patch owners job report =>
    cases decided : reportStatement stamp owners job report with
    | error refusal => simp [JobOp.update, decided, Except.toOption] at planned
    | ok statement =>
      simp only [JobOp.update, decided, Except.toOption, Option.some.injEq] at planned
      exact .reported (planned_of_reportStatement (planned ▸ decided)) matched
  | claimJobForDelivery owners inFlight pending token => cases planned; exact .claim matched
  | pollClaim owners queuedLimit token => cases planned; exact .poll matched
  | markJobDelivered token => cases planned; exact .delivered matched
  | markJobDeliveryUnknown token => cases planned; exact .deliveryUnknown matched
  | recordJobAck agent token => cases planned; exact .acked matched
  | requeueUndeliveredClaim token reason => cases planned; exact .released matched
  | failUndeliveredClaim token reason => cases planned; exact .givenUp matched
  | keepAlive token => cases planned; exact .keptAlive matched
  | resumeShared => cases planned; exact .resumed matched
  | sweep statement staleSeconds => cases planned; exact .swept matched

/-- The inversion lemma of the row: every operation does one of the listed things. -/
theorem JobOp.written (stamp : Instant) (op : JobOp) (row : JobRow) : Written stamp row op (op.next stamp row) := by
  unfold JobOp.next
  split
  · rename_i u planned
    by_cases matched : u.guard row
    · exact written_of_matched planned matched
    · rw [Update.next_of_not_guard matched]
      exact .unchanged op
  · exact .unchanged op

end PrintGateway.Gateway
