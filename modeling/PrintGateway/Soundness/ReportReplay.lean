import PrintGateway.Model.Agent.Process
import PrintGateway.Model.Gateway.Reply
import PrintGateway.Soundness.Lifecycle

/-!
# Repeated terminal reports

An accepted report of success or failure closes its claim: the row keeps the digest of the token.  No
writer touches that digest or the error of a terminal row without changing its status, and the receipt
copies both, so a repetition is answered from what the first report stored, by the row or by its
receipt.
-/

namespace PrintGateway.Gateway

open Machine

variable {report : StatusReport} {row job row' : JobRow} {stamp : Instant} {owners : Owners}
  {token : Token} {u : Update JobRow} {status : JobStatus} {outcome : PhysicalOutcome} {op : JobOp}
  {hash : Option (Digest Token)} {error : Option Text} {read : Option JobRow}

/-- What can follow an accepted report: any statement on the row, retention, the operator cleanup, and
further reports, each handled on some version of the row. -/
inductive LaterEvent
  | write (stamp : Instant) (op : JobOp)
  | cleanup (now : ℤ)
  | operatorCleanup (before : ℤ)
  | report (stamp : Instant) (owners : Owners) (read : Option JobRow) (report : StatusReport)
  deriving DecidableEq, Repr

/-- The job after a later event; a cleanup that does not match leaves it alone. -/
def StoredJob.next : StoredJob → LaterEvent → StoredJob
  | .live row, .write stamp op => .live (op.next stamp row)
  | .live row, .cleanup now => ((cleanupTerminalPrintJobs now row).map .archived).getD (.live row)
  | .live row, .operatorCleanup before => ((cleanupByOperator before row).map .archived).getD (.live row)
  | .live row, .report stamp owners read report => (patchJob stamp owners read report (.live row)).1
  | .archived receipt, _ => .archived receipt

/-- The versions of a job whose status still is the current one: what a repeated report may read. -/
def StoredJob.Reads : StoredJob → Option JobRow → Prop
  | .live row, read => ∃ job, read = some job ∧ job.status = row.status
  | .archived _, read => read = none

/-! ### What an acknowledgement stores -/

theorem replay_guard {replayed : JobRow}
    (acknowledged : ((replayAcknowledgement job report).bind fun u => u.exec row) = some replayed) :
    replayed = row ∧ ∃ token, report.claimToken = some token ∧ report.requested = row.status ∧
      row.status.isTerminal = true ∧ row.closedClaimTokenHash = some ⟨token⟩ := by
  obtain ⟨u, planned, executed⟩ := Option.bind_eq_some_iff.mp acknowledged
  have same : replayed = row := by
    have next : u.next row = row := replayAcknowledgement_next planned
    rwa [Update.next, executed] at next
  refine ⟨same, ?_⟩
  unfold replayAcknowledgement at planned
  split at planned
  · rename_i token held
    obtain ⟨⟨terminal, requested⟩, planned⟩ := Option.ite_none_right_eq_some.mp planned
    cases planned
    obtain ⟨⟨status, hash⟩, -⟩ := Update.exec_eq_some_iff.mp executed
    exact ⟨token, held, requested.trans status.symm, status ▸ terminal, hash⟩
  · cases planned

/-- A repetition of the stored status under the closed token is acknowledged from the row. -/
theorem patchLive_replay (terminal : row.status.isTerminal = true) (read : job.status = row.status)
    (requested : report.requested = row.status) (held : report.claimToken = some token)
    (hash : row.closedClaimTokenHash = some ⟨token⟩) : patchLive stamp owners job report row =
      (row, .acknowledged row.status (derivePhysicalOutcome row.status row.error)) := by
  have replayed : ((replayAcknowledgement job report).bind fun u => u.exec row) = some row := by
    unfold replayAcknowledgement
    rw [held]
    have replay : job.status.isTerminal = true ∧ report.requested = job.status :=
      ⟨read ▸ terminal, requested.trans read.symm⟩
    simp only [if_pos replay, Option.bind_some]
    refine Update.exec_eq_some_iff.mpr ⟨⟨read.symm, hash⟩, ?_⟩
    rw [read]
  simp only [patchLive, replayed]

/-- The handler runs at most one statement on the row. -/
theorem patchLive_written (stamp : Instant) (owners : Owners) (job : JobRow) (report : StatusReport)
    (row : JobRow) : ∃ op, Written stamp row op (patchLive stamp owners job report row).1 := by
  unfold patchLive
  split
  · rename_i replayed acknowledged
    rw [(replay_guard acknowledged).1]
    exact ⟨_, .unchanged (.acknowledgeReplay job report)⟩
  · split
    · exact ⟨_, .unchanged (.patch owners job report)⟩
    · rename_i u decided
      split
      · rename_i updated executed
        obtain ⟨matched, rfl⟩ := Update.exec_eq_some_iff.mp executed
        exact ⟨.patch owners job report, .reported (planned_of_reportStatement decided) matched⟩
      · exact ⟨_, .unchanged (.patch owners job report)⟩

@[simp]
theorem Reply.isAcknowledged_acknowledged (status : JobStatus) (outcome : PhysicalOutcome) :
    (Reply.acknowledged status outcome).isAcknowledged = true := rfl

@[simp]
theorem Reply.isAcknowledged_rejected (httpStatus : ℕ) (code : Option Text) (error : Text) :
    (Reply.rejected httpStatus code error).isAcknowledged = false := rfl

/-- A rejection acknowledges nothing. -/
@[simp]
theorem ReportRefusal.reply_isAcknowledged (current requested : JobStatus) (refusal : ReportRefusal) :
    (refusal.reply current requested).isAcknowledged = false := by
  cases refusal <;> rfl

@[simp]
theorem lostWrite_isAcknowledged (job : JobRow) (report : StatusReport) (winner : Option JobStatus) :
    (lostWrite job report winner).isAcknowledged = false := by
  unfold lostWrite
  split
  · rfl
  · split <;> rfl

@[simp]
theorem acknowledgement_isAcknowledged (job : JobRow) (report : StatusReport) (persisted : JobRow) :
    (acknowledgement job report persisted).isAcknowledged = true := by
  unfold acknowledgement
  repeat' split
  all_goals rfl

/-- The Agent sees an acknowledgement exactly where its own model of the Gateway says so. -/
theorem answer_eq_patchJob (stamp : Instant) (owners : Owners) (read : Option JobRow)
    (report : StatusReport) (job : StoredJob) :
    Agent.answer stamp owners read report job = ((patchJob stamp owners read report job).1,
        (patchJob stamp owners read report job).2.isAcknowledged) := by
  cases job with
  | live row =>
    cases read with
    | none => rfl
    | some version =>
      simp only [Agent.answer, patchJob, patchLive]
      cases (replayAcknowledgement version report).bind fun u => u.exec row with
      | some replayed => rfl
      | none =>
        cases reportStatement stamp owners version report with
        | error refusal => simp [Except.toOption]
        | ok u => cases executed : u.exec row <;> simp [Except.toOption, executed]
  | archived receipt =>
    cases read with
    | none =>
      simp only [Agent.answer, patchJob, receiptReply]
      split
      · rename_i closed
        simp [closed.1, closed.2]
      · rename_i other
        refine Prod.ext rfl ?_
        simpa [jobNotFound] using other
    | some version =>
      simp only [Agent.answer, patchJob]
      cases reportStatement stamp owners version report <;> simp

/-- The report asks for success or failure. -/
def StatusReport.Terminal (report : StatusReport) : Prop :=
  report.requested = .success ∨ report.requested = .failed

theorem StatusReport.Terminal.isTerminal (terminal : report.Terminal) : report.requested.isTerminal = true := by
  rcases terminal with requested | requested <;> rw [requested] <;> rfl

/-- The statement of a terminal report stores its status and closes its claim. -/
theorem PlannedReport.closes (planned : PlannedReport stamp owners report u) (terminal : report.Terminal)
    (row : JobRow) : (u.set row).status = report.requested ∧ (∃ token, report.claimToken = some token ∧
        (u.set row).closedClaimTokenHash = some ⟨token⟩) ∧
      (report.requested = .failed → (u.set row).error = report.errorMessage) := by
  cases planned with
  | expire requested _ | crashRequeue _ requested _ | handBack _ _ requested =>
    rcases terminal with h | h <;> cases h.symm.trans requested
  | @reconcile token owned requested =>
    refine ⟨requested.symm, ⟨token, owned, ?_⟩, fun failed => ?_⟩
    · simp [reconcileExpired, owned]
    · cases failed.symm.trans requested
  | @transition token update owned held same _ message _ _ =>
    have closes : update.requested.isTerminal = true := same ▸ terminal.isTerminal
    refine ⟨same, ⟨token, owned, ?_⟩, fun _ => message⟩
    simp [runStatusUpdate, closes, held]
  | @lateSuccess token update owned held requested success _ _ =>
    refine ⟨success.trans requested.symm, ⟨token, owned, ?_⟩, fun failed => ?_⟩
    · simp [runStatusUpdate, success, held, JobStatus.isTerminal]
    · cases failed.symm.trans requested

/-- The acknowledgement of a terminal report states the outcome the stored row has. -/
theorem acknowledgement_of_terminal {persisted : JobRow} (terminal : report.Terminal)
    (stored : report.requested = .failed → persisted.error = report.errorMessage) :
    acknowledgement job report persisted =
      .acknowledged report.requested (derivePhysicalOutcome report.requested persisted.error) := by
  unfold acknowledgement
  rcases terminal with requested | requested
  · simp only [requested, reduceCtorEq, false_and, if_false, and_true]
    split <;> rfl
  · simp only [requested, stored requested, nextError, reduceCtorEq, false_and, and_false, if_false]

/-- An acknowledged terminal report leaves a row that holds its status and its token's digest, and the
acknowledgement states the outcome of that row. -/
theorem patchLive_acknowledged (terminal : report.Terminal)
    (answered : patchLive stamp owners job report row = (row', .acknowledged status outcome)) :
    row'.status = report.requested ∧
      (∃ token, report.claimToken = some token ∧ row'.closedClaimTokenHash = some ⟨token⟩) ∧
      status = report.requested ∧ outcome = derivePhysicalOutcome report.requested row'.error := by
  unfold patchLive at answered
  split at answered
  · rename_i replayed acknowledged
    obtain ⟨rfl, token, held, requested, -, hash⟩ := replay_guard acknowledged
    cases answered
    exact ⟨requested.symm, ⟨token, held, hash⟩, requested.symm, by rw [requested]⟩
  · split at answered
    · have refused := congrArg (fun answer => answer.2.isAcknowledged) answered
      simp at refused
    · rename_i u decided
      split at answered
      · rename_i updated executed
        obtain ⟨-, rfl⟩ := Update.exec_eq_some_iff.mp executed
        obtain ⟨stored, closed, error⟩ := (planned_of_reportStatement decided).closes terminal row
        rw [acknowledgement_of_terminal terminal error] at answered
        cases answered
        exact ⟨stored, closed, rfl, rfl⟩
      · have lost := congrArg (fun answer => answer.2.isAcknowledged) answered
        simp at lost

/-! ### What later events keep -/

theorem PlannedReport.terminal_kept (planned : PlannedReport stamp owners report u) (matched : u.guard row)
    (terminal : row.status.isTerminal = true) : row.status ≠ .success ∧ (u.set row).status = .success := by
  have shut : ∀ {status}, row.status = status → status.isTerminal = false → False := by
    intro status same live
    rw [← same, terminal] at live
    cases live
  cases planned with
  | expire _ live => exact (shut matched.1.1 live).elim
  | crashRequeue _ _ _ | handBack _ _ _ => exact (shut matched.1.1 rfl).elim
  | reconcile _ _ => exact ⟨by rw [matched.1.1]; decide, rfl⟩
  | transition update _ _ _ _ _ current _ =>
    rcases current with current | current
    · exact (shut (matched.1.1.trans current) rfl).elim
    · exact (shut (matched.1.1.trans current) rfl).elim
  | lateSuccess update _ _ _ success _ current =>
    exact ⟨by rw [matched.1.1, current]; decide, success⟩

/-- On a terminal row a statement either makes it a success or leaves its outcome and its closed claim
alone. -/
theorem Written.terminal_kept (written : Written stamp row op row')
    (terminal : row.status.isTerminal = true) : (row.status ≠ .success ∧ row'.status = .success) ∨
      (row'.status = row.status ∧ row'.error = row.error ∧ row'.closedClaimTokenHash = row.closedClaimTokenHash) := by
  have shut : ∀ {P : Prop}, row.status.isTerminal = false → P := by
    intro P live
    rw [terminal] at live
    cases live
  cases written with
  | unchanged | acked matched | keptAlive matched => exact .inr ⟨rfl, rfl, rfl⟩
  | claim matched => exact shut (open_of_queued matched.2.1)
  | poll candidate =>
    rcases candidate.2 with stale | queued
    · exact shut (open_of_claimed stale.2.1.1)
    · exact shut (open_of_queued queued.2.1)
  | delivered matched => exact shut (open_of_claimed_or_printing matched.1)
  | deliveryUnknown matched => exact shut (open_of_claimed matched.1)
  | released matched | givenUp matched => exact shut (open_of_claimed matched.1.1)
  | reported planned matched => exact .inl (planned.terminal_kept matched terminal)
  | resumed matched => exact shut (open_of_queued matched.1)
  | @swept statement _ matched =>
    cases statement with
    | expired => exact shut matched.1
    | requeuedClaims => exact shut (open_of_claimed matched.1.1)
    | silentDeliveries => exact shut (open_of_claimed matched.1)
    | stalePrinting => exact shut (open_of_claimed_or_printing (.inr matched.1))
    | exhaustedClaims => exact shut (open_of_claimed matched.1)
    | exhaustedQueued => exact shut (open_of_queued matched.1)
    | expiredFences => exact .inr ⟨rfl, rfl, rfl⟩
    | failedFences => exact .inr ⟨rfl, rfl, rfl⟩

/-- The job still holds what a terminal report stored, or a late success has replaced a failure. -/
def Holds (status : JobStatus) (error : Option Text) (hash : Option (Digest Token))
    (job : StoredJob) : Prop :=
  (job.status = status ∧ job.error = error ∧ job.closedClaimTokenHash = hash) ∨
    (status ≠ .success ∧ job.status = .success)

theorem Holds.written (holds : Holds status error hash (.live row)) (terminal : status.isTerminal = true)
    (written : Written stamp row op row') : Holds status error hash (.live row') := by
  rcases holds with ⟨same, rfl, rfl⟩ | ⟨other, success⟩
  · have same : row.status = status := same
    rcases written.terminal_kept (same ▸ terminal) with ⟨open', success⟩ | ⟨kept, error, hash⟩
    · exact .inr ⟨same ▸ open', success⟩
    · exact .inl ⟨kept.trans same, error, hash⟩
  · have success : row.status = .success := success
    rcases written.terminal_kept (by rw [success]; rfl) with ⟨open', -⟩ | ⟨kept, -⟩
    · exact absurd success open'
    · exact .inr ⟨other, kept.trans success⟩

theorem Holds.archived (holds : Holds status error hash (.live row)) :
    Holds status error hash (.archived (archiveTerminal row)) := holds

/-- Every later event keeps what the report stored. -/
theorem Holds.next {job : StoredJob} (holds : Holds status error hash job)
    (terminal : status.isTerminal = true) (event : LaterEvent) :
    Holds status error hash (job.next event) := by
  cases job with
  | archived receipt => exact holds
  | live row =>
    cases event with
    | write stamp op => exact holds.written terminal (op.written stamp row)
    | cleanup now =>
      unfold StoredJob.next cleanupTerminalPrintJobs
      dsimp only
      split
      · exact holds.archived
      · exact holds
    | operatorCleanup before =>
      unfold StoredJob.next cleanupByOperator
      dsimp only
      split
      · exact holds.archived
      · exact holds
    | report stamp owners read report =>
      cases read with
      | none => exact holds
      | some job =>
        obtain ⟨op, written⟩ := patchLive_written stamp owners job report row
        exact holds.written terminal written

theorem Holds.run {job : StoredJob} (holds : Holds status error hash job)
    (terminal : status.isTerminal = true) (events : List LaterEvent) :
    Holds status error hash (events.foldl StoredJob.next job) := by
  induction events generalizing job with
  | nil => exact holds
  | cons event events ih => exact ih (holds.next terminal event)

/-- A job that holds what a report stored acknowledges its repetition and stays as it is. -/
theorem patchJob_replay {job : StoredJob} (terminal : report.Terminal)
    (held : report.claimToken = some token) (status : job.status = report.requested)
    (hash : job.closedClaimTokenHash = some ⟨token⟩) (reads : job.Reads read) :
    patchJob stamp owners read report job =
      (job, .acknowledged report.requested (derivePhysicalOutcome report.requested job.error)) := by
  cases job with
  | live row =>
    obtain ⟨version, rfl, same⟩ := reads
    have status : row.status = report.requested := status
    simp only [patchJob, patchLive_replay (status ▸ terminal.isTerminal) same status.symm held hash,
      StoredJob.error, status]
  | archived receipt =>
    obtain rfl : read = none := reads
    have status : receipt.status = report.requested := status
    have hash : receipt.closedClaimTokenHash = some ⟨token⟩ := hash
    simp [patchJob, receiptReply, status, held, hash, StoredJob.error]

/-- What an acknowledged terminal report leaves behind, by the row or by its receipt. -/
theorem patchJob_acknowledged {before after : StoredJob} (terminal : report.Terminal)
    (answered : patchJob stamp owners read report before = (after, .acknowledged status outcome)) :
    after.status = report.requested ∧
      (∃ token, report.claimToken = some token ∧ after.closedClaimTokenHash = some ⟨token⟩) ∧
      status = report.requested ∧ outcome = derivePhysicalOutcome report.requested after.error := by
  cases before with
  | live row =>
    cases read with
    | none => cases answered
    | some job =>
      obtain ⟨rfl, reply⟩ := Prod.mk.inj answered
      exact patchLive_acknowledged terminal (Prod.ext rfl reply)
  | archived receipt =>
    cases read with
    | none =>
      obtain ⟨rfl, reply⟩ := Prod.mk.inj answered
      unfold receiptReply at reply
      split at reply
      · rename_i closed
        obtain ⟨token, held, hash⟩ := (Option.any_eq_true _ _).mp closed.2
        cases reply
        exact ⟨closed.1, ⟨token, held, beq_iff_eq.mp hash⟩, closed.1, by rw [← closed.1]; rfl⟩
      · cases reply
    | some job =>
      have rejected := congrArg (fun answer => answer.2.isAcknowledged) answered
      cases decided : reportStatement stamp owners job report <;> simp [patchJob, decided] at rejected

/-- Terminal reports are idempotent.  Once a report of success or failure under a token was
acknowledged, after any later statements, cleanups and reports, repeating it while the job still has
that status is acknowledged with the same status and physical outcome and changes nothing. -/
theorem terminal_report_idempotent {stamp : Instant} {owners : Owners} {read : Option JobRow}
    {before accepted : StoredJob} {report : StatusReport} {status : JobStatus}
    {outcome : PhysicalOutcome} (terminal : report.Terminal)
    (answered : patchJob stamp owners read report before = (accepted, .acknowledged status outcome))
    (events : List LaterEvent)
    (still : (events.foldl StoredJob.next accepted).status = report.requested)
    (stamp' : Instant) (owners' : Owners) {read' : Option JobRow} {repeated : StatusReport}
    (reads : (events.foldl StoredJob.next accepted).Reads read')
    (sameStatus : repeated.requested = report.requested)
    (sameToken : repeated.claimToken = report.claimToken) :
    status = report.requested ∧
    patchJob stamp' owners' read' repeated (events.foldl StoredJob.next accepted) =
      (events.foldl StoredJob.next accepted, .acknowledged report.requested outcome) := by
  obtain ⟨stored, ⟨token, held, hash⟩, rfl, rfl⟩ := patchJob_acknowledged terminal answered
  refine ⟨rfl, ?_⟩
  have holds : Holds report.requested accepted.error (some ⟨token⟩) accepted := .inl ⟨stored, rfl, hash⟩
  rcases holds.run terminal.isTerminal events with ⟨-, error, hash⟩ | ⟨other, success⟩
  · have repeats : repeated.Terminal := by
      rw [StatusReport.Terminal, sameStatus]
      exact terminal
    rw [patchJob_replay repeats (sameToken.trans held) (still.trans sameStatus.symm) hash reads, error, sameStatus]
  · exact absurd (still.symm.trans success) other

/-- A restart reported as a failure, whose fence is dropped and whose row is archived. -/
def sampleRestart : StatusReport :=
  { sampleReport .failed 7 with rawError := some "AGENT_RESTART_DURING_PRINT: restarted" }

def sampleRestarted : JobRow :=
  (patchLive ⟨5, 6⟩ sampleOwners samplePrinting.row sampleRestart samplePrinting.row).1

def sampleRetention : List LaterEvent :=
  [.write ⟨hours 25, hours 25⟩ (.sweep .failedFences 90), .cleanup (hours 49)]

theorem terminal_report_idempotent_archived : sampleRetention.foldl StoredJob.next (.live sampleRestarted) =
      .archived (archiveTerminal sampleRestarted) ∧
    patchJob ⟨hours 50, hours 50⟩ sampleOwners none sampleRestart
        (.archived (archiveTerminal sampleRestarted)) =
      (.archived (archiveTerminal sampleRestarted), .acknowledged .failed .unknown) := by
  have archived : sampleRetention.foldl StoredJob.next (.live sampleRestarted) =
      .archived (archiveTerminal sampleRestarted) := by decide +kernel
  have answered : patchJob ⟨5, 6⟩ sampleOwners (some samplePrinting.row) sampleRestart
      (.live samplePrinting.row) = (.live sampleRestarted, .acknowledged .failed .unknown) := by
    decide +kernel
  refine ⟨archived, ?_⟩
  have reads : (sampleRetention.foldl StoredJob.next (.live sampleRestarted)).Reads none := by
    rw [archived]
    rfl
  have idempotent := terminal_report_idempotent (.inr rfl) answered sampleRetention
    (by rw [archived]; rfl) ⟨hours 50, hours 50⟩ sampleOwners reads (rfl : sampleRestart.requested = _) rfl
  rw [archived] at idempotent
  exact idempotent.2

end PrintGateway.Gateway
