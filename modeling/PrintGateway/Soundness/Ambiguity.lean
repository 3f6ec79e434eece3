import PrintGateway.Model.Gateway.Retention
import PrintGateway.Soundness.Lifecycle

/-!
# Physical ambiguity

The single error column carries the marker that says paper may have come out.  The run below follows
one job, live or archived, with the attempts that were admitted to `printing` and those that ended in
a definite failure report.  A crash requeue puts an ambiguous attempt back into the queue, where the
writers of a queued row drop its marker; without it the marker is never lost.
-/

namespace PrintGateway.Gateway

open Machine

/-- One job, the attempts admitted to `printing`, and the attempts reported as definitely failed. -/
structure Witnessed where
  job : StoredJob
  admitted : List Token
  definite : List Token
  deriving DecidableEq, Repr

inductive OutcomeEvent
  | write (stamp : Instant) (op : JobOp)
  | cleanup (now : ℤ)
  | operatorCleanup (before : ℤ)
  | deleteAgent (stamp : Instant)
  deriving DecidableEq, Repr

/-- The attempt a statement admits to `printing`. -/
def admittedBy (row' : JobRow) : List Token :=
  if row'.status = .printing then row'.claimToken.toList else []

/-- The attempt that an Agent reports as failed without an unknown-outcome marker. -/
def definiteFailure (op : JobOp) (row row' : JobRow) : List Token :=
  match op with
  | .patch _ _ report =>
    if row.status = .printing ∧ row'.status = .failed ∧ report.requested = .failed ∧
        hasUnknownPhysicalOutcomeMarker report.rawError = false then row.claimToken.toList
    else []
  | _ => []

namespace Witnessed

def write (stamp : Instant) (op : JobOp) (s : Witnessed) (row : JobRow) : Witnessed where
  job := .live (op.next stamp row)
  admitted := admittedBy (op.next stamp row) ++ s.admitted
  definite := definiteFailure op row (op.next stamp row) ++ s.definite

def step (s : Witnessed) (event : OutcomeEvent) : Option Witnessed :=
  match s.job, event with
  | .live row, .write stamp op => some (s.write stamp op row)
  | .live row, .cleanup now =>
    (cleanupTerminalPrintJobs now row).map fun receipt => { s with job := .archived receipt }
  | .live row, .operatorCleanup before =>
    (cleanupByOperator before row).map fun receipt => { s with job := .archived receipt }
  | .live row, .deleteAgent stamp => some { s with job := .archived (deleteAgent stamp row) }
  | .archived _, _ => none

/-- Some admitted attempt did not end in a definite failure report. -/
def Ambiguous (s : Witnessed) : Prop := ∃ token ∈ s.admitted, token ∉ s.definite

end Witnessed

variable {row row' : JobRow} {stamp : Instant} {op : JobOp} {error : Option Text}
  {status : JobStatus} {s : Witnessed}

/-- One job under every writer, the cleanups and the deletion of its agent. -/
def outcomes : System Witnessed OutcomeEvent where
  init s := ∃ createdAt expiresAt, s = ⟨.live (.enqueued createdAt expiresAt), [], []⟩
  step := Witnessed.step

/-- No report takes the job from `printing` back to `queued`. -/
def NoCrashRequeue (s : Witnessed) : OutcomeEvent → Prop
  | .write stamp op =>
    ∀ row, s.job = .live row → ¬ (row.status = .printing ∧ (op.next stamp row).status = .queued)
  | _ => True

instance (s : Witnessed) : (event : OutcomeEvent) → Decidable (NoCrashRequeue s event)
  | .write stamp op =>
    match live : s.job with
    | .live row =>
      decidable_of_iff (¬ (row.status = .printing ∧ (op.next stamp row).status = .queued))
        (by simp [NoCrashRequeue, live])
    | .archived _ => isTrue (by simp [NoCrashRequeue, live])
  | .cleanup _ | .operatorCleanup _ | .deleteAgent _ => isTrue trivial

theorem hasUnknownPhysicalOutcomeMarker_errorMessage (report : StatusReport) :
    hasUnknownPhysicalOutcomeMarker report.errorMessage = hasUnknownPhysicalOutcomeMarker report.rawError := by
  unfold StatusReport.errorMessage
  split
  · rename_i c text raw
    rw [raw, hasUnknownPhysicalOutcomeMarker_take]
  · rename_i absent
    cases raw : report.rawError with
    | none => rfl
    | some text =>
      cases text with
      | nil => rfl
      | cons c text => exact absurd raw (absent c text)

/-- Where a statement can take a printing row. -/
inductive FromPrinting (op : JobOp) (row row' : JobRow) : Prop
  | running : row'.status = .printing → row'.claimToken = row.claimToken → FromPrinting op row row'
  | succeeded : row'.status = .success → FromPrinting op row row'
  | marked : hasUnknownPhysicalOutcomeMarker row'.error = true → row'.status.isTerminal = true →
      FromPrinting op row row'
  | definite : row'.status = .failed → definiteFailure op row row' = row.claimToken.toList → FromPrinting op row row'
  | requeued : row'.status = .queued → FromPrinting op row row'

theorem PlannedReport.fromPrinting {owners : Owners} {job : JobRow} {report : StatusReport}
    {u : Update JobRow} (planned : PlannedReport stamp owners report u) (matched : u.guard row)
    (printing : row.status = .printing) : FromPrinting (.patch owners job report) row (u.set row) := by
  cases planned with
  | expire _ _ =>
    exact .marked (by simp [expireReported, printing]) rfl
  | crashRequeue _ _ _ => exact .requeued rfl
  | handBack _ _ _ | reconcile _ _ => cases printing.symm.trans matched.1.1
  | transition update _ _ same _ message _ requested =>
    rcases requested with h | h | h
    · exact .running h (by simp [runStatusUpdate, h, JobStatus.isTerminal])
    · exact .succeeded h
    · by_cases marker : hasUnknownPhysicalOutcomeMarker report.rawError
      · refine .marked ?_ (by simp [runStatusUpdate, h, JobStatus.isTerminal])
        rw [← hasUnknownPhysicalOutcomeMarker_errorMessage, ← message] at marker
        exact marker
      · refine .definite h ?_
        have failed : ((runStatusUpdate stamp owners update).set row).status = .failed := h
        simp only [definiteFailure, printing, failed, ← same, h, true_and]
        exact if_pos (by simpa using marker)
  | lateSuccess update _ _ _ _ _ current => cases printing.symm.trans (matched.1.1.trans current)

theorem sweep_fromPrinting {staleSeconds : ℤ} (statement : SweepStatement)
    (matched : (statement.update stamp staleSeconds).guard row) (printing : row.status = .printing) :
    FromPrinting op row ((statement.update stamp staleSeconds).set row) := by
  cases statement with
  | expired =>
    exact .marked (by simp [SweepStatement.update, expireOverdue, printing]) rfl
  | stalePrinting =>
    refine .marked ?_ rfl
    simp only [SweepStatement.update, failStalePrinting]
    split <;> simp
  | requeuedClaims => cases printing.symm.trans matched.1.1
  | silentDeliveries | exhaustedClaims | exhaustedQueued | expiredFences | failedFences =>
    cases printing.symm.trans matched.1

theorem Written.fromPrinting (written : Written stamp row op row') (printing : row.status = .printing) :
    FromPrinting op row row' := by
  cases written with
  | unchanged | delivered matched | acked matched | keptAlive matched => exact .running printing rfl
  | claim matched => cases printing.symm.trans matched.2.1
  | poll candidate =>
    rcases candidate.2 with stale | queued
    · cases printing.symm.trans stale.2.1.1
    · cases printing.symm.trans queued.2.1
  | deliveryUnknown matched | resumed matched => cases printing.symm.trans matched.1
  | released matched | givenUp matched => cases printing.symm.trans matched.1.1
  | reported planned matched => exact planned.fromPrinting matched printing
  | swept matched => exact sweep_fromPrinting _ matched printing

/-- A statement that leaves a terminal status alone leaves its error alone. -/
theorem Written.terminal_error (written : Written stamp row op row')
    (terminal : row.status.isTerminal = true) :
    row'.status = .success ∨ (row'.status = row.status ∧ row'.error = row.error) := by
  cases written.statusChange with
  | same status error => exact .inr ⟨status, error⟩
  | opened live => simp [terminal] at live
  | lateSuccess _ success _ _ _ _ | lateExpiredSuccess _ success _ _ _ _ => exact .inl success

/-- The job ended, and its outcome does not read as definitely not printed. -/
def Remembers (status : JobStatus) (error : Option Text) : Prop :=
  status = .success ∨ (status.isTerminal = true ∧ hasUnknownPhysicalOutcomeMarker error = true)

theorem Remembers.isTerminal (remembers : Remembers status error) : status.isTerminal = true := by
  rcases remembers with rfl | ⟨terminal, -⟩
  · rfl
  · exact terminal

theorem Remembers.outcome (remembers : Remembers status error) :
    derivePhysicalOutcome status error ≠ .notPrinted := by
  rw [ne_eq, derivePhysicalOutcome_eq_notPrinted_iff]
  rintro ⟨notSuccess, unmarked⟩
  rcases remembers with success | ⟨-, marked⟩
  · exact notSuccess success
  · simp [unmarked] at marked

/-- Every ambiguous attempt is still printing under its token, or its outcome is remembered. -/
def AmbiguityKept (s : Witnessed) : Prop :=
  ∀ token ∈ s.admitted, token ∉ s.definite →
    (∃ row, s.job = .live row ∧ row.status = .printing ∧ row.claimToken = some token) ∨
      Remembers s.job.status s.job.error

theorem Remembers.write (remembers : Remembers row.status row.error) (stamp : Instant) (op : JobOp) :
    Remembers (op.next stamp row).status (op.next stamp row).error := by
  rcases (op.written stamp row).terminal_error remembers.isTerminal with success | ⟨status, error⟩
  · exact .inl success
  · rw [status, error]
    exact remembers

section

variable (kept : AmbiguityKept s)

include kept

theorem AmbiguityKept.write (live : s.job = .live row)
    (noRequeue : ¬ (row.status = .printing ∧ (op.next stamp row).status = .queued)) :
    AmbiguityKept (s.write stamp op row) := by
  intro token member open'
  have notDefinite : token ∉ definiteFailure op row (op.next stamp row) :=
    fun h => open' (List.mem_append_left _ h)
  rcases List.mem_append.mp member with admitted | earlier
  · -- the statement itself admitted the attempt
    unfold admittedBy at admitted
    split at admitted
    · rename_i printing
      exact .inl ⟨_, rfl, printing, Option.mem_toList.mp admitted⟩
    · cases admitted
  · rcases kept token earlier (fun h => open' (List.mem_append_right _ h)) with running | remembers
    · obtain ⟨row', same, printing, held⟩ := running
      obtain rfl : row = row' := StoredJob.live.inj (live.symm.trans same)
      cases (op.written stamp row).fromPrinting printing with
      | running printing' token' => exact .inl ⟨_, rfl, printing', token'.trans held⟩
      | succeeded success => exact .inr (.inl success)
      | marked marker terminal => exact .inr (.inr ⟨terminal, marker⟩)
      | definite failed ended => exact absurd (by rw [ended, held]; simp) notDefinite
      | requeued queued => exact absurd ⟨printing, queued⟩ noRequeue
    · rw [live] at remembers
      exact .inr (Remembers.write remembers stamp op)

/-- Archiving keeps what the row remembers, provided a printing row is remembered by its receipt. -/
theorem AmbiguityKept.archive {receipt : Receipt} (live : s.job = .live row)
    (printing : row.status = .printing → Remembers receipt.status receipt.error)
    (copied : row.status.isTerminal = true → receipt.status = row.status ∧ receipt.error = row.error) :
    AmbiguityKept { s with job := .archived receipt } := by
  intro token member notDefinite
  rcases kept token member notDefinite with ⟨row', same, running, -⟩ | remembers
  · obtain rfl : row = row' := StoredJob.live.inj (live.symm.trans same)
    exact .inr (printing running)
  · rw [live] at remembers
    obtain ⟨status, error⟩ := copied remembers.isTerminal
    refine .inr ?_
    change Remembers receipt.status receipt.error
    rw [status, error]
    exact remembers

theorem AmbiguityKept.archiveTerminal (live : s.job = .live row) (terminal : row.status.isTerminal = true) :
    AmbiguityKept { s with job := .archived (Gateway.archiveTerminal row) } := by
  refine kept.archive live (fun printing => ?_) (fun _ => ⟨rfl, rfl⟩)
  simp [printing, JobStatus.isTerminal] at terminal

theorem AmbiguityKept.deleteAgent (live : s.job = .live row) (stamp : Instant) :
    AmbiguityKept { s with job := .archived (Gateway.deleteAgent stamp row) } := by
  refine kept.archive live (fun printing => .inr ?_) (fun terminal => ?_)
  · simp [Gateway.deleteAgent, printing, Uncertain, JobStatus.isTerminal]
  · simp [Gateway.deleteAgent, terminal]

theorem AmbiguityKept.step {s' : Witnessed} {event : OutcomeEvent} (noRequeue : NoCrashRequeue s event)
    (step : outcomes.step s event = some s') : AmbiguityKept s' := by
  simp only [outcomes, Witnessed.step] at step
  split at step
  · rename_i row stamp op live
    cases step
    exact kept.write live (noRequeue row live)
  · rename_i row now live
    obtain ⟨receipt, cleaned, rfl⟩ := Option.map_eq_some_iff.mp step
    simp only [cleanupTerminalPrintJobs, Option.ite_none_right_eq_some, Option.some.injEq] at cleaned
    obtain ⟨⟨terminal, -⟩, rfl⟩ := cleaned
    exact kept.archiveTerminal live terminal
  · rename_i row before live
    obtain ⟨receipt, cleaned, rfl⟩ := Option.map_eq_some_iff.mp step
    simp only [cleanupByOperator, Option.ite_none_right_eq_some, Option.some.injEq] at cleaned
    obtain ⟨⟨terminal, -⟩, rfl⟩ := cleaned
    exact kept.archiveTerminal live terminal
  · rename_i row stamp live
    cases step
    exact kept.deleteAgent live stamp
  · cases step

end

/-- In a run without crash requeues, once an attempt was admitted to `printing` and did not end in a
definite failure report, the ended job never reads as not printed, live or archived. -/
theorem ambiguity_remembered {s : Witnessed} (reached : outcomes.Reaches NoCrashRequeue s)
    (ambiguous : s.Ambiguous) (terminal : s.job.status.isTerminal = true) :
    derivePhysicalOutcome s.job.status s.job.error ≠ .notPrinted := by
  have kept : AmbiguityKept s := by
    refine reached.invariant ?_ fun s event s' kept noRequeue step => kept.step noRequeue step
    rintro s ⟨createdAt, expiresAt, rfl⟩ token member
    cases member
  obtain ⟨token, admitted, notDefinite⟩ := ambiguous
  rcases kept token admitted notDefinite with ⟨row, live, printing, -⟩ | remembers
  · rw [live, show StoredJob.status (.live row) = .printing from printing] at terminal
    cases terminal
  · exact remembers.outcome

def sampleJob : Witnessed := ⟨.live (.enqueued 0 (hours 1)), [], []⟩

/-- A push, its admission to `printing`, and the sweep that gives the attempt up. -/
def sampleTimeout : List OutcomeEvent :=
  [.write ⟨1, 2⟩ (.claimJobForDelivery sampleOwners 0 true 7),
    .write ⟨3, 4⟩ (.patch sampleOwners sampleClaimed.row (sampleReport .printing 7)),
    .write ⟨seconds 700, seconds 700⟩ (.sweep .stalePrinting 90)]

theorem ambiguity_remembered_timeout :
    ∃ s, outcomes.runWithin NoCrashRequeue sampleJob sampleTimeout = some s ∧ s.Ambiguous ∧
      s.job.status = .failed ∧ derivePhysicalOutcome s.job.status s.job.error ≠ .notPrinted := by
  refine ⟨_, rfl, ⟨7, by decide, by decide⟩, by decide, ?_⟩
  exact ambiguity_remembered
    (System.Reaches.runWithin (s := sampleJob) (.init ⟨0, hours 1, rfl⟩) sampleTimeout rfl)
    ⟨7, by decide, by decide⟩ (by decide)

/-- An admitted attempt is requeued after a crash, its row expires in the queue, and the ended job
reads as not printed. -/
theorem ambiguity_forgotten_after_crashRequeue :
    ∃ s, outcomes.Reachable s ∧ s.admitted = [7] ∧ s.definite = [] ∧ s.job.status = .expired ∧
      derivePhysicalOutcome s.job.status s.job.error = .notPrinted :=
  ⟨_, System.Reaches.run (s := sampleJob) (.init ⟨0, hours 1, rfl⟩)
    [.write ⟨1, 2⟩ (.claimJobForDelivery sampleOwners 0 true 7),
      .write ⟨3, 4⟩ (.patch sampleOwners sampleClaimed.row (sampleReport .printing 7)),
      .write ⟨5, 6⟩ (.patch sampleOwners samplePrinting.row
        { sampleReport .queued 7 with reason := .reprintAfterCrash }),
      .write ⟨hours 2, hours 2⟩ (.sweep .expired 90)] rfl,
    by decide, by decide, by decide, by decide⟩

end PrintGateway.Gateway
