import PrintGateway.Soundness.OutboxTerminal

/-!
# Fresh-key retries

`action_retry` starts a second operation for a row that is failed and not printed.  The physical
outcome is computed from the last error alone, while an admission by the Gateway is a fact about the
whole history of attempts: an admitted attempt that is answered with a server error goes back into
the queue and leaves no trace.  When every admitted attempt is recorded by the worker that made it,
and was answered with 200 or 201 or broke off after the connection was made, a row the Gateway may
hold is never offered for a retry.
-/

namespace PrintGateway.Odoo

open Machine

/-- Only an unsent row is leased, an unsent active row is queued, and a selected row is known to the
Gateway or has ended without an id. -/
structure Coherent (s : Outbox) : Prop where
  unsent : s.row.gatewayJobId = none → s.row.status.isTerminal = false → s.row.status = .queued
  leased : ∀ token, s.row.submitClaimToken = some token → s.row.gatewayJobId = none ∧ s.row.status = .queued
  lookedUp : none ∈ s.polls → s.row.status = .unknown ∨ s.row.status = .success
  polled : ∀ remoteId, some remoteId ∈ s.polls → s.row.gatewayJobId = some remoteId

/-- The row records that the Gateway may hold the job. -/
def PrintJob.Known (row : PrintJob) : Prop :=
  row.gatewayJobId ≠ none ∨ row.status = .unknown ∨ row.status = .success

theorem PrintJob.Known.not_retryable {row : PrintJob} (known : row.Known) : ¬ row.Retryable := by
  rintro ⟨failed, notPrinted⟩
  rcases known with identified | unknown | succeeded
  · simp [physicalOutcome, failed, identified] at notPrinted
  · rw [failed] at unknown
    cases unknown
  · rw [failed] at succeeded
    cases succeeded

section Row

variable {s : Outbox} {event : OutboxEvent} {row' : PrintJob}

theorem Coherent.known_of_selected (coherent : Coherent s) (selected : s.polls ≠ []) : s.row.Known := by
  obtain ⟨expected, member⟩ := List.exists_mem_of_ne_nil _ selected
  cases expected with
  | none => exact .inr (coherent.lookedUp member)
  | some remoteId => exact .inl (by rw [coherent.polled remoteId member]; exact Option.some_ne_none _)

/-- A leased row is not known: its lease ends before it is. -/
theorem Coherent.unknown_of_leased (coherent : Coherent s) {token : Token}
    (lease : s.row.submitClaimToken = some token) : ¬ s.row.Known := by
  obtain ⟨unsent, queued⟩ := coherent.leased token lease
  simp [PrintJob.Known, unsent, queued]

theorem PrintJob.Reconciled.known {late : Prop} {row : PrintJob} (reconciled : row.Reconciled late row')
    (known : row.Known) : row'.Known := by
  have ended (status : row.status = .unknown ∨ row.status = .success) : row'.Known := by
    have terminal : row.status.isTerminal = true := by rcases status with same | same <;> rw [same] <;> rfl
    rcases reconciled.closed terminal with same | ⟨succeeded, -⟩
    · exact .inr (by rwa [same])
    · exact .inr (.inr succeeded)
  rcases known with identified | status
  · rcases reconciled.identity with same | ⟨unidentified, -⟩
    · exact .inl (by rwa [same])
    · exact absurd unidentified identified
  · exact ended status

section

variable (changed : RowStep s event row')

include changed

/-- Once the row is known, no event makes it unknown again. -/
theorem RowStep.known (coherent : Coherent s) (known : s.row.Known) : row'.Known := by
  cases changed with
  | kept | pushedBack | leased => exact known
  | recorded _ _ recorded => exact absurd known (coherent.unknown_of_leased recorded.lease)
  | reconciled _ _ reconciled => exact reconciled.known known

theorem RowStep.unsent (coherent : Coherent s) (unidentified : row'.gatewayJobId = none)
    (active : row'.status.isTerminal = false) : row'.status = .queued := by
  cases changed with
  | kept | pushedBack | leased => exact coherent.unsent unidentified active
  | recorded _ _ recorded =>
    obtain ⟨-, queued⟩ := coherent.leased _ recorded.lease
    rcases recorded.shape with ⟨-, -, same⟩ | ⟨-, identified | status | status | status⟩
    · rw [same, queued]
    · rw [unidentified] at identified
      cases identified
    · exact status
    all_goals
      rw [status] at active
      cases active
  | reconciled _ selected reconciled =>
    rcases reconciled.known (coherent.known_of_selected selected) with identified | status | status
    · exact absurd unidentified identified
    all_goals
      rw [status] at active
      cases active

theorem RowStep.leased_unsent (coherent : Coherent s) {token : Token}
    (lease : row'.submitClaimToken = some token) : row'.gatewayJobId = none ∧ row'.status = .queued := by
  cases changed with
  | kept | pushedBack => exact coherent.leased token lease
  | leased _ _ _ unidentified active => exact ⟨unidentified, coherent.unsent unidentified active⟩
  | recorded _ _ recorded =>
    rcases recorded.shape with ⟨-, identity, status⟩ | ⟨released, -⟩
    · rw [identity, status]
      exact coherent.leased _ recorded.lease
    · rw [released] at lease
      cases lease
  | reconciled _ selected reconciled =>
    rw [reconciled.token] at lease
    exact absurd (coherent.known_of_selected selected) (coherent.unknown_of_leased lease)

/-- A Gateway id, once written, is never replaced. -/
theorem RowStep.identity (coherent : Coherent s) {remoteId : Text}
    (identified : s.row.gatewayJobId = some remoteId) : row'.gatewayJobId = some remoteId := by
  cases changed with
  | kept | pushedBack | leased => exact identified
  | recorded _ _ recorded =>
    rw [(coherent.leased _ recorded.lease).1] at identified
    cases identified
  | reconciled _ _ reconciled =>
    rcases reconciled.identity with same | ⟨unidentified, -⟩
    · rw [same, identified]
    · rw [unidentified] at identified
      cases identified

theorem RowStep.ended (ended : s.row.status = .unknown ∨ s.row.status = .success) :
    row'.status = .unknown ∨ row'.status = .success := by
  have terminal : s.row.status.isTerminal = true := by rcases ended with same | same <;> rw [same] <;> rfl
  rcases changed.closed terminal with same | ⟨succeeded, -⟩
  · rwa [same]
  · exact .inr succeeded

end

end Row

section Run

variable {s next : Outbox} {event : OutboxEvent}

/-- Only a selection adds a poll, with the id the row has at that moment. -/
theorem polls_step (step : s.step event = some next) :
    next.polls = s.polls ∨ next = { s with polls := s.row.gatewayJobId :: s.polls } ∧
      s.row.needsGatewayStatusReconciliation = true := by
  cases event with
  | claim now token attempts =>
    simp only [Outbox.step] at step
    split at step
    · cases step
    · obtain ⟨row', -, rfl⟩ := Option.map_eq_some_iff.mp step
      exact .inl rfl
  | arrive token | finish now token outcome =>
    obtain ⟨submission, -, rfl⟩ := Option.map_eq_some_iff.mp step
    exact .inl rfl
  | pushBack now =>
    cases step
    exact .inl rfl
  | select =>
    obtain ⟨reconcilable, selected⟩ := Option.ite_none_right_eq_some.mp step
    exact .inr ⟨(Option.some.inj selected).symm, reconcilable⟩
  | synced | missing | resolved =>
    obtain ⟨-, applied⟩ := Option.ite_none_right_eq_some.mp step
    cases applied
    exact .inl rfl

theorem lookedUp_of_reconcilable {row : PrintJob} (unidentified : row.gatewayJobId = none)
    (reconcilable : row.needsGatewayStatusReconciliation = true) : row.status = .unknown := by
  rw [PrintJob.needsGatewayStatusReconciliation, unidentified] at reconcilable
  simpa using (Bool.and_eq_true_iff.mp reconcilable).1

theorem coherent_step (coherent : Coherent s) (step : s.step event = some next) : Coherent next := by
  have changed := rowStep_of_step step
  refine ⟨changed.unsent coherent, fun token => changed.leased_unsent coherent, ?_, ?_⟩
  · intro member
    rcases polls_step step with same | ⟨rfl, reconcilable⟩
    · rw [same] at member
      exact changed.ended (coherent.lookedUp member)
    · rcases List.mem_cons.mp member with new | old
      · exact .inl (lookedUp_of_reconcilable new.symm reconcilable)
      · exact coherent.lookedUp old
  · intro remoteId member
    rcases polls_step step with same | ⟨rfl, -⟩
    · rw [same] at member
      exact changed.identity coherent (coherent.polled remoteId member)
    · rcases List.mem_cons.mp member with new | old
      · exact new.symm
      · exact coherent.polled remoteId old

theorem coherent_created (now : ℤ) (printerId destination : Text) :
    Coherent (.created (.created now printerId destination)) where
  unsent _ _ := rfl
  leased _ lease := nomatch lease
  lookedUp member := nomatch member
  polled _ member := nomatch member

end Run

section Record

variable {now : ℤ} {row : PrintJob} {token : Token} {values : Values}

/-- On a leased queued row every allowed status is persisted. -/
theorem persistState_queued (status : Status) (lease : row.submitClaimToken = some token)
    (queued : row.status = .queued) (named : values.status = some status)
    (allowed : status ∈ Status.queued.validTransitions) :
    row.persistState now token values true = .ok (some (row.assign now { values with releaseClaim := true })) := by
  simp [PrintJob.persistState, lease, queued, PrintJob.write, named, allowed, Status.isTerminal, Except.map]

/-- A leased queued row reaches every status that an accepted answer can report. -/
theorem advanceStatusClaimed_queued (now : ℤ) (values : Values) {target : Status}
    (lease : row.submitClaimToken = some token) (queued : row.status = .queued)
    (moved : target ≠ .queued) (whole : target ≠ .partialDelivery) :
    ∃ row', row.advanceStatusClaimed now token target values = .ok (some row') := by
  obtain ⟨status, gatewayJobId, attempts, lastError, nextRetryAt, completedAt, writeDate, printerId,
    destination, submitClaimToken, submitClaimedAt⟩ := row
  subst lease queued
  unfold PrintJob.advanceStatusClaimed
  simp only [ne_eq, not_true_eq_false, ↓reduceIte]
  cases target <;> first | contradiction | exact ⟨_, rfl⟩

/-- The plan for a 200 or 201 answer gives the row a Gateway id or the status unknown. -/
def Plan.Acknowledging : Plan → Prop
  | .persist values => values.status = some .unknown ∨
      values.status = some .failed ∧ values.gatewayJobId.isSome = true
  | .advance target values => target ≠ .queued ∧ target ≠ .partialDelivery ∧ values.gatewayJobId.isSome = true
  | .raise _ => False

theorem accepted_acknowledging (now : ℤ) (attempts : ℕ) (response : Response) :
    (response.accepted now attempts).Acknowledging := by
  unfold Response.accepted
  split
  · exact .inl rfl
  split
  · exact .inl rfl
  · exact .inl rfl
  split
  · simp only [Plan.Acknowledging]
    split
    · exact .inl rfl
    · exact .inr ⟨rfl, rfl⟩
  all_goals exact ⟨by decide, by decide, rfl⟩

theorem assign_known (acknowledging : (Plan.persist values).Acknowledging) :
    (row.assign now values).Known ∧ (row.assign now values).status ≠ .queued := by
  rcases acknowledging with unknown | ⟨failed, identified⟩
  · exact ⟨.inr (.inl (by simp [PrintJob.assign, unknown])), by simp [PrintJob.assign, unknown]⟩
  · obtain ⟨remoteId, remote⟩ := Option.isSome_iff_exists.mp identified
    exact ⟨.inl (by simp [PrintJob.assign, remote]), by simp [PrintJob.assign, failed]⟩

theorem recordAnswer_known (submission : Submission) {response : Response}
    (lease : row.submitClaimToken = some submission.token) (queued : row.status = .queued)
    (accepted : response.statusCode = 200 ∨ response.statusCode = 201) :
    (submission.recordAnswer now response row).Known ∧ (submission.recordAnswer now response row).status ≠ .queued := by
  have planned : response.plan now submission.attempts = response.accepted now submission.attempts := by
    unfold Response.plan
    rw [if_neg (by omega), if_pos accepted]
  have acknowledging := accepted_acknowledging now submission.attempts response
  unfold Submission.recordAnswer
  rw [planned]
  cases plan : response.accepted now submission.attempts with
  | persist values =>
    rw [plan] at acknowledging
    dsimp only
    have persisted : row.persistState now submission.token values true =
        .ok (some (row.assign now { values with releaseClaim := true })) := by
      rcases acknowledging with unknown | ⟨failed, -⟩
      · exact persistState_queued .unknown lease queued unknown (by decide)
      · exact persistState_queued .failed lease queued failed (by decide)
    rw [persisted]
    exact assign_known acknowledging
  | advance target values =>
    rw [plan] at acknowledging
    obtain ⟨moved, whole, identified⟩ := acknowledging
    obtain ⟨row', advanced⟩ := advanceStatusClaimed_queued now values lease queued moved whole
    obtain ⟨-, -, completedAt, assigned⟩ := PrintJob.advanceStatusClaimed_ok advanced
    obtain ⟨remoteId, remote⟩ := Option.isSome_iff_exists.mp identified
    simp only [advanced, Submission.caught]
    exact ⟨.inl (by simp [PrintJob.stored, assigned.gatewayJobId_eq, remote]),
      (assigned.status_eq rfl).trans_ne moved⟩
  | raise message =>
    rw [plan] at acknowledging
    exact acknowledging.elim

/-- An answer or a break after which the row shows that the Gateway may hold the job. -/
def Outcome.acknowledges : Outcome → Bool
  | .answered response => response.statusCode == 200 || response.statusCode == 201
  | .interrupted failure => !failure.preDispatch
  | .raised _ => false

theorem record_known (submission : Submission) {outcome : Outcome}
    (lease : row.submitClaimToken = some submission.token) (queued : row.status = .queued)
    (acknowledged : outcome.acknowledges = true) :
    (submission.record now outcome row).1.Known ∧ (submission.record now outcome row).1.status ≠ .queued := by
  cases outcome with
  | answered response =>
    refine recordAnswer_known submission lease queued ?_
    simpa [Outcome.acknowledges] using acknowledged
  | interrupted failure =>
    have transmitted : failure.preDispatch = false := by simpa [Outcome.acknowledges] using acknowledged
    simp only [Submission.record, transmitted, Bool.false_eq_true, ↓reduceIte, Submission.persist]
    rw [persistState_queued .unknown lease queued rfl (by decide)]
    exact assign_known (.inl rfl)
  | raised error => cases acknowledged

end Record

/-- Every admission comes from the worker that holds the lease, the lease is not taken over before
that worker records its outcome, and the outcome acknowledges that the Gateway may hold the job. -/
def acknowledged (s : Outbox) : OutboxEvent → Bool
  | .claim .. => s.submissions.all fun submission => !submission.admitted
  | .arrive token => s.row.submitClaimToken == some token
  | .finish _ token outcome =>
    (s.submission token).all fun submission => !submission.admitted || outcome.acknowledges
  | _ => true

/-- An admitted attempt whose worker holds the lease and has not recorded its outcome yet. -/
def Outbox.Held (s : Outbox) : Prop :=
  ∃ token submission, s.row.submitClaimToken = some token ∧ s.submission token = some submission ∧
    submission.admitted = true

section Held

variable {s next : Outbox} {event : OutboxEvent} {token : Token} {submission : Submission}

theorem submission_token (found : s.submission token = some submission) : submission.token = token := by
  simpa using List.find?_some found

theorem submission_mem (found : s.submission token = some submission) : submission ∈ s.submissions :=
  List.mem_of_find?_eq_some found

/-- Replacing or removing one worker does not touch the others. -/
theorem find?_continued {other : Token} (apart : other ≠ token) (continued : Option Submission)
    (own : ∀ submission ∈ continued, submission.token = token) :
    (s.continued token continued).find? (fun submission => submission.token == other) = s.submission other := by
  have skipped : continued.toList.find? (fun submission => submission.token == other) = none := by
    rw [List.find?_eq_none]
    intro submission member
    rw [own submission (Option.mem_toList.mp member)]
    simpa using apart.symm
  rw [Outbox.continued, List.find?_append, skipped, Option.none_or, List.find?_filter]
  unfold Outbox.submission
  congr 1
  funext submission
  by_cases same : submission.token = other <;> simp [same, apart]

/-- A submission loop that goes on keeps its token. -/
theorem record_token {now : ℤ} {outcome : Outcome} {row : PrintJob} :
    ∀ continued ∈ (submission.record now outcome row).2, continued.token = submission.token := by
  intro continued member
  cases outcome with
  | answered response | raised error => cases member
  | interrupted failure =>
    simp only [Submission.record] at member
    split at member
    · unfold Submission.handlePreDispatchFailure at member
      split at member
      · split at member
        · cases member
          rfl
        · cases member
      · cases member
    · cases member

/-- The holder of the lease keeps it, or records an outcome that makes the row known. -/
theorem held_step (coherent : Coherent s) (held : s.Held) (allowed : acknowledged s event = true)
    (step : s.step event = some next) : next.Held ∨ next.row.Known := by
  obtain ⟨token, submission, lease, found, admitted⟩ := held
  have selected (nonempty : s.polls ≠ []) : False :=
    coherent.unknown_of_leased lease (coherent.known_of_selected nonempty)
  cases event with
  | claim now token' attempts =>
    have none := List.all_eq_true.mp allowed submission (submission_mem found)
    rw [admitted] at none
    cases none
  | arrive token' =>
    obtain ⟨submission', found', rfl⟩ := Option.map_eq_some_iff.mp step
    have same : token' = token := by
      have lease' := beq_iff_eq.mp allowed
      exact Option.some.inj (lease'.symm.trans lease)
    subst same
    refine .inl ⟨token', { submission' with admitted := true }, lease, ?_, rfl⟩
    simp [Outbox.submission, Outbox.continued, submission_token found']
  | finish now token' outcome =>
    obtain ⟨submission', found', rfl⟩ := Option.map_eq_some_iff.mp step
    by_cases same : token' = token
    · subst same
      obtain rfl := Option.some.inj (found'.symm.trans found)
      rw [acknowledged, found] at allowed
      simp only [Option.all_some, admitted, Bool.not_true, Bool.false_or] at allowed
      have lease' : s.row.submitClaimToken = some submission'.token := by rw [submission_token found, lease]
      exact .inr (record_known submission' lease' (coherent.leased _ lease).2 allowed).1
    · rcases submission'.record_cases now outcome s.row with unchanged | recorded
      · have kept := (congrArg PrintJob.submitClaimToken unchanged).trans lease
        refine .inl ⟨token, submission, kept, ?_, admitted⟩
        rw [← found]
        refine find?_continued (Ne.symm same) _ fun continued member => ?_
        rw [record_token continued member, submission_token found']
      · have holder := Option.some.inj (recorded.lease.symm.trans lease)
        exact absurd ((submission_token found').symm.trans holder) same
  | pushBack now =>
    cases step
    exact .inl ⟨token, submission, lease, found, admitted⟩
  | select =>
    obtain ⟨-, applied⟩ := Option.ite_none_right_eq_some.mp step
    cases applied
    exact .inl ⟨token, submission, lease, found, admitted⟩
  | synced | missing | resolved =>
    obtain ⟨member, -⟩ := Option.ite_none_right_eq_some.mp step
    exact (selected (List.ne_nil_of_mem member)).elim

/-- Only an admission makes the job admitted, and it is the holder of the lease that it comes from. -/
theorem admitted_step (allowed : acknowledged s event = true) (step : s.step event = some next)
    (admitted : next.admitted = true) : s.admitted = true ∨ next.Held := by
  cases event with
  | claim now token attempts =>
    simp only [Outbox.step] at step
    split at step
    · cases step
    · obtain ⟨row', -, rfl⟩ := Option.map_eq_some_iff.mp step
      exact .inl admitted
  | arrive token =>
    obtain ⟨submission, found, rfl⟩ := Option.map_eq_some_iff.mp step
    refine .inr ⟨token, { submission with admitted := true }, beq_iff_eq.mp allowed, ?_, rfl⟩
    simp [Outbox.submission, Outbox.continued, submission_token found]
  | finish now token outcome =>
    obtain ⟨submission, -, rfl⟩ := Option.map_eq_some_iff.mp step
    exact .inl admitted
  | pushBack now =>
    cases step
    exact .inl admitted
  | select | synced | missing | resolved =>
    obtain ⟨-, applied⟩ := Option.ite_none_right_eq_some.mp step
    cases applied
    exact .inl admitted

end Held

/-- An admitted job is being recorded by the worker that sent it, or its row is known. -/
structure Accounted (s : Outbox) : Prop extends Coherent s where
  held : s.admitted = true → s.Held ∨ s.row.Known

theorem accounted_step {s next : Outbox} {event : OutboxEvent} (accounted : Accounted s)
    (allowed : acknowledged s event = true) (step : s.step event = some next) : Accounted next := by
  refine ⟨coherent_step accounted.toCoherent step, fun admitted => ?_⟩
  rcases admitted_step allowed step admitted with before | held
  · rcases accounted.held before with held | known
    · exact held_step accounted.toCoherent held allowed step
    · exact .inr ((rowStep_of_step step).known accounted.toCoherent known)
  · exact .inl held

/-- In every run whose admissions are acknowledged, a job that the Gateway may hold is never one that
`action_retry` would start again under a fresh key. -/
theorem admitted_not_retryable {s : Outbox}
    (reached : outbox.Reaches (fun s event => acknowledged s event = true) s)
    (admitted : s.admitted = true) : ¬ s.row.Retryable := by
  have accounted : Accounted s := by
    refine reached.invariant ?_ fun s event next => accounted_step
    rintro s ⟨now, printerId, destination, rfl⟩
    exact ⟨coherent_created now printerId destination, fun admitted => nomatch admitted⟩
  rcases accounted.held admitted with ⟨token, submission, lease, -⟩ | known
  · rintro ⟨failed, -⟩
    rw [(accounted.leased token lease).2] at failed
    cases failed
  · exact known.not_retryable

def sampleTimeout : TransportFailure where
  kind := .timeout
  chain := ["ReadTimeout", "ReadTimeoutError"]
  message := "read timed out"
  backup := none

def sampleRefused : TransportFailure where
  kind := .connectionError
  chain := ["ConnectionError", "MaxRetryError", "NewConnectionError"]
  message := "connection refused"
  backup := none

/-- An admitted attempt whose response is lost. -/
theorem admitted_not_retryable_timeout :
    ∃ s, outbox.runWithin (fun s event => acknowledged s event = true) sampleOutbox
        [.claim 1 7 0, .arrive 7, .finish 2 7 (.interrupted sampleTimeout)] = some s ∧
      s.admitted = true ∧ s.row.status = .unknown ∧ ¬ s.row.Retryable := by
  refine ⟨_, rfl, by decide, by decide, ?_⟩
  exact admitted_not_retryable
    (System.Reaches.runWithin (s := sampleOutbox) (.init ⟨0, _, _, rfl⟩) [.claim 1 7 0, .arrive 7,
      .finish 2 7 (.interrupted sampleTimeout)] rfl) (by decide)

/-- The first attempt is admitted and answered with HTTP 500; four refused connections later the row
is failed, reads as not printed, and is offered for a retry under a fresh key. -/
theorem admitted_retryable_after_server_error : ∃ s, outbox.Reachable s ∧ s.admitted = true ∧ s.row.attempts = 5 ∧
      s.row.lastError = some "CONNECTION_ERROR: connection refused".toList ∧ s.row.Retryable :=
  ⟨_, System.Reaches.run (s := sampleOutbox) (.init ⟨0, _, _, rfl⟩)
    [.claim (seconds 1) 1 0, .arrive 1, .finish (seconds 2) 1 (.answered (sampleResponse 500 none)),
      .claim (seconds 60) 2 1, .finish (seconds 61) 2 (.interrupted sampleRefused),
      .claim (seconds 120) 3 2, .finish (seconds 121) 3 (.interrupted sampleRefused),
      .claim (seconds 240) 4 3, .finish (seconds 241) 4 (.interrupted sampleRefused),
      .claim (seconds 480) 5 4, .finish (seconds 481) 5 (.interrupted sampleRefused)] rfl,
    by decide, by decide, by decide, by decide⟩

end PrintGateway.Odoo
