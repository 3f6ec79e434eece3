import PrintGateway.Machine.Liveness
import PrintGateway.Model.Odoo.Intent

/-!
# Automation intents print at most once

The intent key is the idempotency key of the outbox row, so a lost finalisation or a stolen lease ends
in the row that is already there.  The attempt counter counts the claims since the last re-arm, a
pending row always has an attempt left, and a token that is not the row's own writes nothing.  A claimed
row is either finalised, claimed again with one attempt less to go, or given up by the cron.
-/

namespace PrintGateway.Odoo

open Machine Intent

/-- The events in which the worker that drew a token acts on its claim. -/
def IntentEvent.ByWorker (token : Token) : IntentEvent → Prop
  | .begin presented | .route _ presented _ | .submit _ presented _ _ _ | .pass _ presented _
  | .finalize _ presented => presented = token
  | _ => False

/-- What one event can do to the row and to the number of claims since the last re-arm. -/
inductive IntentStep (s : Dispatching) (event : IntentEvent) : Option Intent → ℕ → Prop
  | kept : IntentStep s event s.intent s.claims
  | created : s.intent = none → (∀ token, ¬event.ByWorker token) → IntentStep s event (some .created) s.claims
  | claimed {intent : Intent} (now : ℤ) (token : Token) : s.intent = some intent →
      (claimIntent now token).guard intent → token ∉ s.issued → (∀ token, ¬event.ByWorker token) →
      IntentStep s event (some ((claimIntent now token).set intent)) (s.claims + 1)
  | finalized {intent : Intent} {worker : IntentWorker} {attempts : ℕ} {update : Update Intent}
      (now : ℤ) (result : RouteResult) : s.intent = some intent → worker ∈ s.workers →
      worker.attempts = some attempts → worker.finalization now attempts result = some update →
      update.guard intent → event = .finalize now worker.token → worker.ended = some result →
      IntentStep s event (some (update.set intent)) s.claims
  | expired {intent : Intent} (threshold : ℤ) (seen : Option Token) : s.intent = some intent →
      (expireFinalAttempt threshold seen).guard intent → (∀ token, ¬event.ByWorker token) →
      IntentStep s event (some ((expireFinalAttempt threshold seen).set intent)) s.claims
  | rearmed {intent : Intent} : s.intent = some intent → rearm.guard intent → (∀ token, ¬event.ByWorker token) →
      IntentStep s event (some (rearm.set intent)) 0

/-- What one event can do to the outbox rows of the key. -/
inductive JobsStep (s : Dispatching) : List OutboxJob → Prop
  | kept : JobsStep s s.jobs
  | created {now : ℤ} {operation : Operation} {jobs : List OutboxJob} {jobId : ℕ} :
      createOperation now s.company s.key operation s.jobs = .ok (jobs, jobId) → JobsStep s jobs
  | moved {id : ℕ} {event : OutboxEvent} {jobs : List OutboxJob} : s.moved id event = some jobs → JobsStep s jobs

/-- Where a worker of the next state comes from. -/
inductive WorkerStep (s : Dispatching) (event : IntentEvent) (next : Dispatching) : IntentWorker → Prop
  | old {worker : IntentWorker} : worker ∈ s.workers → WorkerStep s event next worker
  | fresh {token : Token} : token ∉ s.issued → token ∈ next.issued →
      WorkerStep s event next ⟨token, none, none, none, none⟩
  | begun {worker : IntentWorker} {intent : Intent} : worker ∈ s.workers → next.intent = some intent →
      WorkerStep s event next { worker with attempts := some intent.attempts }
  | persisted {worker : IntentWorker} {now : ℤ} {operation : Operation} {jobId : ℕ} : worker ∈ s.workers →
      event = .route now worker.token (.operation operation) →
      createOperation now s.company s.key operation s.jobs = .ok (next.jobs, jobId) →
      WorkerStep s event next { worker with jobId := some jobId }
  | leased {worker : IntentWorker} (lease : Token) : worker ∈ s.workers →
      WorkerStep s event next { worker with lease := some lease }
  | ended {worker : IntentWorker} {result : RouteResult} : worker ∈ s.workers → worker.ended = none →
      (result = .routed → worker.jobId.isSome ∧ s.Quiet worker.token event) →
      WorkerStep s event next { worker with ended := some result }

/-- What one event does. -/
structure Steps (s : Dispatching) (event : IntentEvent) (next : Dispatching) : Prop where
  row : IntentStep s event next.intent next.claims
  workers : ∀ worker ∈ next.workers, WorkerStep s event next worker
  company : next.company = s.company
  key : next.key = s.key
  issued : s.issued ⊆ next.issued
  jobs : JobsStep s next.jobs

section Inversion

variable {s next : Dispatching} {event : IntentEvent} {worker : IntentWorker} {token : Token} {job : OutboxJob}

theorem worker_mem (found : s.worker token = some worker) : worker ∈ s.workers :=
  List.mem_of_find?_eq_some found

theorem worker_token (found : s.worker token = some worker) : worker.token = token := by
  simpa using List.find?_some found

/-- The worker and the row of a route that is being submitted. -/
theorem routing_eq (found : s.routing token = some (worker, job)) :
    worker ∈ s.workers ∧ worker.token = token ∧ worker.jobId = some job.id ∧ s.job job.id = some job := by
  obtain ⟨worker, found, found'⟩ := Option.bind_eq_some_iff.mp found
  obtain ⟨job, stored, same⟩ := Option.map_eq_some_iff.mp found'
  cases same
  obtain ⟨id, jobId, stored⟩ := Option.bind_eq_some_iff.mp stored
  obtain rfl : job.id = id := by simpa using List.find?_some stored
  exact ⟨worker_mem found, worker_token found, jobId, stored⟩

theorem others_subset (s : Dispatching) (token : Token) : s.others token ⊆ s.workers :=
  List.filter_subset_self _

/-- Events that leave the row alone, and change at most one worker. -/
theorem Steps.of_kept {jobs : List OutboxJob} {workers : List IntentWorker} (hooks : ℕ) (visits : List ℤ)
    (stepped : JobsStep s jobs)
    (derived : ∀ worker ∈ workers, WorkerStep s event { s with hooks, visits, jobs, workers } worker) :
    Steps s event { s with hooks, visits, jobs, workers } :=
  ⟨.kept, derived, rfl, rfl, List.Subset.refl _, stepped⟩

theorem Steps.of_same (hooks : ℕ) (visits : List ℤ) : Steps s event { s with hooks, visits } :=
  .of_kept hooks visits .kept fun _ member => .old member

/-- One worker is replaced. -/
theorem Steps.of_replaced {jobs : List OutboxJob} {worker' : IntentWorker} (stepped : JobsStep s jobs)
    (derived : WorkerStep s event { s with jobs, workers := worker' :: s.others token } worker') :
    Steps s event { s with jobs, workers := worker' :: s.others token } := by
  refine .of_kept s.hooks s.visits stepped fun worker member => ?_
  rcases List.mem_cons.mp member with rfl | old
  · exact derived
  · exact .old (others_subset s token old)

theorem Steps.of_ends {jobs : List OutboxJob} {result : RouteResult} (stepped : JobsStep s jobs)
    (member : worker ∈ s.workers) (open_ : worker.ended = none)
    (quiet : result = .routed → worker.jobId.isSome ∧ s.Quiet worker.token event) :
    Steps s event (Dispatching.ends { s with jobs } worker result) :=
  .of_replaced stepped (.ended member open_ quiet)

theorem steps_claim (hooks : ℕ) (visits : List ℤ) (now : ℤ) (fresh : token ∉ s.issued)
    (outside : ∀ token, ¬event.ByWorker token) :
    Steps s event ({ s with hooks, visits }.claim now token) := by
  unfold Dispatching.claim
  split
  · rename_i intent executed
    obtain ⟨intent, present, executed⟩ := Option.bind_eq_some_iff.mp executed
    obtain ⟨due, rfl⟩ := Update.exec_eq_some_iff.mp executed
    refine ⟨.claimed now token present due fresh outside, fun worker member => ?_, rfl, rfl, List.subset_cons_self _ _, .kept⟩
    rcases List.mem_cons.mp member with rfl | old
    · exact .fresh fresh List.mem_cons_self
    · exact .old old
  · exact ⟨.kept, fun _ member => .old member, rfl, rfl, List.subset_cons_self _ _, .kept⟩

theorem steps_visit (visits : List ℤ) (threshold now : ℤ) (fresh : token ∉ s.issued)
    (outside : ∀ token, ¬event.ByWorker token) :
    Steps s event ({ s with visits }.visit threshold now token) := by
  unfold Dispatching.visit
  split
  · exact .of_same s.hooks visits
  rename_i intent present
  split
  · rcases (expireFinalAttempt threshold intent.claimToken).next_cases intent with ⟨exhausted, set⟩ | same
    · rw [set]
      exact ⟨.expired threshold intent.claimToken present exhausted outside, fun _ member => .old member, rfl, rfl, List.Subset.refl _,
        .kept⟩
    · rw [same, ← present]
      exact .of_same s.hooks visits
  split
  · exact steps_claim s.hooks visits now fresh outside
  · exact .of_same s.hooks visits

/-- Every event is one of a few. -/
theorem steps_of_step (step : s.step event = some next) : Steps s event next := by
  cases event with
  | createAndRoute now =>
    simp only [Dispatching.step] at step
    split at step <;> cases step
    · rename_i absent
      exact ⟨.created absent fun _ => id, fun _ member => .old member, rfl, rfl, List.Subset.refl _, .kept⟩
    · exact .of_same _ s.visits
  | dispatch now token =>
    simp only [Dispatching.step] at step
    split at step <;> cases step
    rename_i enabled
    exact steps_claim _ s.visits now (fun drawn => enabled (.inr drawn)) fun _ => id
  | begin token =>
    obtain ⟨worker, found, rfl⟩ := Option.map_eq_some_iff.mp step
    split
    · rename_i intent owned
      exact .of_replaced .kept (.begun (worker_mem found) (Option.filter_eq_some_iff.mp owned).1)
    · exact .of_kept s.hooks s.visits .kept fun worker member => .old (others_subset s token member)
  | route now token rendered =>
    obtain ⟨worker, found, step⟩ := Option.bind_eq_some_iff.mp step
    obtain ⟨enabled, step⟩ := Option.ite_none_left_eq_some.mp step
    have open_ : worker.ended = none := by simpa using (not_or.mp (not_or.mp enabled).2).2
    obtain rfl := worker_token found
    split at step
    · cases step
      exact .of_ends .kept (worker_mem found) open_ nofun
    · cases step
      exact .of_ends .kept (worker_mem found) open_ nofun
    · split at step
      · rename_i persisted
        cases step
        exact .of_replaced (.created persisted) (.persisted (worker_mem found) rfl persisted)
      · cases step
        exact .of_ends .kept (worker_mem found) open_ nofun
  | submit now token enabled lease attempts =>
    obtain ⟨⟨worker, job⟩, found, step⟩ := Option.bind_eq_some_iff.mp step
    obtain ⟨idle, step⟩ := Option.ite_none_left_eq_some.mp step
    obtain ⟨open_, unissued⟩ := not_or.mp (not_or.mp idle).2
    obtain ⟨member, rfl, jobId, stored⟩ := routing_eq found
    have open_ : worker.ended = none := by simpa using open_
    split at step
    · cases step
      exact .of_ends .kept member open_ nofun
    · rename_i enabled
      split at step
      · rename_i jobs claimed
        cases step
        exact .of_replaced (.moved claimed) (.leased lease member)
      · rename_i refused
        cases step
        refine .of_ends .kept member open_ fun _ => ⟨by rw [jobId]; rfl, worker, job, found, rfl, by simpa using enabled, ?_⟩
        -- a lease that is free would have been taken
        intro free
        simp [Dispatching.moved, stored, Outbox.step, unissued, Update.exec, free] at refused
  | pass now token outcome =>
    obtain ⟨⟨worker, job⟩, found, step⟩ := Option.bind_eq_some_iff.mp step
    obtain ⟨lease, held, step⟩ := Option.bind_eq_some_iff.mp step
    obtain ⟨submission, flying, step⟩ := Option.bind_eq_some_iff.mp step
    obtain ⟨open_, step⟩ := Option.ite_none_left_eq_some.mp step
    obtain ⟨jobs, finished, rfl⟩ := Option.map_eq_some_iff.mp step
    obtain ⟨member, rfl, jobId, -⟩ := routing_eq found
    split
    · exact .of_kept s.hooks s.visits (.moved finished) fun _ member => .old member
    · rename_i over_
      refine .of_ends (.moved finished) member (by simpa using open_) fun quiet => ⟨by rw [jobId]; rfl, worker, job, found,
        rfl, submission, by rw [held]; exact flying, by simpa using over_, ?_⟩
      by_contra raised
      rw [if_pos (by simpa using raised)] at quiet
      cases quiet
  | finalize now token =>
    obtain ⟨worker, found, step⟩ := Option.bind_eq_some_iff.mp step
    obtain ⟨attempts, read, step⟩ := Option.bind_eq_some_iff.mp step
    obtain ⟨result, ended, rfl⟩ := Option.map_eq_some_iff.mp step
    refine ⟨?_, fun worker member => .old (others_subset s token member), rfl, rfl, List.Subset.refl _, .kept⟩
    dsimp only
    split
    · rename_i update finalization
      cases present : s.intent with
      | none =>
        rw [Option.map_none, ← present]
        exact .kept
      | some intent =>
        rcases update.next_cases intent with ⟨fenced, set⟩ | same
        · rw [Option.map_some, set]
          exact .finalized now result present (worker_mem found) read finalization fenced
            (congrArg _ (worker_token found).symm) ended
        · rw [Option.map_some, same, ← present]
          exact .kept
    · exact .kept
  | outbox id event =>
    obtain ⟨jobs, moved, rfl⟩ := Option.map_eq_some_iff.mp step
    exact .of_kept s.hooks s.visits (.moved moved) fun _ member => .old member
  | rearm =>
    obtain ⟨intent, executed, rfl⟩ := Option.map_eq_some_iff.mp step
    obtain ⟨intent, present, executed⟩ := Option.bind_eq_some_iff.mp executed
    obtain ⟨failed, rfl⟩ := Update.exec_eq_some_iff.mp executed
    exact ⟨.rearmed present failed fun _ => id, fun _ member => .old member, rfl, rfl, List.Subset.refl _, .kept⟩
  | cronSelect now ahead =>
    simp only [Dispatching.step] at step
    split at step <;> cases step <;> exact .of_same s.hooks _
  | cronVisit threshold now token =>
    obtain ⟨⟨-, -, fresh⟩, visited⟩ := Option.ite_none_right_eq_some.mp step
    cases visited
    exact steps_visit _ threshold now fresh fun _ => id

end Inversion

section Outbox

variable {s : Dispatching} {jobs : List OutboxJob}

/-- The outbox has no row of the key, or exactly one. -/
def SingleJob (company : ℕ) (key : Digest Text) (jobs : List OutboxJob) : Prop :=
  jobs = [] ∨ ∃ job, jobs = [job] ∧ job.company = company ∧ job.idempotencyKey = key

theorem SingleJob.length_le {company : ℕ} {key : Digest Text} (single : SingleJob company key jobs) :
    jobs.length ≤ 1 := by
  rcases single with rfl | ⟨job, rfl, -⟩
  · exact Nat.zero_le 1
  · exact Nat.le_refl 1

/-- A row of the key is inserted first, and later found under the operation it has. -/
theorem createOperation_single {now : ℤ} {operation : Operation} {jobId : ℕ} (single : SingleJob s.company s.key s.jobs)
    (created : createOperation now s.company s.key operation s.jobs = .ok (jobs, jobId)) :
    (∃ job, jobs = [job] ∧ job.company = s.company ∧ job.idempotencyKey = s.key ∧ job.id = jobId) ∧
      (s.jobs = [] ∨ jobs = s.jobs) ∧ ∀ job ∈ s.jobs, job.operation = operation := by
  rcases single with empty | ⟨job, only, sameCompany, sameKey⟩
  · simp only [createOperation, empty, List.find?_nil, List.length_nil, Except.ok.injEq, Prod.mk.injEq] at created
    obtain ⟨rfl, rfl⟩ := created
    exact ⟨⟨_, rfl, rfl, rfl, rfl⟩, .inl empty, by simp [empty]⟩
  · have found : s.jobs.find? (fun job => job.company == s.company && job.idempotencyKey == s.key) = some job := by
      simp [only, sameCompany, sameKey]
    simp only [createOperation, found] at created
    split at created
    · rename_i equal
      simp only [Except.ok.injEq, Prod.mk.injEq] at created
      obtain ⟨rfl, rfl⟩ := created
      exact ⟨⟨job, only, sameCompany, sameKey, rfl⟩, .inr rfl, by simpa [only] using equal⟩
    · cases created

/-- There stays at most one row, under its id. -/
theorem JobsStep.single (stepped : JobsStep s jobs) (single : SingleJob s.company s.key s.jobs) :
    SingleJob s.company s.key jobs ∧ ∀ job ∈ s.jobs, ∃ job' ∈ jobs, job'.id = job.id := by
  cases stepped with
  | kept => exact ⟨single, fun job stored => ⟨job, stored, rfl⟩⟩
  | created inserted =>
    obtain ⟨⟨job, only, company, key, -⟩, before, -⟩ := createOperation_single single inserted
    refine ⟨.inr ⟨job, only, company, key⟩, fun job' stored => ?_⟩
    rcases before with empty | same
    · rw [empty] at stored
      cases stored
    · exact ⟨job', same ▸ stored, rfl⟩
  | @moved id _ _ moved =>
    obtain ⟨job, found, moved⟩ := Option.bind_eq_some_iff.mp moved
    obtain ⟨outbox, -, rfl⟩ := Option.map_eq_some_iff.mp moved
    rcases single with empty | ⟨job, only, company, key⟩
    · simp [empty, SingleJob]
    · rw [only, List.map_singleton]
      refine ⟨.inr ⟨_, rfl, ?_⟩, fun job' stored => ⟨_, List.mem_singleton_self _, ?_⟩⟩
      · split <;> exact ⟨company, key⟩
      · rw [List.mem_singleton.mp stored]
        split <;> rfl

end Outbox

/-- The row counts its claims, a pending row has an attempt left, and a dispatched row has its job. -/
structure RowSound (claims : ℕ) (jobs : List OutboxJob) (intent : Intent) : Prop where
  counted : claims = intent.attempts
  bounded : intent.attempts ≤ maxAttempts
  armed : intent.status = .pending → intent.attempts < maxAttempts
  delivered : intent.status = .dispatched → ∃ job ∈ jobs, intent.printJobId = some job.id

/-- The invariant of all dispatches of one intent. -/
structure DispatchSound (s : Dispatching) : Prop where
  single : SingleJob s.company s.key s.jobs
  unclaimed : s.intent = none → s.claims = 0
  row : ∀ intent, s.intent = some intent → RowSound s.claims s.jobs intent
  drawn : ∀ worker ∈ s.workers, worker.token ∈ s.issued
  committed : ∀ worker ∈ s.workers, ∀ jobId, worker.jobId = some jobId → ∃ job ∈ s.jobs, job.id = jobId
  current : ∀ worker ∈ s.workers, ∀ attempts intent, worker.attempts = some attempts →
    s.intent = some intent → intent.claimToken = some worker.token → attempts = intent.attempts

section Invariant

variable {s next : Dispatching} {event : IntentEvent} {intent : Intent} {update : Update Intent}
  {worker : IntentWorker} {now : ℤ} {result : RouteResult} {attempts claims : ℕ} {token : Token}
  {after : Option Intent}

/-- What a finalisation writes, by the way the route ended. -/
theorem finalization_sound (sound : DispatchSound s) (present : s.intent = some intent)
    (member : worker ∈ s.workers) (read : worker.attempts = some attempts)
    (finalization : worker.finalization now attempts result = some update) (fenced : update.guard intent) :
    RowSound s.claims s.jobs (update.set intent) := by
  have row := sound.row intent present
  cases result with
  | routed =>
    obtain ⟨jobId, persisted, rfl⟩ := Option.map_eq_some_iff.mp finalization
    obtain ⟨job, stored, rfl⟩ := sound.committed worker member jobId persisted
    exact ⟨row.counted, row.bounded, nofun, fun _ => ⟨job, stored, rfl⟩⟩
  | skipped =>
    cases finalization
    exact ⟨row.counted, row.bounded, nofun, nofun⟩
  | raised =>
    simp only [IntentWorker.finalization] at finalization
    split at finalization
    · rename_i left
      cases finalization
      -- the attempts were read under the token that is still the row's own
      have same := sound.current worker member attempts intent read present fenced
      exact ⟨row.counted, row.bounded, fun _ => same ▸ left, nofun⟩
    · cases finalization

theorem finalization_eq (finalization : worker.finalization now attempts result = some update) :
    ∃ status printJobId nextRetryAt, status ≠ .claimed ∧
      update = finalizeIntentState worker.token status printJobId nextRetryAt := by
  cases result with
  | routed =>
    obtain ⟨jobId, -, rfl⟩ := Option.map_eq_some_iff.mp finalization
    exact ⟨.dispatched, some jobId, none, nofun, rfl⟩
  | skipped => exact ⟨.skipped, none, none, nofun, (Option.some.inj finalization).symm⟩
  | raised =>
    simp only [IntentWorker.finalization] at finalization
    split at finalization
    · exact ⟨.pending, none, _, nofun, (Option.some.inj finalization).symm⟩
    · cases finalization

theorem claim_bounded {jobs : List OutboxJob} (row : RowSound claims jobs intent)
    (due : (claimIntent now token).guard intent) :
    RowSound (claims + 1) jobs ((claimIntent now token).set intent) := by
  have left : intent.attempts < maxAttempts := by
    rcases due with ⟨pending, -⟩ | ⟨-, left, -⟩ | ⟨-, left, -⟩
    · exact row.armed pending
    · exact left
    · exact left
  exact ⟨congrArg (· + 1) row.counted, left, nofun, nofun⟩

theorem IntentStep.row (change : IntentStep s event after claims) (sound : DispatchSound s) :
    ∀ intent, after = some intent → RowSound claims s.jobs intent := by
  intro intent same
  cases change with
  | kept => exact sound.row intent same
  | created absent =>
    cases same
    exact ⟨sound.unclaimed absent, Nat.zero_le _, fun _ => Nat.zero_lt_succ _, nofun⟩
  | claimed now token present due =>
    cases same
    exact claim_bounded (sound.row _ present) due
  | finalized now result present member read finalization fenced =>
    cases same
    exact finalization_sound sound present member read finalization fenced
  | expired threshold seen present exhausted =>
    cases same
    have row := sound.row _ present
    exact ⟨row.counted, row.bounded, nofun, nofun⟩
  | rearmed present failed =>
    cases same
    exact ⟨rfl, Nat.zero_le _, fun _ => Nat.zero_lt_succ _, nofun⟩

/-- A row that carries a drawn token is the row the token was drawn for. -/
theorem IntentStep.same_of_drawn (change : IntentStep s event after claims) (present : after = some intent)
    (drawn : token ∈ s.issued) (owned : intent.claimToken = some token) : s.intent = some intent := by
  cases change with
  | kept => exact present
  | created absent | expired | rearmed =>
    cases present
    cases owned
  | claimed now token' _ _ fresh =>
    cases present
    cases owned
    exact absurd drawn fresh
  | finalized now result _ _ _ finalization =>
    cases present
    obtain ⟨status, printJobId, nextRetryAt, -, rfl⟩ := finalization_eq finalization
    cases owned

theorem IntentStep.unclaimed (change : IntentStep s event after claims) (sound : DispatchSound s)
    (absent : after = none) : claims = 0 := by
  cases change with
  | kept => exact sound.unclaimed absent
  | created | claimed | finalized | expired | rearmed => cases absent

theorem RowSound.mono {jobs jobs' : List OutboxJob} (row : RowSound claims jobs intent)
    (kept : ∀ job ∈ jobs, ∃ job' ∈ jobs', job'.id = job.id) : RowSound claims jobs' intent := by
  refine ⟨row.counted, row.bounded, row.armed, fun dispatched => ?_⟩
  obtain ⟨job, stored, same⟩ := row.delivered dispatched
  obtain ⟨job', stored', id⟩ := kept job stored
  exact ⟨job', stored', id ▸ same⟩

theorem dispatchSound_step (sound : DispatchSound s) (step : s.step event = some next) : DispatchSound next := by
  have steps := steps_of_step step
  obtain ⟨single, kept⟩ := steps.jobs.single sound.single
  -- the attempts an old worker read are those of the row, as long as its token is the row's own
  have current {worker : IntentWorker} (member : worker ∈ s.workers) {attempts : ℕ} {intent : Intent}
      (read : worker.attempts = some attempts) (present : next.intent = some intent)
      (owned : intent.claimToken = some worker.token) : attempts = intent.attempts :=
    sound.current worker member attempts intent read
      (steps.row.same_of_drawn present (sound.drawn worker member) owned) owned
  refine ⟨steps.company ▸ steps.key ▸ single, steps.row.unclaimed sound,
    fun intent present => (steps.row.row sound intent present).mono kept, ?_, ?_, ?_⟩ <;> intro worker member
  · have drawn {worker : IntentWorker} (member : worker ∈ s.workers) : worker.token ∈ next.issued :=
      steps.issued (sound.drawn worker member)
    cases steps.workers worker member with
    | fresh _ issued => exact issued
    | old earlier | begun earlier | persisted earlier | leased _ earlier | ended earlier =>
      have token := drawn earlier
      exact token
  · intro jobId persisted
    have committed {worker : IntentWorker} (member : worker ∈ s.workers)
        (persisted : worker.jobId = some jobId) : ∃ job ∈ next.jobs, job.id = jobId := by
      obtain ⟨job, stored, rfl⟩ := sound.committed worker member jobId persisted
      exact kept job stored
    cases steps.workers worker member with
    | old earlier | begun earlier | leased _ earlier | ended earlier => exact committed earlier persisted
    | fresh => cases persisted
    | persisted _ _ created =>
      cases persisted
      obtain ⟨⟨job, only, -, -, id⟩, -⟩ := createOperation_single sound.single created
      exact ⟨job, only ▸ List.mem_singleton_self job, id⟩
  · intro attempts intent read present owned
    cases steps.workers worker member with
    | old earlier | persisted earlier | leased _ earlier | ended earlier => exact current earlier read present owned
    | fresh => cases read
    | begun _ present' =>
      obtain rfl := Option.some.inj (present'.symm.trans present)
      exact (Option.some.inj read).symm

theorem dispatchSound_of_reachable (reached : dispatching.Reachable s) : DispatchSound s := by
  refine reached.invariant ?_ fun s event next sound _ => dispatchSound_step sound
  rintro s ⟨company, resModel, resId, eventType, policyId, rfl⟩
  exact ⟨.inl rfl, fun _ => rfl, nofun, nofun, nofun, nofun⟩

end Invariant

section Progress

variable {s next : Dispatching} {event : IntentEvent} {intent : Intent} {threshold : ℤ}

def Dispatching.Claimed (s : Dispatching) : Prop :=
  ∃ intent, s.intent = some intent ∧ intent.status = .claimed

/-- A claimed row stays as it is, is claimed again with one attempt less to go, or is not claimed. -/
theorem IntentStep.claimed_cases {after : Option Intent} {claims : ℕ} (change : IntentStep s event after claims)
    (present : s.intent = some intent) (claimed : intent.status = .claimed) :
    after = s.intent ∨ (∀ intent', after = some intent' → intent'.status ≠ .claimed) ∨ intent.attempts < maxAttempts ∧
        ∃ intent', after = some intent' ∧ intent'.attempts = intent.attempts + 1 := by
  cases change with
  | kept => exact .inl rfl
  | created absent =>
    rw [present] at absent
    cases absent
  | claimed now token present' due =>
    obtain rfl := Option.some.inj (present'.symm.trans present)
    refine .inr (.inr ⟨?_, _, rfl, rfl⟩)
    rcases due with ⟨pending, -⟩ | ⟨-, left, -⟩ | ⟨-, left, -⟩
    · rw [claimed] at pending
      cases pending
    · exact left
    · exact left
  | finalized now result _ _ _ finalization =>
    obtain ⟨status, printJobId, nextRetryAt, ended, rfl⟩ := finalization_eq finalization
    refine .inr (.inl fun intent' same => ?_)
    cases same
    exact ended
  | expired =>
    refine .inr (.inl fun intent' same => ?_)
    cases same
    exact nofun
  | rearmed present' failed =>
    obtain rfl := Option.some.inj (present'.symm.trans present)
    have failed : _ = IntentStatus.failed := failed
    rw [claimed] at failed
    cases failed

theorem Intent.LeaseStale.mono {threshold' : ℤ} (stale : intent.LeaseStale threshold)
    (later : threshold ≤ threshold') : intent.LeaseStale threshold' := by
  unfold LeaseStale at stale ⊢
  cases claim : intent.claimedAt with
  | none => rfl
  | some claimedAt =>
    rw [claim, Option.all_some, decide_eq_true_eq] at stale
    exact decide_eq_true (stale.trans later)

theorem leaseStale_of_getD (past : intent.claimedAt.getD 0 ≤ threshold) : intent.LeaseStale threshold := by
  unfold LeaseStale
  cases claim : intent.claimedAt with
  | none => rfl
  | some claimedAt =>
    rw [claim, Option.getD_some] at past
    exact decide_eq_true past

/-- A visit to a stale claim gives it up or claims it again. -/
theorem visit_changes {now : ℤ} (token : Token) (present : s.intent = some intent)
    (claimed : intent.status = .claimed) (stale : intent.LeaseStale threshold)
    (later : threshold + minutes 5 ≤ now) : (s.visit threshold now token).intent ≠ s.intent := by
  unfold Dispatching.visit
  rw [present]
  by_cases exhausted : intent.attempts ≥ maxAttempts
  · have lost : (expireFinalAttempt threshold intent.claimToken).guard intent :=
      ⟨claimed, exhausted, rfl, stale⟩
    simp only [claimed, exhausted, and_self, ↓reduceIte, Update.next_of_guard lost]
    intro same
    have status := congrArg Intent.status (Option.some.inj same)
    rw [claimed] at status
    cases status
  · have left : intent.attempts < maxAttempts := Nat.lt_of_not_le exhausted
    have staleNow : intent.LeaseStale (now - minutes 5) := stale.mono (by omega)
    have executed : (claimIntent now token).exec intent = some ((claimIntent now token).set intent) :=
      Update.exec_eq_some_iff.mpr ⟨.inr (.inl ⟨claimed, left, staleNow⟩), rfl⟩
    simp only [claimed, exhausted, left, and_false, ↓reduceIte, Dispatching.claim, present,
      Option.bind_some, executed]
    intro same
    have attempts := congrArg Intent.attempts (Option.some.inj same)
    exact absurd attempts (Nat.succ_ne_self _)

/-- The cron keeps running: as long as the row stays claimed, later and later passes visit it.  Others may be killed,
run out of time, or find too many older rows. -/
def CronKeepsRunning (run : dispatching.Execution) : Prop :=
  ∀ (time : ℤ) (n : ℕ), (∀ m ≥ n, (run.state m).Claimed) →
    ∃ m ≥ n, ∃ threshold now token, run.event m = .cronVisit threshold now token ∧ time ≤ threshold

/-- The claims that are left until the next re-arm. -/
def Dispatching.attemptsLeft (s : Dispatching) : ℕ :=
  maxAttempts - (s.intent.map Intent.attempts).getD 0

variable {run : dispatching.Execution}

theorem attemptsLeft_of_changes {n k : ℕ} (present : (run.state n).intent = some intent)
    (claimed : intent.status = .claimed) (same : (run.state k).intent = (run.state n).intent)
    (changed : (run.state (k + 1)).intent ≠ (run.state n).intent) :
    ¬ (run.state (k + 1)).Claimed ∨ (run.state (k + 1)).attemptsLeft < (run.state n).attemptsLeft := by
  have change := (steps_of_step (run.step k)).row
  rcases change.claimed_cases (same.trans present) claimed with kept | ended | ⟨left, intent', after, attempts⟩
  · exact absurd (kept.trans same) changed
  · exact .inl fun ⟨intent', after, claimed'⟩ => ended intent' after claimed'
  · refine .inr ?_
    simp only [Dispatching.attemptsLeft, present, after, attempts, Option.map_some, Option.getD_some]
    omega

theorem claimed_progress (cron : CronKeepsRunning run) {n : ℕ} (stays : ∀ m ≥ n, (run.state m).Claimed) :
    ∃ m ≥ n, (run.state m).attemptsLeft < (run.state n).attemptsLeft := by
  obtain ⟨intent, present, claimed⟩ := stays n le_rfl
  have moves {k : ℕ} (after : n ≤ k) (same : (run.state k).intent = (run.state n).intent)
      (changed : (run.state (k + 1)).intent ≠ (run.state n).intent) :
      ∃ m ≥ n, (run.state m).attemptsLeft < (run.state n).attemptsLeft :=
    ⟨k + 1, Nat.le_succ_of_le after, (attemptsLeft_of_changes present claimed same changed).resolve_left
      (not_not_intro (stays _ (Nat.le_succ_of_le after)))⟩
  obtain ⟨m, later, threshold, now, token, visited, late⟩ := cron (intent.claimedAt.getD 0) n stays
  rcases run.unchanged_or_changes Dispatching.intent later with same | ⟨k, after, -, same, changed⟩
  · refine moves later same ?_
    have stepped : (run.state m).step (.cronVisit threshold now token) = some (run.state (m + 1)) :=
      visited ▸ run.step m
    obtain ⟨⟨-, elapsed, -⟩, visit⟩ := Option.ite_none_right_eq_some.mp stepped
    rw [← Option.some.inj visit, ← same]
    exact visit_changes (s := { run.state m with visits := _ }) token (same.trans present) claimed
      (leaseStale_of_getD late) elapsed
  · exact moves after same changed

end Progress

/-- What holds in every reachable state of an intent: one outbox row, at most `maxAttempts` claims since
the last re-arm, a committed outbox row behind every dispatched intent, and a superseded worker that
changes nothing. -/
structure PrintsOnce (s : Dispatching) : Prop where
  oneJob : s.jobs.length ≤ 1
  claims : s.claims ≤ maxAttempts
  dispatched : ∀ intent, s.intent = some intent → intent.status = .dispatched →
    ∃ job ∈ s.jobs, intent.printJobId = some job.id ∧ job.idempotencyKey = s.key
  superseded : ∀ event next token, dispatching.step s event = some next → event.ByWorker token →
    (∀ intent, s.intent = some intent → intent.claimToken ≠ some token) → next.intent = s.intent

theorem superseded_step {s next : Dispatching} {event : IntentEvent} {token : Token}
    (step : s.step event = some next) (own : event.ByWorker token)
    (superseded : ∀ intent, s.intent = some intent → intent.claimToken ≠ some token) :
    next.intent = s.intent := by
  have change := (steps_of_step step).row
  generalize next.intent = after, next.claims = claims at change ⊢
  cases change with
  | kept => rfl
  | created _ outside | claimed _ _ _ _ _ outside | expired _ _ _ _ outside | rearmed _ _ outside =>
    exact absurd own (outside token)
  | finalized now result present _ _ finalization fenced ending =>
    subst ending
    obtain ⟨_, _, _, -, rfl⟩ := finalization_eq finalization
    exact absurd (fenced.trans (congrArg some own)) (superseded _ present)

theorem printsOnce_of_reachable {s : Dispatching} (reached : dispatching.Reachable s) : PrintsOnce s := by
  have sound := dispatchSound_of_reachable reached
  refine ⟨sound.single.length_le, ?_, fun intent present dispatched => ?_, fun event next token => superseded_step⟩
  · cases present : s.intent with
    | none =>
      rw [sound.unclaimed present]
      exact Nat.zero_le _
    | some intent =>
      rw [(sound.row intent present).counted]
      exact (sound.row intent present).bounded
  · obtain ⟨job, stored, same⟩ := (sound.row intent present).delivered dispatched
    refine ⟨job, stored, same, ?_⟩
    rcases sound.single with empty | ⟨job', only, -, key⟩
    · rw [empty] at stored
      cases stored
    · rw [only] at stored
      rw [List.mem_singleton.mp stored, key]

/-- Automation intents create at most one print, and no intent stays claimed while the cron runs. -/
theorem intent_prints_once : (∀ s, dispatching.Reachable s → PrintsOnce s) ∧
      ∀ run : dispatching.Execution, CronKeepsRunning run → ∀ n, ∃ m ≥ n, ¬ (run.state m).Claimed := by
  refine ⟨fun _ => printsOnce_of_reachable, fun run cron n => ?_⟩
  by_contra never
  have stays : ∀ m ≥ n, (run.state m).Claimed := fun m later => not_not.mp fun free => never ⟨m, later, free⟩
  -- the claims that are left cannot become fewer for ever
  have drops : ∀ k ≥ n, ∃ m ≥ k, ¬(run.state m).Claimed ∨ (run.state m).attemptsLeft < (run.state k).attemptsLeft := by
    intro k after
    obtain ⟨m, later, fewer⟩ := claimed_progress cron fun m later => stays m (after.le.trans later)
    exact ⟨m, later, .inr fewer⟩
  obtain ⟨m, later, free⟩ := exists_of_rank (fun m => (run.state m).attemptsLeft) drops n le_rfl
  exact free (stays m later)

/-! ### An abandoned claim

The first worker dies with its claim, and so does the first cron pass before it visits the row; two passes claim it
again and their workers die too; another gives it up, and the passes after it find nothing to do. -/

def abandonedEvent : ℕ → IntentEvent
  | 0 => .createAndRoute 0
  | 1 => .dispatch 0 1
  | 2 => .cronSelect (minutes 5) 0
  | 3 => .cronSelect (minutes 6) 0
  | 4 => .cronVisit (minutes 1) (minutes 6) 2
  | 5 => .cronSelect (minutes 11) 0
  | 6 => .cronVisit (minutes 6) (minutes 11) 3
  | 7 => .cronSelect (minutes 16) 0
  | 8 => .cronVisit (minutes 11) (minutes 16) 4
  | n + 9 => .cronSelect (minutes 16 + n) 0

def abandonedState : ℕ → Dispatching
  | 0 => .start 1 (computeIntentKey "stock.picking" 7 "picking_validated" 2)
  | n + 1 => ((abandonedState n).step (abandonedEvent n)).getD (abandonedState n)

theorem cronSelect_abandoned (n : ℕ) :
    (abandonedState 9).step (abandonedEvent (n + 9)) = some (abandonedState 9) := by
  have exhausted : (abandonedState 9).intent = some ⟨.failed, 3, none, none, none, none⟩ := by decide
  rw [abandonedEvent, Dispatching.step, exhausted]
  simp [Recoverable, maxAttempts]

theorem abandonedState_settled (n : ℕ) : abandonedState (n + 9) = abandonedState 9 := by
  induction n with
  | zero => rfl
  | succ n ih =>
    rw [show n + 1 + 9 = (n + 9) + 1 from rfl, abandonedState, ih]
    exact congrArg (Option.getD · _) (cronSelect_abandoned n)

theorem abandoned_step : ∀ n, dispatching.step (abandonedState n) (abandonedEvent n) = some (abandonedState (n + 1))
  | 0 | 1 | 2 | 3 | 4 | 5 | 6 | 7 | 8 => by decide
  | n + 9 => by
    have next : abandonedState (n + 9 + 1) = abandonedState 9 := abandonedState_settled (n + 1)
    rw [next, abandonedState_settled]
    exact cronSelect_abandoned n

def abandoned : dispatching.Execution where
  state := abandonedState
  event := abandonedEvent
  start := ⟨_, _, _, _, _, rfl⟩
  step := abandoned_step

theorem abandoned_cron : CronKeepsRunning abandoned := by
  intro time n stays
  obtain ⟨intent, present, claimed⟩ := stays (n + 9) (Nat.le_add_right n 9)
  have settled : (abandonedState (n + 9)).intent = some intent := present
  rw [abandonedState_settled] at settled
  have failed : (abandonedState 9).intent.all (fun intent => intent.status = .failed) = true := by decide
  rw [settled] at failed
  exact absurd (claimed.symm.trans (of_decide_eq_true failed)) (by decide)

/-- The abandoned claim at its second moment, and a later moment at which it is over. -/
theorem intent_prints_once_abandoned : dispatching.Reachable (abandoned.state 2) ∧ (abandoned.state 2).Claimed ∧
      PrintsOnce (abandoned.state 2) ∧ CronKeepsRunning abandoned ∧
      ∃ m ≥ 2, ¬ (abandoned.state m).Claimed :=
  ⟨abandoned.reachable 2, ⟨⟨.claimed, 1, none, some 0, some 1, none⟩, by decide, rfl⟩,
    intent_prints_once.1 _ (abandoned.reachable 2), abandoned_cron,
    intent_prints_once.2 abandoned abandoned_cron 2⟩

end PrintGateway.Odoo
