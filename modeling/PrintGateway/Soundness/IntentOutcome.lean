import PrintGateway.Soundness.Intent

/-!
# What becomes of an intent

A route that ends is recorded in the row, except an exception on the last attempt: `False` is bound to a timestamp
column, and the row stays claimed.  An intent is dispatched only by an attempt that renders what its outbox row holds
and whose submission raises nothing, whatever became of that row otherwise.
-/

namespace PrintGateway.Odoo

open Machine Intent

/-! ### The outcome of a route -/

/-- The row says how the route ended, and is no longer claimed. -/
def IntentRow.Recorded (row after : IntentRow) (route : Option (Except Text (Option RouteAnswer))) : Prop :=
  after.status ≠ .claimed ∧ after.claimToken = none ∧ match (route.map routeOutcome).getD (.ok none) with
    | .ok (some jobId) => after.status = .dispatched ∧ after.printJobId = some jobId
    | .ok none => after.status = .skipped
    | .error exception => after.lastError = some exception ∧
        if row.attempts < row.maxAttempts then after.status = .pending ∧ after.nextRetryAt.isSome
        else after.status = .failed

theorem IntentRow.finalize_of_held {row : IntentRow} {token : Token} (held : row.claimToken = some token)
    (status : IntentStatus) {printJobId lastError nextRetryAt : SqlValue} {id : Option ℕ} {error : Option Text}
    {retry : Option ℤ} (isId : printJobId.asId = some id) (isText : lastError.asText = some error)
    (isTime : nextRetryAt.asTimestamp = some retry) :
    row.finalize token status printJobId lastError nextRetryAt =
      ⟨⟨status, row.attempts, retry, none, none, id⟩, row.maxAttempts, error⟩ := by
  have fenced : (finalizeIntentState token status id retry).guard row.toIntent := held
  rw [finalize, isId, isText, isTime]
  dsimp only
  rw [Update.next_of_guard fenced, if_pos held]
  rfl

/-- While the worker holds the claim, the end of the route is recorded exactly when it is no exception on the last
attempt. -/
theorem executeDispatchedRoute_recorded_iff {row : IntentRow} {token : Token} (now : ℤ)
    (route : Option (Except Text (Option RouteAnswer))) (held : row.claimToken = some token)
    (claimed : row.status = .claimed) :
    row.Recorded (row.executeDispatchedRoute now token route) route ↔
      ¬((∃ exception, route.map routeOutcome = some (.error exception)) ∧ row.maxAttempts ≤ row.attempts) := by
  rw [IntentRow.executeDispatchedRoute, if_neg (not_not_intro held), IntentRow.Recorded]
  match route.map routeOutcome with
  | none =>
    dsimp only
    rw [IntentRow.finalize_of_held held .skipped rfl rfl rfl]
    simp
  | some (.ok (some jobId)) =>
    dsimp only
    rw [IntentRow.finalize_of_held held .dispatched rfl rfl rfl]
    simp
  | some (.ok none) =>
    dsimp only
    rw [IntentRow.finalize_of_held held .skipped rfl rfl rfl]
    simp
  | some (.error exception) =>
    by_cases left : row.attempts < row.maxAttempts
    · simp only [if_pos left, if_neg (Nat.not_le.mpr left), ge_iff_le]
      rw [IntentRow.finalize_of_held held .pending rfl rfl rfl]
      simp [left]
    · -- the statement fails and the row stays as it was
      simp only [if_neg left]
      have stays : row.finalize token (if row.attempts ≥ row.maxAttempts then .failed else .pending) .null
          (.text exception) .false = row := rfl
      rw [stays]
      simp [claimed, Nat.not_lt.mp left]

def claimedRow (attempts : ℕ) : IntentRow := ⟨⟨.claimed, attempts, none, some 0, some 7, none⟩, 3, none⟩

theorem executeDispatchedRoute_recorded_retry :
    (claimedRow 2).Recorded ((claimedRow 2).executeDispatchedRoute 0 7 (some (.error "refused")))
      (some (.error "refused")) := by
  refine (executeDispatchedRoute_recorded_iff 0 _ rfl rfl).mpr ?_
  rintro ⟨-, last⟩
  exact absurd last (by decide)

/-- An exception on the last attempt is lost and the intent stays claimed. -/
theorem last_exception_unrecorded : ¬∀ (row : IntentRow) (token : Token) (now : ℤ)
    (route : Option (Except Text (Option RouteAnswer))), row.claimToken = some token → row.status = .claimed →
      row.Recorded (row.executeDispatchedRoute now token route) route := by
  intro recorded
  exact (recorded (claimedRow 3) 7 0 (some (.error "refused")) rfl rfl).1 rfl

/-! ### Intents with a durable job -/

section Dispatched

variable {s next : Dispatching} {event : IntentEvent} {token : Token} {es : List IntentEvent}

def Dispatching.Dispatched (s : Dispatching) : Prop := ∃ intent, s.intent = some intent ∧ intent.status = .dispatched

/-- The worker ends its attempt while it holds the claim. -/
def Dispatching.Finalizes (s : Dispatching) (token : Token) : IntentEvent → Prop
  | .finalize _ presented => presented = token ∧ ∃ intent, s.intent = some intent ∧ intent.claimToken = some token
  | _ => False

/-- The attempt is finalised under its claim. -/
def Ends (token : Token) : Dispatching → List IntentEvent → Prop :=
  dispatching.Passes fun s event _ _ => s.Finalizes token event

/-- Its submission raises nothing, and it is finalised after that. -/
def Submits (token : Token) : Dispatching → List IntentEvent → Prop :=
  dispatching.Passes fun s event next rest => s.Quiet token event ∧ Ends token next rest

/-- It renders what its outbox row holds, its submission raises nothing after that, and it is finalised. -/
def Succeeds (token : Token) : Dispatching → List IntentEvent → Prop :=
  dispatching.Passes fun s event next rest => s.Persists token event ∧ Submits token next rest

/-- The worker has its outbox row, and its route has ended well. -/
def IntentWorker.Routed (worker : IntentWorker) : Prop := worker.ended = some .routed ∧ worker.jobId.isSome

/-- A row becomes dispatched only when a worker whose route has ended well is finalised under its claim. -/
theorem dispatched_of_step (step : s.step event = some next) (dispatched : next.Dispatched) :
    s.Dispatched ∨ ∃ worker ∈ s.workers, worker.ended = some .routed ∧ s.Finalizes worker.token event := by
  have change := (steps_of_step step).row
  obtain ⟨intent, present, status⟩ := dispatched
  generalize next.intent = after, next.claims = claims at change present
  cases change with
  | kept => exact .inl ⟨intent, present, status⟩
  | created | claimed | expired | rearmed =>
    cases present
    cases status
  | finalized now result stored member read finalization fenced ending ended =>
    cases present
    cases result with
    | routed =>
      obtain ⟨jobId, -, rfl⟩ := Option.map_eq_some_iff.mp finalization
      refine .inr ⟨_, member, ended, ?_⟩
      rw [ending]
      exact ⟨rfl, _, stored, fenced⟩
    | skipped =>
      cases finalization
      cases status
    | raised =>
      simp only [IntentWorker.finalization] at finalization
      split at finalization <;> cases finalization
      cases status

/-- What a run of a dispatched row goes back to. -/
theorem succeeds_of_dispatched {s' : Dispatching} (sound : DispatchSound s) (ran : dispatching.run s es = some s')
    (dispatched : s'.Dispatched) : s.Dispatched ∨
      (∃ worker ∈ s.workers, worker.ended = some .routed ∧ Ends worker.token s es) ∨
      (∃ worker ∈ s.workers, worker.jobId.isSome ∧ Submits worker.token s es) ∨ ∃ token, Succeeds token s es := by
  induction es generalizing s with
  | nil =>
    cases ran
    exact .inl dispatched
  | cons event es ih =>
    obtain ⟨next, step, rest⟩ := Option.bind_eq_some_iff.mp ran
    have steps := steps_of_step step
    rcases ih (dispatchSound_step sound step) rest with
      earlier | ⟨worker, member, ended, ends⟩ | ⟨worker, member, persisted, submits⟩ | ⟨token, succeeds⟩
    · rcases dispatched_of_step step earlier with before | ⟨worker, member, ended, finalizes⟩
      · exact .inl before
      · exact .inr (.inl ⟨worker, member, ended, .head step finalizes⟩)
    · cases steps.workers worker member with
      | fresh => cases ended
      | old earlier | begun earlier | persisted earlier | leased _ earlier =>
        exact .inr (.inl ⟨_, earlier, ended, .tail step ends⟩)
      | ended earlier _ quiet =>
        obtain ⟨persisted, quiet⟩ := quiet (Option.some.inj ended)
        exact .inr (.inr (.inl ⟨_, earlier, persisted, .head step ⟨quiet, ends⟩⟩))
    · cases steps.workers worker member with
      | fresh => cases persisted
      | old earlier | begun earlier | leased _ earlier | ended earlier =>
        exact .inr (.inr (.inl ⟨_, earlier, persisted, .tail step submits⟩))
      | persisted earlier routed created =>
        have same := (createOperation_single sound.single created).2.2
        subst routed
        exact .inr (.inr (.inr ⟨_, .head step ⟨⟨rfl, same⟩, submits⟩⟩))
    · exact .inr (.inr (.inr ⟨token, .tail step succeeds⟩))

/-- The worker of a token has ended its route well, or is gone for good. -/
def Concluded (token : Token) (s : Dispatching) : Prop :=
  token ∈ s.issued ∧ ∀ worker ∈ s.workers, worker.token = token → worker.Routed

theorem Concluded.step (concluded : Concluded token s) (step : s.step event = some next) : Concluded token next := by
  have steps := steps_of_step step
  refine ⟨steps.issued concluded.1, fun worker member own => ?_⟩
  cases steps.workers worker member with
  | fresh unissued =>
    subst own
    exact absurd concluded.1 unissued
  | old earlier => exact concluded.2 _ earlier own
  | begun earlier | leased _ earlier =>
    have routed := concluded.2 _ earlier own
    exact routed
  | persisted earlier => exact ⟨(concluded.2 _ earlier own).1, rfl⟩
  | ended earlier open_ =>
    have ended := (concluded.2 _ earlier own).1
    rw [open_] at ended
    cases ended

theorem concluded_ends {jobs : List OutboxJob} {worker : IntentWorker} {job : OutboxJob} (sound : DispatchSound s)
    (found : s.routing token = some (worker, job)) :
    Concluded token (Dispatching.ends { s with jobs } worker .routed) := by
  obtain ⟨member, rfl, jobId, -⟩ := routing_eq found
  refine ⟨sound.drawn worker member, fun other listed own => ?_⟩
  rcases List.mem_cons.mp listed with rfl | apart
  · exact ⟨rfl, by rw [jobId]; rfl⟩
  · have apart := (List.mem_filter.mp apart).2
    simp [own] at apart

theorem concluded_of_quiet (sound : DispatchSound s) (quiet : s.Quiet token event) (step : s.step event = some next) :
    Concluded token next := by
  obtain ⟨worker, job, found, quiet⟩ := quiet
  have stored := (routing_eq found).2.2.2
  cases event with
  | submit now presented enabled lease attempts =>
    obtain ⟨rfl, rfl, busy⟩ := quiet
    simp only [Dispatching.step, found, Option.bind_some] at step
    obtain ⟨-, step⟩ := Option.ite_none_left_eq_some.mp step
    have refused : s.moved job.id (.claim now lease attempts) = none := by
      simp [Dispatching.moved, stored, Outbox.step, Update.exec, busy]
    rw [if_neg (by simp), refused] at step
    cases step
    exact concluded_ends sound found
  | pass now presented outcome =>
    obtain ⟨rfl, submission, flying, last, calm⟩ := quiet
    obtain ⟨lease, held, flying⟩ := Option.bind_eq_some_iff.mp flying
    simp only [Dispatching.step, found, Option.bind_some, held, flying] at step
    obtain ⟨-, step⟩ := Option.ite_none_left_eq_some.mp step
    obtain ⟨jobs, -, rfl⟩ := Option.map_eq_some_iff.mp step
    rw [if_neg (by simp [last]), if_neg (by simp [calm])]
    exact concluded_ends sound found
  | _ => exact quiet.elim

/-- A dispatched row without a claim, which nothing writes any more. -/
def Dispatching.Settled (s : Dispatching) : Prop :=
  ∃ intent, s.intent = some intent ∧ intent.status = .dispatched ∧ intent.claimToken = none

theorem Dispatching.Settled.step (settled : s.Settled) (step : s.step event = some next) : next.Settled := by
  have change := (steps_of_step step).row
  obtain ⟨intent, present, status, free⟩ := settled
  unfold Dispatching.Settled
  generalize next.intent = after, next.claims = claims at change ⊢
  -- the guards of all statements exclude such a row
  cases change with
  | kept => exact ⟨intent, present, status, free⟩
  | created absent =>
    rw [absent] at present
    cases present
  | claimed now token stored due =>
    obtain rfl := Option.some.inj (stored.symm.trans present)
    simp [claimIntent, status] at due
  | finalized now result stored _ _ finalization fenced =>
    obtain rfl := Option.some.inj (present.symm.trans stored)
    obtain ⟨_, _, _, -, rfl⟩ := finalization_eq finalization
    have held : intent.claimToken = some _ := fenced
    rw [free] at held
    cases held
  | expired threshold seen stored exhausted =>
    obtain rfl := Option.some.inj (stored.symm.trans present)
    exact absurd (status.symm.trans exhausted.1) (by decide)
  | rearmed stored failed =>
    obtain rfl := Option.some.inj (stored.symm.trans present)
    exact absurd (status.symm.trans failed) (by decide)

theorem settled_of_finalizes (concluded : Concluded token s) (finalizes : s.Finalizes token event)
    (step : s.step event = some next) : next.Settled := by
  cases event with
  | finalize now presented =>
    obtain ⟨rfl, intent, present, held⟩ := finalizes
    obtain ⟨worker, found, step⟩ := Option.bind_eq_some_iff.mp step
    obtain ⟨attempts, -, step⟩ := Option.bind_eq_some_iff.mp step
    obtain ⟨result, ended, rfl⟩ := Option.map_eq_some_iff.mp step
    obtain ⟨routed, persisted⟩ := concluded.2 worker (worker_mem found) (worker_token found)
    obtain rfl := Option.some.inj (ended.symm.trans routed)
    obtain ⟨jobId, persisted⟩ := Option.isSome_iff_exists.mp persisted
    have fenced : (finalizeIntentState worker.token .dispatched (some jobId) none).guard intent :=
      held.trans (congrArg some (worker_token found).symm)
    refine ⟨(finalizeIntentState worker.token .dispatched (some jobId) none).set intent, ?_, rfl, rfl⟩
    simp only [IntentWorker.finalization, persisted, present, Option.map_some, Update.next_of_guard fenced]
  | _ => exact finalizes.elim

theorem dispatched_of_succeeds {s' : Dispatching} (reached : dispatching.Reachable s)
    (ran : dispatching.run s es = some s') (succeeds : Succeeds token s es) : s'.Dispatched := by
  obtain ⟨before₁, event₁, after₁, mid₁, next₁, rfl, ran₁, step₁, -, submits⟩ := succeeds
  obtain ⟨before₂, event₂, after₂, mid₂, next₂, rfl, ran₂, step₂, quiet, ends⟩ := submits
  obtain ⟨before₃, event₃, after₃, mid₃, next₃, rfl, ran₃, step₃, finalizes⟩ := ends
  have reached₂ : dispatching.Reachable mid₂ := .run (.step event₁ (.run reached _ ran₁) trivial step₁) _ ran₂
  have concluded := concluded_of_quiet (dispatchSound_of_reachable reached₂) quiet step₂
  have concluded := System.run_keeps (Concluded token) (fun _ _ _ => Concluded.step) concluded before₃ ran₃
  have rest : dispatching.run next₃ after₃ = some s' := by
    simpa [System.run_append, System.run, ran₁, step₁, ran₂, step₂, ran₃, step₃] using ran
  obtain ⟨intent, present, status, -⟩ := System.run_keeps Dispatching.Settled (fun _ _ _ => Dispatching.Settled.step)
    (settled_of_finalizes concluded finalizes step₃) after₃ rest
  exact ⟨intent, present, status⟩

end Dispatched

/-- An intent is dispatched exactly when one of its attempts renders the operation that its outbox row holds, submits
it without an exception and is finalised while it has the claim; and then it is dispatched with that row. -/
theorem dispatched_iff_succeeds {s₀ s : Dispatching} {es : List IntentEvent} (initial : dispatching.init s₀)
    (ran : dispatching.run s₀ es = some s) :
    (s.Dispatched ↔ ∃ token, Succeeds token s₀ es) ∧
    (s.Dispatched → ∃ intent, s.intent = some intent ∧ intent.status = .dispatched ∧
      ∃ job ∈ s.jobs, intent.printJobId = some job.id) := by
  have start : dispatching.Reachable s₀ := .init initial
  refine ⟨⟨fun dispatched => ?_, fun ⟨_, succeeds⟩ => dispatched_of_succeeds start ran succeeds⟩,
    fun ⟨intent, present, status⟩ => ⟨intent, present, status, ?_⟩⟩
  · obtain ⟨_, _, _, _, _, rfl⟩ := initial
    -- there are no workers yet
    rcases succeeds_of_dispatched (dispatchSound_of_reachable start) ran dispatched with
      ⟨_, present, -⟩ | ⟨_, member, -⟩ | ⟨_, member, -⟩ | succeeds
    · cases present
    · cases member
    · cases member
    · exact succeeds
  · exact ((dispatchSound_of_reachable (System.Reaches.run start es ran)).row intent present).delivered status

def sampleOperation : Operation := ⟨"p", "Counter", none, "label", "bytes"⟩

def sampleThrottled : Response := ⟨429, [], [], none, false, [], 0, none, none⟩

/-- The Gateway has printed the job. -/
def samplePrinted : Response := ⟨201, [], [], none, false, [], 0, none, some ⟨some "g", some .success, none⟩⟩

/-- An attempt that commits or finds the outbox row and is then throttled. -/
def throttledAttempt (now : ℤ) (token lease : Token) (attempts : ℕ) : List IntentEvent :=
  [.begin token, .route now token (.operation sampleOperation), .submit now token true lease attempts,
    .pass now token (.answered sampleThrottled), .finalize now token]

/-- The outbox cron submits the row itself, and it is printed. -/
def printedByCron (now : ℤ) (lease : Token) (attempts : ℕ) : List IntentEvent :=
  [.outbox 0 (.claim now lease attempts), .outbox 0 (.arrive lease), .outbox 0 (.finish now lease (.answered samplePrinted))]

/-- Three throttled attempts; the third is not recorded, the cron gives the intent up, and the job is printed. -/
def throttledRun : List IntentEvent :=
  [.createAndRoute 0, .dispatch 0 1] ++ throttledAttempt 0 1 11 0 ++
    [.cronSelect (minutes 5) 0, .cronVisit 0 (minutes 5) 2] ++ throttledAttempt (minutes 5) 2 12 1 ++
    [.cronSelect (minutes 10) 0, .cronVisit (minutes 5) (minutes 10) 3] ++ throttledAttempt (minutes 10) 3 13 2 ++
    [.cronSelect (minutes 15) 0, .cronVisit (minutes 10) (minutes 15) 4] ++ printedByCron (minutes 15) 14 3

def sampleIntents : Dispatching := .start 1 (computeIntentKey "stock.picking" 7 "picking_validated" 2)

/-- A throttled attempt, the job printed by the outbox cron, and a second attempt that finds it sent. -/
def secondAttempt : List IntentEvent :=
  [.createAndRoute 0, .dispatch 0 1] ++ throttledAttempt 0 1 11 0 ++ printedByCron (minutes 4) 12 1 ++
    [.cronSelect (minutes 5) 0, .cronVisit 0 (minutes 5) 2, .begin 2,
      .route (minutes 5) 2 (.operation sampleOperation), .submit (minutes 5) 2 true 13 2, .finalize (minutes 5) 2]

theorem dispatched_on_second_attempt : ∃ s, dispatching.run sampleIntents secondAttempt = some s ∧ s.Dispatched ∧
    ∃ token, Succeeds token sampleIntents secondAttempt := by
  have ran : (dispatching.run sampleIntents secondAttempt).any (fun s =>
      s.intent.any fun intent => intent.status = .dispatched) = true := by decide +kernel
  obtain ⟨s, executed, ended⟩ := (Option.any_eq_true _ _).mp ran
  obtain ⟨intent, present, status⟩ := (Option.any_eq_true _ _).mp ended
  have dispatched : s.Dispatched := ⟨intent, present, of_decide_eq_true status⟩
  exact ⟨s, executed, dispatched, (dispatched_iff_succeeds ⟨_, _, _, _, _, rfl⟩ executed).1.mp dispatched⟩

/-- The outbox row is printed, and the intent has failed. -/
theorem exists_failed_with_printed_job : ∃ s, dispatching.Reachable s ∧
    (∃ job, s.jobs = [job] ∧ job.outbox.row.status = .success) ∧
    ∃ intent, s.intent = some intent ∧ intent.status = .failed ∧ intent.attempts = maxAttempts := by
  let s := (dispatching.run sampleIntents throttledRun).get (by decide +kernel)
  have reached : dispatching.Reachable s :=
    .run (.init ⟨_, _, _, _, _, rfl⟩) throttledRun (Option.some_get _).symm
  exact ⟨s, reached, ⟨s.jobs.head (by decide +kernel), by decide +kernel, by decide +kernel⟩,
    s.intent.get (by decide +kernel), by decide +kernel, by decide +kernel, by decide +kernel⟩

end PrintGateway.Odoo
