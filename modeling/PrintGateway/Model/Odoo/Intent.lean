import PrintGateway.Model.Odoo.Outbox

/-!
# Automation intents

One `print_gateway.intent` row, the post-commit hooks and cron visits that may claim it, the workers
that hold or held a claim token, and the outbox rows written under the intent key, with everyone who
submits and polls them.  Claiming, inserting the outbox row, each pass of its submission and finalising
run on separate cursors, so each of them is one event; a worker that dies, and one whose finalisation
fails, is one that has no further event.
-/

namespace PrintGateway.Odoo

open Machine

inductive IntentStatus
  | pending
  | claimed
  | dispatched
  | skipped
  | failed
  deriving DecidableEq, Repr

/-- The default of `max_attempts`, which no code changes. -/
def maxAttempts : ℕ := 3

structure Intent where
  status : IntentStatus
  attempts : ℕ
  nextRetryAt : Option ℤ
  claimedAt : Option ℤ
  claimToken : Option Token
  printJobId : Option ℕ
  deriving DecidableEq, Repr

/-- `compute_intent_key`. -/
def computeIntentKey (resModel : Text) (resId : ℕ) (eventType : Text) (policyId : ℕ) : Digest Text where
  subject := resModel ++ ":" ++ Text.digits resId ++ ":" ++ eventType ++ ":" ++ Text.digits policyId

namespace Intent

def created : Intent where
  status := .pending
  attempts := 0
  nextRetryAt := none
  claimedAt := none
  claimToken := none
  printJobId := none

/-- A pending or failed row whose backoff is over. -/
def RetryDue (now : ℤ) (intent : Intent) : Prop := intent.nextRetryAt.all (· ≤ now) = true

/-- A claimed row outside the five-minute lease window that ends at `threshold`. -/
def LeaseStale (threshold : ℤ) (intent : Intent) : Prop := intent.claimedAt.all (· ≤ threshold) = true

instance (now : ℤ) (intent : Intent) : Decidable (intent.RetryDue now) :=
  inferInstanceAs (Decidable (_ = true))

instance (threshold : ℤ) (intent : Intent) : Decidable (intent.LeaseStale threshold) :=
  inferInstanceAs (Decidable (_ = true))

/-- The statement of `_claim_intent`. -/
def claimIntent (now : ℤ) (token : Token) : Update Intent where
  guard intent :=
    (intent.status = .pending ∧ intent.RetryDue now) ∨
    (intent.status = .claimed ∧ intent.attempts < maxAttempts ∧ intent.LeaseStale (now - minutes 5)) ∨
    (intent.status = .failed ∧ intent.attempts < maxAttempts ∧ intent.RetryDue now)
  set intent :=
    { intent with
      status := .claimed, claimedAt := some now, claimToken := some token, attempts := intent.attempts + 1 }

/-- The statement of `_finalize_intent_state`; every status it is called with ends the claim. -/
def finalizeIntentState (token : Token) (status : IntentStatus) (printJobId : Option ℕ)
    (nextRetryAt : Option ℤ) : Update Intent where
  guard intent := intent.claimToken = some token
  set intent :=
    { intent with
      status := status, printJobId := printJobId, nextRetryAt := nextRetryAt, claimedAt := none,
      claimToken := none }

/-- The statement with which the cron ends a claim whose last attempt was lost. -/
def expireFinalAttempt (threshold : ℤ) (seen : Option Token) : Update Intent where
  guard intent := intent.status = .claimed ∧ intent.attempts ≥ maxAttempts ∧ intent.claimToken = seen ∧
    intent.LeaseStale threshold
  set intent :=
    { intent with status := .failed, claimedAt := none, claimToken := none, nextRetryAt := none }

/-- `action_rearm_intent`. -/
def rearm : Update Intent where
  guard intent := intent.status = .failed
  set intent :=
    { intent with status := .pending, attempts := 0, nextRetryAt := none, claimToken := none, claimedAt := none }

/-- Whether `create_and_route` registers another dispatch of an intent that exists. -/
def reroutes (now : ℤ) (intent : Intent) : Bool :=
  match intent.status with
  | .dispatched | .skipped => false
  | .claimed => !intent.claimedAt.any fun claimedAt => decide (now - claimedAt < seconds 300)
  | .failed => intent.attempts < maxAttempts
  | .pending => true

/-- The rows that `cron_recover_pending_intents` selects. -/
def Recoverable (now : ℤ) (intent : Intent) : Prop :=
  (intent.status = .pending ∧ intent.RetryDue now) ∨
  (intent.status = .claimed ∧ intent.LeaseStale (now - minutes 5)) ∨
  (intent.status = .failed ∧ intent.attempts < maxAttempts ∧ intent.RetryDue now)

instance (now : ℤ) (intent : Intent) : Decidable (intent.Recoverable now) :=
  inferInstanceAs (Decidable (_ ∨ _))

/-- The backoff after a failed route. -/
def retryDelay (attempts : ℕ) : ℤ := min 300 (15 * 2 ^ (attempts - 1))

end Intent

/-- The columns in which `create_operation` compares a key that is already used. -/
structure Operation where
  printerId : Text
  destination : Text
  destinationKey : Option Text
  documentType : Text
  payload : Text
  deriving DecidableEq, Repr

/-- An outbox row: its key, the columns that do not change, and the row with everyone who writes it. -/
structure OutboxJob where
  id : ℕ
  company : ℕ
  idempotencyKey : Digest Text
  destinationKey : Option Text
  documentType : Text
  payload : Text
  outbox : Outbox
  deriving DecidableEq, Repr

/-- The operation of a row as it is now; a failover has changed its printer. -/
def OutboxJob.operation (job : OutboxJob) : Operation :=
  ⟨job.outbox.row.printerId, job.outbox.row.destination, job.destinationKey, job.documentType, job.payload⟩

/-- `create_operation` on the table, whose `(company_id, idempotency_key)` is unique: the id of the row
and the table that holds it, or the refusal of a key used for another operation. -/
def createOperation (now : ℤ) (company : ℕ) (key : Digest Text) (operation : Operation) (jobs : List OutboxJob) :
    Except Text (List OutboxJob × ℕ) :=
  match jobs.find? fun job => job.company == company && job.idempotencyKey == key with
  | some existing =>
    if existing.operation = operation then .ok (jobs, existing.id)
    else .error "The idempotency key is already used for a different print operation."
  | none =>
    .ok (⟨jobs.length, company, key, operation.destinationKey, operation.documentType, operation.payload,
      .created (.created now operation.printerId operation.destination)⟩ :: jobs, jobs.length)

/-- How a route ended. -/
inductive RouteResult
  | routed
  | skipped
  | raised
  deriving DecidableEq, Repr

/-- A worker with a claim token, the attempts it read when it checked the token, the outbox row it has
committed or found, its submission lease, and how its route ended. -/
structure IntentWorker where
  token : Token
  attempts : Option ℕ
  jobId : Option ℕ
  lease : Option Token
  ended : Option RouteResult
  deriving DecidableEq, Repr

/-- What `route_intent` comes to before it writes: an explicit skip, an exception, or an operation with
the bytes that were rendered for it. -/
inductive Rendered
  | skip
  | raises
  | operation (operation : Operation)
  deriving DecidableEq, Repr

/-- The source record's company and the intent key, the row, the registered post-commit hooks, the
workers, the lease thresholds of cron passes that selected the row, the outbox rows of the key, the
tokens ever drawn, and the number of claims since the last re-arm. -/
structure Dispatching where
  company : ℕ
  key : Digest Text
  intent : Option Intent
  hooks : ℕ
  workers : List IntentWorker
  visits : List ℤ
  jobs : List OutboxJob
  issued : List Token
  claims : ℕ
  deriving DecidableEq, Repr

inductive IntentEvent
  | createAndRoute (now : ℤ)
  | dispatch (now : ℤ) (token : Token)
  | begin (token : Token)
  | route (now : ℤ) (token : Token) (rendered : Rendered)
  | submit (now : ℤ) (token : Token) (enabled : Bool) (lease : Token) (attempts : ℕ)
  | pass (now : ℤ) (token : Token) (outcome : Outcome)
  | finalize (now : ℤ) (token : Token)
  | outbox (id : ℕ) (event : OutboxEvent)
  | rearm
  | cronSelect (now : ℤ) (ahead : ℕ)
  | cronVisit (threshold now : ℤ) (token : Token)
  deriving DecidableEq, Repr

/-- The `LIMIT` of a cron pass, which takes the oldest rows first. -/
def recoveryBatch : ℕ := 50

namespace IntentWorker

/-- The finalisation that is stored; after the last exception `False` is bound to a timestamp, and nothing is. -/
def finalization (worker : IntentWorker) (now : ℤ) (attempts : ℕ) : RouteResult → Option (Update Intent)
  | .routed => worker.jobId.map fun jobId =>
      Intent.finalizeIntentState worker.token .dispatched (some jobId) none
  | .skipped => some (Intent.finalizeIntentState worker.token .skipped none none)
  | .raised =>
    if attempts < maxAttempts then
      some (Intent.finalizeIntentState worker.token .pending none
        (some (now + seconds (Intent.retryDelay attempts))))
    else none

end IntentWorker

namespace Dispatching

def start (company : ℕ) (key : Digest Text) : Dispatching where
  company := company
  key := key
  intent := none
  hooks := 0
  workers := []
  visits := []
  jobs := []
  issued := []
  claims := 0

def worker (s : Dispatching) (token : Token) : Option IntentWorker :=
  s.workers.find? fun worker => worker.token == token

def others (s : Dispatching) (token : Token) : List IntentWorker :=
  s.workers.filter fun worker => worker.token != token

def job (s : Dispatching) (id : ℕ) : Option OutboxJob := s.jobs.find? fun job => job.id == id

/-- One event of the outbox row of a job. -/
def moved (s : Dispatching) (id : ℕ) (event : OutboxEvent) : Option (List OutboxJob) :=
  (s.job id).bind fun job => (job.outbox.step event).map fun outbox =>
    s.jobs.map fun other => if other.id = id then { other with outbox } else other

/-- A worker with the outbox row it has committed or found. -/
def routing (s : Dispatching) (token : Token) : Option (IntentWorker × OutboxJob) :=
  (s.worker token).bind fun worker => (worker.jobId.bind s.job).map fun job => (worker, job)

/-- The route of a worker ends. -/
def ends (s : Dispatching) (worker : IntentWorker) (result : RouteResult) : Dispatching :=
  { s with workers := { worker with ended := some result } :: s.others worker.token }

/-- `_claim_intent`: the worker that holds the new token, or nothing when no row matched. -/
def claim (s : Dispatching) (now : ℤ) (token : Token) : Dispatching :=
  match s.intent.bind (Intent.claimIntent now token).exec with
  | some intent =>
    { s with
      intent := some intent, workers := ⟨token, none, none, none, none⟩ :: s.workers,
      issued := token :: s.issued, claims := s.claims + 1 }
  | none => { s with issued := token :: s.issued }

/-- The loop body of the cron pass for this row. -/
def visit (s : Dispatching) (threshold now : ℤ) (token : Token) : Dispatching :=
  match s.intent with
  | none => s
  | some intent =>
    if intent.status = .claimed ∧ intent.attempts ≥ maxAttempts then
      { s with intent := some ((Intent.expireFinalAttempt threshold intent.claimToken).next intent) }
    else if intent.attempts < maxAttempts then s.claim now token
    else s

def step (s : Dispatching) : IntentEvent → Option Dispatching
  -- the caller's transaction commits, and with it the hook it registered
  | .createAndRoute now =>
    match s.intent with
    | none => some { s with intent := some .created, hooks := s.hooks + 1 }
    | some intent => some { s with hooks := if intent.reroutes now then s.hooks + 1 else s.hooks }
  | .dispatch now token =>
    if s.hooks = 0 ∨ token ∈ s.issued then none
    else some ({ s with hooks := s.hooks - 1 }.claim now token)
  -- `_execute_dispatched_route` reads the row and stops when the token is not its own
  | .begin token =>
    (s.worker token).map fun worker =>
      match s.intent.filter fun intent => intent.claimToken == some token with
      | some intent => { s with workers := { worker with attempts := some intent.attempts } :: s.others token }
      | none => { s with workers := s.others token }
  -- the outbox row is committed on its own cursor, whoever holds the lease by then
  | .route now token rendered =>
    (s.worker token).bind fun worker =>
      if worker.attempts.isNone ∨ worker.jobId.isSome ∨ worker.ended.isSome then none
      else match rendered with
        | .skip => some (s.ends worker .skipped)
        | .raises => some (s.ends worker .raised)
        | .operation operation =>
          match createOperation now s.company s.key operation s.jobs with
          | .ok (jobs, jobId) =>
            some { s with jobs, workers := { worker with jobId := some jobId } :: s.others token }
          | .error _ => some (s.ends worker .raised)
  -- a row that was sent, is terminal or is leased elsewhere is not submitted again, and that is no exception
  | .submit now token enabled lease attempts =>
    (s.routing token).bind fun (worker, job) =>
      if worker.lease.isSome ∨ worker.ended.isSome ∨ lease ∈ job.outbox.issued then none
      else if enabled = false then some (s.ends worker .raised)
      else match s.moved job.id (.claim now lease attempts) with
        | some jobs => some { s with jobs, workers := { worker with lease := some lease } :: s.others token }
        | none => some (s.ends worker .routed)
  | .pass now token outcome =>
    (s.routing token).bind fun (worker, job) => worker.lease.bind fun lease =>
      (job.outbox.submission lease).bind fun submission =>
        if worker.ended.isSome then none
        else (s.moved job.id (.finish now lease outcome)).map fun jobs =>
          if (submission.record now outcome job.outbox.row).2.isSome then { s with jobs }
          else ends { s with jobs } worker
            (if submission.raises now outcome job.outbox.row then .raised else .routed)
  | .finalize now token =>
    (s.worker token).bind fun worker => worker.attempts.bind fun attempts => worker.ended.map fun result =>
      { s with
        intent := match worker.finalization now attempts result with
          | some update => s.intent.map update.next
          | none => s.intent
        workers := s.others token }
  -- the outbox cron, other submitters and the status polls
  | .outbox id event => (s.moved id event).map fun jobs => { s with jobs }
  | .rearm =>
    (s.intent.bind Intent.rearm.exec).map fun intent =>
      { s with intent := some intent, hooks := s.hooks + 1, claims := 0 }
  | .cronSelect now ahead =>
    if ahead < recoveryBatch ∧ s.intent.any fun intent => intent.Recoverable now then
      some { s with visits := (now - minutes 5) :: s.visits }
    else some s
  -- the database clock has not gone back since the row was selected
  | .cronVisit threshold now token =>
    if threshold ∈ s.visits ∧ threshold + minutes 5 ≤ now ∧ token ∉ s.issued then
      some ({ s with visits := s.visits.erase threshold }.visit threshold now token)
    else none

end Dispatching

/-- All calls, dispatches, cron passes and re-arms for one record, event and policy. -/
def dispatching : System Dispatching IntentEvent where
  init s := ∃ company resModel resId eventType policyId,
    s = .start company (computeIntentKey resModel resId eventType policyId)
  step := Dispatching.step

/-- The worker renders the operation that its outbox row has, or the first one of the key. -/
def Dispatching.Persists (s : Dispatching) (token : Token) : IntentEvent → Prop
  | .route _ presented (.operation operation) => presented = token ∧ ∀ job ∈ s.jobs, job.operation = operation
  | _ => False

/-- The submission of the worker ends without an exception: the row needs none or its lease is taken, or the answer is
recorded. -/
def Dispatching.Quiet (s : Dispatching) (token : Token) (event : IntentEvent) : Prop :=
  ∃ worker job, s.routing token = some (worker, job) ∧ match event with
    | .submit now presented enabled lease _ =>
      presented = token ∧ enabled = true ∧ ¬(PrintJob.claimSubmissionLease now lease).guard job.outbox.row
    | .pass now presented outcome =>
      presented = token ∧ ∃ submission, worker.lease.bind job.outbox.submission = some submission ∧
        (submission.record now outcome job.outbox.row).2 = none ∧ submission.raises now outcome job.outbox.row = false
    | _ => False

/-! ### The values a route writes -/

/-- A value that Python binds in the statement of `_finalize_intent_state`. -/
inductive SqlValue
  | null
  | false
  | text (text : Text)
  | id (id : ℕ)
  | timestamp (time : ℤ)

namespace SqlValue

/-- A timestamp column refuses a boolean. -/
def asTimestamp : SqlValue → Option (Option ℤ)
  | null => some none
  | timestamp time => some (some time)
  | _ => none

/-- A text column takes a boolean as its text. -/
def asText : SqlValue → Option (Option Text)
  | null => some none
  | false => some (some "false")
  | text value => some (some value)
  | _ => none

def asId : SqlValue → Option (Option ℕ)
  | null => some none
  | id value => some (some value)
  | _ => none

end SqlValue

/-- A row with the columns that only its finalisation uses. -/
structure IntentRow extends Intent where
  maxAttempts : ℕ
  lastError : Option Text

/-- `_finalize_intent_state`: an exception of the statement is logged and leaves the row as it is. -/
def IntentRow.finalize (row : IntentRow) (token : Token) (status : IntentStatus)
    (printJobId lastError nextRetryAt : SqlValue) : IntentRow :=
  match printJobId.asId, lastError.asText, nextRetryAt.asTimestamp with
  | some printJobId, some lastError, some nextRetryAt =>
    { row with
      toIntent := (Intent.finalizeIntentState token status printJobId nextRetryAt).next row.toIntent
      lastError := if row.claimToken = some token then lastError else row.lastError }
  | _, _, _ => row

/-- The entries of the dictionary of `route_intent` that are read. -/
structure RouteAnswer where
  jobId : Option ℕ
  status : Text

/-- A durable job, an explicit skip, or the text of an exception. -/
def routeOutcome : Except Text (Option RouteAnswer) → Except Text (Option ℕ)
  | .error exception => .error exception
  | .ok answer =>
    match answer.bind (·.jobId) with
    | some jobId => .ok (some jobId)
    | none =>
      if answer.any fun answer => answer.status ∈ ["skipped".toList, "no_action".toList] then .ok none
      else .error "Policy routing returned no durable outbox job or explicit skip"

/-- `_execute_dispatched_route`, given how the route of the record ended, if the record exists. -/
def IntentRow.executeDispatchedRoute (row : IntentRow) (now : ℤ) (token : Token)
    (route : Option (Except Text (Option RouteAnswer))) : IntentRow :=
  if row.claimToken ≠ some token then row
  else
    match route.map routeOutcome with
    | none => row.finalize token .skipped .null (.text "Source record no longer exists".toList) .null
    | some (.ok (some jobId)) => row.finalize token .dispatched (.id jobId) .false .null
    | some (.ok none) => row.finalize token .skipped .null .null .null
    | some (.error exception) =>
      let nextRetry := if row.attempts < row.maxAttempts then
        .timestamp (now + seconds (Intent.retryDelay row.attempts)) else .false
      let status := if row.attempts ≥ row.maxAttempts then .failed else .pending
      row.finalize token status .null (.text exception) nextRetry

end PrintGateway.Odoo
