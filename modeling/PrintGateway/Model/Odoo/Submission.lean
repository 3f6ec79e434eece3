import PrintGateway.Machine.Update
import PrintGateway.Model.Odoo.Reconciliation

/-!
# Submission of an outbox row

A submission worker takes the 120 s lease, posts the job to the Gateway and records what came back:
one plan for every HTTP answer, and one handler for every kind of transport exception.  Its writes
go through `persistState` and `advanceStatusClaimed`, which look at the token under a row lock.  The
worker's own copy of `attempts` is a field of the submission, because it was read before the lease.
-/

namespace PrintGateway.Odoo

open Machine

namespace PrintJob

/-- `_claim_submission_lease`. -/
def claimSubmissionLease (now : ℤ) (token : Token) : Update PrintJob where
  guard row := row.gatewayJobId = none ∧ row.status.isTerminal = false ∧
    (row.submitClaimToken = none ∨ row.submitClaimedAt.all (· < now - seconds 120))
  set row := { row with submitClaimToken := some token, submitClaimedAt := some now }

/-- `_persist_state` with a claim token. -/
def persistState (now : ℤ) (token : Token) (values : Values) (release : Bool) (row : PrintJob) :
    Except Text (Option PrintJob) :=
  if row.submitClaimToken ≠ some token then .ok none
  else if row.status.isTerminal then .ok none
  else (row.write now { values with releaseClaim := release }).map some

/-- `_advance_status_claimed`. -/
def advanceStatusClaimed (now : ℤ) (token : Token) (target : Status) (values : Values) (row : PrintJob) :
    Except Text (Option PrintJob) :=
  if target ∉ Status.forwardChain ∧ target ≠ .failed ∧ target ≠ .unknown then
    .error (invalidTransition row.status target)
  else if row.submitClaimToken ≠ some token then .ok none
  else if row.status.isTerminal ∧ row.status ≠ target then .ok none
  else if row.status = target ∨ target = .failed ∨ target = .unknown then
    (row.write now
      { row.stableTerminalValues now target values with status := some target, releaseClaim := true }).map some
  else (row.writeHops now target { values with releaseClaim := true }).map some

end PrintJob

/-- A 429, 4xx, 5xx or 2xx answer: the fields of its headers and JSON object that are read. -/
structure Response where
  statusCode : ℕ
  code : Text
  error : Text
  retryAfter : Option ℤ
  upgradeRequired : Bool
  entitlement : Text
  limit : ℕ
  used : Option ℕ
  body : Option RemoteBody
  deriving DecidableEq, Repr

/-- What the worker does with an answer. -/
inductive Plan
  | persist (values : Values)
  | advance (target : Status) (values : Values)
  | raise (message : Text)
  deriving DecidableEq, Repr

def maxBillingParkAttempts : ℕ := 25

def billingParkRetry : ℤ := seconds (24 * 3600)

/-- `_billing_retry_values`. -/
def billingRetryValues (now : ℤ) (attempts : ℕ) (lastError : Text) (retryAfter : ℤ) : Values :=
  if attempts + 1 > maxBillingParkAttempts then
    { status := some .queued, attempts := some attempts,
      lastError := some (some ("GATEWAY_BILLING_PARKED: " ++ lastError)),
      nextRetryAt := some (some (now + billingParkRetry)) }
  else
    { status := some .queued, attempts := some (attempts + 1), lastError := some (some lastError),
      nextRetryAt := some (some (now + seconds retryAfter)) }

/-- A retry that turns terminal at the fifth attempt. -/
def boundedRetryValues (now : ℤ) (attempts : ℕ) (lastError : Text) (delay : ℤ) : Values :=
  let terminal := attempts + 1 ≥ 5
  { status := some (if terminal then .failed else .queued), attempts := some (attempts + 1),
    lastError := some (some lastError),
    nextRetryAt := some (if terminal then none else some (now + seconds delay)),
    completedAt := some (if terminal then some now else none) }

/-- A refusal that no retry can turn. -/
def terminalFailureValues (now : ℤ) (attempts : ℕ) (lastError : Text) : Values :=
  { status := some .failed, attempts := some (attempts + 1), lastError := some (some lastError),
    nextRetryAt := some none, completedAt := some (some now) }

/-- The values of `_record_ambiguous_submission`. -/
def ambiguousValues (attempts : ℕ) (detail : Text) : Values :=
  { status := some .unknown, attempts := some (attempts + 1),
    lastError := some (some ("UNKNOWN_SUBMISSION_OUTCOME: " ++ detail ++ " (ambiguous dispatch)")),
    nextRetryAt := some none }

namespace Response

/-- The `Retry-After` header, clamped; an absent or unreadable one counts as 60 seconds. -/
def clampedRetryAfter (response : Response) : ℤ := min 3600 (max 5 (response.retryAfter.getD 60))

def allowedEntitlements : List Text :=
  ["max_agents", "max_printers", "max_jobs_per_minute", "max_concurrent_jobs", "max_prints_per_period"]

def billingCodes : List Text :=
  ["TENANT_SUBSCRIPTION_REQUIRED", "TENANT_ENTITLEMENT_UNAVAILABLE", "TENANT_SUSPENDED", "TENANT_DELETED"]

def unavailableCodes : List Text :=
  ["PRINTER_OFFLINE", "PRINTER_UNAVAILABLE", "AGENT_UNAVAILABLE"]

def orElse (text fallback : Text) : Text := if text = [] then fallback else text

/-- HTTP 429: quota or rate limit. -/
def throttled (response : Response) (now : ℤ) (attempts : ℕ) : Values :=
  if response.upgradeRequired ∧ response.entitlement ∈ allowedEntitlements then
    let limit := if response.limit = 0 then "unknown".toList else Text.digits response.limit
    billingRetryValues now attempts
      ("GATEWAY_BILLING_LIMIT_REACHED: " ++ response.entitlement ++ " (limit " ++ limit ++
        ", used " ++ Text.digits (response.used.getD response.limit) ++ ")")
      response.clampedRetryAfter
  else
    { status := some .queued, attempts := some (attempts + 1),
      lastError := some (some "GATEWAY_RATE_LIMITED: Gateway returned HTTP 429"),
      nextRetryAt := some (some (now + seconds response.clampedRetryAfter)) }

/-- HTTP 503: an unavailable printer or agent, or a busy Gateway. -/
def unavailable (response : Response) (now : ℤ) (attempts : ℕ) : Values :=
  let message := response.error.strip
  if response.code ∈ unavailableCodes then
    boundedRetryValues now attempts
      ("GATEWAY_REJECTED_503: " ++ response.code ++ ": " ++ orElse message "printer unavailable")
      (min 300 (60 * 2 ^ min attempts 3))
  else
    billingRetryValues now attempts
      ("GATEWAY_BUSY_503: " ++ orElse message (orElse response.code "printer temporarily busy")) 60

/-- HTTP 200 and 201. -/
def accepted (response : Response) (now : ℤ) (attempts : ℕ) : Plan :=
  let invalid := Plan.persist (ambiguousValues attempts
    "Gateway accepted submission but returned an invalid response")
  match response.body with
  | none => invalid
  | some body =>
    match body.jobId.map Text.strip with
    | none | some [] => invalid
    | some remoteId =>
      let values : Values :=
        { gatewayJobId := some remoteId, attempts := some (attempts + 1), lastError := some none,
          nextRetryAt := some none }
      let ended : Values := { values with completedAt := some (some now) }
      match body.status.getD .queued with
      | .expired =>
        let error := body.error.getD
          ("GATEWAY_JOB_EXPIRED: the Gateway release window elapsed before the job was claimed")
        let status := if startsWithAny error gatewayUnknownMarkers ∨
            error.contains "JOB_EXPIRED_DURING_PRINT" then Status.unknown else .failed
        .persist { ended with status := some status, lastError := some (some error) }
      | .failed => .advance .failed { ended with lastError := some (body.error.map (·.take 4000)) }
      | .unknown => .advance .unknown ended
      | .success | .completed => .advance .success ended
      | .claimed => .advance .claimed values
      | .printing => .advance .printing values
      | .queued | .submitted | .partialDelivery | .other => .advance .submitted values

/-- The classification of an HTTP answer by `_action_submit_trusted`. -/
def plan (response : Response) (now : ℤ) (attempts : ℕ) : Plan :=
  if response.statusCode = 429 then .persist (response.throttled now attempts)
  else if response.statusCode = 200 ∨ response.statusCode = 201 then response.accepted now attempts
  else if response.statusCode = 403 ∧ response.code ∈ billingCodes then
    .persist (billingRetryValues now attempts ("GATEWAY_BILLING_BLOCKED: " ++ response.code)
      response.clampedRetryAfter)
  else if response.statusCode = 409 ∧ response.code = "API_KEY_READ_ONLY" then
    .persist (billingRetryValues now attempts
      ("GATEWAY_KEY_ROTATION_GRACE: API key is in its rotation grace period; " ++
        "re-queued to retry with the current key") 60)
  else if response.statusCode = 401 then
    .persist (billingRetryValues now attempts
      ("GATEWAY_AUTH_RECOVERABLE_401: Gateway authentication rejected; re-queued for retry after " ++
        "operator recovery (rotate key, re-enable integration, or restore tenant)") 300)
  else if response.statusCode ∈ [400, 403, 404, 409, 422] then
    .persist (terminalFailureValues now attempts
      ("GATEWAY_REJECTED_" ++ Text.digits response.statusCode ++ ": " ++
        orElse (response.error.take 2000) "GATEWAY_REJECTED"))
  else if response.statusCode = 503 then .persist (response.unavailable now attempts)
  else .raise ("GATEWAY_HTTP_" ++ Text.digits response.statusCode)

end Response

/-- A backup binding that is enabled and passed the route, company, protocol and sharing checks. -/
structure Backup where
  printerId : Text
  destination : Text
  deriving DecidableEq, Repr

/-- The `requests` exception classes in the order of the handlers. -/
inductive TransportKind
  | timeout
  | connectionError
  | requestException
  deriving DecidableEq, Repr

/-- A transport exception: the type names met on the walk of its causes, and its text. -/
structure TransportFailure where
  kind : TransportKind
  chain : List Text
  message : Text
  backup : Option Backup
  deriving DecidableEq, Repr

/-- `_is_pre_dispatch_error`: the first decisive name on the walk settles it. -/
def isPreDispatchError : List Text → Bool
  | [] => false
  | name :: rest =>
    if name ∈ ["ConnectionRefusedError".toList, "ConnectTimeout", "gaierror",
        "NewConnectionError", "ConnectTimeoutError", "NameResolutionError"] then true
    else if name ∈ ["ProtocolError".toList, "ReadTimeoutError", "RemoteDisconnected",
        "ConnectionResetError", "BrokenPipeError", "TimeoutError",
        "SSLError", "CertificateError"] then false
    else isPreDispatchError rest

namespace TransportFailure

/-- Only the timeout and connection handlers ask whether the request never left the host. -/
def preDispatch (failure : TransportFailure) : Bool :=
  match failure.kind with
  | .timeout | .connectionError => isPreDispatchError failure.chain
  | .requestException => false

def detail (failure : TransportFailure) : Text :=
  match failure.kind with
  | .timeout => "gateway request timed out"
  | .connectionError => "connection broke after the request may have been transmitted"
  | .requestException => "gateway request failed after dispatch could not be ruled out"

end TransportFailure

/-- A `ValueError`, `RuntimeError` or `ValidationError` outside the transport. -/
structure SubmitError where
  name : Text
  isValidationError : Bool
  message : Text
  deriving DecidableEq, Repr

/-- `_is_deterministic_failure`. -/
def SubmitError.isDeterministic (error : SubmitError) : Bool :=
  error.isValidationError || Text.contains (error.message.take 120) "GATEWAY_INVALID_RESPONSE" ||
    decide (error.name ∈ ["MissingSchema".toList, "InvalidSchema", "InvalidURL", "InvalidHeader"])

/-- The values the last handler of the loop persists. -/
def SubmitError.values (error : SubmitError) (now : ℤ) (attempts : ℕ) : Values :=
  if error.isDeterministic then terminalFailureValues now attempts (error.message.take 4000)
  else boundedRetryValues now attempts (error.message.take 4000) 0

/-- How one pass of the submission loop ends. -/
inductive Outcome
  | answered (response : Response)
  | interrupted (failure : TransportFailure)
  | raised (error : SubmitError)
  deriving DecidableEq, Repr

/-- A worker inside the submission loop, and whether the Gateway admitted its request. -/
structure Submission where
  token : Token
  attempts : ℕ
  failoverCount : ℕ
  visited : List Text
  admitted : Bool
  deriving DecidableEq, Repr

namespace Submission

def persist (now : ℤ) (s : Submission) (values : Values) (row : PrintJob) : PrintJob :=
  row.stored (row.persistState now s.token values true)

/-- A `ValidationError` of the write is caught by the last handler, which persists a failure. -/
def caught (now : ℤ) (s : Submission) (row : PrintJob) : Except Text (Option PrintJob) → PrintJob
  | .error message => s.persist now (SubmitError.values ⟨"ValidationError", true, message⟩ now s.attempts) row
  | answer => row.stored answer

def recordAnswer (now : ℤ) (s : Submission) (response : Response) (row : PrintJob) : PrintJob :=
  match response.plan now s.attempts with
  | .persist values => s.caught now row (row.persistState now s.token values true)
  | .advance target values => s.caught now row (row.advanceStatusClaimed now s.token target values)
  | .raise message =>
    s.persist now (SubmitError.values ⟨"RuntimeError", false, message⟩ now s.attempts) row

def maxFailoverDepth : ℕ := 3

/-- The backup that `_handle_pre_dispatch_failure` engages. -/
def failover (s : Submission) (failure : TransportFailure) : Option Backup :=
  failure.backup.filter fun backup =>
    s.attempts == 0 && decide (s.failoverCount < maxFailoverDepth) && decide (backup.printerId ∉ s.visited)

/-- `_handle_pre_dispatch_failure`, with the submission that goes on when a failover is engaged. -/
def handlePreDispatchFailure (now : ℤ) (s : Submission) (failure : TransportFailure) (row : PrintJob) :
    PrintJob × Option Submission :=
  match s.failover failure with
  | some backup =>
    match row.persistState now s.token
        { printerId := some backup.printerId, destination := some backup.destination,
          lastError := some (some ("PRE_DISPATCH_FAILOVER: Routed to backup printer " ++ backup.printerId)) }
        false with
    | .ok (some row') =>
      (row', some { s with failoverCount := s.failoverCount + 1, visited := backup.printerId :: s.visited })
    | _ => (row, none)
  | none =>
    (s.persist now (boundedRetryValues now s.attempts
      ("CONNECTION_ERROR: " ++ failure.message.take 4000) (min 300 (10 * 2 ^ min s.attempts 5))) row, none)

/-- The row after one pass of the loop, and the submission if the loop goes on. -/
def record (now : ℤ) (s : Submission) (outcome : Outcome) (row : PrintJob) : PrintJob × Option Submission :=
  match outcome with
  | .answered response => (s.recordAnswer now response row, none)
  | .interrupted failure =>
    if failure.preDispatch then s.handlePreDispatchFailure now failure row
    else (s.persist now (ambiguousValues s.attempts failure.detail) row, none)
  | .raised error => (s.persist now (error.values now s.attempts) row, none)

/-- Whether a pass that ends the loop raises, for a caller that asked for it.  A lost lease ends most passes quietly. -/
def raises (now : ℤ) (s : Submission) (outcome : Outcome) (row : PrintJob) : Bool :=
  let unlessLost (values : Values) := decide (row.persistState now s.token values true ≠ .ok none)
  match outcome with
  | .answered response =>
    match response.plan now s.attempts with
    | .persist values =>
      -- an admitted job that has expired is recorded without an exception
      if response.statusCode ≠ 200 ∧ response.statusCode ≠ 201 then true
      else if values.gatewayJobId.isSome then (row.persistState now s.token values true).toOption.isNone
      else unlessLost values
    | .advance target values => (row.advanceStatusClaimed now s.token target values).toOption.isNone
    | .raise _ => true
  | .interrupted failure =>
    if failure.preDispatch = false then unlessLost (ambiguousValues s.attempts failure.detail)
    else (s.failover failure).isNone && unlessLost (boundedRetryValues now s.attempts
      ("CONNECTION_ERROR: " ++ failure.message.take 4000) (min 300 (10 * 2 ^ min s.attempts 5)))
  | .raised _ => true

end Submission

namespace PrintJob

variable {now : ℤ} {token : Token} {values : Values} {row row' : PrintJob}

theorem persistState_ok {release : Bool}
    (persisted : row.persistState now token values release = .ok (some row')) :
    row.submitClaimToken = some token ∧ row.status.isTerminal = false ∧
      row' = row.assign now { values with releaseClaim := release } := by
  unfold persistState at persisted
  split at persisted
  · cases persisted
  rename_i held
  split at persisted
  · cases persisted
  rename_i active
  exact ⟨not_not.mp held, Bool.eq_false_iff.mpr active, write_ok (ok_of_map_some persisted)⟩

theorem advanceStatusClaimed_ok {target : Status}
    (advanced : row.advanceStatusClaimed now token target values = .ok (some row')) :
    row.submitClaimToken = some token ∧ (row.status.isTerminal = true → row.status = target) ∧
      ∃ completedAt, row.AssignedBy now
        { values with status := some target, completedAt := completedAt, releaseClaim := true } row' := by
  unfold advanceStatusClaimed at advanced
  split at advanced
  · cases advanced
  split at advanced
  · cases advanced
  rename_i held
  split at advanced
  · cases advanced
  rename_i immutable
  refine ⟨not_not.mp held, fun terminal => by_contra fun other => immutable ⟨terminal, other⟩, ?_⟩
  split at advanced
  · obtain ⟨completedAt, stable⟩ := row.stableTerminalValues_eq now target values
    have assigned := assignedBy_of_write (ok_of_map_some advanced)
    rw [stable] at assigned
    exact ⟨completedAt, assigned⟩
  · rename_i moving
    have moved : row.status ≠ target := fun same => moving (.inl same)
    exact ⟨values.completedAt, writeHops_ok moved (ok_of_map_some advanced)⟩

end PrintJob

/-- The statuses a worker records for a job it has no Gateway id of. -/
def Values.Unsent (values : Values) : Prop :=
  values.status = some .queued ∨ values.status = some .failed ∨ values.status = some .unknown

section Unsent

variable (now : ℤ) (attempts : ℕ)

theorem billingRetryValues_unsent (lastError : Text) (retryAfter : ℤ) :
    (billingRetryValues now attempts lastError retryAfter).Unsent := by
  unfold billingRetryValues
  split <;> exact .inl rfl

theorem boundedRetryValues_unsent (lastError : Text) (delay : ℤ) :
    (boundedRetryValues now attempts lastError delay).Unsent := by
  unfold boundedRetryValues Values.Unsent
  by_cases terminal : attempts + 1 ≥ 5 <;> simp [terminal]

theorem SubmitError.values_unsent (error : SubmitError) : (error.values now attempts).Unsent := by
  unfold SubmitError.values
  split
  · exact .inr (.inl rfl)
  · exact boundedRetryValues_unsent ..

/-- An answer that gives no Gateway id is recorded as queued, failed or unknown. -/
def Plan.Sound : Plan → Prop
  | .persist values => values.Unsent
  | .advance _ values => values.gatewayJobId.isSome
  | .raise _ => True

theorem Response.accepted_sound (response : Response) : (response.accepted now attempts).Sound := by
  unfold Response.accepted
  split
  · exact .inr (.inr rfl)
  split
  · exact .inr (.inr rfl)
  · exact .inr (.inr rfl)
  split
  · simp only [Plan.Sound, Values.Unsent]
    split <;> simp
  all_goals rfl

theorem Response.plan_sound (response : Response) : (response.plan now attempts).Sound := by
  unfold Response.plan
  split
  · show (response.throttled now attempts).Unsent
    unfold Response.throttled
    split
    · exact billingRetryValues_unsent ..
    · exact .inl rfl
  split
  · exact response.accepted_sound now attempts
  split
  · exact billingRetryValues_unsent ..
  split
  · exact billingRetryValues_unsent ..
  split
  · exact billingRetryValues_unsent ..
  split
  · exact .inr (.inl rfl)
  split
  · show (response.unavailable now attempts).Unsent
    unfold Response.unavailable
    split
    · exact boundedRetryValues_unsent ..
    · exact billingRetryValues_unsent ..
  · trivial

end Unsent

/-- What a worker can do to a row: it holds the lease, never moves a terminal status, and either goes
on with its lease or ends it with a Gateway id or an unsent status. -/
structure Recorded (token : Token) (row row' : PrintJob) : Prop where
  lease : row.submitClaimToken = some token
  closed : row.status.isTerminal = true → row'.status = row.status
  shape : (row'.submitClaimToken = row.submitClaimToken ∧ row'.gatewayJobId = row.gatewayJobId ∧
      row'.status = row.status) ∨
    row'.submitClaimToken = none ∧ (row'.gatewayJobId.isSome = true ∨
      row'.status = .queued ∨ row'.status = .failed ∨ row'.status = .unknown)

namespace Submission

variable {now : ℤ} {row : PrintJob} (s : Submission)

theorem recorded_of_persistState {values : Values} {row' : PrintJob} (unsent : values.Unsent)
    (persisted : row.persistState now s.token values true = .ok (some row')) :
    Recorded s.token row row' := by
  obtain ⟨lease, active, rfl⟩ := PrintJob.persistState_ok persisted
  refine ⟨lease, fun terminal => ?_, .inr ⟨rfl, .inr ?_⟩⟩
  · rw [active] at terminal
    cases terminal
  · rcases unsent with status | status | status <;> simp [PrintJob.assign, status]

theorem recorded_of_advance {target : Status} {values : Values} {row' : PrintJob}
    (identified : values.gatewayJobId.isSome = true)
    (advanced : row.advanceStatusClaimed now s.token target values = .ok (some row')) :
    Recorded s.token row row' := by
  obtain ⟨lease, closed, completedAt, assigned⟩ := PrintJob.advanceStatusClaimed_ok advanced
  have released : row'.submitClaimToken = none := assigned.submitClaimToken_eq
  refine ⟨lease, fun terminal => ?_, .inr ⟨released, .inl ?_⟩⟩
  · rw [assigned.status_eq rfl, closed terminal]
  · obtain ⟨remoteId, remote⟩ := Option.isSome_iff_exists.mp identified
    rw [assigned.gatewayJobId_eq, remote]
    rfl

theorem persist_cases {values : Values} (unsent : values.Unsent) :
    s.persist now values row = row ∨ Recorded s.token row (s.persist now values row) := by
  rcases row.stored_cases (row.persistState now s.token values true) with same | ⟨row', persisted, stored⟩
  · exact .inl same
  · unfold persist
    rw [stored]
    exact .inr (s.recorded_of_persistState unsent persisted)

theorem caught_cases {answer : Except Text (Option PrintJob)}
    (recorded : ∀ row', answer = .ok (some row') → Recorded s.token row row') :
    s.caught now row answer = row ∨ Recorded s.token row (s.caught now row answer) := by
  rcases answer with message | (_ | row')
  · exact s.persist_cases (SubmitError.values_unsent ..)
  · exact .inl rfl
  · exact .inr (recorded row' rfl)

theorem recordAnswer_cases (response : Response) :
    s.recordAnswer now response row = row ∨ Recorded s.token row (s.recordAnswer now response row) := by
  unfold recordAnswer
  have sound := response.plan_sound now s.attempts
  cases planned : response.plan now s.attempts with
  | persist values =>
    rw [planned] at sound
    exact s.caught_cases fun row' => s.recorded_of_persistState sound
  | advance target values =>
    rw [planned] at sound
    exact s.caught_cases fun row' => s.recorded_of_advance sound
  | raise message => exact s.persist_cases (SubmitError.values_unsent ..)

theorem handlePreDispatchFailure_cases (failure : TransportFailure) :
    (s.handlePreDispatchFailure now failure row).1 = row ∨
      Recorded s.token row (s.handlePreDispatchFailure now failure row).1 := by
  unfold handlePreDispatchFailure
  split
  · split
    · rename_i row' persisted
      obtain ⟨lease, active, rfl⟩ := PrintJob.persistState_ok persisted
      exact .inr ⟨lease, fun _ => rfl, .inl ⟨rfl, rfl, rfl⟩⟩
    · exact .inl rfl
  · exact s.persist_cases (boundedRetryValues_unsent ..)

/-- A pass of the submission loop leaves the row alone, or its worker holds the lease. -/
theorem record_cases (now : ℤ) (outcome : Outcome) (row : PrintJob) :
    (s.record now outcome row).1 = row ∨ Recorded s.token row (s.record now outcome row).1 := by
  cases outcome with
  | answered response => exact s.recordAnswer_cases response
  | interrupted failure =>
    unfold record
    by_cases unsent : failure.preDispatch = true
    · simp only [unsent, ↓reduceIte]
      exact s.handlePreDispatchFailure_cases failure
    · simp only [unsent]
      exact s.persist_cases (.inr (.inr rfl))
  | raised error => exact s.persist_cases (error.values_unsent now s.attempts)

end Submission

end PrintGateway.Odoo
