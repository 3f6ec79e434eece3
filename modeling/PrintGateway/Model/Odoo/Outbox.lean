import PrintGateway.Machine.Run
import PrintGateway.Model.Odoo.Submission

/-!
# One outbox row and everyone who writes it

The row together with the submission workers that are inside their loop, the status polls that have
selected it, and the fact, which only the Gateway knows, that it admitted the job.  Every locked
transaction is one event; an HTTP round trip is the gap between two of them, and a worker that dies
is one that has no further event.
-/

namespace PrintGateway.Odoo

open Machine

/-- The row, the workers in flight, the remote ids that polls have read from the row, the tokens ever
drawn, and whether the Gateway holds the job. -/
structure Outbox where
  row : PrintJob
  submissions : List Submission
  polls : List (Option Text)
  issued : List Token
  admitted : Bool
  deriving DecidableEq, Repr

inductive OutboxEvent
  | claim (now : ℤ) (token : Token) (attempts : ℕ)
  | arrive (token : Token)
  | finish (now : ℤ) (token : Token) (outcome : Outcome)
  | pushBack (now : ℤ)
  | select
  | synced (now : ℤ) (expected : Option Text) (body : RemoteBody)
  | missing (now : ℤ) (expected : Option Text)
  | resolved (now : ℤ) (body : RemoteBody)
  deriving DecidableEq, Repr

/-- The text passed to `_mark_gateway_job_missing` by the lookup and by the status polls. -/
def missingMessage : Option Text → Text
  | none => "GATEWAY_JOB_NOT_FOUND: ambiguous submission was not found on the Gateway; " ++
      "physical outcome remains unknown."
  | some _ => "GATEWAY_JOB_NOT_FOUND: the Gateway no longer has this job (expired or cleaned up). " ++
      "Physical outcome unknown - verify at the printer, then use Force Reprint if needed."

namespace Outbox

def created (row : PrintJob) : Outbox where
  row := row
  submissions := []
  polls := []
  issued := []
  admitted := false

/-- The worker that holds a token it drew, while it is in flight. -/
def submission (s : Outbox) (token : Token) : Option Submission :=
  s.submissions.find? fun submission => submission.token == token

/-- The submissions with the one of `token` replaced, or removed when its loop is over. -/
def continued (s : Outbox) (token : Token) (next : Option Submission) : List Submission :=
  next.toList ++ s.submissions.filter fun submission => submission.token != token

def begin (s : Outbox) (token : Token) (attempts : ℕ) (row : PrintJob) : Outbox :=
  { s with
    row := row
    submissions :=
      { token := token, attempts := attempts, failoverCount := 0, visited := [row.printerId],
        admitted := false } :: s.submissions
    issued := token :: s.issued }

def step (s : Outbox) : OutboxEvent → Option Outbox
  -- the worker's copy of `attempts` comes from its own snapshot
  | .claim now token attempts =>
    if token ∈ s.issued then none
    else ((PrintJob.claimSubmissionLease now token).exec s.row).map (s.begin token attempts)
  -- the request of a worker in flight reached the Gateway, which holds the job from now on
  | .arrive token =>
    (s.submission token).map fun submission =>
      { s with submissions := s.continued token (some { submission with admitted := true }), admitted := true }
  | .finish now token outcome =>
    (s.submission token).map fun submission =>
      let recorded := submission.record now outcome s.row
      { s with row := recorded.1, submissions := s.continued token recorded.2 }
  -- the integration is disabled
  | .pushBack now =>
    some { s with row := s.row.assign now { nextRetryAt := some (some (now + seconds 300)) } }
  | .select =>
    if s.row.needsGatewayStatusReconciliation then some { s with polls := s.row.gatewayJobId :: s.polls }
    else none
  | .synced now expected body =>
    if expected ∈ s.polls then
      some { s with row := s.row.stored (s.row.applySyncedStatus now expected body) }
    else none
  | .missing now expected =>
    if expected ∈ s.polls then
      some { s with
        row := s.row.stored (s.row.markGatewayJobMissing now expected (missingMessage expected)) }
    else none
  | .resolved now body =>
    if none ∈ s.polls then
      some { s with row := s.row.stored (s.row.resolveAmbiguousSubmission now body) }
    else none

end Outbox

/-- A freshly created row and any interleaving of its writers. -/
def outbox : System Outbox OutboxEvent where
  init s := ∃ now printerId destination, s = .created (.created now printerId destination)
  step := Outbox.step

/-- The evidence for a late success in the answer that an event applies. -/
def OutboxEvent.Late (row : PrintJob) : OutboxEvent → Prop
  | .synced _ _ body | .resolved _ body => row.LateSuccess body
  | _ => False

/-- The transactions of the submission worker that drew a token. -/
def OutboxEvent.BySubmitter (token : Token) : OutboxEvent → Prop
  | .finish _ presented _ => presented = token
  | _ => False

/-- An event that is no transaction of a submission worker. -/
def OutboxEvent.Background (event : OutboxEvent) : Prop := ∀ token, ¬ event.BySubmitter token

/-- What one event can do to the row. -/
inductive RowStep (s : Outbox) (event : OutboxEvent) : PrintJob → Prop
  | kept : RowStep s event s.row
  | pushedBack (now : ℤ) (date : Option ℤ) : event.Background →
      RowStep s event { s.row with nextRetryAt := date, writeDate := now }
  | leased (now : ℤ) (token : Token) : event.Background →
      s.row.gatewayJobId = none → s.row.status.isTerminal = false →
      RowStep s event { s.row with submitClaimToken := some token, submitClaimedAt := some now }
  | recorded {row' : PrintJob} (token : Token) : event.BySubmitter token → Recorded token s.row row' →
      RowStep s event row'
  | reconciled {row' : PrintJob} :
      event.Background → s.polls ≠ [] → s.row.Reconciled (event.Late s.row) row' → RowStep s event row'

theorem rowStep_of_stored {s : Outbox} {event : OutboxEvent} {answer : Except Text (Option PrintJob)}
    (background : event.Background) (selected : s.polls ≠ [])
    (reconciled : ∀ row', answer = .ok (some row') → s.row.Reconciled (event.Late s.row) row') :
    RowStep s event (s.row.stored answer) := by
  rcases s.row.stored_cases answer with same | ⟨row', applied, stored⟩
  · rw [same]
    exact .kept
  · rw [stored]
    exact .reconciled background selected (reconciled row' applied)

/-- Every event changes the row in one of five ways. -/
theorem rowStep_of_step {s next : Outbox} {event : OutboxEvent} (step : s.step event = some next) :
    RowStep s event next.row := by
  cases event with
  | claim now token attempts =>
    simp only [Outbox.step] at step
    split at step
    · cases step
    · obtain ⟨row', executed, rfl⟩ := Option.map_eq_some_iff.mp step
      obtain ⟨⟨unsent, active, -⟩, rfl⟩ := Update.exec_eq_some_iff.mp executed
      exact .leased now token (fun _ => not_false) unsent active
  | arrive token =>
    obtain ⟨submission, -, rfl⟩ := Option.map_eq_some_iff.mp step
    exact .kept
  | finish now token outcome =>
    obtain ⟨submission, found, rfl⟩ := Option.map_eq_some_iff.mp step
    have own : submission.token = token := by simpa using List.find?_some found
    rcases submission.record_cases now outcome s.row with same | recorded
    · simp only [same]
      exact .kept
    · exact .recorded submission.token own.symm recorded
  | pushBack now =>
    cases step
    exact .pushedBack now _ fun _ => not_false
  | select =>
    simp only [Outbox.step] at step
    split at step
    · cases step
      exact .kept
    · cases step
  | synced now expected body =>
    simp only [Outbox.step] at step
    split at step
    · rename_i selected
      cases step
      exact rowStep_of_stored (fun _ => not_false) (List.ne_nil_of_mem selected) fun row' applied =>
        (PrintJob.applySyncedStatus_ok applied).2.2
    · cases step
  | missing now expected =>
    simp only [Outbox.step] at step
    split at step
    · rename_i selected
      cases step
      exact rowStep_of_stored (fun _ => not_false) (List.ne_nil_of_mem selected) fun row' =>
        PrintJob.markGatewayJobMissing_ok
    · cases step
  | resolved now body =>
    simp only [Outbox.step] at step
    split at step
    · rename_i selected
      cases step
      exact rowStep_of_stored (fun _ => not_false) (List.ne_nil_of_mem selected) fun row' =>
        PrintJob.resolveAmbiguousSubmission_ok
    · cases step

end PrintGateway.Odoo
