import PrintGateway.Model.Odoo.Outbox

/-!
# Terminal immutability of the outbox row

A terminal row moves in one way only: a Gateway answer that reports a success turns a failed or an
unknown row into a success.  For a failed row the answer must say `LATE_SUCCESS:` and the physical
outcome must be unknown; that is weaker than a marker in the error, since every failed row with a
Gateway id has an unknown physical outcome.
-/

namespace PrintGateway.Odoo

open Machine

/-- The Gateway answer that a reconciliation applies. -/
def OutboxEvent.answer : OutboxEvent → Option RemoteBody
  | .synced _ _ body | .resolved _ body => some body
  | _ => none

/-- What an event leaves of a terminal row, and what a superseded worker leaves of any row. -/
structure TerminalStep (s : Outbox) (event : OutboxEvent) (next : Outbox) : Prop where
  success : s.row.status = .success → next.row.status = .success
  failed : s.row.status = .failed → next.row.status = .failed ∨
    next.row.status = .success ∧ s.row.physicalOutcome = .unknown ∧
      ∃ body, event.answer = some body ∧ body.errorText.startsWith "LATE_SUCCESS:" = true
  unknown : s.row.status = .unknown → next.row.status = .unknown ∨
    next.row.status = .success ∧ s.row.needsGatewayStatusReconciliation = true ∧ event.answer.isSome = true
  partialDelivery : s.row.status = .partialDelivery → next.row.status = .partialDelivery
  superseded : ∀ token, event.BySubmitter token → s.row.submitClaimToken ≠ some token → next.row = s.row

section Step

variable {s next : Outbox} {event : OutboxEvent}

theorem OutboxEvent.Late.cases {row : PrintJob} (late : event.Late row) :
    ∃ body, event.answer = some body ∧ row.LateSuccess body := by
  cases event <;> first | exact ⟨_, rfl, late⟩ | exact late.elim

theorem RowStep.closed {row' : PrintJob} (changed : RowStep s event row')
    (terminal : s.row.status.isTerminal = true) :
    row'.status = s.row.status ∨ row'.status = .success ∧ event.Late s.row := by
  cases changed with
  | kept | pushedBack | leased => exact .inl rfl
  | recorded _ _ recorded => exact .inl (recorded.closed terminal)
  | reconciled _ _ reconciled => exact reconciled.closed terminal

theorem RowStep.superseded {row' : PrintJob} (changed : RowStep s event row') {token : Token}
    (own : event.BySubmitter token) (superseded : s.row.submitClaimToken ≠ some token) :
    row' = s.row := by
  cases changed with
  | kept => rfl
  | pushedBack _ _ background | leased _ _ background | reconciled background =>
    exact absurd own (background token)
  | recorded holder ownHolder recorded =>
    have same : holder = token := by
      cases event <;> first | exact ownHolder.symm.trans own | exact own.elim
    rw [same] at recorded
    exact absurd recorded.lease superseded

/-- A row in status success gives no evidence for a late success, nor does a partial delivery. -/
theorem OutboxEvent.Late.ambiguous {row : PrintJob} (late : event.Late row) :
    row.status = .failed ∨ row.status = .unknown := by
  obtain ⟨body, -, late⟩ := late.cases
  cases late with
  | failed status => exact .inl status
  | unknown status => exact .inr status

theorem terminalStep_of_step (step : s.step event = some next) : TerminalStep s event next := by
  have changed := rowStep_of_step step
  have closed := changed.closed
  refine ⟨fun status => ?_, fun status => ?_, fun status => ?_, fun status => ?_, fun token own => changed.superseded own⟩
  all_goals rw [status] at closed
  · rcases closed rfl with same | ⟨succeeded, -⟩
    · exact same
    · exact succeeded
  · refine (closed rfl).imp_right fun ⟨succeeded, late⟩ => ⟨succeeded, ?_⟩
    obtain ⟨body, answer, late⟩ := late.cases
    cases late with
    | failed _ ambiguous marked => exact ⟨ambiguous, body, answer, marked⟩
    | unknown unknown => rw [status] at unknown; cases unknown
  · refine (closed rfl).imp_right fun ⟨succeeded, late⟩ => ⟨succeeded, ?_⟩
    obtain ⟨body, answer, late⟩ := late.cases
    cases late with
    | failed failed => rw [status] at failed; cases failed
    | unknown _ reconcilable => exact ⟨reconcilable, by rw [answer]; rfl⟩
  · refine (closed rfl).resolve_right fun ⟨_, late⟩ => ?_
    rcases late.ambiguous with failed | unknown
    · rw [status] at failed; cases failed
    · rw [status] at unknown; cases unknown

/-- A success is never left, over any number of events. -/
theorem success_run {s' : Outbox} (succeeded : s.row.status = .success) (events : List OutboxEvent)
    (executed : outbox.run s events = some s') : s'.row.status = .success := by
  induction events generalizing s with
  | nil =>
    cases executed
    exact succeeded
  | cons event events ih =>
    obtain ⟨next, step, rest⟩ := Option.bind_eq_some_iff.mp executed
    exact ih ((terminalStep_of_step step).success succeeded) rest

end Step

/-- Terminal immutability: every event respects terminal rows and the lease, and a success stays. -/
theorem outbox_terminal_immutable (s : Outbox) :
    (∀ event next, outbox.step s event = some next → TerminalStep s event next) ∧
      (s.row.status = .success → ∀ events s', outbox.run s events = some s' → s'.row.status = .success) :=
  ⟨fun _ _ => terminalStep_of_step, fun succeeded events _ => success_run succeeded events⟩

/-- A new row for the printer of the samples. -/
def sampleOutbox : Outbox := .created (.created 0 "receipts" "Bar")

/-- A Gateway answer with nothing but a status code and a body. -/
def sampleResponse (statusCode : ℕ) (body : Option RemoteBody) : Response where
  statusCode := statusCode
  code := []
  error := []
  retryAfter := none
  upgradeRequired := false
  entitlement := []
  limit := 0
  used := none
  body := body

def sampleBody (status : RemoteStatus) (error : Option Text) : RemoteBody where
  jobId := some "g1"
  status := some status
  error := error

/-- A submitted row that two polls have selected, one of which then reported a failure. -/
def sampleFailed (error : Text) : List OutboxEvent :=
  [.claim 1 7 0, .finish 2 7 (.answered (sampleResponse 201 (some (sampleBody .printing none)))),
    .select, .select, .synced 3 (some "g1") (sampleBody .failed (some error))]

/-- The late success of a row that the first poll left unknown, and the success that stays. -/
theorem outbox_terminal_immutable_late :
    ∃ s, outbox.run sampleOutbox (sampleFailed "AGENT_EXECUTION_TIMEOUT: no answer") = some s ∧
      s.row.status = .unknown ∧
      ∃ next, outbox.step s (.synced 4 (some "g1") (sampleBody .success none)) = some next ∧
        TerminalStep s (.synced 4 (some "g1") (sampleBody .success none)) next ∧
        next.row.status = .success ∧
        ∀ events s', outbox.run next events = some s' → s'.row.status = .success :=
  ⟨_, rfl, by decide, _, rfl, (outbox_terminal_immutable _).1 _ _ rfl, by decide,
    (outbox_terminal_immutable _).2 (by decide)⟩

/-- A failed row whose error carries no unknown-outcome marker turns into a success: its Gateway id
alone makes the physical outcome unknown. -/
theorem failed_without_marker_succeeds :
    ∃ s next, outbox.Reachable s ∧ s.row.status = .failed ∧ s.row.lastError = some "printer jam".toList ∧
      startsWithAny s.row.error gatewayUnknownMarkers = false ∧
      outbox.step s (.synced 4 (some "g1")
        (sampleBody .success (some "LATE_SUCCESS: printed"))) = some next ∧
      next.row.status = .success :=
  ⟨_, _, System.Reaches.run (s := sampleOutbox) (.init ⟨0, _, _, rfl⟩)
    (sampleFailed "printer jam") rfl, by decide, by decide, by decide, rfl, by decide⟩

end PrintGateway.Odoo
