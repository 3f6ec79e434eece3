import PrintGateway.Model.Odoo.PrintJob

/-!
# Status reconciliation of an outbox row

What status synchronisation, missing-job handling and the lookup of a response-lost submission write.
Each of them locks the row before it looks at the status, so it is a function of the locked row and
of the values its caller read before the HTTP round trip.
-/

namespace PrintGateway.Odoo

/-- The `status` of a Gateway answer after `strip().lower()`. -/
inductive RemoteStatus
  | queued
  | submitted
  | claimed
  | printing
  | success
  | completed
  | failed
  | expired
  | partialDelivery
  | unknown
  | other
  deriving DecidableEq, Repr

/-- The fields read from the JSON object of a Gateway answer: `jobId` or `id`, `status`, `error`. -/
structure RemoteBody where
  jobId : Option Text
  status : Option RemoteStatus
  error : Option Text
  deriving DecidableEq, Repr

namespace PrintJob

def invalidTerminalTransition (current target : Status) : Text :=
  "Invalid terminal print job transition from '" ++ current.text ++ "' to '" ++ target.text ++ "'."

/-- `_advance_status`. -/
def advanceStatus (now : ℤ) (target : Status) (values : Values) (row : PrintJob) : Except Text PrintJob :=
  let values := row.stableTerminalValues now target values
  if target ∉ Status.forwardChain ∧ target ≠ .failed ∧ target ≠ .unknown then
    .error (invalidTransition row.status target)
  else if row.status.isTerminal ∧ target ≠ row.status then
    .error (invalidTerminalTransition row.status target)
  else if target = row.status ∨ target = .failed ∨ target = .unknown then
    row.write now { values with status := some target }
  else row.writeHops now target values

/-- `_mark_gateway_job_missing`, for a caller that read `expected` as the remote id. -/
def markGatewayJobMissing (now : ℤ) (expected : Option Text) (message : Text) (row : PrintJob) :
    Except Text (Option PrintJob) :=
  if row.status = .success ∨ row.status = .failed ∨ row.status = .partialDelivery ∨
      row.gatewayJobId ≠ expected then .ok none
  else
    let ambiguous := row.gatewayJobId.isNone && row.status == .unknown &&
      row.error.startsWith "UNKNOWN_SUBMISSION_OUTCOME:"
    let preserved := if ambiguous then
        Text.strip ("UNKNOWN_SUBMISSION_OUTCOME: gateway lookup returned 404; " ++
          "remote job identity is still unresolved and physical outcome remains unknown. " ++
          message)
      else message
    let nextRetry := if ambiguous then some (now + minutes 5) else none
    (row.write now (row.stableTerminalValues now .unknown
      { status := some .unknown, lastError := some (some preserved),
        nextRetryAt := some nextRetry, completedAt := some (some now) })).map some

/-- `_needs_gateway_status_reconciliation`. -/
def needsGatewayStatusReconciliation (row : PrintJob) : Bool :=
  if row.gatewayJobId.isNone then
    row.status == .unknown && row.error.startsWith "UNKNOWN_SUBMISSION_OUTCOME:"
  else match row.status with
    | .failed => startsWithAny row.error ["AGENT_EXECUTION_TIMEOUT",
        "AGENT_RESTART_DURING_PRINT", "UNKNOWN_PARTIAL_DELIVERY"]
    | .unknown => startsWithAny row.error gatewayUnknownMarkers
    | .success | .partialDelivery => false
    | _ => true

/-- `_apply_gateway_late_success`; its write goes past the transition matrix. -/
def applyGatewayLateSuccess (now : ℤ) (values : Values) (row : PrintJob) : Except Text PrintJob :=
  let gatewayError : Text := (values.lastError.getD none).getD []
  let late := row.assign now
    { row.stableTerminalValues now .success values with status := some .success }
  match row.status with
  | .failed =>
    if row.physicalOutcome ≠ .unknown ∨ !gatewayError.startsWith "LATE_SUCCESS:" then
      .error "Gateway late success is only valid for an unknown-outcome failed job."
    else .ok late
  | .unknown =>
    if row.gatewayJobId.isNone ∨ !row.needsGatewayStatusReconciliation then
      .error "Gateway late success requires the original reconcilable remote operation."
    else .ok late
  | _ => .error "Gateway late success is not valid for this terminal state."

end PrintJob

namespace RemoteBody

def errorText (body : RemoteBody) : Text := body.error.getD []

/-- The status and error that `_apply_synced_status` takes from an answer. -/
def synced (body : RemoteBody) : Option (Status × Option Text) :=
  let mapped : Option (Status × Option Text) := match body.status with
    | some .completed | some .success => some (.success, body.error)
    | some .queued | some .partialDelivery | some .submitted => some (.submitted, body.error)
    | some .claimed => some (.claimed, body.error)
    | some .printing => some (.printing, body.error)
    | some .failed => some (.failed, body.error)
    | some .unknown => some (.unknown, body.error)
    | some .expired =>
      if startsWithAny body.errorText ["JOB_EXPIRED_DURING_PRINT", "UNKNOWN_PARTIAL_DELIVERY"]
      then some (.unknown, body.error)
      else some (.failed, body.error <|> some ("GATEWAY_JOB_EXPIRED: The Gateway no longer holds ".toList ++
        "the job (never claimed within its release window); nothing reached the agent"))
    | some .other | none => none
  -- every failed answer with an unknown-outcome marker is recorded as unknown
  mapped.map fun (status, error) =>
    (if status = .failed ∧ startsWithAny (error.getD []) gatewayUnknownMarkers then .unknown else status, error)

end RemoteBody

namespace PrintJob

/-- `_apply_synced_status`, for a caller that read `expected` as the remote id. -/
def applySyncedStatus (now : ℤ) (expected : Option Text) (body : RemoteBody) (row : PrintJob) :
    Except Text (Option PrintJob) :=
  if row.gatewayJobId ≠ expected then .ok none
  else if body.jobId.isSome ∧ body.jobId ≠ row.gatewayJobId then .ok none
  else match body.synced with
    | none => .ok none
    | some (status, error) =>
      let values : Values :=
        { lastError := some error, completedAt := if status.isTerminal then some (some now) else none }
      if status = .submitted ∧ (row.status = .claimed ∨ row.status = .printing) then .ok (some row)
      else if row.status.isTerminal ∧ !status.isTerminal then .ok none
      else if status = .success ∧ ((row.status = .failed ∧ (error.getD []).startsWith "LATE_SUCCESS:") ∨
            (row.status = .unknown ∧ row.gatewayJobId.isSome ∧ row.needsGatewayStatusReconciliation)) then
        (row.applyGatewayLateSuccess now values).map some
      else (row.advanceStatus now status values).map some

/-- `_lookup_gateway_job_for_ambiguous_submission` on an answer, with the synchronisation that its
callers run on the same answer in the same savepoint. -/
def resolveAmbiguousSubmission (now : ℤ) (body : RemoteBody) (row : PrintJob) : Except Text (Option PrintJob) :=
  match body.jobId.map Text.strip with
  | none | some [] => .error "Gateway ambiguous-submission lookup returned no job id"
  | some remoteId =>
    match row.gatewayJobId with
    | some known =>
      if known ≠ remoteId then .ok none else row.applySyncedStatus now (some known) body
    | none =>
      if row.status ≠ .unknown ∨ !row.error.startsWith "UNKNOWN_SUBMISSION_OUTCOME:" then .ok none
      else do
        let found ← row.write now { gatewayJobId := some remoteId, nextRetryAt := some none }
        let synced ← found.applySyncedStatus now (some remoteId) body
        -- the id stays written when the answer itself is not applied
        return some (synced.getD found)

/-- The evidence on which a terminal row is turned into a late success. -/
inductive LateSuccess (body : RemoteBody) (row : PrintJob) : Prop
  | failed : row.status = .failed → row.physicalOutcome = .unknown →
      body.errorText.startsWith "LATE_SUCCESS:" = true → LateSuccess body row
  | unknown : row.status = .unknown → row.needsGatewayStatusReconciliation = true → LateSuccess body row

/-- What every reconciliation respects; `late` is the evidence its answer gives for a late success. -/
structure Reconciled (late : Prop) (row row' : PrintJob) : Prop where
  token : row'.submitClaimToken = row.submitClaimToken
  identity : row'.gatewayJobId = row.gatewayJobId ∨ row.gatewayJobId = none ∧ row.status = .unknown
  closed : row.status.isTerminal = true → row'.status = row.status ∨ row'.status = .success ∧ late

section Reconcile

variable {now : ℤ} {row row' : PrintJob} {values : Values} {target : Status}
  {expected : Option Text} {body : RemoteBody}

theorem Reconciled.refl (late : Prop) (row : PrintJob) : Reconciled late row row where
  token := rfl
  identity := .inl rfl
  closed _ := .inl rfl

theorem advanceStatus_ok (advanced : row.advanceStatus now target values = .ok row') :
    (row.status.isTerminal = true → target = row.status) ∧ ∃ completedAt, row.AssignedBy now
        { values with status := some target, completedAt := completedAt } row' := by
  unfold advanceStatus at advanced
  obtain ⟨completedAt, stable⟩ := row.stableTerminalValues_eq now target values
  simp only [stable] at advanced
  split at advanced
  · cases advanced
  · split at advanced
    · cases advanced
    · rename_i immutable
      refine ⟨fun terminal => by_contra fun other => immutable ⟨terminal, other⟩, completedAt, ?_⟩
      split at advanced
      · exact assignedBy_of_write advanced
      · rename_i moving
        have moved : row.status ≠ target := fun same => moving (.inl same.symm)
        exact writeHops_ok moved advanced

theorem Reconciled.of_assignedBy {late : Prop} (assigned : row.AssignedBy now values row')
    (named : values.status = some target) (unidentified : values.gatewayJobId = none)
    (unreleased : values.releaseClaim = false)
    (closed : row.status.isTerminal = true → target = row.status ∨ target = .success ∧ late) :
    Reconciled late row row' where
  token := by simp [assigned.submitClaimToken_eq, unreleased]
  identity := .inl (by simp [assigned.gatewayJobId_eq, unidentified])
  closed terminal := by
    rw [assigned.status_eq named]
    exact closed terminal

theorem markGatewayJobMissing_ok {message : Text}
    (marked : row.markGatewayJobMissing now expected message = .ok (some row')) :
    Reconciled False row row' := by
  unfold markGatewayJobMissing at marked
  split at marked
  · cases marked
  · rename_i reconcilable
    simp only [not_or] at reconcilable
    obtain ⟨unsuccessful, unfailed, whole, -⟩ := reconcilable
    obtain ⟨completedAt, stable⟩ := row.stableTerminalValues_eq now .unknown
      { status := some .unknown, lastError := some (some _), nextRetryAt := some _, completedAt := some (some now) }
    have assigned := assignedBy_of_write (ok_of_map_some marked)
    rw [stable] at assigned
    refine .of_assignedBy assigned rfl rfl rfl fun terminal => .inl ?_
    exact (Status.eq_unknown_of_isTerminal terminal unsuccessful unfailed whole).symm

theorem applyGatewayLateSuccess_ok (applied : row.applyGatewayLateSuccess now values = .ok row') :
    (row.status = .failed ∧ row.physicalOutcome = .unknown ∧
        Text.startsWith ((values.lastError.getD none).getD []) "LATE_SUCCESS:" = true ∨
      row.status = .unknown ∧ row.needsGatewayStatusReconciliation = true) ∧
      ∃ completedAt, row.AssignedBy now
        { values with status := some .success, completedAt := completedAt } row' := by
  unfold applyGatewayLateSuccess at applied
  obtain ⟨completedAt, stable⟩ := row.stableTerminalValues_eq now .success values
  simp only [stable] at applied
  split at applied
  · rename_i failed
    split at applied
    · cases applied
    · rename_i ambiguous
      simp only [not_or, not_not, Bool.not_eq_true', Bool.not_eq_false] at ambiguous
      exact ⟨.inl ⟨failed, ambiguous⟩, completedAt, row.status, row.writeDate, (Except.ok.inj applied).symm⟩
  · rename_i unknown
    split at applied
    · cases applied
    · rename_i reconcilable
      simp only [not_or, Bool.not_eq_true', Bool.not_eq_false] at reconcilable
      exact ⟨.inr ⟨unknown, reconcilable.2⟩, completedAt, row.status, row.writeDate, (Except.ok.inj applied).symm⟩
  · cases applied

/-- A status taken from a success answer comes with the answer's own error. -/
theorem synced_success {error : Option Text} (taken : body.synced = some (.success, error)) : error = body.error := by
  unfold RemoteBody.synced at taken
  obtain ⟨⟨status, error'⟩, mapped, pair⟩ := Option.map_eq_some_iff.mp taken
  obtain ⟨succeeded, rfl⟩ := Prod.mk.inj pair
  clear taken pair
  split at succeeded
  · cases succeeded
  · subst succeeded
    split at mapped <;> first | (cases mapped; rfl) | (split at mapped <;> cases mapped) | cases mapped

theorem applySyncedStatus_ok (applied : row.applySyncedStatus now expected body = .ok (some row')) :
    row.gatewayJobId = expected ∧ row'.gatewayJobId = row.gatewayJobId ∧
      Reconciled (LateSuccess body row) row row' := by
  unfold applySyncedStatus at applied
  split at applied
  · cases applied
  rename_i known
  refine ⟨not_not.mp known, ?_⟩
  split at applied
  · cases applied
  split at applied
  · cases applied
  rename_i status error taken
  simp only at applied
  split at applied
  · cases applied
    exact ⟨rfl, .refl _ _⟩
  split at applied
  · cases applied
  split at applied
  · rename_i late
    obtain ⟨evidence, completedAt, assigned⟩ := applyGatewayLateSuccess_ok (ok_of_map_some applied)
    refine ⟨by simp [assigned.gatewayJobId_eq], .of_assignedBy assigned rfl rfl rfl fun _ => .inr ⟨rfl, ?_⟩⟩
    obtain rfl := late.1
    obtain rfl := synced_success taken
    rcases evidence with ⟨failed, ambiguous, marked⟩ | ⟨unknown, reconcilable⟩
    · exact .failed failed ambiguous marked
    · exact .unknown unknown reconcilable
  · obtain ⟨closed, completedAt, assigned⟩ := advanceStatus_ok (ok_of_map_some applied)
    exact ⟨by simp [assigned.gatewayJobId_eq],
      .of_assignedBy assigned rfl rfl rfl fun terminal => .inl (closed terminal)⟩

theorem resolveAmbiguousSubmission_ok (resolved : row.resolveAmbiguousSubmission now body = .ok (some row')) :
    Reconciled (LateSuccess body row) row row' := by
  unfold resolveAmbiguousSubmission at resolved
  split at resolved
  · cases resolved
  · cases resolved
  rename_i remoteId _ _
  split at resolved
  · split at resolved
    · cases resolved
    · exact (applySyncedStatus_ok resolved).2.2
  rename_i unidentified
  split at resolved
  · cases resolved
  rename_i ambiguous
  simp only [not_or, not_not, Bool.not_eq_true', Bool.not_eq_false] at ambiguous
  obtain ⟨unknown, provenance⟩ := ambiguous
  have reconcilable : row.needsGatewayStatusReconciliation = true := by
    rw [needsGatewayStatusReconciliation, unidentified, unknown, provenance]
    rfl
  -- the id is written first, and the answer is applied to the identified row
  have found : Reconciled (LateSuccess body row) row
      (row.assign now { gatewayJobId := some remoteId, nextRetryAt := some none }) :=
    { token := rfl, identity := .inr ⟨unidentified, unknown⟩, closed := fun _ => .inl rfl }
  simp only [write, bind, Except.bind] at resolved
  split at resolved
  · cases resolved
  rename_i answer applied
  obtain rfl := Option.some.inj (Except.ok.inj resolved)
  cases answer with
  | none => exact found
  | some synced =>
    obtain ⟨-, -, reconciled⟩ := applySyncedStatus_ok applied
    refine ⟨reconciled.token, .inr ⟨unidentified, unknown⟩, fun terminal => ?_⟩
    rcases reconciled.closed terminal with same | ⟨succeeded, -⟩
    · exact .inl same
    · exact .inr ⟨succeeded, .unknown unknown reconcilable⟩

end Reconcile

end PrintJob

end PrintGateway.Odoo
