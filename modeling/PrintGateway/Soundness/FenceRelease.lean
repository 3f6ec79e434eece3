import PrintGateway.Model.Gateway.Poll
import PrintGateway.Model.Gateway.Retention
import PrintGateway.Model.Gateway.Sweep
import PrintGateway.Soundness.Lifecycle

/-!
# Retained fences and their release

A terminal row keeps its claim token while a late success may still be reported, and the sweep drops
the token once that window is over.  A report keeps the token when its error starts with a marker; the
sweep asks for the marker with a colon after it.  An Agent that reports the bare marker leaves a token
that no statement clears.  When every marker an Agent reports carries its colon, every retained fence
is released, and the row then leaves the table.
-/

namespace PrintGateway.Gateway

open Machine Text

variable {row : JobRow} {stamp : Instant} {staleSeconds : ℤ}

/-- The error is one whose fence the sweep drops. -/
def ReleasableFailure (error : Option Text) : Prop :=
  ∃ text ∈ error, ∃ pattern ∈ reconcilableFailurePatterns, like pattern text

/-- A retained token belongs to an expired row or to a failure the sweep releases. -/
def FenceReleasable (row : JobRow) : Prop :=
  row.status.isTerminal = true → row.claimToken.isSome = true →
    row.status = .expired ∨ (row.status = .failed ∧ ReleasableFailure row.error)

/-- A late-success marker at the head of the error is followed by a colon. -/
def punctuated (error : Option Text) : Bool :=
  error.all fun text =>
    lateSuccessErrorMarkers.all fun marker =>
      !startsWith text marker || startsWith text (marker ++ ":")

/-- No accepted report of a failure starts its error with a bare marker. -/
def PunctuatedFailures (s : Polled) : PollEvent → Prop
  | .write stamp (.patch owners job report) =>
    report.requested = .failed → (JobOp.patch owners job report).next stamp s.row ≠ s.row →
      punctuated report.errorMessage = true
  | _ => True

instance (s : Polled) : (event : PollEvent) → Decidable (PunctuatedFailures s event)
  | .write stamp (.patch owners job report) =>
    inferInstanceAs (Decidable (_ → (JobOp.patch owners job report).next stamp s.row ≠ s.row → _))
  | .write _ (.claimJobForDelivery ..) | .write _ (.pollClaim ..) | .write _ (.markJobDelivered _)
  | .write _ (.markJobDeliveryUnknown _) | .write _ (.recordJobAck ..)
  | .write _ (.requeueUndeliveredClaim ..) | .write _ (.failUndeliveredClaim ..)
  | .write _ (.acknowledgeReplay ..) | .write _ (.keepAlive _) | .write _ .resumeShared
  | .write _ (.sweep ..) | .snapshot .. | .lock .. | .skip => isTrue trivial

theorem FenceReleasable.of_open (live : row.status.isTerminal = false) : FenceReleasable row := by
  intro terminal
  simp [live] at terminal

theorem FenceReleasable.of_cleared (cleared : row.claimToken = none) : FenceReleasable row := by
  intro _ held
  simp [cleared] at held

theorem FenceReleasable.of_expired (expired : row.status = .expired) : FenceReleasable row := fun _ _ => .inl expired

theorem FenceReleasable.of_failed (failed : row.status = .failed) (releasable : ReleasableFailure row.error) :
    FenceReleasable row :=
  fun _ _ => .inr ⟨failed, releasable⟩

/-- A text that starts with the head of a pattern is released. -/
theorem releasableFailure_of_startsWith {text : Text} (head : Text)
    (listed : head ++ ['%'] ∈ reconcilableFailurePatterns) (plain : '%' ∉ head)
    (starts : startsWith text head = true) : ReleasableFailure (some text) := by
  obtain ⟨rest, rfl⟩ := List.isPrefixOf_iff_prefix.mp starts
  exact ⟨_, rfl, _, listed, like_append_percent plain rest⟩

/-- Every late-success marker with its colon is the head of a pattern of the sweep. -/
theorem lateSuccessErrorMarkers_released : ∀ marker ∈ lateSuccessErrorMarkers,
      marker ++ ":" ++ ['%'] ∈ reconcilableFailurePatterns ∧ '%' ∉ marker ++ ":" := by
  decide

/-- A punctuated error that keeps the fence is one the sweep releases. -/
theorem releasableFailure_of_retained {error : Option Text} (colon : punctuated error = true)
    (retained : (lateSuccessErrorMarkers.any fun marker =>
      error.any fun text => startsWith text marker) = true) : ReleasableFailure error := by
  obtain ⟨marker, member, found⟩ := List.any_eq_true.mp retained
  cases error with
  | none => cases found
  | some text =>
    obtain ⟨listed, plain⟩ := lateSuccessErrorMarkers_released marker member
    refine releasableFailure_of_startsWith _ listed plain ?_
    have colon := List.all_eq_true.mp colon marker member
    have starts : startsWith text marker = true := found
    simpa [starts] using colon

/-- The errors with which the Gateway itself keeps the token of a failed attempt. -/
theorem gatewayFailure_releasable : ∀ text ∈ [websocketDeliveryUnknown, silentDelivery, executionLeaseExpired],
      ReleasableFailure (some text) := by
  simp only [List.forall_mem_cons]
  refine ⟨?_, ?_, ?_, List.forall_mem_nil _⟩
  · apply releasableFailure_of_startsWith "UNKNOWN_PARTIAL_DELIVERY:" <;> decide +kernel
  · apply releasableFailure_of_startsWith "UNKNOWN_PARTIAL_DELIVERY:" <;> decide +kernel
  · apply releasableFailure_of_startsWith "AGENT_EXECUTION_TIMEOUT:" <;> decide +kernel

theorem PlannedReport.fenceReleasable {owners : Owners} {report : StatusReport} {u : Update JobRow}
    (planned : PlannedReport stamp owners report u)
    (colon : report.requested = .failed → punctuated report.errorMessage = true) :
    FenceReleasable (u.set row) := by
  cases planned with
  | expire _ _ => exact .of_expired rfl
  | crashRequeue _ _ _ | handBack _ _ _ => exact .of_open rfl
  | reconcile _ _ => exact .of_cleared rfl
  | transition update _ _ same _ message _ requested =>
    rcases requested with printing | success | failed
    · exact .of_open (by simp [runStatusUpdate, printing, JobStatus.isTerminal])
    · apply FenceReleasable.of_cleared
      simp [runStatusUpdate, success, JobStatus.isTerminal, StatusUpdate.retainsLateSuccessFence]
    · by_cases retains : update.retainsLateSuccessFence = true
      · refine .of_failed failed ?_
        have kept := (Bool.and_eq_true_iff.mp retains).2
        have colon := colon (same.symm.trans failed)
        rw [← message] at colon
        exact releasableFailure_of_retained colon kept
      · apply FenceReleasable.of_cleared
        simp [runStatusUpdate, failed, JobStatus.isTerminal, retains]
  | lateSuccess update _ _ _ success _ _ =>
    apply FenceReleasable.of_cleared
    simp [runStatusUpdate, success, JobStatus.isTerminal, StatusUpdate.retainsLateSuccessFence]

theorem sweep_fenceReleasable (statement : SweepStatement) :
    FenceReleasable ((statement.update stamp staleSeconds).set row) := by
  cases statement with
  | expired => exact .of_expired rfl
  | requeuedClaims => exact .of_open rfl
  | silentDeliveries => exact .of_failed rfl (gatewayFailure_releasable _ (by simp))
  | stalePrinting =>
    by_cases overdue : row.expiresAt ≤ stamp.now
    · exact .of_cleared (if_pos overdue)
    · refine .of_failed rfl ?_
      simp only [SweepStatement.update, failStalePrinting, if_neg overdue]
      exact gatewayFailure_releasable _ (by simp)
  | exhaustedClaims | exhaustedQueued | expiredFences | failedFences => exact .of_cleared rfl

/-- A statement leaves a fence that the sweep can release, or the row as it was. -/
theorem Written.fenceReleasable {row' : JobRow} {op : JobOp} (written : Written stamp row op row')
    (releasable : FenceReleasable row)
    (colon : ∀ owners job report, op = .patch owners job report → report.requested = .failed → row' ≠ row →
      punctuated report.errorMessage = true) :
    FenceReleasable row' := by
  cases written with
  | unchanged => exact releasable
  | claim _ | poll _ | released _ => exact .of_open rfl
  | delivered matched | acked matched | keptAlive matched =>
    exact .of_open (open_of_claimed_or_printing matched.1)
  | deliveryUnknown _ => exact .of_failed rfl (gatewayFailure_releasable _ (by simp))
  | givenUp _ => exact .of_cleared rfl
  | @reported owners job report u planned matched =>
    by_cases same : u.set row = row
    · rwa [same]
    · exact planned.fenceReleasable fun failed => colon owners job report rfl failed same
  | resumed matched => exact .of_open (open_of_queued matched.1)
  | swept _ => exact sweep_fenceReleasable _

theorem fenceReleasable_of_reached {s : Polled} (reached : polling.Reaches PunctuatedFailures s) :
    FenceReleasable s.row := by
  induction reached with
  | init start =>
    obtain ⟨createdAt, expiresAt, rfl⟩ := start
    exact .of_open rfl
  | step event _ colon step ih =>
    cases pollStep_of_step step with
    | @write stamp op _ =>
      refine (op.written stamp _).fenceReleasable ih ?_
      rintro owners job report rfl failed changed
      exact colon failed changed
    | snapshot _ _ => exact ih
    | lock _ _ => exact .of_open rfl
    | skip => exact ih

/-- The window in which the fence of a terminal row is kept is over. -/
def FenceWindowOver (now : ℤ) (row : JobRow) : Prop :=
  (row.status = .expired ∧ row.expiresAt + minutes 5 ≤ now) ∨ (row.status = .failed ∧ row.updatedAt + hours 24 ≤ now)

theorem FenceReleasable.guard (releasable : FenceReleasable row) (terminal : row.status.isTerminal = true)
    (held : row.claimToken.isSome = true) (elapsed : FenceWindowOver stamp.now row) :
    (dropExpiredFence stamp).guard row ∨ (dropFailedFence stamp).guard row := by
  rcases elapsed with ⟨expired, old⟩ | ⟨failed, old⟩
  · refine .inl ⟨expired, held, ?_⟩
    omega
  · rcases releasable terminal held with expired | ⟨-, error⟩
    · cases failed.symm.trans expired
    · refine .inr ⟨failed, held, error, ?_⟩
      omega

/-- The statements that move a row match open rows only. -/
theorem sweep_guard_open (statement : SweepStatement)
    (matched : (statement.update stamp staleSeconds).guard row) :
    row.status.isTerminal = false ∨ statement = .expiredFences ∨ statement = .failedFences := by
  cases statement with
  | expired => exact .inl matched.1
  | requeuedClaims => exact .inl (open_of_claimed matched.1.1)
  | silentDeliveries | exhaustedClaims => exact .inl (open_of_claimed matched.1)
  | stalePrinting => exact .inl (open_of_claimed_or_printing (.inr matched.1))
  | exhaustedQueued => exact .inl (open_of_queued matched.1)
  | expiredFences => exact .inr (.inl rfl)
  | failedFences => exact .inr (.inr rfl)

theorem sweepRow_terminal (terminal : row.status.isTerminal = true) : sweepRow stamp staleSeconds row =
      (dropFailedFence stamp).next ((dropExpiredFence stamp).next row) := by
  have skipped : ∀ statement : SweepStatement, statement ≠ .expiredFences ∧ statement ≠ .failedFences →
      (statement.update stamp staleSeconds).next row = row := by
    intro statement other
    refine Update.next_of_not_guard fun matched => ?_
    rcases sweep_guard_open statement matched with live | fence | fence
    · simp [terminal] at live
    · exact other.1 fence
    · exact other.2 fence
  simp only [sweepRow, SweepStatement.order, List.foldl_cons, List.foldl_nil]
  rw [skipped .expired (by decide), skipped .requeuedClaims (by decide),
    skipped .silentDeliveries (by decide), skipped .stalePrinting (by decide),
    skipped .exhaustedClaims (by decide), skipped .exhaustedQueued (by decide)]
  rfl

/-- A sweep whose fence statement matches the row clears its token and nothing else. -/
theorem sweepRow_released (terminal : row.status.isTerminal = true)
    (matched : (dropExpiredFence stamp).guard row ∨ (dropFailedFence stamp).guard row) :
    sweepRow stamp staleSeconds row = { row with claimToken := none, claimedAt := none } := by
  rw [sweepRow_terminal terminal]
  rcases matched with expired | failed
  · rw [Update.next_of_guard expired, Update.next_of_not_guard]
    · rfl
    · rintro ⟨-, held, -⟩
      cases held
  · have notExpired : ¬ (dropExpiredFence stamp).guard row := by
      rintro ⟨expired, -⟩
      cases failed.1.symm.trans expired
    rw [Update.next_of_not_guard notExpired, Update.next_of_guard failed]
    rfl

/-- Every retained fence is releasable.  In a run whose accepted failure reports put a colon after a
late-success marker, a terminal row with a token is expired or failed, once its window is over one of
the two fence statements matches it, and after that sweep retention may archive it. -/
theorem retained_fence_released {s : Polled} (reached : polling.Reaches PunctuatedFailures s)
    (terminal : s.row.status.isTerminal = true) (held : s.row.claimToken.isSome = true) :
    (s.row.status = .expired ∨ s.row.status = .failed) ∧
    ∀ (stamp : Instant) (staleSeconds : ℤ), FenceWindowOver stamp.now s.row →
      ((dropExpiredFence stamp).guard s.row ∨ (dropFailedFence stamp).guard s.row) ∧
      ∀ now, s.row.updatedAt + hours 48 ≤ now →
        (cleanupTerminalPrintJobs now (sweepRow stamp staleSeconds s.row)).isSome = true := by
  have releasable := fenceReleasable_of_reached reached
  refine ⟨(releasable terminal held).imp_right And.left, fun stamp staleSeconds elapsed => ?_⟩
  have matched := releasable.guard terminal held elapsed
  refine ⟨matched, fun now old => ?_⟩
  rw [sweepRow_released terminal matched, cleanupTerminalPrintJobs, if_pos]
  · rfl
  · refine ⟨terminal, rfl, ?_⟩
    simp only [printJobRetention]
    omega

/-- A claim, its admission to `printing`, and a failure report with the given error. -/
def sampleFailureReport (error : Text) : List PollEvent :=
  [.write ⟨1, 2⟩ (.claimJobForDelivery sampleOwners 0 true 7),
    .write ⟨3, 4⟩ (.patch sampleOwners sampleClaimed.row (sampleReport .printing 7)),
    .write ⟨5, 6⟩ (.patch sampleOwners samplePrinting.row
      { sampleReport .failed 7 with rawError := some error })]

/-- The row such a report leaves behind. -/
def sampleFailedWith (error : Text) : Polled :=
  ⟨{ samplePrinting.row with
      status := .failed, error := some error, closedClaimTokenHash := some ⟨7⟩, updatedAt := 6 },
    none, 1⟩

theorem retained_fence_released_restart : ∃ s, polling.runWithin PunctuatedFailures ⟨.enqueued 0 (hours 1), none, 0⟩
        (sampleFailureReport "AGENT_RESTART_DURING_PRINT: restarted") = some s ∧
      s.row.status = .failed ∧ s.row.claimToken = some 7 ∧
      (cleanupTerminalPrintJobs (hours 49) (sweepRow ⟨hours 25, hours 25⟩ 90 s.row)).isSome = true := by
  refine ⟨sampleFailedWith "AGENT_RESTART_DURING_PRINT: restarted", by decide, rfl, rfl, ?_⟩
  have reached : polling.Reaches PunctuatedFailures
      (sampleFailedWith "AGENT_RESTART_DURING_PRINT: restarted") :=
    System.Reaches.runWithin (s := ⟨.enqueued 0 (hours 1), none, 0⟩) (.init ⟨0, hours 1, rfl⟩)
      (sampleFailureReport "AGENT_RESTART_DURING_PRINT: restarted") (by decide)
  exact ((retained_fence_released reached rfl rfl).2 ⟨hours 25, hours 25⟩ 90
    (.inr ⟨rfl, by decide⟩)).2 (hours 49) (by decide)

/-- An Agent that reports the bare marker leaves a token that no sweep clears and a row that retention
never archives. -/
theorem bare_marker_fence_retained : ∃ s, polling.Reachable s ∧ s.row.status = .failed ∧ s.row.claimToken = some 7 ∧
      ∀ (stamp : Instant) (staleSeconds : ℤ),
        ¬ (dropExpiredFence stamp).guard s.row ∧ ¬ (dropFailedFence stamp).guard s.row ∧
        sweepRow stamp staleSeconds s.row = s.row ∧
        cleanupTerminalPrintJobs stamp.now s.row = none := by
  have reachable : polling.Reachable (sampleFailedWith agentExecutionTimeout) :=
    System.Reaches.run (s := ⟨.enqueued 0 (hours 1), none, 0⟩) (.init ⟨0, hours 1, rfl⟩)
      (sampleFailureReport agentExecutionTimeout) (by decide)
  refine ⟨_, reachable, rfl, rfl, fun stamp staleSeconds => ?_⟩
  have notExpired : ¬ (dropExpiredFence stamp).guard (sampleFailedWith agentExecutionTimeout).row := by
    rintro ⟨⟨⟩, -⟩
  have notFailed : ¬ (dropFailedFence stamp).guard (sampleFailedWith agentExecutionTimeout).row := by
    rintro ⟨-, -, ⟨text, ⟨⟩, matched⟩, -⟩
    revert matched
    decide
  refine ⟨notExpired, notFailed, ?_, rfl⟩
  rw [sweepRow_terminal rfl, Update.next_of_not_guard notExpired, Update.next_of_not_guard notFailed]

end PrintGateway.Gateway
