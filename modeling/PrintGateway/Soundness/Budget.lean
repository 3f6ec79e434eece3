import PrintGateway.Model.Gateway.Poll
import PrintGateway.Soundness.Lifecycle

/-!
# Delivery budgets

`delivery_attempts` and `retries` move in opposite directions in different statements.  The sum of the
two never falls below the number of claims made so far, which bounds how often a job can leave the
Gateway whatever the order of claims, hand-backs, releases, sweeps and crash requeues.
-/

namespace PrintGateway.Gateway

open Machine

variable {row' row : JobRow} {op : JobOp} {stamp : Instant} {s : Polled}

/-- How a statement may move the two budgets of a row. -/
inductive BudgetChange (op : JobOp) (row row' : JobRow) : Prop
  | claimed : op.takesClaimLock = true → row.WithinBudgets →
      row'.deliveryAttempts = row.deliveryAttempts + 1 → row'.retries = row.retries →
      BudgetChange op row row'
  | reclaimed : op.takesClaimLock = true → row.WithinBudgets →
      row'.deliveryAttempts = row.deliveryAttempts + 1 → row'.retries = row.retries + 1 →
      BudgetChange op row row'
  | handedBack : op.takesClaimLock = false → row.status = .claimed → row'.status = .queued →
      row.retries < maxRetries → row'.deliveryAttempts = max (row.deliveryAttempts - 1) 0 →
      row'.retries = row.retries + 1 → BudgetChange op row row'
  | requeued : op.takesClaimLock = false → row'.status = .queued → row.retries < maxRetries →
      row'.deliveryAttempts = row.deliveryAttempts → row'.retries = row.retries + 1 →
      BudgetChange op row row'
  | steady : (op.takesClaimLock = true → row' = row) →
      row'.deliveryAttempts = row.deliveryAttempts → row'.retries = row.retries →
      (row'.status = .claimed → row.status = .claimed) →
      (row'.status = .printing → row.status = .claimed ∨ row.status = .printing) →
      BudgetChange op row row'

theorem BudgetChange.ended (status : JobStatus) (noClaim : op.takesClaimLock = false)
    (attempts : row'.deliveryAttempts = row.deliveryAttempts) (retries : row'.retries = row.retries)
    (reached : row'.status = status) (idle : status ≠ .claimed ∧ status ≠ .printing) :
    BudgetChange op row row' :=
  .steady (fun claims => by simp [noClaim] at claims) attempts retries
    (fun claimed => absurd (reached.symm.trans claimed) idle.1)
    (fun printing => absurd (reached.symm.trans printing) idle.2)

theorem BudgetChange.untouched (noClaim : op.takesClaimLock = false)
    (attempts : row'.deliveryAttempts = row.deliveryAttempts) (retries : row'.retries = row.retries)
    (same : row'.status = row.status) : BudgetChange op row row' :=
  .steady (fun claims => by simp [noClaim] at claims) attempts retries
    (fun claimed => same ▸ claimed) (fun printing => .inr (same ▸ printing))

theorem PlannedReport.budgetChange {owners : Owners} {job : JobRow} {report : StatusReport}
    {u : Update JobRow} (planned : PlannedReport stamp owners report u) (matched : u.guard row) :
    BudgetChange (.patch owners job report) row (u.set row) := by
  cases planned with
  | expire _ _ => exact .ended .expired rfl rfl rfl rfl (by decide)
  | crashRequeue _ _ _ => exact .requeued rfl rfl matched.2.2 rfl rfl
  | handBack _ _ _ => exact .handedBack rfl matched.1.1 rfl matched.2.2 rfl rfl
  | reconcile _ _ => exact .ended .success rfl rfl rfl rfl (by decide)
  | transition update _ _ _ _ _ current requested =>
    obtain ⟨⟨status, -⟩, -⟩ := matched
    rcases requested with h | h | h
    · exact .steady (fun claims => by cases claims) rfl rfl (fun claimed => by cases h.symm.trans claimed)
        (fun _ => status ▸ current)
    · exact .ended .success rfl rfl rfl h (by decide)
    · exact .ended .failed rfl rfl rfl h (by decide)
  | lateSuccess update _ _ _ success _ _ => exact .ended .success rfl rfl rfl success (by decide)

theorem sweep_budgetChange {staleSeconds : ℤ} (statement : SweepStatement)
    (matched : (statement.update stamp staleSeconds).guard row) :
    BudgetChange (.sweep statement staleSeconds) row
      ((statement.update stamp staleSeconds).set row) := by
  cases statement with
  | expired => exact .ended .expired rfl rfl rfl rfl (by decide)
  | requeuedClaims =>
    obtain ⟨⟨-, -, -, retries, -⟩, -⟩ := matched
    exact .requeued rfl rfl retries rfl rfl
  | silentDeliveries | stalePrinting | exhaustedClaims | exhaustedQueued =>
    exact .ended .failed rfl rfl rfl rfl (by decide)
  | expiredFences | failedFences => exact .untouched rfl rfl rfl rfl

theorem Written.budgetChange (written : Written stamp row op row') : BudgetChange op row row' := by
  cases written with
  | unchanged => exact .steady (fun _ => rfl) rfl rfl id .inr
  | claim matched => exact .claimed rfl matched.2.2.2.2.1 rfl rfl
  | poll candidate =>
    rcases candidate.2 with stale | queued
    · exact .reclaimed rfl stale.2.1.2.2.2 rfl (by simp [pollAssignment, stale.2.1.1])
    · exact .claimed rfl queued.2.2.2.1 rfl (by simp [pollAssignment, queued.2.1])
  | delivered matched | acked matched | keptAlive matched | resumed matched =>
    exact .untouched rfl rfl rfl rfl
  | deliveryUnknown matched | givenUp matched => exact .ended .failed rfl rfl rfl rfl (by decide)
  | released matched => exact .ended .queued rfl rfl rfl rfl (by decide)
  | reported planned matched => exact planned.budgetChange matched
  | swept matched => exact sweep_budgetChange _ matched

/-- Both budgets, the claims they pay for, and what a pending poll may still spend. -/
structure Budgeted (s : Polled) : Prop where
  attempts : 0 ≤ s.row.deliveryAttempts ∧ s.row.deliveryAttempts ≤ maxDeliveryAttempts
  retries : 0 ≤ s.row.retries ∧ s.row.retries ≤ maxRetries
  claimed : s.row.status = .claimed → 1 ≤ s.row.deliveryAttempts
  paid : (s.claims : ℤ) ≤ s.row.deliveryAttempts + s.row.retries
  pending : s.poll.isSome → s.row.deliveryAttempts < maxDeliveryAttempts ∧
    (s.row.status = .claimed ∨ s.row.status = .printing → s.row.retries < maxRetries)

/-- The number of claims after a write. -/
def claimsAfter (s : Polled) (op : JobOp) (row' : JobRow) : ℕ :=
  if op.takesClaimLock ∧ row' ≠ s.row then s.claims + 1 else s.claims

theorem claimsAfter_le (s : Polled) (op : JobOp) (row' : JobRow) : claimsAfter s op row' ≤ s.claims + 1 := by
  unfold claimsAfter
  split <;> omega

theorem claimsAfter_eq (noClaim : op.takesClaimLock = true → row' = s.row) : claimsAfter s op row' = s.claims :=
  if_neg fun counted => counted.2 (noClaim counted.1)

theorem Budgeted.write (budgeted : Budgeted s) (free : ¬ (op.takesClaimLock ∧ s.poll.isSome))
    (change : BudgetChange op s.row row') :
    Budgeted { s with row := row', claims := claimsAfter s op row' } := by
  obtain ⟨⟨a0, a5⟩, ⟨r0, r5⟩, claimed, paid, pending⟩ := budgeted
  have retriesCap : maxRetries = 5 := rfl
  have attemptsCap : maxDeliveryAttempts = 5 := rfl
  cases change with
  | claimed lock within attempts retries | reclaimed lock within attempts retries =>
    have counted := claimsAfter_le s op row'
    obtain ⟨retriesLeft, attemptsLeft⟩ := within
    exact ⟨by dsimp only; omega, by dsimp only; omega, fun _ => by dsimp only; omega,
      by dsimp only; omega, fun waiting => absurd ⟨lock, waiting⟩ free⟩
  | handedBack noClaim held queued retriesLeft attempts retries =>
    have counted : claimsAfter s op row' = s.claims := claimsAfter_eq (by simp [noClaim])
    have charged := claimed held
    refine ⟨by dsimp only; omega, by dsimp only; omega, by simp [queued], by dsimp only; omega, ?_⟩
    intro waiting
    have room := (pending waiting).1
    exact ⟨by dsimp only; omega, by simp [queued]⟩
  | requeued noClaim queued retriesLeft attempts retries =>
    have counted : claimsAfter s op row' = s.claims := claimsAfter_eq (by simp [noClaim])
    refine ⟨by dsimp only; omega, by dsimp only; omega, by simp [queued], by dsimp only; omega, ?_⟩
    intro waiting
    have room := (pending waiting).1
    exact ⟨by dsimp only; omega, by simp [queued]⟩
  | steady noClaim attempts retries held running =>
    have counted := claimsAfter_eq noClaim
    refine ⟨by dsimp only; omega, by dsimp only; omega, ?_, by dsimp only; omega, ?_⟩
    · exact fun now => attempts ▸ claimed (held now)
    · intro waiting
      obtain ⟨attemptsLeft, retriesLeft⟩ := pending waiting
      refine ⟨attempts ▸ attemptsLeft, fun now => retries ▸ retriesLeft ?_⟩
      exact now.elim (fun h => .inl (held h)) running

theorem Budgeted.step {s' : Polled} {event : PollEvent} (budgeted : Budgeted s) (step : PollStep s event s') :
    Budgeted s' := by
  cases step with
  | write free => exact budgeted.write free (JobOp.written _ _ _).budgetChange
  | snapshot idle candidate =>
    have within : s.row.WithinBudgets := candidate.2.elim (·.2.1.2.2.2) (·.2.2.2.1)
    exact { budgeted with pending := fun _ => ⟨within.2, fun _ => within.1⟩ }
  | lock pending claimable =>
    obtain ⟨⟨a0, a5⟩, ⟨r0, r5⟩, claimed, paid, room⟩ := budgeted
    obtain ⟨attemptsLeft, retriesLeft⟩ := room (by simp [pending])
    have retriesCap : maxRetries = 5 := rfl
    have attemptsCap : maxDeliveryAttempts = 5 := rfl
    by_cases held : s.row.status = .claimed
    · have reclaimable := retriesLeft (.inl held)
      refine ⟨?_, ?_, fun _ => ?_, ?_, by simp⟩ <;>
        simp only [pollAssignment, claimAssignment, if_pos held] <;> omega
    · refine ⟨?_, ?_, fun _ => ?_, ?_, by simp⟩ <;>
        simp only [pollAssignment, claimAssignment, if_neg held] <;> omega
  | skip => exact { budgeted with pending := by simp }

theorem budgeted_of_reachable (reachable : polling.Reachable s) : Budgeted s := by
  refine reachable.invariant ?_ ?_
  · rintro s ⟨createdAt, expiresAt, rfl⟩
    exact ⟨by simp [JobRow.enqueued, maxDeliveryAttempts], by simp [JobRow.enqueued, maxRetries],
      by simp [JobRow.enqueued], by simp [JobRow.enqueued], by simp⟩
  · exact fun s event s' budgeted _ step => budgeted.step (pollStep_of_step step)

/-- Bounded delivery.  Both budgets stay between zero and their ceilings, a claimed row has a charge
to refund, and the job is claimed at most ten times. -/
theorem delivery_bounded {s : Polled} (reachable : polling.Reachable s) :
    (0 ≤ s.row.deliveryAttempts ∧ s.row.deliveryAttempts ≤ maxDeliveryAttempts) ∧
    (0 ≤ s.row.retries ∧ s.row.retries ≤ maxRetries) ∧
    (s.row.status = .claimed → 1 ≤ s.row.deliveryAttempts ∧
      max (s.row.deliveryAttempts - 1) 0 = s.row.deliveryAttempts - 1) ∧
    (s.claims : ℤ) ≤ maxDeliveryAttempts + maxRetries := by
  have budgeted := budgeted_of_reachable reachable
  refine ⟨budgeted.attempts, budgeted.retries, fun claimed => ?_, ?_⟩
  · have charged := budgeted.claimed claimed
    exact ⟨charged, by omega⟩
  · calc (s.claims : ℤ) ≤ s.row.deliveryAttempts + s.row.retries := budgeted.paid
      _ ≤ maxDeliveryAttempts + maxRetries := Int.add_le_add budgeted.attempts.2 budgeted.retries.2

/-- A job claimed by a push, handed back, and claimed again by a poll in two steps. -/
def sampleReclaims : List PollEvent :=
  [.write ⟨1, 2⟩ (.claimJobForDelivery sampleOwners 0 true 7), .write ⟨3, 4⟩ (.patch sampleOwners sampleClaimed.row
      { sampleReport .queued 7 with reason := .requeue .pendingFull }),
    .snapshot 5 sampleOwners 20, .lock 6 sampleOwners 8]

theorem delivery_bounded_reclaimed : ∃ s, polling.run ⟨.enqueued 0 (hours 1), none, 0⟩ sampleReclaims = some s ∧
      s.row.status = .claimed ∧ s.row.deliveryAttempts = 1 ∧ s.row.retries = 1 ∧ s.claims = 2 ∧
      (s.claims : ℤ) ≤ maxDeliveryAttempts + maxRetries := by
  refine ⟨_, rfl, by decide, by decide, by decide, by decide, ?_⟩
  exact (delivery_bounded (System.Reaches.run (.init ⟨0, hours 1, rfl⟩) sampleReclaims rfl)).2.2.2

end PrintGateway.Gateway
