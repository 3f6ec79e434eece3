import PrintGateway.Model.Gateway.Sweep
import PrintGateway.Soundness.Lifecycle

/-!
# Batch limits and classification

The first statement of a sweep expires overdue rows, and three of the later ones do not ask whether a
row is overdue.  A row the batch limit keeps from the first statement may then be failed instead of
expired.  When the first statement gets to all such rows in time, the limit decides only how many sweeps it takes.
-/

namespace PrintGateway.Gateway

open Machine

variable {row : JobRow} {call : SweepCall} {staleSeconds : ℤ} {stamp : Instant} {job : OwnedJob}

/-- The only statement behind the first one that can match a row. -/
def dueStatement (row : JobRow) : Option SweepStatement :=
  match row.status with
  | .success => none
  | .expired => some .expiredFences
  | .failed => some .failedFences
  | .queued => some .exhaustedQueued
  | .printing => some .stalePrinting
  | .claimed =>
    if row.Evidenced then some .silentDeliveries
    else if row.WithinBudgets then some .requeuedClaims
    else some .exhaustedClaims

theorem dueStatement_of_guard (statement : SweepStatement) (other : statement ≠ .expired)
    (matched : (statement.update stamp staleSeconds).guard row) : dueStatement row = some statement := by
  cases statement with
  | expired => exact absurd rfl other
  | requeuedClaims =>
    obtain ⟨⟨claimed, unevidenced, -, budgets⟩, -⟩ := matched
    simp [dueStatement, claimed, unevidenced, budgets]
  | silentDeliveries => simp [dueStatement, matched.1, matched.2.1]
  | exhaustedClaims =>
    obtain ⟨claimed, unevidenced, -, exhausted⟩ := matched
    simp [dueStatement, claimed, unevidenced, exhausted]
  | stalePrinting | exhaustedQueued | expiredFences | failedFences => simp [dueStatement, matched.1]

/-- The statements behind the first one. -/
def laterStatements (call : SweepCall) : List (BatchStatement OwnedJob) :=
  SweepStatement.order.tail.map (·.batched call)

/-- At most one of them matches a row. -/
theorem laterStatements_apart (call : SweepCall) :
    (laterStatements call).Pairwise fun s t => ∀ job, s.guard job → ¬t.guard job := by
  have others : ∀ statement ∈ SweepStatement.order.tail, statement ≠ .expired := by decide
  have distinct : SweepStatement.order.tail.Nodup := by decide
  refine List.pairwise_map.mpr (distinct.imp_of_mem fun listed listed' different job matched matched' => different ?_)
  have due := dueStatement_of_guard _ (others _ listed) matched.2
  exact Option.some.inj (due.symm.trans (dueStatement_of_guard _ (others _ listed') matched'.2))

/-- What a statement assigns is not overdue. -/
theorem sweep_not_overdue (statement : SweepStatement)
    (matched : (statement.update stamp staleSeconds).guard row) :
    ¬(expireOverdue stamp).guard ((statement.update stamp staleSeconds).set row) := by
  rintro ⟨live, overdue⟩
  cases statement with
  | requeuedClaims => exact absurd overdue (not_le.mpr matched.2)
  | expiredFences =>
    rw [show ((SweepStatement.expiredFences.update stamp staleSeconds).set row).status = .expired from
      matched.1] at live
    cases live
  | failedFences =>
    rw [show ((SweepStatement.failedFences.update stamp staleSeconds).set row).status = .failed from
      matched.1] at live
    cases live
  | expired | silentDeliveries | stalePrinting | exhaustedClaims | exhaustedQueued => cases live

/-- How many assignments a row may still see. -/
def sweepRank (row : JobRow) : ℕ :=
  match row.status with
  | .claimed | .printing => 3
  | .queued => 2
  | .success | .failed | .expired => if row.claimToken.isSome then 1 else 0

theorem sweepRank_terminal_le (terminal : row.status.isTerminal = true) : sweepRank row ≤ 1 := by
  unfold sweepRank
  split
  · simp_all [JobStatus.isTerminal]
  · simp_all [JobStatus.isTerminal]
  · simp_all [JobStatus.isTerminal]
  all_goals split <;> omega

theorem one_lt_sweepRank (live : row.status.isTerminal = false) : 1 < sweepRank row := by
  unfold sweepRank
  split <;> simp_all [JobStatus.isTerminal]

theorem sweepRank_released (terminal : row.status.isTerminal = true) (held : row.claimToken.isSome) :
    sweepRank { row with claimToken := none, claimedAt := none } < sweepRank row := by
  unfold sweepRank
  cases status : row.status <;> simp_all [JobStatus.isTerminal]

/-- Every assignment of a sweep lowers the rank of its row. -/
theorem sweepRank_lt (statement : SweepStatement)
    (matched : (statement.update stamp staleSeconds).guard row) :
    sweepRank ((statement.update stamp staleSeconds).set row) < sweepRank row := by
  have ends : ∀ {row' : JobRow}, row.status.isTerminal = false → row'.status.isTerminal = true →
      sweepRank row' < sweepRank row :=
    fun live terminal => (sweepRank_terminal_le terminal).trans_lt (one_lt_sweepRank live)
  cases statement with
  | expired => exact ends matched.1 rfl
  | requeuedClaims =>
    have claimed : row.status = .claimed := matched.1.1
    have before : sweepRank row = 3 := by simp [sweepRank, claimed]
    rw [before]
    exact Nat.lt_succ_self 2
  | silentDeliveries | exhaustedClaims => exact ends (open_of_claimed matched.1) rfl
  | stalePrinting => exact ends (open_of_claimed_or_printing (.inr matched.1)) rfl
  | exhaustedQueued => exact ends (open_of_queued matched.1) rfl
  | expiredFences | failedFences => exact sweepRank_released (by rw [matched.1]; rfl) matched.2.1

theorem sweepStatements_lower (call : SweepCall) : ∀ statement ∈ sweepStatements call, ∀ job, statement.guard job →
      sweepRank (statement.set job).row < sweepRank job.row := by
  intro statement member job matched
  obtain ⟨statement, rfl⟩ := mem_sweepStatements.mp member
  exact sweepRank_lt statement matched.2

/-- The other overdue jobs that may expire before a job. -/
def expiringBefore (call : SweepCall) (table : List OwnedJob) (job : OwnedJob) : ℕ :=
  ahead (SweepStatement.expired.batched call) table job

/-- The jobs that a statement takes before a job, and that do not expire before it. -/
def failingBefore (call : SweepCall) (statement : SweepStatement) (table : List OwnedJob) (job : OwnedJob) : ℕ :=
  aheadOf (SweepStatement.expired.batched call) (statement.batched call) table job

/-- Every overdue job that a later statement matches as well expires in an earlier sweep than that statement gets to
it, or in the same one. -/
def ExpiresFirst (call : SweepCall) (limit : ℕ) (table : List OwnedJob) : Prop :=
  ∀ job ∈ table, (SweepStatement.expired.batched call).guard job → ∀ statement ≠ .expired,
    (statement.batched call).guard job →
      expiringBefore call table job / limit ≤ failingBefore call statement table job / limit

theorem SweepsTo.prefers {limit : ℕ} {table final : List OwnedJob} (positive : 0 < limit)
    (expires : ExpiresFirst call limit table) (settles : SweepsTo call limit table final) :
    List.Forall₂ (Relation.ReflTransGen
      (Preferred (SweepStatement.expired.batched call) (laterStatements call))) table final := by
  refine (passes_prefer positive ?_ (laterStatements_apart call) settles.1 ?_).1
  · intro statement member job matched overdue
    obtain ⟨statement, rfl⟩ := mem_sweepStatements.mp member
    exact sweep_not_overdue statement matched.2 overdue.2
  · intro job member overdue statement listed matched
    obtain ⟨statement, later, rfl⟩ := List.mem_map.mp listed
    refine expires job member overdue statement ?_ matched
    rintro rfl
    revert later
    decide

/-- Batch limits do not change classification.  When overdue jobs expire before another statement gets to them, sweeps
repeated at one time settle, and the settled table is the same for both limits. -/
theorem sweep_independent_of_limit {call : SweepCall} {limit limit' : ℕ} {table : List OwnedJob}
    (positive : 0 < limit) (positive' : 0 < limit') (expires : ExpiresFirst call limit table)
    (expires' : ExpiresFirst call limit' table) :
    (∃ final, SweepsTo call limit table final) ∧
    ∀ final final', SweepsTo call limit table final → SweepsTo call limit' table final' → final = final' := by
  have lower := sweepStatements_lower call
  refine ⟨exists_settles (fun job => sweepRank job.row) positive lower table, ?_⟩
  intro final final' settles settles'
  exact settled_unique (laterStatements_apart call) (settles.prefers positive expires)
    (settles'.prefers positive' expires') (settles.normal (fun job => sweepRank job.row) positive lower)
    (settles'.normal (fun job => sweepRank job.row) positive' lower)

/-- A queued and a delivered job, both past their time to live two hours later. -/
def sampleBacklog : List OwnedJob :=
  [⟨"a", .enqueued 0 (minutes 30)⟩, ⟨"a", sampleClaimed.row⟩]

def sampleSweep : SweepCall := ⟨⟨hours 2, hours 2⟩, 90, none⟩

/-- The choices of a sweep in which the second row is expired, or left to be failed. -/
def sampleChoices (expires : Bool) : List (List Bool) :=
  [[true, expires], [false, false], [false, !expires], [false, false], [false, false], [false, false],
    [false, expires], [false, false]]

/-- The table after that sweep. -/
def sampleSettled (expires : Bool) : List OwnedJob :=
  [⟨"a", (expireOverdue sampleSweep.stamp).set (.enqueued 0 (minutes 30))⟩, ⟨"a", if expires then
        (dropExpiredFence sampleSweep.stamp).set ((expireOverdue sampleSweep.stamp).set sampleClaimed.row)
      else (failSilentDelivery sampleSweep.stamp 90).set sampleClaimed.row⟩]

/-- The delivered job expires before a queued one. -/
def samplePunctual : List OwnedJob :=
  [⟨"a", .enqueued 0 (minutes 90)⟩, ⟨"a", sampleClaimed.row⟩]

theorem sweep_independent_of_limit_punctual : (∃ final, SweepsTo sampleSweep 1 samplePunctual final) ∧
    ∀ final final', SweepsTo sampleSweep 1 samplePunctual final →
      SweepsTo sampleSweep 2 samplePunctual final' → final = final' := by
  have expires : ∀ limit ∈ [1, 2], ∀ job ∈ samplePunctual, (SweepStatement.expired.batched sampleSweep).guard job →
      ∀ statement ∈ SweepStatement.order, statement ≠ .expired → (statement.batched sampleSweep).guard job →
        expiringBefore sampleSweep samplePunctual job / limit ≤
          failingBefore sampleSweep statement samplePunctual job / limit := by decide +kernel
  exact sweep_independent_of_limit (by decide) (by decide)
    (fun job member overdue statement => expires 1 (by decide) job member overdue statement statement.mem_order)
    (fun job member overdue statement => expires 2 (by decide) job member overdue statement statement.mem_order)

/-- With a limit of one the overdue delivery is failed and keeps its fence, with a limit of two it
expires. -/
theorem sweep_depends_on_limit : ∃ final final', SweepsTo sampleSweep 1 sampleBacklog final ∧
      SweepsTo sampleSweep 2 sampleBacklog final' ∧
      (final.map fun job => (job.row.status, job.row.claimToken)) = [(.expired, none), (.failed, some 7)] ∧
      (final'.map fun job => (job.row.status, job.row.claimToken)) = [(.expired, none), (.expired, none)] := by
  have failed : Pass 1 (sweepStatements sampleSweep) sampleBacklog (sampleSettled false) :=
    pass_of_passWith (sampleChoices false) (by decide +kernel)
  have expired : Pass 2 (sweepStatements sampleSweep) sampleBacklog (sampleSettled true) :=
    pass_of_passWith (sampleChoices true) (by decide +kernel)
  have normal : ∀ expires, ∀ job ∈ sampleSettled expires, Normal (sweepStatements sampleSweep) job := by
    decide +kernel
  refine ⟨_, _, ⟨.single failed, ?_⟩, ⟨.single expired, ?_⟩, by decide, by decide⟩
  · exact fun _ pass => pass.eq_of_normal (normal false)
  · exact fun _ pass => pass.eq_of_normal (normal true)

end PrintGateway.Gateway
