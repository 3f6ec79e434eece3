import PrintGateway.Model.Gateway.Poll
import PrintGateway.Soundness.Lifecycle

/-!
# What a poll locks

The candidate queries of a poll are not evaluated again on the row version it locks.  A sweep that
commits in between turns the candidate into a terminal row, and the poll claims it all the same.  When
every statement that commits in between returns the row to the queue, a poll claims what its
candidate queries ask for.
-/

namespace PrintGateway.Gateway

open Machine

/-- What a poll may claim: a row that is queued, or a stale claim without evidence, and that had not expired at the
`now()` of the poll, the start of its transaction. -/
def ClaimableAtLock (poll : PendingPoll) (row : JobRow) : Prop :=
  poll.now < row.expiresAt ∧ (row.status = .queued ∨ row.StaleUnevidencedClaim poll.staleSeconds poll.now)

/-- A statement that commits between the snapshot and the lock of a poll changes nothing or returns
the row to the queue. -/
def QuietWindow (s : Polled) : PollEvent → Prop
  | .write stamp op =>
    s.poll.isSome → op.next stamp s.row = s.row ∨ (op.next stamp s.row).status = .queued
  | _ => True

theorem PlannedReport.expiresAt {stamp : Instant} {owners : Owners} {report : StatusReport}
    {u : Update JobRow} (planned : PlannedReport stamp owners report u) (row : JobRow) :
    (u.set row).expiresAt = row.expiresAt := by
  cases planned <;> rfl

/-- No statement moves the time to live of a job. -/
theorem Written.expiresAt {stamp : Instant} {row row' : JobRow} {op : JobOp}
    (written : Written stamp row op row') : row'.expiresAt = row.expiresAt := by
  cases written with
  | reported planned matched => exact planned.expiresAt row
  | @swept statement _ matched => cases statement <;> rfl
  | _ => rfl

theorem claimableAtLock_of_candidate {now : ℤ} {owners : Owners} {queuedLimit : ℕ} {row : JobRow}
    (candidate : PollCandidate now owners queuedLimit row) :
    ClaimableAtLock ⟨now, owners.staleSeconds⟩ row :=
  candidate.2.elim (fun stale => ⟨stale.1, .inr stale.2.1⟩) (fun queued => ⟨queued.1, .inl queued.2.1⟩)

theorem claimableAtLock_step {s s' : Polled} {event : PollEvent}
    (claimable : ∀ poll ∈ s.poll, ClaimableAtLock poll s.row) (quiet : QuietWindow s event)
    (step : PollStep s event s') : ∀ poll ∈ s'.poll, ClaimableAtLock poll s'.row := by
  cases step with
  | @write stamp op free =>
    intro poll pending
    obtain ⟨unexpired, kind⟩ := claimable poll pending
    rcases quiet (Option.isSome_of_mem pending) with same | queued
    · exact same.symm ▸ ⟨unexpired, kind⟩
    · exact ⟨(op.written stamp s.row).expiresAt.symm ▸ unexpired, .inl queued⟩
  | snapshot idle candidate =>
    rintro poll ⟨⟩
    exact claimableAtLock_of_candidate candidate
  | lock pending owners | skip => rintro poll ⟨⟩

theorem claimableAtLock_of_reached {s : Polled} (reached : polling.Reaches QuietWindow s) :
    ∀ poll ∈ s.poll, ClaimableAtLock poll s.row := by
  induction reached with
  | init start =>
    obtain ⟨createdAt, expiresAt, rfl⟩ := start
    rintro poll ⟨⟩
  | step event _ quiet step ih => exact claimableAtLock_step ih quiet (pollStep_of_step step)

/-- In a run whose polls see quiet windows, a poll never claims a terminal or printing row, and it
claims only rows its candidate queries ask for. -/
theorem poll_claims_candidates {s s' : Polled} {clock : ℤ} {owners : Owners} {token : Token}
    (reached : polling.Reaches QuietWindow s)
    (locked : polling.step s (.lock clock owners token) = some s') :
    (s.row.status ≠ .success ∧ s.row.status ≠ .failed ∧ s.row.status ≠ .expired ∧ s.row.status ≠ .printing) ∧
    ∃ poll, s.poll = some poll ∧ ClaimableAtLock poll s.row := by
  cases pollStep_of_step locked with
  | lock pending _ =>
    obtain ⟨unexpired, kind⟩ := claimableAtLock_of_reached reached _ pending
    refine ⟨?_, _, pending, unexpired, kind⟩
    rcases kind with queued | stale
    · simp [queued]
    · simp [stale.1]

def sampleQueued : Polled := ⟨.enqueued 0 10, none, 0⟩

theorem poll_claims_candidates_queued : ∃ s s', polling.run sampleQueued [.snapshot 7 sampleOwners 20] = some s ∧
      polling.step s (.lock 8 sampleOwners 8) = some s' ∧ s.row.status = .queued ∧
      s'.row.status = .claimed ∧ ∃ poll, s.poll = some poll ∧ ClaimableAtLock poll s.row := by
  have start : polling.Reaches QuietWindow sampleQueued := .init ⟨0, 10, rfl⟩
  have quiet : QuietWindow sampleQueued (.snapshot 7 sampleOwners 20) := trivial
  obtain ⟨s, snapshot⟩ : ∃ s, polling.step sampleQueued (.snapshot 7 sampleOwners 20) = some s :=
    ⟨_, rfl⟩
  obtain ⟨s', locked⟩ : ∃ s', polling.step s (.lock 8 sampleOwners 8) = some s' := by
    cases snapshot
    exact ⟨_, rfl⟩
  refine ⟨s, s', ?_, locked, ?_, ?_, (poll_claims_candidates (.step _ start quiet snapshot) locked).2⟩
  all_goals
    cases snapshot
    cases locked
    decide

/-- A queued row expires under a sweep between the snapshot and the lock of a poll, and the poll
claims it under a fresh token. -/
theorem poll_claims_expired_row : ∃ s s', polling.Reachable s ∧ s.row.status = .expired ∧
      polling.step s (.lock 12 sampleOwners 8) = some s' ∧
      s'.row.status = .claimed ∧ s'.row.claimToken = some 8 :=
  ⟨_, _, System.Reaches.run (s := sampleQueued) (.init ⟨0, 10, rfl⟩)
    [.snapshot 9 sampleOwners 20, .write ⟨11, 11⟩ (.sweep .expired 90)] rfl,
    by decide, rfl, by decide, by decide⟩

end PrintGateway.Gateway
