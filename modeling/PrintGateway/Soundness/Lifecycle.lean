import PrintGateway.Model.Gateway.Writers

/-!
# The life-cycle graph and the claim fence

Every statement that writes a job row, in any order.  A terminal row leaves its status only by a late
success of the attempt that ended it, inside the window of that path, and a caller whose token is not
the token of the row changes nothing.
-/

namespace PrintGateway.Gateway

open Machine

variable {row row' : JobRow} {stamp : Instant} {report : StatusReport} {u : Update JobRow}
  {owners : Owners} {op : JobOp} {staleSeconds : ℤ}

/-- The operation is an Agent's report of success under `token`. -/
def JobOp.ReportsSuccess (op : JobOp) (token : Token) : Prop :=
  ∃ owners job report, op = .patch owners job report ∧ report.requested = .success ∧ report.claimToken = some token

/-- How a statement may change the status of a row. -/
inductive StatusChange (stamp : Instant) (row row' : JobRow) (op : JobOp) : Prop
  | same : row'.status = row.status → row'.error = row.error → StatusChange stamp row row' op
  | opened : row.status.isTerminal = false → StatusChange stamp row row' op
  | lateSuccess {token : Token} : row.status = .failed → row'.status = .success → op.ReportsSuccess token →
      row.claimToken = some token → stamp.now - hours 24 ≤ row.updatedAt → row.updatedAt ≤ stamp.now →
      StatusChange stamp row row' op
  | lateExpiredSuccess {token : Token} : row.status = .expired → row'.status = .success → op.ReportsSuccess token →
      row.claimToken = some token → row.expiresAt ≤ stamp.now → stamp.now < row.expiresAt + minutes 5 →
      StatusChange stamp row row' op

theorem open_of_queued (queued : row.status = .queued) : row.status.isTerminal = false := by
  rw [queued]; rfl

theorem open_of_claimed (claimed : row.status = .claimed) : row.status.isTerminal = false := by
  rw [claimed]; rfl

theorem open_of_claimed_or_printing (running : row.status = .claimed ∨ row.status = .printing) :
    row.status.isTerminal = false := by
  rcases running with h | h <;> rw [h] <;> rfl

/-- A planned report moves an open row, or is one of the two late successes. -/
theorem PlannedReport.statusChange {job : JobRow} (planned : PlannedReport stamp owners report u)
    (matched : u.guard row) : StatusChange stamp row (u.set row) (.patch owners job report) := by
  cases planned with
  | expire _ live =>
    obtain ⟨⟨status, -⟩, -⟩ := matched
    exact .opened (status ▸ live)
  | crashRequeue _ _ _ => exact .opened (open_of_claimed_or_printing (.inr matched.1.1))
  | handBack _ _ _ => exact .opened (open_of_claimed matched.1.1)
  | reconcile owned requested =>
    obtain ⟨⟨status, token⟩, expired, grace⟩ := matched
    refine .lateExpiredSuccess status rfl ⟨_, _, _, rfl, requested, owned⟩ (token.trans owned) expired ?_
    simp only [expiredLateSuccessGrace] at grace
    omega
  | transition update _ _ _ _ _ current _ =>
    obtain ⟨⟨status, -⟩, -⟩ := matched
    exact .opened (open_of_claimed_or_printing (status ▸ current))
  | lateSuccess update owned token requested success late current =>
    obtain ⟨⟨status, held⟩, window, -⟩ := matched
    rw [late] at window
    exact .lateSuccess (status.trans current) success ⟨_, _, _, rfl, requested, owned⟩
      (held.trans token) window.1 window.2

/-- A sweep moves open rows only. -/
theorem sweep_statusChange (statement : SweepStatement)
    (matched : (statement.update stamp staleSeconds).guard row) :
    StatusChange stamp row ((statement.update stamp staleSeconds).set row) op := by
  cases statement with
  | expired => exact .opened matched.1
  | requeuedClaims => exact .opened (open_of_claimed matched.1.1)
  | silentDeliveries | exhaustedClaims => exact .opened (open_of_claimed matched.1)
  | stalePrinting => exact .opened (open_of_claimed_or_printing (.inr matched.1))
  | exhaustedQueued => exact .opened (open_of_queued matched.1)
  | expiredFences | failedFences => exact .same rfl rfl

/-- The one place where the statements are listed: how each may change the status. -/
theorem Written.statusChange (written : Written stamp row op row') : StatusChange stamp row row' op := by
  cases written with
  | unchanged | acked matched | keptAlive matched => exact .same rfl rfl
  | claim matched => exact .opened (open_of_queued matched.2.1)
  | poll candidate =>
    rcases candidate.2 with stale | queued
    · exact .opened (open_of_claimed stale.2.1.1)
    · exact .opened (open_of_queued queued.2.1)
  | delivered matched => exact .opened (open_of_claimed_or_printing matched.1)
  | deliveryUnknown matched => exact .opened (open_of_claimed matched.1)
  | released matched | givenUp matched => exact .opened (open_of_claimed matched.1.1)
  | reported planned matched => exact planned.statusChange matched
  | resumed matched => exact .opened (open_of_queued matched.1)
  | swept matched => exact sweep_statusChange _ matched

/-- How a statement may change the claim token of a row. -/
inductive TokenChange (row row' : JobRow) : Prop
  | minted : row'.status = .claimed → row'.claimToken.isSome → TokenChange row row'
  | cleared (status : JobStatus) : row'.claimToken = none → row'.status = status →
      status ≠ .claimed ∧ status ≠ .printing → TokenChange row row'
  | kept : row'.claimToken = row.claimToken → row'.status = row.status → TokenChange row row'
  | admitted : row'.claimToken = row.claimToken →
      row.status = .claimed ∨ row.status = .printing → row'.status = .printing → TokenChange row row'
  | ended : row'.claimToken = row.claimToken → row.status.isTerminal = false →
      row'.status = .failed ∨ row'.status = .expired → TokenChange row row'

theorem PlannedReport.tokenChange (planned : PlannedReport stamp owners report u) (matched : u.guard row) :
    TokenChange row (u.set row) := by
  cases planned with
  | expire _ live =>
    obtain ⟨⟨status, -⟩, -⟩ := matched
    exact .ended rfl (status ▸ live) (.inr rfl)
  | crashRequeue _ _ _ | handBack _ _ _ => exact .cleared .queued rfl rfl (by decide)
  | reconcile _ _ => exact .cleared .success rfl rfl (by decide)
  | transition update _ _ _ _ _ current requested =>
    obtain ⟨⟨status, -⟩, -⟩ := matched
    have running : row.status = .claimed ∨ row.status = .printing := status ▸ current
    rcases requested with h | h | h
    · exact .admitted (by simp [runStatusUpdate, h, JobStatus.isTerminal]) running h
    · refine .cleared .success ?_ h (by decide)
      simp [runStatusUpdate, h, JobStatus.isTerminal, StatusUpdate.retainsLateSuccessFence]
    · by_cases retains : update.retainsLateSuccessFence
      · exact .ended (by simp [runStatusUpdate, retains]) (open_of_claimed_or_printing running) (.inl h)
      · refine .cleared .failed ?_ h (by decide)
        simp [runStatusUpdate, h, JobStatus.isTerminal, retains]
  | lateSuccess update _ _ _ success _ _ =>
    refine .cleared .success ?_ success (by decide)
    simp [runStatusUpdate, success, JobStatus.isTerminal, StatusUpdate.retainsLateSuccessFence]

theorem sweep_tokenChange (statement : SweepStatement)
    (matched : (statement.update stamp staleSeconds).guard row) :
    TokenChange row ((statement.update stamp staleSeconds).set row) := by
  cases statement with
  | expired =>
    by_cases ambiguous : AmbiguousAtExpiry row
    · exact .ended (by simp [SweepStatement.update, expireOverdue, ambiguous]) matched.1 (.inr rfl)
    · refine .cleared .expired ?_ rfl (by decide)
      simp [SweepStatement.update, expireOverdue, ambiguous]
  | requeuedClaims => exact .cleared .queued rfl rfl (by decide)
  | silentDeliveries => exact .ended rfl (open_of_claimed matched.1) (.inl rfl)
  | stalePrinting =>
    by_cases overdue : row.expiresAt ≤ stamp.now
    · refine .cleared .failed ?_ rfl (by decide)
      simp [SweepStatement.update, failStalePrinting, overdue]
    · exact .ended (by simp [SweepStatement.update, failStalePrinting, overdue])
        (open_of_claimed_or_printing (.inr matched.1)) (.inl rfl)
  | exhaustedClaims | exhaustedQueued => exact .cleared .failed rfl rfl (by decide)
  | expiredFences => exact .cleared .expired rfl matched.1 (by decide)
  | failedFences => exact .cleared .failed rfl matched.1 (by decide)

theorem Written.tokenChange (written : Written stamp row op row') : TokenChange row row' := by
  cases written with
  | unchanged | delivered matched | acked matched | keptAlive matched | resumed matched =>
    exact .kept rfl rfl
  | claim matched | poll candidate => exact .minted rfl rfl
  | deliveryUnknown matched => exact .ended rfl (open_of_claimed matched.1) (.inl rfl)
  | released matched => exact .cleared .queued rfl rfl (by decide)
  | givenUp matched => exact .cleared .failed rfl rfl (by decide)
  | reported planned matched => exact planned.tokenChange matched
  | swept matched => exact sweep_tokenChange _ matched

/-- The expiry of an unclaimed overdue row, the one write that needs no token. -/
structure TokenlessExpiry (stamp : Instant) (row row' : JobRow) : Prop where
  unclaimed : row.status = .queued
  noToken : row.claimToken = none
  overdue : row.expiresAt ≤ stamp.now
  expired : row' = { row with status := .expired, error := none, updatedAt := stamp.clock }

/-- A running row has a claim token. -/
def Tokened (row : JobRow) : Prop :=
  row.status = .claimed ∨ row.status = .printing → row.claimToken.isSome

theorem PlannedReport.fenced (planned : PlannedReport stamp owners report u) (matched : u.guard row)
    (tokened : Tokened row) (foreign : report.claimToken = none ∨ report.claimToken ≠ row.claimToken) :
    report.claimToken = none ∧ TokenlessExpiry stamp row (u.set row) := by
  cases planned with
  | @expire current _ live =>
    obtain ⟨⟨status, token⟩, overdue⟩ := matched
    have absent : report.claimToken = none := foreign.resolve_right (fun other => other token.symm)
    have noToken : row.claimToken = none := token.trans absent
    have unclaimed : row.status = .queued := by
      have idle : ¬ (row.status = .claimed ∨ row.status = .printing) := fun running => by
        simpa [noToken] using tokened running
      rw [← status] at live
      revert live idle
      cases row.status <;> decide
    refine ⟨absent, unclaimed, noToken, overdue, ?_⟩
    have current : current = .queued := status.symm.trans unclaimed
    simp [expireReported, unclaimed, current]
  | crashRequeue owned _ _ | handBack _ owned _ =>
    exact absurd (owned.trans matched.1.2.symm) (foreign.resolve_left (by simp [owned]))
  | reconcile owned _ =>
    exact absurd matched.1.2.symm (foreign.resolve_left (by simp [owned]))
  | transition update owned token _ _ _ _ _ | lateSuccess update owned token _ _ _ _ =>
    exact absurd (owned.trans (matched.1.2.trans token).symm) (foreign.resolve_left (by simp [owned]))

/-- A caller without the token of the row changes nothing, the tokenless expiry apart. -/
theorem Written.fenced {presented : Option Token} (written : Written stamp row op row')
    (tokened : Tokened row) (presents : op.presented = some presented)
    (foreign : presented = none ∨ presented ≠ row.claimToken) :
    row' = row ∨ (presented = none ∧ TokenlessExpiry stamp row row') := by
  cases written with
  | unchanged => exact .inl rfl
  | claim _ | poll _ | resumed _ | swept _ => cases presents
  | delivered matched | deliveryUnknown matched | keptAlive matched =>
    cases presents
    exact absurd matched.2.symm (foreign.resolve_left (by simp))
  | acked matched =>
    cases presents
    exact absurd matched.2.1.symm (foreign.resolve_left (by simp))
  | released matched | givenUp matched =>
    cases presents
    obtain ⟨⟨status, token, -⟩, -⟩ := matched
    have held : presented.isSome := token ▸ tokened (.inl status)
    exact absurd token.symm (foreign.resolve_left (by rintro rfl; simp at held))
  | reported planned matched =>
    cases presents
    exact .inr (planned.fenced matched tokened foreign)

/-- A row together with the token of the attempt in force when it last became failed or expired. -/
structure Tracked where
  row : JobRow
  ended : Option Token
  deriving DecidableEq, Repr

variable {s : Tracked}

/-- Execute one operation and remember which attempt it ended. -/
def Tracked.next (stamp : Instant) (op : JobOp) (s : Tracked) : Tracked where
  row := op.next stamp s.row
  ended :=
    if (op.next stamp s.row).status ≠ s.row.status ∧
        ((op.next stamp s.row).status = .failed ∨ (op.next stamp s.row).status = .expired) then
      s.row.claimToken
    else s.ended

@[simp]
theorem Tracked.next_row (stamp : Instant) (op : JobOp) (s : Tracked) :
    (s.next stamp op).row = op.next stamp s.row := rfl

/-- All operations on one job row, from its insertion. -/
def lifecycle : System Tracked (Instant × JobOp) where
  init s := ∃ createdAt expiresAt, s = ⟨.enqueued createdAt expiresAt, none⟩
  step s e := some (s.next e.1 e.2)

/-- The claim token of a row in every phase of its life. -/
structure Fenced (s : Tracked) : Prop where
  tokened : Tokened s.row
  closed : s.row.status = .failed ∨ s.row.status = .expired → s.row.claimToken = none ∨ s.row.claimToken = s.ended

theorem Fenced.next (fenced : Fenced s) (stamp : Instant) (op : JobOp) : Fenced (s.next stamp op) := by
  have change := (op.written stamp s.row).tokenChange
  unfold Tracked.next
  generalize op.next stamp s.row = row' at change ⊢
  cases change with
  | minted claimed token => exact ⟨fun _ => token, by simp [claimed]⟩
  | cleared status token same other =>
    exact ⟨fun running => by simp_all, fun _ => .inl token⟩
  | kept token same =>
    refine ⟨fun running => ?_, fun ended => ?_⟩
    · exact token ▸ fenced.tokened (same ▸ running)
    · simpa only [token, same, ne_eq, not_true_eq_false, false_and, if_false] using
        fenced.closed (same ▸ ended)
  | admitted token running printing =>
    exact ⟨fun _ => token ▸ fenced.tokened running, by simp [printing]⟩
  | ended token live terminal =>
    have changed : row'.status ≠ s.row.status := by
      rintro same
      rw [← same] at live
      rcases terminal with h | h <;> rw [h] at live <;> cases live
    refine ⟨fun running => ?_, fun _ => .inr ?_⟩
    · rcases terminal with h | h <;> simp [h] at running
    · rw [if_pos ⟨changed, terminal⟩, token]

theorem fenced_of_reachable (reachable : lifecycle.Reachable s) : Fenced s := by
  refine reachable.invariant ?_ ?_
  · rintro s ⟨createdAt, expiresAt, rfl⟩
    exact ⟨by simp [Tokened, JobRow.enqueued], by simp [JobRow.enqueued]⟩
  · rintro s ⟨stamp, op⟩ s' fenced - step
    cases step
    exact fenced.next stamp op

/-- A terminal row stays terminal. -/
theorem Written.terminal (written : Written stamp row op row') (terminal : row.status.isTerminal = true) :
    row'.status.isTerminal = true := by
  cases written.statusChange with
  | same same _ => rwa [same]
  | opened live => simp [terminal] at live
  | lateSuccess _ success _ _ _ _ | lateExpiredSuccess _ success _ _ _ _ => rw [success]; rfl

/-- Only success follows a terminal status. -/
theorem terminal_next (stamp : Instant) (op : JobOp) {row : JobRow}
    (terminal : row.status.isTerminal = true) :
    (op.next stamp row).status = row.status ∨ (row.status ≠ .success ∧ (op.next stamp row).status = .success) := by
  cases (op.written stamp row).statusChange with
  | same same _ => exact .inl same
  | opened live => simp [terminal] at live
  | lateSuccess failed success _ _ _ _ => exact .inr ⟨by simp [failed], success⟩
  | lateExpiredSuccess expired success _ _ _ _ => exact .inr ⟨by simp [expired], success⟩

/-- Terminal statuses along a whole run. -/
theorem terminal_run {later : Tracked} (events : List (Instant × JobOp))
    (executed : lifecycle.run s events = some later) (terminal : s.row.status.isTerminal = true) :
    later.row.status = s.row.status ∨ later.row.status = .success := by
  induction events generalizing s with
  | nil =>
    cases executed
    exact .inl rfl
  | cons event events ih =>
    have executed : lifecycle.run (s.next event.1 event.2) events = some later := executed
    rcases terminal_next event.1 event.2 terminal with same | ⟨-, success⟩
    · exact same ▸ ih executed (same ▸ terminal)
    · have rest := ih executed (by rw [Tracked.next_row, success]; rfl)
      rw [Tracked.next_row, success] at rest
      exact .inr (rest.elim id id)

/-- Job life-cycle graph and claim fence.  In every reachable row a terminal status is left only for
success, a late success is reported by the attempt that ended inside its window, and an operation
under another token changes no column. -/
theorem jobLifecycle_fenced {s : Tracked} (reachable : lifecycle.Reachable s) :
    (∀ events later, lifecycle.run s events = some later → (s.row.status = .success → later.row.status = .success) ∧
      (s.row.status = .failed → later.row.status = .failed ∨ later.row.status = .success) ∧
      (s.row.status = .expired → later.row.status = .expired ∨ later.row.status = .success)) ∧
    ∀ (stamp : Instant) (op : JobOp), (s.row.status = .failed → (op.next stamp s.row).status = .success →
        ∃ token, op.ReportsSuccess token ∧ s.row.claimToken = some token ∧ s.ended = some token ∧
          stamp.now - hours 24 ≤ s.row.updatedAt ∧ s.row.updatedAt ≤ stamp.now) ∧
      (s.row.status = .expired → (op.next stamp s.row).status = .success →
        ∃ token, op.ReportsSuccess token ∧ s.row.claimToken = some token ∧ s.ended = some token ∧
          s.row.expiresAt ≤ stamp.now ∧ stamp.now < s.row.expiresAt + minutes 5) ∧
      ∀ presented, op.presented = some presented → presented = none ∨ presented ≠ s.row.claimToken →
        op.next stamp s.row = s.row ∨ (presented = none ∧ TokenlessExpiry stamp s.row (op.next stamp s.row)) := by
  have fenced := fenced_of_reachable reachable
  refine ⟨fun events later executed => ⟨?_, ?_, ?_⟩, fun stamp op => ⟨?_, ?_, ?_⟩⟩
  · intro success
    simpa [success] using terminal_run events executed (by rw [success]; rfl)
  · intro failed
    simpa [failed] using terminal_run events executed (by rw [failed]; rfl)
  · intro expired
    simpa [expired] using terminal_run events executed (by rw [expired]; rfl)
  · intro failed success
    cases (op.written stamp s.row).statusChange with
    | same same _ => simp [same, failed] at success
    | opened live => simp [failed, JobStatus.isTerminal] at live
    | lateSuccess _ _ reports held young past =>
      have closed := fenced.closed (.inl failed)
      rw [held] at closed
      exact ⟨_, reports, held, (closed.resolve_left (by simp)).symm, young, past⟩
    | lateExpiredSuccess expired _ _ _ _ _ => simp [failed] at expired
  · intro expired success
    cases (op.written stamp s.row).statusChange with
    | same same _ => simp [same, expired] at success
    | opened live => simp [expired, JobStatus.isTerminal] at live
    | lateSuccess failed _ _ _ _ _ => simp [expired] at failed
    | lateExpiredSuccess _ _ reports held overdue grace =>
      have closed := fenced.closed (.inr expired)
      rw [held] at closed
      exact ⟨_, reports, held, (closed.resolve_left (by simp)).symm, overdue, grace⟩
  · intro presented presents foreign
    exact (op.written stamp s.row).fenced fenced.tokened presents foreign

/-- A live agent with an eligible printer, seen at instant zero. -/
def sampleOwners : Owners where
  agent := { lifecycle := .active, status := .online, lastSeenAt := some 0 }
  printer :=
    { lifecycle := .active
      inventoryPresent := true
      sharedWithGateway := true
      status := .online
      connectionType := .network
      protocol := .escpos
      managementSource := .agent
      desiredRevision := 0
      appliedDesiredRevision := 0
      observedDesiredRevision := 0
      lastSeenAt := some 0 }
  tenant := .active
  subscriptionLive := true
  staleSeconds := 90

def sampleReport (requested : JobStatus) (token : Token) : StatusReport where
  requested := requested
  rawError := none
  reason := .other
  claimToken := some token
  spoolerJobId := none

def sampleClaimed : Tracked :=
  Tracked.next ⟨1, 2⟩ (.claimJobForDelivery sampleOwners 0 true 7) ⟨.enqueued 0 (hours 1), none⟩

def samplePrinting : Tracked :=
  sampleClaimed.next ⟨3, 4⟩ (.patch sampleOwners sampleClaimed.row (sampleReport .printing 7))

def sampleTimedOut : Tracked :=
  samplePrinting.next ⟨seconds 700, seconds 700⟩ (.sweep .stalePrinting 90)

def sampleLateSuccess : JobOp :=
  .patch sampleOwners sampleTimedOut.row (sampleReport .success 7)

/-- An attempt that timed out and then reported success. -/
theorem jobLifecycle_fenced_timedOut : sampleTimedOut.row.status = .failed ∧
    (sampleLateSuccess.next ⟨seconds 800, seconds 800⟩ sampleTimedOut.row).status = .success ∧
    ∃ token, sampleLateSuccess.ReportsSuccess token ∧ sampleTimedOut.row.claimToken = some token ∧
      sampleTimedOut.ended = some token ∧ seconds 800 - hours 24 ≤ sampleTimedOut.row.updatedAt ∧
      sampleTimedOut.row.updatedAt ≤ seconds 800 := by
  have reachable : lifecycle.Reachable sampleTimedOut := by
    refine System.Reaches.run (s := ⟨.enqueued 0 (hours 1), none⟩) (.init ⟨_, _, rfl⟩)
      [(⟨1, 2⟩, .claimJobForDelivery sampleOwners 0 true 7),
        (⟨3, 4⟩, .patch sampleOwners sampleClaimed.row (sampleReport .printing 7)),
        (⟨seconds 700, seconds 700⟩, .sweep .stalePrinting 90)] rfl
  have failed : sampleTimedOut.row.status = .failed := by decide
  have success : (sampleLateSuccess.next ⟨seconds 800, seconds 800⟩ sampleTimedOut.row).status = .success := by decide
  exact ⟨failed, success,
    ((jobLifecycle_fenced reachable).2 ⟨seconds 800, seconds 800⟩ sampleLateSuccess).1 failed success⟩

end PrintGateway.Gateway
