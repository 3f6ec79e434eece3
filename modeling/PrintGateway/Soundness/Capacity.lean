import PrintGateway.Model.Gateway.AgentQueue
import PrintGateway.Soundness.Budget
import PrintGateway.Soundness.PollRace

/-!
# The capacity of an agent

The count of a claim transaction skips stale claims without evidence and is zero for an agent that
does not look live.  The first exception is harmless, since every claimed row carries evidence or the
pending marker.  The second is not: a heartbeat that commits between the count and the claiming
statement brings the uncounted rows back.  Without such a heartbeat the ceiling holds.
-/

namespace PrintGateway.Gateway

open Machine

variable {stamp : Instant} {row row' : JobRow} {op : JobOp} {owners : Owners} {token : Token}

/-- A claimed row says that it may have been delivered. -/
def ClaimEvidenced (row : JobRow) : Prop := row.status = .claimed → row.Evidenced

/-- Only a claim puts a row into flight. -/
theorem Written.inFlight {now : ℤ} (written : Written stamp row op row')
    (noClaim : op.takesClaimLock = false) (occupied : row'.InFlight now) : row.InFlight now := by
  obtain ⟨running, unexpired⟩ := occupied
  rw [written.expiresAt] at unexpired
  refine ⟨?_, unexpired⟩
  cases written.budgetChange with
  | claimed claims _ _ _ | reclaimed claims _ _ _ => simp [noClaim] at claims
  | handedBack _ _ queued _ _ _ | requeued _ queued _ _ _ => simp [queued] at running
  | steady _ _ _ claimed printing => exact running.elim (fun h => .inl (claimed h)) printing

theorem PlannedReport.not_claimed {report : StatusReport} {u : Update JobRow}
    (planned : PlannedReport stamp owners report u) (row : JobRow) : (u.set row).status ≠ .claimed := by
  cases planned with
  | expire _ _ | crashRequeue _ _ _ | handBack _ _ _ | reconcile _ _ => nofun
  | transition update _ _ _ _ _ _ requested =>
    rcases requested with h | h | h <;> exact fun claimed => by cases h.symm.trans claimed
  | lateSuccess update _ _ _ success _ _ => exact fun claimed => by cases success.symm.trans claimed

/-- A statement that is no claim keeps the evidence of a claimed row. -/
theorem Written.claimEvidenced (written : Written stamp row op row') (noClaim : op.takesClaimLock = false)
    (evidenced : ClaimEvidenced row) : ClaimEvidenced row' := by
  intro claimed
  cases written with
  | unchanged | keptAlive _ => exact evidenced claimed
  | claim _ | poll _ => cases noClaim
  | delivered _ => exact .inl rfl
  | deliveryUnknown _ | released _ | givenUp _ => cases claimed
  | acked _ => exact .inr (.inl rfl)
  | reported planned _ => exact absurd claimed (planned.not_claimed row)
  | resumed matched => cases matched.1.symm.trans claimed
  | @swept statement _ matched =>
    cases statement with
    | expiredFences => cases matched.1.symm.trans claimed
    | failedFences => cases matched.1.symm.trans claimed
    | _ => cases claimed

theorem claimJobForDelivery_evidenced {inFlight : ℕ} (evidenced : ClaimEvidenced row) :
    ClaimEvidenced ((claimJobForDelivery stamp owners inFlight true token).next row) := by
  rcases Update.next_cases (claimJobForDelivery stamp owners inFlight true token) row with
    ⟨-, claimed⟩ | missed
  · rw [claimed]
    exact fun _ => .inr (.inr rfl)
  · rw [missed]
    exact evidenced

theorem lockClaimable_evidenced (evidenced : ClaimEvidenced row) :
    ClaimEvidenced ((lockClaimable stamp owners token).next row) := by
  rcases Update.next_cases (lockClaimable stamp owners token) row with ⟨-, claimed⟩ | missed
  · rw [claimed]
    exact fun _ => .inr (.inr rfl)
  · rw [missed]
    exact evidenced

/-- What a claim transaction knows about the slots in use, should the agent look live to it. -/
def ClaimPhase.Covers (inFlight : ℕ) : ClaimPhase → Prop
  | .locked => True
  | .counted total => inFlight ≤ total
  | .selected limit _ => limit = 0 ∨ inFlight + limit ≤ maxAgentInFlightJobs

theorem ClaimPhase.Covers.mono {phase : ClaimPhase} {fewer inFlight : ℕ} (le : fewer ≤ inFlight)
    (covers : phase.Covers inFlight) : phase.Covers fewer := by
  cases phase with
  | locked => trivial
  | counted total => exact Nat.le_trans le covers
  | selected limit candidates => exact covers.imp_right fun h => by omega

/-- A presence change inside a claim transaction, after its count, does not make the agent look live
to that transaction. -/
def PresenceSteady (staleSeconds : ℤ) (s : AgentQueue) : QueueEvent → Prop
  | .presence agent =>
    ∀ claim ∈ s.claim, claim.phase ≠ .locked → agent.Live staleSeconds claim.now → s.agent.Live staleSeconds claim.now
  | _ => True

instance (staleSeconds : ℤ) (s : AgentQueue) : (event : QueueEvent) → Decidable (PresenceSteady staleSeconds s event)
  | .presence _ => inferInstanceAs (Decidable (∀ claim ∈ s.claim, _))
  | .advance _ | .tenant _ | .enqueue _ | .write .. | .lock _ | .count | .push .. | .select _
  | .claimSelected _ | .finish => isTrue trivial

/-- The ceiling, and what it rests on. -/
structure WithinCapacity (staleSeconds : ℤ) (s : AgentQueue) : Prop where
  evidenced : ∀ row ∈ s.rows, ClaimEvidenced row
  bounded : s.inFlightAt s.clock ≤ maxAgentInFlightJobs
  started : ∀ claim ∈ s.claim, claim.now ≤ s.clock ∧ s.tenant = .active
  covered : ∀ claim ∈ s.claim, s.agent.Live staleSeconds claim.now → claim.phase.Covers (s.inFlightAt claim.now)

/-- A row in flight later was in flight earlier. -/
theorem inFlightAt_anti (s : AgentQueue) {earlier later : ℤ} (le : earlier ≤ later) :
    s.inFlightAt later ≤ s.inFlightAt earlier := by
  refine List.countP_mono_left fun row _ occupied => ?_
  simp only [decide_eq_true_eq] at occupied ⊢
  exact ⟨occupied.1, Int.lt_of_le_of_lt le occupied.2⟩

/-- With every claim evidenced, the count of a live agent misses nothing. -/
theorem inFlightAt_le_countInFlight {staleSeconds now : ℤ} {s : AgentQueue}
    (evidenced : ∀ row ∈ s.rows, ClaimEvidenced row) (live : s.agent.Live staleSeconds now)
    (tenant : s.tenant = .active) : s.inFlightAt now ≤ s.countInFlight staleSeconds now := by
  unfold AgentQueue.countInFlight
  rw [if_pos ⟨live, tenant⟩]
  refine List.countP_mono_left fun row member occupied => ?_
  simp only [decide_eq_true_eq] at occupied ⊢
  exact ⟨occupied, fun stale => stale.2.1 (evidenced row member stale.1)⟩

section Steps

variable {staleSeconds : ℤ} {s : AgentQueue} {rows : List JobRow}

section

variable (within : WithinCapacity staleSeconds s)

include within

/-- A rewrite of the table that adds no job in flight and keeps the evidence keeps the ceiling. -/
theorem WithinCapacity.rewrite (evidenced : ∀ row ∈ rows, ClaimEvidenced row)
    (fewer : ∀ now, (rows.countP fun row => row.InFlight now) ≤ s.inFlightAt now) :
    WithinCapacity staleSeconds { s with rows := rows } where
  evidenced := evidenced
  bounded := (fewer s.clock).trans within.bounded
  started := within.started
  covered claim member live := (within.covered claim member live).mono (fewer claim.now)

theorem WithinCapacity.enqueue (expiresAt : ℤ) :
    WithinCapacity staleSeconds { s with rows := s.rows ++ [.enqueued s.clock expiresAt] } := by
  refine within.rewrite ?_ fun now => ?_
  · intro row member
    rcases List.mem_append.mp member with old | new
    · exact within.evidenced row old
    · rw [List.mem_singleton.mp new]
      nofun
  · rw [List.countP_append, List.countP_singleton, if_neg (by simp [JobRow.InFlight, JobRow.enqueued])]
    exact le_rfl

theorem WithinCapacity.write {op : JobOp} (noClaim : op.takesClaimLock = false) (position : ℕ)
    (stamp : Instant) :
    WithinCapacity staleSeconds { s with rows := s.rows.modify position (op.next stamp) } := by
  refine within.rewrite ?_ fun now => countP_modify_le (fun row occupied => ?_) _ _
  · exact forall_mem_modify within.evidenced
      (fun row => (op.written stamp row).claimEvidenced noClaim) position
  · simp only [decide_eq_true_eq] at occupied ⊢
    exact (op.written stamp row).inFlight noClaim occupied

theorem WithinCapacity.count {now : ℤ} (locked : s.claim = some ⟨now, .locked⟩) : WithinCapacity staleSeconds
      { s with claim := some ⟨now, .counted (s.countInFlight staleSeconds now)⟩ } := by
  obtain ⟨past, tenant⟩ := within.started _ locked
  refine ⟨within.evidenced, within.bounded, ?_, ?_⟩
  · rintro claim ⟨⟩
    exact ⟨past, tenant⟩
  · rintro claim ⟨⟩ live
    exact inFlightAt_le_countInFlight within.evidenced live tenant

theorem WithinCapacity.select {now : ℤ} {inFlight : ℕ} (counted : s.claim = some ⟨now, .counted inFlight⟩)
    (candidates : List ℕ) : WithinCapacity staleSeconds
      { s with claim := some ⟨now, .selected (AgentQueue.queuedLimit inFlight) candidates⟩ } := by
  refine ⟨within.evidenced, within.bounded, ?_, ?_⟩
  · rintro claim ⟨⟩
    exact within.started ⟨now, .counted inFlight⟩ counted
  · rintro claim ⟨⟩ live
    have covers : s.inFlightAt now ≤ inFlight := within.covered _ counted live
    by_cases full : maxAgentInFlightJobs ≤ inFlight
    · left
      simp only [AgentQueue.queuedLimit]
      omega
    · right
      change s.inFlightAt now + _ ≤ _
      simp only [AgentQueue.queuedLimit]
      omega

end

/-- The end of a claim transaction that left at most the ceiling in flight. -/
theorem WithinCapacity.claimed (evidenced : ∀ row ∈ rows, ClaimEvidenced row)
    (bounded : (rows.countP fun row => row.InFlight s.clock) ≤ maxAgentInFlightJobs) :
    WithinCapacity staleSeconds { s with rows := rows, claim := none } where
  evidenced := evidenced
  bounded := bounded
  started := nofun
  covered := nofun

section

variable (within : WithinCapacity staleSeconds s)

include within

theorem WithinCapacity.push {now : ℤ} {inFlight : ℕ} (counted : s.claim = some ⟨now, .counted inFlight⟩)
    (position : ℕ) (owner : JobOwner) (token : Token) : WithinCapacity staleSeconds
      { s with
        rows := s.rows.modify position (claimJobForDelivery ⟨now, s.clock⟩
          (s.owners staleSeconds owner) inFlight true token).next
        claim := none } := by
  refine .claimed (forall_mem_modify within.evidenced
    (fun row => claimJobForDelivery_evidenced) position) ?_
  by_cases admitted : inFlight < maxAgentInFlightJobs ∧ (s.owners staleSeconds owner).Claimable now
  · have covers : s.inFlightAt now ≤ inFlight := within.covered _ counted admitted.2.1
    have now_le : s.inFlightAt s.clock ≤ s.inFlightAt now :=
      inFlightAt_anti s (within.started _ counted).1
    have added := countP_modify_le_succ (fun row => decide (row.InFlight s.clock))
      (claimJobForDelivery ⟨now, s.clock⟩ (s.owners staleSeconds owner) inFlight true token).next
      s.rows position
    unfold AgentQueue.inFlightAt at covers now_le
    omega
  · refine (countP_modify_le (fun row occupied => ?_) _ _).trans within.bounded
    have missed : ¬ (claimJobForDelivery ⟨now, s.clock⟩ (s.owners staleSeconds owner) inFlight true
        token).guard row := fun matched => admitted ⟨matched.1, matched.2.2.2.2.2⟩
    rwa [Update.next_of_not_guard missed] at occupied

theorem WithinCapacity.claimSelected {now : ℤ} {limit : ℕ} {candidates : List ℕ}
    (selected : s.claim = some ⟨now, .selected limit candidates⟩) {picks : List Pick}
    (limited : picks.length ≤ limit) : WithinCapacity staleSeconds
      { s with
        rows := rewriteAll Pick.position (fun pick =>
          (lockClaimable ⟨now, s.clock⟩ (s.owners staleSeconds pick.owner) pick.token).next)
          picks s.rows
        claim := none } := by
  refine .claimed ?_ ?_
  · exact forall_mem_rewriteAll (P := ClaimEvidenced)
      (fun pick row evidenced => lockClaimable_evidenced evidenced) picks within.evidenced
  by_cases live : s.agent.Live staleSeconds now
  · have covers : limit = 0 ∨ s.inFlightAt now + limit ≤ maxAgentInFlightJobs :=
      within.covered _ selected live
    have now_le : s.inFlightAt s.clock ≤ s.inFlightAt now :=
      inFlightAt_anti s (within.started _ selected).1
    have bounded := within.bounded
    have added := countP_rewriteAll_le (fun row => decide (row.InFlight s.clock)) Pick.position
      (fun pick => (lockClaimable ⟨now, s.clock⟩ (s.owners staleSeconds pick.owner) pick.token).next)
      picks s.rows
    unfold AgentQueue.inFlightAt at covers now_le bounded
    omega
  · refine (countP_rewriteAll_le_of_keep (fun pick row occupied => ?_) picks s.rows).trans within.bounded
    have missed : ¬ (lockClaimable ⟨now, s.clock⟩ (s.owners staleSeconds pick.owner)
        pick.token).guard row := fun matched => live matched.1
    rwa [Update.next_of_not_guard missed] at occupied

theorem WithinCapacity.step {s' : AgentQueue} {event : QueueEvent}
    (steady : PresenceSteady staleSeconds s event) (step : (agentQueue staleSeconds).step s event = some s') :
    WithinCapacity staleSeconds s' := by
  cases event with
  | advance clock =>
    obtain ⟨forward, rfl⟩ : s.clock ≤ clock ∧ _ = s' := by
      simpa [agentQueue, AgentQueue.step] using step
    refine ⟨within.evidenced, (inFlightAt_anti s forward).trans within.bounded, ?_, within.covered⟩
    intro claim member
    obtain ⟨past, tenant⟩ := within.started claim member
    exact ⟨past.trans forward, tenant⟩
  | presence agent =>
    cases step
    refine ⟨within.evidenced, within.bounded, within.started, fun claim member live => ?_⟩
    cases phase : claim.phase with
    | locked => trivial
    | counted total =>
      exact phase ▸ within.covered claim member (steady claim member (by simp [phase]) live)
    | selected limit candidates =>
      exact phase ▸ within.covered claim member (steady claim member (by simp [phase]) live)
  | tenant lifecycle =>
    obtain ⟨idle, rfl⟩ : s.claim = none ∧ _ = s' := by
      simpa [agentQueue, AgentQueue.step] using step
    exact ⟨within.evidenced, within.bounded, by simp [idle], by simp [idle]⟩
  | enqueue expiresAt =>
    cases step
    exact within.enqueue expiresAt
  | write position now op =>
    obtain ⟨⟨noClaim, -⟩, rfl⟩ : (op.takesClaimLock = false ∧ now ≤ s.clock) ∧ _ = s' := by
      simpa [agentQueue, AgentQueue.step] using step
    exact within.write noClaim position _
  | lock now =>
    obtain ⟨⟨-, tenant, past⟩, rfl⟩ : (s.claim = none ∧ s.tenant = .active ∧ now ≤ s.clock) ∧ _ = s' := by
      simpa [agentQueue, AgentQueue.step] using step
    refine ⟨within.evidenced, within.bounded, ?_, ?_⟩
    · rintro claim ⟨⟩
      exact ⟨past, tenant⟩
    · rintro claim ⟨⟩ -
      trivial
  | count =>
    simp only [agentQueue, AgentQueue.step] at step
    split at step
    · cases step
      exact within.count ‹_›
    · cases step
  | push position owner token =>
    simp only [agentQueue, AgentQueue.step] at step
    split at step
    · cases step
      exact within.push ‹_› position owner token
    · cases step
  | select candidates =>
    simp only [agentQueue, AgentQueue.step] at step
    split at step
    · split at step
      · cases step
        exact within.select ‹_› _
      · cases step
    · cases step
  | claimSelected picks =>
    simp only [agentQueue, AgentQueue.step] at step
    split at step
    · split at step
      · rename_i allowed
        cases step
        exact within.claimSelected ‹_› allowed.1
      · cases step
    · cases step
  | finish =>
    cases step
    exact .claimed within.evidenced within.bounded

end

end Steps

/-- In a run whose claim transactions see a steady presence, the jobs of an agent that are claimed or
printing and not expired never exceed its capacity. -/
theorem agent_capacity {staleSeconds : ℤ} {s : AgentQueue}
    (reached : (agentQueue staleSeconds).Reaches (PresenceSteady staleSeconds) s) :
    s.inFlightAt s.clock ≤ maxAgentInFlightJobs := by
  have within : WithinCapacity staleSeconds s := by
    refine reached.invariant ?_ fun s event s' within steady step => within.step steady step
    rintro s ⟨empty, idle⟩
    exact ⟨by simp [empty], by simp [AgentQueue.inFlightAt, empty], by simp [idle], by simp [idle]⟩
  exact within.bounded

def sampleQueue : AgentQueue where
  clock := 0
  agent := sampleOwners.agent
  tenant := .active
  rows := []
  claim := none

def sampleOwner : JobOwner := ⟨sampleOwners.printer, true⟩

/-- One poll that claims the rows from `first` on. -/
def samplePoll (first size : ℕ) : List QueueEvent :=
  [.lock 0, .count, .select ((List.range' first size).map fun position => (position, sampleOwner)),
    .claimSelected ((List.range' first size).map fun position => ⟨position, sampleOwner, position⟩)]

/-- Of 65 jobs, three polls and four pushes fill the agent. -/
def sampleFull : List QueueEvent :=
  List.replicate 65 (.enqueue (hours 1)) ++ samplePoll 0 20 ++ samplePoll 20 20 ++ samplePoll 40 20 ++
    (List.range' 60 4).flatMap fun position => [.lock 0, .count, .push position sampleOwner position]

/-- The full agent goes offline and comes back between claims, and has no room at the next one. -/
def sampleReturn : List QueueEvent := sampleFull ++
  [.presence { sampleOwners.agent with status := .offline }, .presence sampleOwners.agent, .lock 0, .count]

theorem agent_capacity_full :
    ∃ s, (agentQueue 90).runWithin (PresenceSteady 90) sampleQueue sampleReturn = some s ∧
      s.inFlightAt s.clock = maxAgentInFlightJobs ∧ s.inFlightAt s.clock ≤ maxAgentInFlightJobs := by
  have executed : ((agentQueue 90).runWithin (PresenceSteady 90) sampleQueue sampleReturn).any
      (fun s => s.inFlightAt s.clock = maxAgentInFlightJobs) = true := by decide +kernel
  obtain ⟨s, run, full⟩ := (Option.any_eq_true _ _).mp executed
  exact ⟨s, run, of_decide_eq_true full,
    agent_capacity (System.Reaches.runWithin (s := sampleQueue) (.init ⟨rfl, rfl⟩) _ run)⟩

/-- The full agent goes offline, and its first heartbeat commits between the count and the claiming statement of
the next poll. -/
def sampleOvershoot : List QueueEvent :=
  sampleFull ++ [.presence { sampleOwners.agent with status := .offline }, .lock 0, .count,
      .presence sampleOwners.agent, .select [(64, sampleOwner)], .claimSelected [⟨64, sampleOwner, 64⟩]]

theorem agent_capacity_overshoot : ∃ s, (agentQueue 90).Reachable s ∧ s.inFlightAt s.clock = 65 := by
  have executed : ((agentQueue 90).run sampleQueue sampleOvershoot).any
      (fun s => s.inFlightAt s.clock = 65) = true := by decide +kernel
  obtain ⟨s, run, overshoot⟩ := (Option.any_eq_true _ _).mp executed
  exact ⟨s, System.Reaches.run (s := sampleQueue) (.init ⟨rfl, rfl⟩) sampleOvershoot run, of_decide_eq_true overshoot⟩

end PrintGateway.Gateway
