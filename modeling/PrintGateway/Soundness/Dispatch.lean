import PrintGateway.Model.Agent.Dispatch

/-!
# Deliveries the Agent drops

A delivery of a job that is in the in-flight map is ignored.  The map holds the jobs that execute, but
also those whose call has no pending slot yet and the one the hand-back sweep talks to the Gateway
about: a delivery of the latter is dropped although nothing executes.  A hand-back and a terminal
re-report are given up when their session has ended or their queue is full.  When none of this is the
case where a call looks, it drops a delivery only while an execution of its job runs.
-/

namespace PrintGateway.Agent

open Machine Text Gateway

/-! ### Who holds a job in the in-flight map -/

/-- The job a call keeps in the in-flight map. -/
def DispatchCall.held : DispatchCall → Option Text
  | .reserved delivery | .overflowing delivery => some delivery.id
  | .entered _ | .rejecting .. | .reReporting .. | .returned .. => none

namespace Dispatcher

/-- An execution of the job runs. -/
def Running (s : Dispatcher) (id : Text) : Prop :=
  ∃ execution ∈ s.executions, execution.phase = .running ∧ execution.delivery.id = id

/-- A call has the job reserved and has not started its execution. -/
def Reserving (s : Dispatcher) (id : Text) : Prop := ∃ call ∈ s.calls, call.held = some id

/-- The hand-back sweep has the job reserved. -/
def SweepHolds (s : Dispatcher) (id : Text) : Prop := ∃ sweep ∈ s.sweep, sweep.current = some id

instance (s : Dispatcher) (id : Text) : Decidable (s.Running id) :=
  inferInstanceAs (Decidable (∃ execution ∈ s.executions, _))

instance (s : Dispatcher) (id : Text) : Decidable (s.Reserving id) :=
  inferInstanceAs (Decidable (∃ call ∈ s.calls, _))

instance (s : Dispatcher) (id : Text) : Decidable (s.SweepHolds id) :=
  inferInstanceAs (Decidable (∃ sweep ∈ s.sweep, _))

/-- Someone answers for the job. -/
def Holds (s : Dispatcher) (id : Text) : Prop := s.Running id ∨ s.Reserving id ∨ s.SweepHolds id

/-- Every job in the in-flight map is held, and every remembered result names a claim. -/
structure Accounted (s : Dispatcher) : Prop where
  held : ∀ id ∈ s.inFlight, s.Holds id
  remembered : ∀ id result, s.terminalExecution.find? id = some result → result.claimToken ≠ []
  reReported : ∀ delivery result, .reReporting delivery result ∈ s.calls → result.claimToken ≠ []

end Dispatcher

section Sets

variable {α : Type*}

theorem mem_set_of_ne {rows : List α} {index : ℕ} {row old new : α} (member : row ∈ rows)
    (stored : rows[index]? = some old) (other : row ≠ old) : row ∈ rows.set index new := by
  obtain ⟨place, found⟩ := List.mem_iff_getElem?.mp member
  have apart : index ≠ place := by
    rintro rfl
    exact other (Option.some.inj (found.symm.trans stored))
  exact List.mem_iff_getElem?.mpr ⟨place, (List.getElem?_set_ne apart).trans found⟩

end Sets

namespace Dispatcher

variable {s s' : Dispatcher} {call : ℕ} {state : DispatchCall} {id : Text} {delivery : Delivery}
  {sessionFirst : Bool} {stored : Execution} {sweep : HandBackSweep} {event : DispatchEvent}

/-- Only the call itself can let its reservation go. -/
theorem Reserving.setCall (reserving : s.Reserving id) (stored : s.calls[call]? = some state)
    (kept : state.held ≠ some id) (next : DispatchCall) : (s.setCall call next).Reserving id := by
  obtain ⟨holder, member, holds⟩ := reserving
  refine ⟨holder, mem_set_of_ne member stored ?_, holds⟩
  rintro rfl
  exact kept holds

theorem Holds.setCall (holds : s.Holds id) (stored : s.calls[call]? = some state)
    (kept : state.held ≠ some id) (next : DispatchCall) : (s.setCall call next).Holds id :=
  holds.imp_right fun rest => rest.imp_left fun reserving => reserving.setCall stored kept next

section

variable (accounted : s.Accounted)

include accounted

/-- A call moves on; who holds the jobs of the map then is left to be shown. -/
theorem Accounted.of_set {next : DispatchCall} (calls : s'.calls = s.calls.set call next)
    (remembered : s'.terminalExecution = s.terminalExecution)
    (named : ∀ delivery result, next = .reReporting delivery result → result.claimToken ≠ [])
    (held : ∀ id ∈ s'.inFlight, s'.Holds id) : s'.Accounted where
  held := held
  remembered := by simpa only [remembered] using accounted.remembered
  reReported delivery result member := by
    rcases List.mem_or_eq_of_mem_set (calls ▸ member) with old | new
    · exact accounted.reReported delivery result old
    · exact named delivery result new.symm

/-- A call that holds nothing moves on. -/
theorem Accounted.setCall (stored : s.calls[call]? = some state) (free : state.held = none)
    (next : DispatchCall)
    (named : ∀ delivery result, next = .reReporting delivery result → result.claimToken ≠ []) :
    (s.setCall call next).Accounted :=
  accounted.of_set rfl rfl named fun id member =>
    (accounted.held id member).setCall stored (by simp [free]) next

/-- What a step leaves alone: the map, the calls, the executions, the sweep and what is remembered. -/
theorem Accounted.of_eq (inFlight : s'.inFlight = s.inFlight) (calls : s'.calls = s.calls)
    (executions : s'.executions = s.executions) (sweep : s'.sweep = s.sweep)
    (remembered : s'.terminalExecution = s.terminalExecution) : s'.Accounted where
  held id member := by
    have holds := accounted.held id (inFlight ▸ member)
    simpa only [Holds, Running, Reserving, SweepHolds, calls, executions, sweep] using holds
  remembered := by simpa only [remembered] using accounted.remembered
  reReported := by simpa only [calls] using accounted.reReported

theorem enqueueReject_accounted (session : ℕ) (work : RejectWork) (sessionFirst : Bool) :
    (s.enqueueReject session work sessionFirst).1.Accounted ∧
      (s.enqueueReject session work sessionFirst).1.calls = s.calls := by
  unfold enqueueReject
  dsimp only
  split_ifs
  all_goals exact ⟨accounted.of_eq rfl rfl rfl rfl rfl, rfl⟩

theorem enqueueTerminalReReport_accounted (session : ℕ) (work : TerminalReportWork) :
    (s.enqueueTerminalReReport session work).1.Accounted ∧
      (s.enqueueTerminalReReport session work).1.calls = s.calls := by
  unfold enqueueTerminalReReport
  split_ifs
  all_goals exact ⟨accounted.of_eq rfl rfl rfl rfl rfl, rfl⟩

end

/-- The holder of a job that is forgotten has let it go. -/
theorem mem_forgetJob {other : Text} (member : id ∈ (s.forgetJob other).inFlight) :
    id ≠ other ∧ id ∈ s.inFlight := Finset.mem_erase.mp member

section

variable (accounted : s.Accounted)

include accounted

/-- The critical section of a call. -/
theorem enter_accounted (stored : s.calls[call]? = some (.entered delivery)) :
    ((s.enter delivery).1.setCall call (s.enter delivery).2).Accounted := by
  have free : (DispatchCall.entered delivery).held = none := rfl
  unfold enter
  split
  · exact accounted.setCall stored free _ (by simp)
  split
  · exact accounted.setCall stored free _ (by simp)
  split
  case h_1 result found =>
    refine accounted.setCall stored free _ ?_
    rintro _ _ ⟨⟩
    exact accounted.remembered _ _ found
  case h_2 absent =>
    split
    · exact accounted.setCall stored free _ (by simp)
    split
    · exact accounted.setCall stored free _ (by simp)
    -- the delivery is accepted: its own call is the holder
    have bound : call < s.calls.length := (List.getElem?_eq_some_iff.mp stored).1
    refine accounted.of_set rfl rfl (by simp) fun id member => ?_
    rcases Finset.mem_insert.mp member with rfl | old
    · exact .inr (.inl ⟨.reserved delivery, List.mem_set bound _, rfl⟩)
    · exact (accounted.held id old).setCall stored (by simp [free]) _

/-- A call that holds its job either starts an execution of it or forgets it. -/
theorem advance_accounted (stored : s.calls[call]? = some state)
    (moved : s.advance call sessionFirst state = some s') : s'.Accounted := by
  cases state with
  | entered delivery =>
    cases moved
    exact enter_accounted accounted stored
  | rejecting delivery reason =>
    cases moved
    obtain ⟨queued, calls⟩ := enqueueReject_accounted accounted delivery.session
      ⟨delivery.id, delivery.claimToken, reason⟩ sessionFirst
    exact queued.setCall (calls ▸ stored) rfl _ (by simp)
  | reReporting delivery result =>
    cases moved
    obtain ⟨queued, calls⟩ :=
      enqueueTerminalReReport_accounted accounted delivery.session ⟨delivery.id, result⟩
    exact queued.setCall (calls ▸ stored) rfl _ (by simp)
  | reserved delivery =>
    have bound : call < s.calls.length := (List.getElem?_eq_some_iff.mp stored).1
    have kept {id : Text} (member : id ∈ s.inFlight) (other : id ≠ delivery.id) (next : DispatchCall) :
        (s.setCall call next).Holds id :=
      (accounted.held id member).setCall stored (by simpa [DispatchCall.held] using Ne.symm other) next
    unfold advance at moved
    split_ifs at moved
    · cases moved
      refine accounted.of_set rfl rfl (by simp) fun id member => ?_
      by_cases same : id = delivery.id
      · exact .inl ⟨⟨delivery, .running⟩, by simp, rfl, same.symm⟩
      · rcases kept member same (.returned delivery .executing) with ⟨execution, stays, runs⟩ | rest
        · exact .inl ⟨execution, List.mem_append_left _ stays, runs⟩
        · exact .inr rest
    · cases moved
      refine accounted.of_set rfl rfl (by simp) fun id member => ?_
      by_cases same : id = delivery.id
      · exact .inr (.inl ⟨.overflowing delivery, List.mem_set bound _, by rw [same]; rfl⟩)
      · exact kept member same _
  | overflowing delivery =>
    cases moved
    refine accounted.of_set rfl rfl (by simp) fun id member => ?_
    obtain ⟨other, inFlight⟩ := mem_forgetJob member
    exact (accounted.held id inFlight).setCall (s := s.forgetJob delivery.id) stored
      (by simpa [DispatchCall.held] using Ne.symm other) _
  | returned delivery outcome => cases moved

/-- An execution forgets its job before it gives its slot back. -/
theorem executionStep_accounted {execution : ℕ} (found : s.executions[execution]? = some stored)
    (moved : s.executionStep execution stored = some s') : s'.Accounted := by
  obtain ⟨delivery, phase⟩ := stored
  -- the other executions run on
  have kept {id : Text} (member : id ∈ s.inFlight)
      (apart : phase = .running → id ≠ delivery.id) (next : ExecutionPhase) :
      (s.setPhase execution delivery next).Holds id := by
    rcases accounted.held id member with ⟨other, stays, runs, named⟩ | rest
    · refine .inl ⟨other, mem_set_of_ne stays found ?_, runs, named⟩
      rintro rfl
      exact apart runs named.symm
    · exact .inr rest
  cases phase with
  | running =>
    cases moved
    refine ⟨fun id member => ?_, accounted.remembered, accounted.reReported⟩
    obtain ⟨other, inFlight⟩ := mem_forgetJob member
    exact kept inFlight (fun _ => other) .forgotten
  | forgotten =>
    cases moved
    exact ⟨fun id member => kept member (by simp) .ended, accounted.remembered, accounted.reReported⟩
  | ended => cases moved

theorem remember_accounted {status : LedgerStatus} {errMsg spoolerJobId : Text}
    (moved : s.remember status errMsg spoolerJobId stored = some s') : s'.Accounted := by
  unfold remember at moved
  split at moved
  case h_2 => cases moved
  case h_1 delivery =>
    cases moved
    refine ⟨accounted.held, fun id result found => ?_, accounted.reReported⟩
    by_cases same : id = delivery.id
    · rw [same, Keyed.find?_put_self] at found
      exact Option.some.inj found ▸ delivery.tokenPresent
    · exact accounted.remembered id result ((Keyed.find?_put_of_ne _ _ same).symm.trans found)

/-- A sweep that holds nothing is not what keeps a job in the map. -/
theorem Accounted.held_elsewhere (free : ∀ sweep ∈ s.sweep, sweep.current = none) (member : id ∈ s.inFlight) :
    s.Running id ∨ s.Reserving id := by
  rcases accounted.held id member with running | reserving | ⟨sweep, present, current⟩
  · exact .inl running
  · exact .inr reserving
  · cases (free sweep present).symm.trans current

theorem Accounted.setSweep (free : ∀ sweep ∈ s.sweep, sweep.current = none) (next : Option HandBackSweep) :
    ({ s with sweep := next } : Dispatcher).Accounted :=
  ⟨fun _ member => (accounted.held_elsewhere free member).imp_right .inl, accounted.remembered, accounted.reReported⟩

/-- The sweep answers for the job it puts into the map, until it takes it out. -/
theorem sweepNext_accounted (found : s.sweep = some sweep) (moved : s.sweepNext sweep = some s') : s'.Accounted := by
  obtain ⟨items, attempted, current⟩ := sweep
  cases current with
  | some id => simp [sweepNext] at moved
  | none =>
    have free : ∀ sweep ∈ s.sweep, sweep.current = none := by
      rintro sweep present
      cases found.symm.trans present
      rfl
    cases items with
    | nil => exact Option.some.inj moved ▸ accounted.setSweep free _
    | cons item items =>
      dsimp only [sweepNext] at moved
      split_ifs at moved
      · exact Option.some.inj moved ▸ accounted.setSweep free _
      · exact Option.some.inj moved ▸ accounted.setSweep free _
      · cases moved
        refine ⟨fun id member => ?_, accounted.remembered, accounted.reReported⟩
        rcases Finset.mem_insert.mp member with rfl | old
        · exact .inr (.inr ⟨_, rfl, rfl⟩)
        · exact (accounted.held_elsewhere free old).imp_right .inl

theorem sweepRelease_accounted (found : s.sweep = some sweep) (moved : s.sweepRelease sweep = some s') :
    s'.Accounted := by
  unfold sweepRelease at moved
  split at moved
  case h_2 => cases moved
  case h_1 items attempted id =>
    cases moved
    refine ⟨fun other member => ?_, accounted.remembered, accounted.reReported⟩
    obtain ⟨apart, inFlight⟩ := Finset.mem_erase.mp member
    rcases accounted.held other inFlight with running | reserving | ⟨_, held, current⟩
    · exact .inl running
    · exact .inr (.inl reserving)
    · cases found.symm.trans held
      exact absurd (Option.some.inj current).symm apart

/-- Every section of every party keeps the account. -/
theorem step_accounted (moved : s.step event = some s') : s'.Accounted := by
  cases event with
  | deliver delivery =>
    cases moved
    refine ⟨fun id member => ?_, accounted.remembered, fun other result member => ?_⟩
    · refine (accounted.held id member).imp_right fun rest => rest.imp_left ?_
      rintro ⟨holder, stays, holds⟩
      exact ⟨holder, List.mem_append_left _ stays, holds⟩
    · exact accounted.reReported other result (by simpa using member)
  | advance call sessionFirst =>
    obtain ⟨state, stored, moved⟩ := Option.bind_eq_some_iff.mp moved
    exact advance_accounted accounted stored moved
  | remember execution status errMsg spoolerJobId =>
    obtain ⟨stored, -, moved⟩ := Option.bind_eq_some_iff.mp moved
    exact remember_accounted accounted moved
  | unwind execution =>
    obtain ⟨stored, found, moved⟩ := Option.bind_eq_some_iff.mp moved
    exact executionStep_accounted accounted found moved
  | sweepStart items =>
    obtain ⟨⟨idle, -⟩, moved⟩ := Option.ite_none_right_eq_some.mp moved
    exact Option.some.inj moved ▸ accounted.setSweep (by simp [Option.isNone_iff_eq_none.mp idle]) _
  | sweepNext =>
    obtain ⟨sweep, found, moved⟩ := Option.bind_eq_some_iff.mp moved
    exact sweepNext_accounted accounted found moved
  | sweepRelease =>
    obtain ⟨sweep, found, moved⟩ := Option.bind_eq_some_iff.mp moved
    exact sweepRelease_accounted accounted found moved
  | sweepStop =>
    obtain ⟨idle, moved⟩ := Option.ite_none_right_eq_some.mp moved
    refine Option.some.inj moved ▸ accounted.setSweep (fun sweep present => ?_) _
    exact Option.isNone_iff_eq_none.mp (by simpa [Option.mem_def.mp present] using idle)
  | takeReject | finishReject work | takeTerminalReport | finishTerminalReport work =>
    obtain ⟨_, -, rfl⟩ := Option.map_eq_some_iff.mp moved
    exact accounted.of_eq rfl rfl rfl rfl rfl
  | shutdown | fence on | endSession session =>
    cases moved
    exact accounted.of_eq rfl rfl rfl rfl rfl

end

theorem started_accounted : started.Accounted where
  held _ member := absurd member (Finset.notMem_empty _)
  remembered _ _ found := nomatch found
  reReported _ _ member := absurd member List.not_mem_nil

/-- In every interleaving someone answers for every job in the in-flight map. -/
theorem accounted_of_reaches {Allowed : Dispatcher → DispatchEvent → Prop}
    (reached : dispatcher.Reaches Allowed s) : s.Accounted :=
  reached.invariant (fun _ start => start ▸ started_accounted)
    fun _ _ _ accounted _ step => step_accounted accounted step

/-! ### Dropped deliveries -/

/-- The step ends a call for the delivery with nothing executed, handed back or re-reported. -/
def Discards (s s' : Dispatcher) (delivery : Delivery) : Prop :=
  ∃ call : ℕ, s.calls[call]? ≠ some (.returned delivery .discarded) ∧
    s'.calls[call]? = some (.returned delivery .discarded)

/-- Nothing but an execution is in the way of a call: neither the sweep nor another call has its job
reserved, and what it queues it finds queued already, or its session is alive and there is room. -/
def Clear (s : Dispatcher) : DispatchCall → Prop
  | .entered delivery => ¬ s.SweepHolds delivery.id ∧ ¬ s.Reserving delivery.id
  | .rejecting delivery reason =>
    RejectWork.key ⟨delivery.id, delivery.claimToken, reason⟩ ∈ s.rejects.pending ∨
      delivery.session ∉ s.endedSessions ∧ s.rejects.queued.length < maxRejectQueue
  | .reReporting delivery result =>
    delivery.session ∉ s.endedSessions ∧ (TerminalReportWork.key ⟨delivery.id, result⟩ ∈ s.terminalReports.pending ∨
        s.terminalReports.queued.length < maxTerminalReportQueue)
  | .reserved _ | .overflowing _ | .returned _ _ => True

/-- A step of a call is taken while its way is clear. -/
def ClearStep (s : Dispatcher) : DispatchEvent → Prop
  | .advance call _ => ∀ state ∈ s.calls[call]?, s.Clear state
  | _ => True

instance (s : Dispatcher) (state : DispatchCall) : Decidable (s.Clear state) := by
  cases state <;> unfold Clear <;> infer_instance

instance (s : Dispatcher) (event : DispatchEvent) : Decidable (s.ClearStep event) := by
  cases event <;> unfold ClearStep <;> infer_instance

theorem enqueueReject_queued {reason : RequeueReason} (clear : s.Clear (.rejecting delivery reason)) :
    (s.enqueueReject delivery.session ⟨delivery.id, delivery.claimToken, reason⟩ sessionFirst).2 = true := by
  unfold enqueueReject
  rw [if_neg delivery.idPresent]
  split
  · rfl
  case isFalse fresh =>
    obtain ⟨alive, room⟩ := clear.resolve_left fresh
    dsimp only
    rw [if_pos ⟨room, fun ended => alive ended.1⟩]

theorem enqueueTerminalReReport_queued {result : TerminalResult}
    (clear : s.Clear (.reReporting delivery result)) (named : result.claimToken ≠ []) :
    (s.enqueueTerminalReReport delivery.session ⟨delivery.id, result⟩).2 = true := by
  obtain ⟨alive, room⟩ := clear
  unfold enqueueTerminalReReport
  rw [if_neg (by simp [alive, delivery.idPresent, named])]
  split
  · rfl
  case isFalse fresh => rw [if_pos (room.resolve_left fresh)]

/-- The critical section drops a delivery for one reason. -/
theorem mem_inFlight_of_enter {other : Delivery}
    (dropped : (s.enter delivery).2 = .returned other .discarded) :
    other = delivery ∧ delivery.id ∈ s.inFlight := by
  unfold enter at dropped
  split at dropped
  · cases dropped
  split at dropped
  · cases dropped
  split at dropped
  · cases dropped
  split at dropped
  case isTrue inFlight =>
    cases dropped
    exact ⟨rfl, inFlight⟩
  split at dropped
  · cases dropped
  · cases dropped

theorem enter_calls (s : Dispatcher) (delivery : Delivery) : (s.enter delivery).1.calls = s.calls := by
  unfold enter
  split
  · rfl
  split
  · rfl
  split
  · rfl
  split_ifs <;> rfl

/-- A section of a clear call moves that call alone, and drops its delivery only if it is the critical
one and finds the job in the map. -/
theorem advance_clear (accounted : s.Accounted) (stored : s.calls[call]? = some state)
    (clear : s.Clear state) (moved : s.advance call sessionFirst state = some s') :
    ∃ next, s'.calls = s.calls.set call next ∧ ∀ delivery, next = .returned delivery .discarded →
      state = .entered delivery ∧ delivery.id ∈ s.inFlight := by
  cases state with
  | entered delivery =>
    cases moved
    refine ⟨(s.enter delivery).2, by rw [setCall, enter_calls], fun other dropped => ?_⟩
    obtain ⟨rfl, inFlight⟩ := mem_inFlight_of_enter dropped
    exact ⟨rfl, inFlight⟩
  | rejecting delivery reason =>
    cases moved
    have calls := (enqueueReject_accounted accounted delivery.session
      ⟨delivery.id, delivery.claimToken, reason⟩ sessionFirst).2
    refine ⟨.returned delivery .handedBack, ?_, by simp⟩
    rw [enqueueReject_queued clear, if_pos rfl, setCall, calls]
  | reReporting delivery result =>
    cases moved
    have calls :=
      (enqueueTerminalReReport_accounted accounted delivery.session ⟨delivery.id, result⟩).2
    have named := accounted.reReported delivery result (List.mem_of_getElem? stored)
    refine ⟨.returned delivery .reReported, ?_, by simp⟩
    rw [enqueueTerminalReReport_queued clear named, if_pos rfl, setCall, calls]
  | reserved delivery =>
    unfold advance at moved
    split_ifs at moved
    · cases moved
      exact ⟨.returned delivery .executing, rfl, by simp⟩
    · cases moved
      exact ⟨.overflowing delivery, rfl, by simp⟩
  | overflowing delivery =>
    cases moved
    exact ⟨.rejecting delivery .pendingFull, rfl, by simp⟩
  | returned delivery outcome => cases moved

/-- Only a section of a call changes what became of a delivery. -/
theorem Discards.advance (dropped : Discards s s' delivery) (moved : s.step event = some s') :
    ∃ call sessionFirst, event = .advance call sessionFirst := by
  obtain ⟨place, new, dropped⟩ := dropped
  by_contra other
  have appended : s'.calls = s.calls ∨ ∃ arrived, s'.calls = s.calls ++ [.entered arrived] := by
    cases event with
    | advance call sessionFirst => exact absurd ⟨call, sessionFirst, rfl⟩ other
    | deliver arrived => exact .inr ⟨arrived, (Option.some.inj moved).symm ▸ rfl⟩
    | remember execution status errMsg spoolerJobId =>
      obtain ⟨⟨delivery, phase⟩, -, moved⟩ := Option.bind_eq_some_iff.mp moved
      cases phase <;> cases moved
      exact .inl rfl
    | unwind execution =>
      obtain ⟨⟨delivery, phase⟩, -, moved⟩ := Option.bind_eq_some_iff.mp moved
      cases phase <;> cases moved
      all_goals exact .inl rfl
    | sweepNext =>
      obtain ⟨⟨items, attempted, current⟩, -, moved⟩ := Option.bind_eq_some_iff.mp moved
      unfold sweepNext at moved
      split at moved
      · exact .inl (Option.some.inj moved ▸ rfl)
      · split_ifs at moved
        all_goals exact .inl (Option.some.inj moved ▸ rfl)
      · cases moved
    | sweepRelease =>
      obtain ⟨⟨items, attempted, current⟩, -, moved⟩ := Option.bind_eq_some_iff.mp moved
      cases current <;> cases moved
      exact .inl rfl
    | sweepStart items | sweepStop =>
      obtain ⟨-, moved⟩ := Option.ite_none_right_eq_some.mp moved
      exact .inl (Option.some.inj moved ▸ rfl)
    | takeReject | finishReject work | takeTerminalReport | finishTerminalReport work =>
      obtain ⟨_, -, rfl⟩ := Option.map_eq_some_iff.mp moved
      exact .inl rfl
    | shutdown | fence on | endSession session => exact .inl (Option.some.inj moved ▸ rfl)
  rcases appended with same | ⟨arrived, appended⟩
  · exact new (same ▸ dropped)
  · rw [appended, List.getElem?_append] at dropped
    split at dropped
    · exact new dropped
    · obtain ⟨_, entered⟩ := List.getElem?_eq_some_iff.mp dropped
      simp at entered

/-- In every run whose calls are clear where they look, a delivery is dropped only while an execution
of its job runs. -/
theorem dispatchJobWithContexts_discards_while_running {s s' : Dispatcher} {event : DispatchEvent}
    {delivery : Delivery} (reached : dispatcher.Reaches ClearStep s) (clear : s.ClearStep event)
    (moved : dispatcher.step s event = some s') (dropped : Discards s s' delivery) :
    s.Running delivery.id := by
  have accounted := accounted_of_reaches reached
  obtain ⟨call, sessionFirst, rfl⟩ := dropped.advance moved
  obtain ⟨state, stored, moved⟩ := Option.bind_eq_some_iff.mp moved
  have unobstructed := clear state stored
  obtain ⟨next, calls, cause⟩ := advance_clear accounted stored unobstructed moved
  obtain ⟨place, new, dropped⟩ := dropped
  rw [calls, List.getElem?_set] at dropped
  split_ifs at dropped with same bound
  · obtain ⟨rfl, inFlight⟩ := cause delivery (Option.some.inj dropped)
    rcases accounted.held _ inFlight with running | reserving | sweeping
    · exact running
    · exact absurd reserving unobstructed.2
    · exact absurd sweeping unobstructed.1
  · exact absurd dropped new

/-- A second delivery of a job, with the claim the Gateway made after the first one was lost. -/
def redelivery : Delivery := ⟨"job", "kitchen", "second", 0, by decide, by decide⟩

/-- The job was accepted and its execution has begun; a duplicate is at the critical section. -/
def duplicateDuringExecution : List DispatchEvent :=
  [.deliver redelivery, .advance 0 false, .advance 0 false, .deliver redelivery]

theorem dispatchJobWithContexts_discards_while_running_duplicate :
    ∃ s s', dispatcher.Reaches ClearStep s ∧ dispatcher.step s (.advance 1 false) = some s' ∧
      Discards s s' redelivery ∧ s.Running redelivery.id := by
  let s := (dispatcher.runWithin ClearStep started duplicateDuringExecution).get (by decide +kernel)
  have reached : dispatcher.Reaches ClearStep s :=
    .runWithin (.init rfl) duplicateDuringExecution (Option.some_get _).symm
  let s' := (dispatcher.step s (.advance 1 false)).get (by decide +kernel)
  have moved : dispatcher.step s (.advance 1 false) = some s' := (Option.some_get _).symm
  have dropped : Discards s s' redelivery := ⟨1, by decide +kernel, by decide +kernel⟩
  exact ⟨s, s', reached, moved, dropped,
    dispatchJobWithContexts_discards_while_running reached (by decide +kernel) moved dropped⟩

/-- After a restart the sweep hands the first claim back and waits for the Gateway; the job comes
again under its second claim. -/
def deliveryDuringSweep : List DispatchEvent :=
  [.sweepStart [⟨"job", "first"⟩], .sweepNext, .deliver redelivery]

/-- The second claim is dropped, and nothing executes at all. -/
theorem exists_discarded_by_sweep : ∃ s s', dispatcher.Reachable s ∧ dispatcher.step s (.advance 0 false) = some s' ∧
      Discards s s' redelivery ∧ s.executions = [] := by
  let s := (dispatcher.run started deliveryDuringSweep).get (by decide +kernel)
  have reached : dispatcher.Reachable s :=
    .run (.init rfl) deliveryDuringSweep (Option.some_get _).symm
  let s' := (dispatcher.step s (.advance 0 false)).get (by decide +kernel)
  have moved : dispatcher.step s (.advance 0 false) = some s' := (Option.some_get _).symm
  exact ⟨s, s', reached, moved, ⟨0, by decide +kernel, by decide +kernel⟩, by decide +kernel⟩

end Dispatcher

end PrintGateway.Agent
