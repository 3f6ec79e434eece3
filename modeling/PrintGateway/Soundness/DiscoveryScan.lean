import PrintGateway.Model.Agent.DiscoveryScan

/-!
# Who may scan

A scan has the right to receive from the semaphore once: its caller has it, or the waiter the caller
handed it to.  As long as one of them has it, the token in the channel is the scan's own, so no
receive blocks or takes the token of another scan, whatever the watchdogs do.

A session whose bound is over hands the slot to a waiter and so keeps it until its worker is back.
The startup scan does so only if no progress was published; otherwise it releases the slot while its
worker goes on scanning.  Without such a startup scan, at most one worker scans until a watchdog
fires.
-/

namespace PrintGateway.Agent

open Machine

namespace Scan

variable {slot slot' : ScanSlot} {scan scan' : Scan} {index : ℕ} {event : ScanEvent}

/-- What a step of a scan does. -/
inductive Moves (slot : ScanSlot) (scan : Scan) : ScanEvent → ScanSlot → Scan → Prop
  | lookup {found : Bool} (phase : scan.caller = .lookingUp) :
    Moves slot scan (.lookup found) slot { scan with caller := if found then .ready else .releasing }
  | start (phase : scan.caller = .ready) :
    Moves slot scan .start slot { scan with caller := .scanning, worker := .scanning }
  | receiveResult (phase : scan.caller = .scanning)
      (back : scan.worker = .returned ∨ scan.worker = .finished) :
    Moves slot scan .receiveResult slot { scan with caller := .completed false }
  | expire (phase : scan.caller = .scanning) : Moves slot scan .expire slot
      { scan with caller := if scan.published then .completed true else .handingOver }
  | conclude {truncated : Bool} (phase : scan.caller = .completed truncated) : Moves slot scan .proceed slot
      { scan with
        caller := if truncated ∧ scan.kind ≠ .startup then .handingOver else .releasing }
  | handOver (phase : scan.caller = .handingOver) :
    Moves slot scan .proceed { slot with discoveryGen := slot.discoveryGen + 1 }
      { scan with caller := .done, waiter := .waiting (slot.discoveryGen + 1) }
  | release (phase : scan.caller = .releasing) (token : slot.discoverySem.isSome) :
    Moves slot scan .proceed { slot with discoverySem := none } { scan with caller := .done }
  | publish (phase : scan.worker = .scanning) : Moves slot scan .publish slot { scan with published := true }
  | sendResult (phase : scan.worker = .scanning) : Moves slot scan .sendResult slot { scan with worker := .returned }
  | closeFinished (phase : scan.worker = .returned) :
    Moves slot scan .closeFinished slot { scan with worker := .finished }
  | observeFinished {generation : UInt64} (waiting : scan.waiter = .waiting generation)
      (finished : scan.worker = .finished) :
    Moves slot scan .observeFinished (scan.awake slot generation false).1
      (scan.awake slot generation false).2
  | watchdog {generation : UInt64} (waiting : scan.waiter = .waiting generation) :
    Moves slot scan .watchdog (scan.awake slot generation true).1 (scan.awake slot generation true).2
  | releaseWaiter (phase : scan.waiter = .releasing) (token : slot.discoverySem.isSome) :
    Moves slot scan .releaseWaiter { slot with discoverySem := none } { scan with waiter := .done }

theorem Moves.congr {next : ScanSlot × Scan} (moves : Moves slot scan event next.1 next.2)
    (equal : next = (slot', scan')) : Moves slot scan event slot' scan' := by
  subst equal
  exact moves

theorem moves_of_proceed (moved : scan.proceed slot = some (slot', scan')) :
    Moves slot scan .proceed slot' scan' := by
  unfold Scan.proceed at moved
  split at moved
  case h_1 phase => exact (Moves.conclude phase).congr (Option.some.inj moved)
  case h_2 phase => exact (Moves.handOver phase).congr (Option.some.inj moved)
  case h_3 phase =>
    obtain ⟨freed, received, moved⟩ := Option.map_eq_some_iff.mp moved
    obtain ⟨token, received⟩ := Option.ite_none_right_eq_some.mp received
    cases received
    cases moved
    exact .release phase token
  all_goals cases moved

theorem moves_of_step (moved : scan.step slot event = some (slot', scan')) : Moves slot scan event slot' scan' := by
  cases event with
  | lookup found =>
    obtain ⟨phase, moved⟩ := Option.ite_none_right_eq_some.mp moved
    exact (Moves.lookup phase).congr (Option.some.inj moved)
  | start =>
    obtain ⟨phase, moved⟩ := Option.ite_none_right_eq_some.mp moved
    exact (Moves.start phase).congr (Option.some.inj moved)
  | receiveResult =>
    obtain ⟨⟨phase, back⟩, moved⟩ := Option.ite_none_right_eq_some.mp moved
    exact (Moves.receiveResult phase back).congr (Option.some.inj moved)
  | expire =>
    obtain ⟨phase, moved⟩ := Option.ite_none_right_eq_some.mp moved
    exact (Moves.expire phase).congr (Option.some.inj moved)
  | proceed => exact moves_of_proceed moved
  | publish =>
    obtain ⟨phase, moved⟩ := Option.ite_none_right_eq_some.mp moved
    exact (Moves.publish phase).congr (Option.some.inj moved)
  | sendResult =>
    obtain ⟨phase, moved⟩ := Option.ite_none_right_eq_some.mp moved
    exact (Moves.sendResult phase).congr (Option.some.inj moved)
  | closeFinished =>
    obtain ⟨phase, moved⟩ := Option.ite_none_right_eq_some.mp moved
    exact (Moves.closeFinished phase).congr (Option.some.inj moved)
  | observeFinished =>
    dsimp only [Scan.step] at moved
    split at moved
    case h_1 waiting finished =>
      exact (Moves.observeFinished waiting finished).congr (Option.some.inj moved)
    case h_2 => cases moved
  | watchdog =>
    dsimp only [Scan.step] at moved
    split at moved
    case h_1 waiting => exact (Moves.watchdog waiting).congr (Option.some.inj moved)
    case h_2 => cases moved
  | releaseWaiter =>
    obtain ⟨phase, moved⟩ := Option.ite_none_right_eq_some.mp moved
    obtain ⟨freed, received, moved⟩ := Option.map_eq_some_iff.mp moved
    obtain ⟨token, received⟩ := Option.ite_none_right_eq_some.mp received
    cases received
    cases moved
    exact .releaseWaiter phase token

/-! ### The right to receive -/

/-- Someone of the scan is going to receive from the semaphore. -/
def Holds (scan : Scan) : Prop :=
  scan.caller ≠ .done ∨ (∃ generation, scan.waiter = .waiting generation) ∨ scan.waiter = .releasing

/-- Someone of the scan is at its receive. -/
def Releasing (scan : Scan) : Prop := scan.caller = .releasing ∨ scan.waiter = .releasing

/-- The right of a scan is in order: the token in the channel is its own, it is not with the caller and
the waiter at once, and the generation is still the one the waiter remembers. -/
structure Owned (slot : ScanSlot) (index : ℕ) (scan : Scan) : Prop where
  token : scan.Holds → slot.discoverySem = some index
  single : scan.caller ≠ .done → scan.waiter = .absent
  generation : ∀ generation, scan.waiter = .waiting generation → slot.discoveryGen = generation

theorem Releasing.holds (releasing : scan.Releasing) : scan.Holds := by
  rcases releasing with phase | phase
  · exact .inl (by simp [phase])
  · exact .inr (.inr phase)

section

variable (owned : Owned slot index scan)

include owned

/-- The caller goes on and keeps its right. -/
theorem Owned.setCaller (active : scan.caller ≠ .done) (next : CallerPhase) (worker : WorkerPhase) :
    Owned slot index { scan with caller := next, worker } where
  token _ := owned.token (.inl active)
  single _ := owned.single active
  generation generation waiting := by
    rw [owned.single active] at waiting
    cases waiting

theorem Owned.caller_done (present : scan.waiter ≠ .absent) : scan.caller = .done := by
  by_contra active
  exact present (owned.single active)

/-- A waiter finds the generation it remembers, so it is going to receive. -/
theorem Owned.awake_eq {generation : UInt64} (waiting : scan.waiter = .waiting generation) (forced : Bool) :
    scan.awake slot generation forced =
      (if forced then { slot with discoveryGen := generation + 1, discoveryWedged := true } else slot,
        { scan with waiter := .releasing }) :=
  if_pos (owned.generation generation waiting)

theorem Owned.awake {generation : UInt64} (waiting : scan.waiter = .waiting generation) (forced : Bool) :
    Owned (scan.awake slot generation forced).1 index (scan.awake slot generation forced).2 := by
  have ended : scan.caller = .done := owned.caller_done (by simp [waiting])
  have token := owned.token (.inr (.inl ⟨generation, waiting⟩))
  rw [owned.awake_eq waiting]
  refine ⟨fun _ => ?_, fun active => absurd ended active, by simp⟩
  cases forced
  all_goals exact token

/-- A step of a scan keeps its right in order, and touches the slot only with that right. -/
theorem Owned.step (moves : Moves slot scan event slot' scan') :
    Owned slot' index scan' ∧ (slot' = slot ∨ scan.Holds) := by
  cases moves with
  | lookup phase | start phase | receiveResult phase | expire phase | conclude phase =>
    exact ⟨owned.setCaller (by simp [phase]) _ _, .inl rfl⟩
  | handOver phase =>
    have active : scan.caller ≠ .done := by simp [phase]
    refine ⟨⟨fun _ => owned.token (.inl active), by simp, ?_⟩, .inr (.inl active)⟩
    rintro generation ⟨⟩
    rfl
  | release phase token =>
    have active : scan.caller ≠ .done := by simp [phase]
    have alone := owned.single active
    exact ⟨⟨by simp [Holds, alone], by simp, by simp [alone]⟩, .inr (.inl active)⟩
  | publish phase | sendResult phase | closeFinished phase =>
    exact ⟨⟨owned.token, owned.single, owned.generation⟩, .inl rfl⟩
  | observeFinished waiting finished =>
    exact ⟨owned.awake waiting false, .inr (.inr (.inl ⟨_, waiting⟩))⟩
  | watchdog waiting => exact ⟨owned.awake waiting true, .inr (.inr (.inl ⟨_, waiting⟩))⟩
  | releaseWaiter phase token =>
    have ended : scan.caller = .done := owned.caller_done (by simp [phase])
    exact ⟨⟨by simp [Holds, ended], by simp [ended], by simp⟩, .inr (.inr (.inr phase))⟩

/-- A scan without the right does not care about the slot. -/
theorem Owned.of_not_holds (free : ¬ scan.Holds) (slot' : ScanSlot) : Owned slot' index scan where
  token holds := absurd holds free
  single := owned.single
  generation generation waiting := absurd (.inr (.inl ⟨generation, waiting⟩)) free

end

/-! ### The worker of a scan -/

/-- Someone waits for the worker of the scan before the slot is given back. -/
def Attended (scan : Scan) : Prop :=
  scan.caller = .scanning ∨ scan.caller = .completed true ∨ scan.caller = .handingOver ∨
    ∃ generation, scan.waiter = .waiting generation

/-- A scanning worker is attended until a watchdog fires, and no startup scan was cut off. -/
structure Prompt (slot : ScanSlot) (scan : Scan) : Prop where
  attended : scan.worker = .scanning → slot.discoveryWedged = true ∨ scan.Attended
  startup : scan.kind = .startup → scan.caller ≠ .completed true

theorem Attended.holds (attended : scan.Attended) : scan.Holds := by
  rcases attended with phase | phase | phase | waiting
  · exact .inl (by simp [phase])
  · exact .inl (by simp [phase])
  · exact .inl (by simp [phase])
  · exact .inr (.inl waiting)

/-- A watchdog that fired stays visible. -/
theorem Moves.discoveryWedged (moves : Moves slot scan event slot' scan')
    (wedged : slot.discoveryWedged = true) : slot'.discoveryWedged = true := by
  cases moves with
  | observeFinished | watchdog =>
    unfold Scan.awake
    split_ifs
    all_goals first | exact wedged | rfl
  | _ => exact wedged

/-- A step keeps a worker attended, if it does not cut off a startup scan with progress. -/
theorem Prompt.step (prompt : Prompt slot scan) (owned : Owned slot index scan)
    (uncut : event = .expire → scan.kind = .startup → scan.published = false)
    (moves : Moves slot scan event slot' scan') : Prompt slot' scan' := by
  -- a caller that waits for nothing has no worker, or a watchdog has fired
  have unattended (active : scan.caller ≠ .done) (apart : scan.caller ≠ .scanning)
      (whole : scan.caller ≠ .completed true) (leaving : scan.caller ≠ .handingOver)
      (scanning : scan.worker = .scanning) : slot.discoveryWedged = true := by
    have alone := owned.single active
    simpa [Attended, apart, whole, leaving, alone] using prompt.attended scanning
  cases moves with
  | lookup phase =>
    refine ⟨fun scanning => .inl ?_, fun _ => by split <;> simp⟩
    exact unattended (by simp [phase]) (by simp [phase]) (by simp [phase]) (by simp [phase]) scanning
  | start phase => exact ⟨fun _ => .inr (.inl rfl), by simp⟩
  | receiveResult phase back =>
    refine ⟨fun scanning => ?_, by simp⟩
    rcases back with back | back
    all_goals cases scanning.symm.trans back
  | expire phase =>
    cases published : scan.published with
    | true =>
      refine ⟨fun _ => .inr (.inr (.inl rfl)), fun startup => ?_⟩
      cases published.symm.trans (uncut rfl startup)
    | false => exact ⟨fun _ => .inr (.inr (.inr (.inl rfl))), by simp⟩
  | @conclude truncated phase =>
    by_cases cut : truncated ∧ scan.kind ≠ .startup
    · rw [if_pos cut]
      exact ⟨fun _ => .inr (.inr (.inr (.inl rfl))), by simp⟩
    · rw [if_neg cut]
      have whole : scan.caller ≠ .completed true := by
        intro same
        obtain rfl : truncated = true := by simpa [phase] using same
        exact cut ⟨rfl, fun startup => prompt.startup startup same⟩
      refine ⟨fun scanning => .inl ?_, by simp⟩
      exact unattended (by simp [phase]) (by simp [phase]) whole (by simp [phase]) scanning
  | handOver phase => exact ⟨fun _ => .inr (.inr (.inr (.inr ⟨_, rfl⟩))), by simp⟩
  | release phase token =>
    refine ⟨fun scanning => .inl ?_, by simp⟩
    exact unattended (by simp [phase]) (by simp [phase]) (by simp [phase]) (by simp [phase]) scanning
  | publish phase => exact ⟨prompt.attended, prompt.startup⟩
  | sendResult phase | closeFinished phase => exact ⟨by simp, prompt.startup⟩
  | observeFinished waiting finished =>
    rw [owned.awake_eq waiting]
    refine ⟨fun scanning => ?_, prompt.startup⟩
    cases scanning.symm.trans finished
  | watchdog waiting =>
    rw [owned.awake_eq waiting]
    exact ⟨fun _ => .inl rfl, prompt.startup⟩
  | releaseWaiter phase token =>
    have ended : scan.caller = .done := owned.caller_done (by simp [phase])
    refine ⟨fun scanning => .inl ?_, prompt.startup⟩
    simpa [Attended, ended, phase] using prompt.attended scanning

end Scan

namespace DiscoveryScans

variable {s s' : DiscoveryScans} {event : DiscoveryEvent}

/-- Every scan has its right in order. -/
def Orderly (s : DiscoveryScans) : Prop :=
  ∀ (index : ℕ) (scan : Scan), s.scans[index]? = some scan → scan.Owned s.slot index

/-- Every scanning worker is attended until a watchdog fires. -/
def Cautious (s : DiscoveryScans) : Prop :=
  ∀ scan ∈ s.scans, scan.Prompt s.slot

/-- A step of the system is a new scan in the free slot, a deferred one, or a step of one scan. -/
theorem step_cases (moved : s.step event = some s') : (∃ kind, s.slot.discoverySem = none ∧
      s' = ⟨{ s.slot with discoverySem := some s.scans.length }, s.scans ++ [.acquired kind]⟩) ∨
    s' = s ∨
    ∃ index stepped scan slot next, event = .scan index stepped ∧ s.scans[index]? = some scan ∧
      scan.Moves s.slot stepped slot next ∧ s' = ⟨slot, s.scans.set index next⟩ := by
  cases event with
  | request kind =>
    cases moved
    unfold request
    split
    case isTrue free => exact .inl ⟨kind, Option.isNone_iff_eq_none.mp free, rfl⟩
    case isFalse => exact .inr (.inl rfl)
  | scan index stepped =>
    obtain ⟨scan, stored, moved⟩ := Option.bind_eq_some_iff.mp moved
    obtain ⟨⟨slot, next⟩, ran, rfl⟩ := Option.map_eq_some_iff.mp moved
    exact .inr (.inr ⟨index, stepped, scan, slot, next, rfl, stored, Scan.moves_of_step ran, rfl⟩)

theorem stored_append {rows : List Scan} {index : ℕ} {new scan : Scan}
    (stored : (rows ++ [new])[index]? = some scan) :
    rows[index]? = some scan ∨ index = rows.length ∧ scan = new := by
  grind

theorem Orderly.step (orderly : s.Orderly) (moved : s.step event = some s') : s'.Orderly := by
  rcases step_cases moved with
    ⟨kind, free, rfl⟩ | rfl | ⟨index, stepped, scan, slot, next, -, stored, moves, rfl⟩
  · intro index scan stored
    rcases stored_append stored with old | ⟨rfl, rfl⟩
    · -- nobody has the right to an empty channel
      refine (orderly index scan old).of_not_holds (fun holds => ?_) _
      cases free.symm.trans ((orderly index scan old).token holds)
    · exact ⟨fun _ => rfl, fun _ => rfl, nofun⟩
  · exact orderly
  · obtain ⟨kept, touched⟩ := (orderly index scan stored).step moves
    intro other row found
    rw [List.getElem?_set] at found
    split_ifs at found with same bound
    · subst same
      exact Option.some.inj found ▸ kept
    · have owned := orderly other row found
      rcases touched with unchanged | holds
      · rw [unchanged]
        exact owned
      · -- the token is the one of the scan that moved
        refine owned.of_not_holds (fun holding => ?_) slot
        have token := (orderly index scan stored).token holds
        exact same (Option.some.inj (token.symm.trans (owned.token holding)))

/-- In every run, a scan that receives from the semaphore finds its own token there. -/
theorem orderly_of_reaches {Allowed : DiscoveryScans → DiscoveryEvent → Prop}
    (reached : discovery.Reaches Allowed s) : s.Orderly :=
  reached.invariant (fun _ start _ _ stored => by subst start; cases stored)
    fun _ _ _ orderly _ moved => orderly.step moved

/-! ### Scans side by side -/

/-- No startup scan is cut off by its bound, or by the end of its context, after a progress snapshot. -/
def StartupUncut (s : DiscoveryScans) : DiscoveryEvent → Prop
  | .scan index .expire => ∀ scan ∈ s.scans[index]?, scan.kind = .startup → scan.published = false
  | _ => True

instance (s : DiscoveryScans) (event : DiscoveryEvent) : Decidable (s.StartupUncut event) := by
  unfold StartupUncut
  split <;> infer_instance

theorem Cautious.step (cautious : s.Cautious) (orderly : s.Orderly) (uncut : s.StartupUncut event)
    (moved : s.step event = some s') : s'.Cautious := by
  rcases step_cases moved with
    ⟨kind, free, rfl⟩ | rfl | ⟨index, stepped, scan, slot, next, rfl, stored, moves, rfl⟩
  · intro scan member
    rcases List.mem_append.mp member with old | new
    · exact ⟨(cautious scan old).attended, (cautious scan old).startup⟩
    · obtain rfl := List.mem_singleton.mp new
      refine ⟨nofun, fun startup => ?_⟩
      cases startup
      simp [Scan.acquired]
  · exact cautious
  · intro row member
    rcases List.mem_or_eq_of_mem_set member with old | rfl
    · exact ⟨fun scanning => ((cautious row old).attended scanning).imp_left moves.discoveryWedged,
        (cautious row old).startup⟩
    · refine (cautious scan (List.mem_of_getElem? stored)).step (orderly index scan stored) ?_ moves
      rintro rfl
      exact uncut scan stored

theorem cautious_of_reaches (reached : discovery.Reaches StartupUncut s) : s.Cautious := by
  induction reached with
  | init start =>
    subst start
    exact nofun
  | step event before uncut moved ih => exact ih.step (orderly_of_reaches before) uncut moved

/-- The worker of a scan is running. -/
def Scanning (s : DiscoveryScans) (index : ℕ) : Prop :=
  ∃ scan, s.scans[index]? = some scan ∧ scan.worker = .scanning

/-- The caller or the waiter of a scan is at its receive. -/
def Releasing (s : DiscoveryScans) (index : ℕ) : Prop :=
  ∃ scan, s.scans[index]? = some scan ∧ scan.Releasing

/-- In every run without a startup scan that is cut off with progress: at most one worker scans until
a watchdog fires, and every receive from the semaphore finds the token of the scan that receives. -/
theorem discoverySem_exclusive {s : DiscoveryScans} (reached : discovery.Reaches StartupUncut s) :
    (s.slot.discoveryWedged = false → ∀ first second, s.Scanning first → s.Scanning second → first = second) ∧
    ∀ index, s.Releasing index → s.slot.discoverySem = some index := by
  have orderly := orderly_of_reaches reached
  have cautious := cautious_of_reaches reached
  constructor
  · intro fresh
    have token {index : ℕ} (scanning : s.Scanning index) : s.slot.discoverySem = some index := by
      obtain ⟨scan, stored, working⟩ := scanning
      have attended := (cautious scan (List.mem_of_getElem? stored)).attended working
      exact (orderly index scan stored).token (attended.resolve_left (by simp [fresh])).holds
    intro first second one other
    exact Option.some.inj ((token one).symm.trans (token other))
  · rintro index ⟨scan, stored, releasing⟩
    exact (orderly index scan stored).token releasing.holds

/-- A session runs into its bound with progress and waits for its worker; a startup scan is deferred,
and then the worker comes back. -/
def sessionCutOff : List DiscoveryEvent :=
  [.request .session, .scan 0 .start, .scan 0 .publish, .scan 0 .expire, .scan 0 .proceed,
    .scan 0 .proceed, .request .startup, .scan 0 .sendResult, .scan 0 .closeFinished,
    .scan 0 .observeFinished]

theorem discoverySem_exclusive_session :
    ∃ s, discovery.Reaches StartupUncut s ∧ s.Releasing 0 ∧ s.slot.discoverySem = some 0 := by
  let s := (discovery.runWithin StartupUncut started sessionCutOff).get (by decide +kernel)
  have reached : discovery.Reaches StartupUncut s :=
    .runWithin (.init rfl) sessionCutOff (Option.some_get _).symm
  have releasing : s.Releasing 0 :=
    ⟨s.scans.get ⟨0, by decide +kernel⟩, by decide +kernel, .inr (by decide +kernel)⟩
  exact ⟨s, reached, releasing, (discoverySem_exclusive reached).2 0 releasing⟩

/-- The startup scan runs into its bound after it published a snapshot and releases the slot; the next
session starts a second worker. -/
def startupCutOff : List DiscoveryEvent :=
  [.request .startup, .scan 0 .start, .scan 0 .publish, .scan 0 .expire, .scan 0 .proceed,
    .scan 0 .proceed, .request .session, .scan 1 .start]

/-- Two workers scan, and no watchdog has fired. -/
theorem exists_scans_side_by_side :
    ∃ s, discovery.Reachable s ∧ s.slot.discoveryWedged = false ∧ s.Scanning 0 ∧ s.Scanning 1 := by
  let s := (discovery.run started startupCutOff).get (by decide +kernel)
  have reached : discovery.Reachable s := .run (.init rfl) startupCutOff (Option.some_get _).symm
  exact ⟨s, reached, by decide +kernel, ⟨s.scans.get ⟨0, by decide +kernel⟩, by decide +kernel, by decide +kernel⟩,
    ⟨s.scans.get ⟨1, by decide +kernel⟩, by decide +kernel, by decide +kernel⟩⟩

end DiscoveryScans

end PrintGateway.Agent
