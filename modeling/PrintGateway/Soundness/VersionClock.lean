import PrintGateway.Model.Agent.VersionClock

/-!
# Versions are unique and ordered

The atomic integer only grows, and a call of `next` leaves it strictly above what the call had loaded.  At the largest
integer it stays, and from then on every call returns that integer.
-/

namespace PrintGateway.Agent

open Machine

namespace VersionClock

theorem lt_successor {now previous : Int64} (room : now ≤ previous → previous ≠ Int64.maxValue) :
    previous < successor now previous := by
  unfold successor
  split
  · next small =>
    have different : previous.toInt ≠ 2 ^ 63 - 1 := fun same =>
      room small (Int64.toInt_inj.mp (same.trans Int64.toInt_maxValue.symm))
    have upper := previous.toInt_lt
    have lower := previous.le_toInt
    have one : (1 : Int64).toInt = 1 := by decide
    rw [Int64.lt_iff_toInt_lt, Int64.toInt_add, one, Int.bmod_eq_of_le (by omega) (by omega)]
    omega
  · next large => exact Int64.not_le.mp large

/-- What a call in progress knows: the integer is at least what was completed before the call, and so was what the
call has loaded. -/
def Valid (last : Int64) : ClockCall → Prop
  | .next now before previous => (∀ v ∈ before, v ≤ last) ∧
      ∀ p ∈ previous, (∀ v ∈ before, v ≤ p) ∧ (now ≤ p → p ≠ Int64.maxValue)
  | .observe version previous => ∀ p ∈ previous, p < version

/-- An issued value is above everything completed before it, as long as there is room. -/
def Issued.Above (issued : Issued) : Prop :=
  ∀ v ∈ issued.before, v < issued.value ∨ v = Int64.maxValue ∧ issued.value = Int64.maxValue

structure Sound (s : VersionClock) : Prop where
  nonneg : 0 ≤ s.last
  reached : ∀ v ∈ s.completed, v ≤ s.last
  valid : ∀ entry ∈ s.calls.entries, Valid s.last entry.2
  above : ∀ issued ∈ s.issued, 0 ≤ issued.value ∧ Issued.Above issued
  distinct : s.issued.Pairwise fun later earlier => later.value = earlier.value → later.value = Int64.maxValue

variable {s s' : VersionClock} {id : ℕ}

theorem Valid.mono {last last' : Int64} (grown : last ≤ last') {call : ClockCall} (valid : Valid last call) :
    Valid last' call := by
  cases call with
  | next now before previous => exact ⟨fun v member => Int64.le_trans (valid.1 v member) grown, valid.2⟩
  | observe version previous => exact valid

namespace Sound

section

variable (sound : Sound s)

include sound

theorem put {call : ClockCall} (valid : Valid s.last call) : Sound (s.put id call) where
  nonneg := sound.nonneg
  reached := sound.reached
  valid entry member := by
    obtain rfl | old := Keyed.mem_put member
    · exact valid
    · exact sound.valid entry old
  above := sound.above
  distinct := sound.distinct

/-- A call of `next` returns a value that the integer has reached. -/
theorem issue {value last : Int64} {before : List Int64} (grown : s.last ≤ value) (reached : value ≤ last)
    (fresh : s.last < value ∨ value = Int64.maxValue) (above : Issued.Above ⟨value, before⟩) :
    Sound { s.issue id value before with last } where
  nonneg := Int64.le_trans sound.nonneg (Int64.le_trans grown reached)
  reached v member := by
    obtain rfl | old := List.mem_cons.mp member
    · exact reached
    · exact Int64.le_trans (sound.reached v old) (Int64.le_trans grown reached)
  valid entry member := (sound.valid entry (List.mem_of_mem_filter member)).mono (Int64.le_trans grown reached)
  above := List.forall_mem_cons.mpr ⟨⟨Int64.le_trans sound.nonneg grown, above⟩, sound.above⟩
  distinct := by
    refine List.pairwise_cons.mpr ⟨fun earlier member same => ?_, sound.distinct⟩
    have below := sound.reached earlier.value (List.mem_append_left _ (List.mem_map_of_mem member))
    dsimp only at same
    grind

theorem accept {version last : Int64} (grown : s.last ≤ last) (reached : version ≤ last) :
    Sound { s.accept id version with last } where
  nonneg := Int64.le_trans sound.nonneg grown
  reached v member := by
    have cases : v = version ∨ v ∈ s.completed := by
      simp only [completed, VersionClock.accept, List.mem_append, List.mem_cons] at member ⊢
      tauto
    obtain rfl | old := cases
    · exact reached
    · exact Int64.le_trans (sound.reached v old) grown
  valid entry member := (sound.valid entry (List.mem_of_mem_filter member)).mono grown
  above := sound.above
  distinct := sound.distinct

theorem load {call : ClockCall} (valid : Valid s.last call) (loaded : s.load id call = some s') : Sound s' := by
  match call, loaded with
  | .next now before none, loaded =>
    simp only [VersionClock.load] at loaded
    split at loaded
    · next exhausted =>
      cases loaded
      refine sound.issue (Int64.le_refl _) (Int64.le_refl _) (.inr exhausted.2) fun v member => ?_
      have below := valid.1 v member
      dsimp only
      grind
    · next room =>
      cases loaded
      refine sound.put ⟨valid.1, fun p isLast => ?_⟩
      cases isLast
      exact ⟨valid.1, fun small full => room ⟨small, full⟩⟩
  | .observe version none, loaded =>
    simp only [VersionClock.load] at loaded
    split at loaded
    · next small =>
      cases loaded
      exact sound.accept (Int64.le_refl _) small
    · next large =>
      cases loaded
      refine sound.put fun p isLast => ?_
      cases isLast
      exact Int64.not_le.mp large

theorem compareAndSwap {call : ClockCall} (valid : Valid s.last call)
    (swapped : s.compareAndSwap id call = some s') : Sound s' := by
  match call, swapped with
  | .next now before (some previous), swapped =>
    simp only [VersionClock.compareAndSwap] at swapped
    split at swapped
    · next same =>
      cases swapped
      subst same
      have grown := lt_successor (valid.2 s.last rfl).2
      refine sound.issue (Int64.le_of_lt grown) (Int64.le_refl _) (.inl grown) fun v member => .inl ?_
      exact Int64.lt_of_le_of_lt (valid.1 v member) grown
    · cases swapped
      exact sound.put ⟨valid.1, fun p none => by cases none⟩
  | .observe version (some previous), swapped =>
    simp only [VersionClock.compareAndSwap] at swapped
    split at swapped
    · next same =>
      cases swapped
      subst same
      exact sound.accept (Int64.le_of_lt (valid s.last rfl)) (Int64.le_refl _)
    · cases swapped
      exact sound.put fun p none => by cases none

theorem step {e : ClockEvent} (moved : s.step e = some s') : Sound s' := by
  cases e with
  | next id now =>
    obtain ⟨-, rfl⟩ := Option.ite_none_left_eq_some.mp moved |>.imp_right Option.some.inj
    exact sound.put ⟨sound.reached, fun p none => by cases none⟩
  | observe id raw =>
    obtain ⟨-, moved⟩ := Option.ite_none_left_eq_some.mp moved
    split at moved
    · cases moved
      exact sound
    · cases moved
      exact sound.put fun p none => by cases none
  | load id =>
    obtain ⟨call, found, loaded⟩ := Option.bind_eq_some_iff.mp moved
    exact sound.load (sound.valid _ (Keyed.mem_of_find?_eq_some found)) loaded
  | compareAndSwap id =>
    obtain ⟨call, found, swapped⟩ := Option.bind_eq_some_iff.mp moved
    exact sound.compareAndSwap (sound.valid _ (Keyed.mem_of_find?_eq_some found)) swapped

end

theorem of_reachable (reached : system.Reachable s) : Sound s := by
  refine reached.invariant (fun s initial => ?_) fun s e s' sound _ moved => sound.step moved
  cases initial
  exact ⟨by decide, by simp [completed, start], nofun, nofun, .nil⟩

/-- At the largest integer the clock stays. -/
theorem step_exhausted (sound : Sound s) (full : s.last = Int64.maxValue) {e : ClockEvent}
    (moved : s.step e = some s') : s'.last = Int64.maxValue ∧
      (s'.issued = s.issued ∨ ∃ before, s'.issued = ⟨Int64.maxValue, before⟩ :: s.issued) := by
  have top : ∀ v : Int64, ¬Int64.maxValue < v := fun v above => by
    have := v.toInt_lt
    rw [Int64.lt_iff_toInt_lt, Int64.toInt_maxValue] at above
    omega
  cases e with
  | next id now =>
    obtain ⟨-, moved⟩ := Option.ite_none_left_eq_some.mp moved
    cases moved
    exact ⟨full, .inl rfl⟩
  | observe id raw =>
    obtain ⟨-, moved⟩ := Option.ite_none_left_eq_some.mp moved
    split at moved <;> cases moved <;> exact ⟨full, .inl rfl⟩
  | load id =>
    obtain ⟨call, -, loaded⟩ := Option.bind_eq_some_iff.mp moved
    unfold VersionClock.load at loaded
    split at loaded
    · split at loaded <;> cases loaded
      · exact ⟨full, .inr ⟨_, by rw [← full]; rfl⟩⟩
      · exact ⟨full, .inl rfl⟩
    · split at loaded <;> cases loaded <;> exact ⟨full, .inl rfl⟩
    · cases loaded
  | compareAndSwap id =>
    obtain ⟨call, found, swapped⟩ := Option.bind_eq_some_iff.mp moved
    have valid := sound.valid _ (Keyed.mem_of_find?_eq_some found)
    unfold VersionClock.compareAndSwap at swapped
    -- a swap that succeeded would have stored something larger
    split at swapped
    · split at swapped <;> cases swapped
      · next same =>
        have grown := lt_successor (valid.2 _ rfl).2
        rw [← same, full] at grown
        exact absurd grown (top _)
      · exact ⟨full, .inl rfl⟩
    · split at swapped <;> cases swapped
      · next same =>
        have grown := valid _ rfl
        rw [← same, full] at grown
        exact absurd grown (top _)
      · exact ⟨full, .inl rfl⟩
    · cases swapped

theorem run_exhausted (sound : Sound s) (full : s.last = Int64.maxValue) {es : List ClockEvent}
    (ran : system.run s es = some s') : s'.last = Int64.maxValue ∧
      ∃ new, s'.issued = new ++ s.issued ∧ ∀ issued ∈ new, issued.value = Int64.maxValue := by
  induction es generalizing s with
  | nil =>
    cases ran
    exact ⟨full, [], rfl, nofun⟩
  | cons e es ih =>
    obtain ⟨next, moved, rest⟩ := Option.bind_eq_some_iff.mp ran
    obtain ⟨stays, added⟩ := sound.step_exhausted full moved
    obtain ⟨last, new, split, same⟩ := ih (sound.step moved) stays rest
    obtain none | ⟨before, one⟩ := added
    · exact ⟨last, new, none ▸ split, same⟩
    · refine ⟨last, new ++ [⟨Int64.maxValue, before⟩], by rw [split, one, List.append_assoc]; rfl, ?_⟩
      simp only [List.mem_append, List.mem_singleton]
      rintro issued (member | rfl)
      · exact same issued member
      · rfl

end Sound

/-- The values that `next` returns are distinct and each is above everything that was returned or accepted before its
call started, until the largest integer is reached: from then on it is returned for ever. -/
theorem versions_distinct_and_ordered (reached : system.Reachable s) :
    s.issued.Pairwise (fun later earlier => later.value = earlier.value → later.value = Int64.maxValue) ∧
    (∀ issued ∈ s.issued, ∀ v ∈ issued.before,
      v < issued.value ∨ v = Int64.maxValue ∧ issued.value = Int64.maxValue) ∧
    (0 ≤ s.last ∧ ∀ issued ∈ s.issued, 0 ≤ issued.value) ∧
    ∀ es s', s.last = Int64.maxValue → system.run s es = some s' → s'.last = Int64.maxValue ∧
      ∃ new, s'.issued = new ++ s.issued ∧ ∀ issued ∈ new, issued.value = Int64.maxValue := by
  have sound := Sound.of_reachable reached
  refine ⟨sound.distinct, fun issued member => (sound.above issued member).2, ?_, ?_⟩
  · exact ⟨sound.nonneg, fun issued member => (sound.above issued member).1⟩
  · exact fun es s' full ran => sound.run_exhausted full ran

/-- Two calls race and the clock goes back; then the Gateway reports the largest version. -/
def sampleRace : List ClockEvent :=
  [.next 0 5, .next 1 5, .load 0, .load 1, .compareAndSwap 1, .compareAndSwap 0, .load 0, .compareAndSwap 0, .next 2 3,
    .load 2, .compareAndSwap 2, .observe 3 "9223372036854775807", .load 3, .compareAndSwap 3, .next 4 9, .load 4]

theorem versions_distinct_race : ∃ s : VersionClock, s.issued.map (·.value) = [Int64.maxValue, 7, 6, 5] ∧
    s.issued.Pairwise (fun later earlier => later.value = earlier.value → later.value = Int64.maxValue) := by
  have ran : (system.run start sampleRace).any (fun s => s.issued.map (·.value) = [Int64.maxValue, 7, 6, 5]) = true := by
    decide +kernel
  obtain ⟨s, executed, values⟩ := (Option.any_eq_true _ _).mp ran
  have reached : system.Reachable s := System.Reaches.run (.init rfl) sampleRace executed
  exact ⟨s, of_decide_eq_true values, (versions_distinct_and_ordered reached).1⟩

end VersionClock

end PrintGateway.Agent
