import PrintGateway.Machine.Window
import PrintGateway.Model.Gateway.AuthRateLimit

/-!
# How many guesses an account admits

The locks of an account's row force the attempts of one window apart: the thirteenth would come
later than the window lasts.  Windows are more than one length apart, so an interval of that length
sees two of them.  The cleanup removes a row only long after its window; what it must not do is
remove the row under a call that has passed its `INSERT`, because that call is then judged without
the row of its account and admitted without being counted.  An attack that waits for each lock leaves
the window before the longer locks begin.
-/

namespace PrintGateway.Gateway

open Machine

/-! ## Keys -/

variable {written rows : List (Text × Bucket)} {decision : RateLimitDecision} {now : ℤ}

theorem accountKey_ne_ipKey (username ip : Text) : accountKey username ≠ ipKey ip := by
  intro same
  have heads : some 'a' = some 'i' := congrArg List.head? same
  exact absurd heads (by decide)

theorem mem_authKeys {ip username name : Text} (member : accountKey name ∈ authKeys ip username) :
    accountKey username = accountKey name := by
  unfold authKeys at member
  split at member
  · rcases List.mem_cons.mp member with same | second
    · exact same.symm
    · exact absurd (List.mem_singleton.mp second) (accountKey_ne_ipKey name ip)
  · exact (List.mem_singleton.mp member).symm

theorem nodup_authKeys (ip username : Text) : (authKeys ip username).Nodup := by
  unfold authKeys
  split
  · simpa using accountKey_ne_ipKey username ip
  · exact List.nodup_singleton _

theorem getElem?_authKeys_zero (ip username : Text) : (authKeys ip username)[0]? = some (accountKey username) := by
  unfold authKeys
  split <;> rfl

theorem curveOf_accountKey (username : Text) : curveOf (accountKey username) = .account := rfl

/-! ## The rows of one call -/

/-- Tagging keys with what is stored under them, and finding one again. -/
theorem find?_tagged (keys : List Text) (source : Text → Option Bucket) (key : Text) :
    (keys.filterMap fun key => (source key).map fun bucket => (key, bucket)).find? (fun row => row.1 = key) =
      if key ∈ keys then (source key).map fun bucket => (key, bucket) else none := by
  induction keys with
  | nil => rfl
  | cons head keys ih =>
    by_cases same : head = key
    · subst same
      cases stored : source head with
      | none => simp [stored, ih]
      | some bucket => simp [stored]
    · have other : (key ∈ head :: keys) = (key ∈ keys) := by simp [Ne.symm same]
      cases stored : source head with
      | none => simp only [List.filterMap_cons, stored, Option.map_none, ih, other]
      | some bucket =>
        rw [List.filterMap_cons, stored, Option.map_some, List.find?_cons_of_neg (by simpa using same)]
        simp only [ih, other]

theorem nodup_rows (call : AuthCall) (table : Keyed Text Bucket) : ((call.rows table).map Prod.fst).Nodup := by
  have tags : (call.rows table).map Prod.fst = call.keys.filter fun key =>
      ((if key ∈ call.own then some (Bucket.fresh call.now) else table.find? key).map
        fun bucket => (key, bucket)).isSome := by
    rw [AuthCall.rows]
    induction call.keys with
    | nil => rfl
    | cons key keys ih =>
      cases stored : (if key ∈ call.own then some (Bucket.fresh call.now) else table.find? key) with
      | none => simp [stored, ih]
      | some bucket => simp [stored, ih]
  rw [tags]
  exact (nodup_authKeys _ _).filter _

section

variable (judged : judgeRows now rows = some (decision, written))

include judged

theorem rows_of_judgeRows : (decision.allowed = true ∧ (∀ row ∈ rows, row.2.isLocked now = false) ∧
      written = rows.map fun row => (row.1, row.2.attempt (curveOf row.1) now)) ∨
    (decision.allowed = false ∧ written = rows) := by
  unfold judgeRows at judged
  dsimp only at judged
  split at judged
  · obtain ⟨blocked, decided, same⟩ := Option.map_eq_some_iff.mp judged
    obtain ⟨rfl, rfl⟩ := Prod.mk.inj same
    refine .inr ⟨?_, rfl⟩
    unfold blockedDecision at decided
    split at decided
    · cases decided
      rfl
    · cases decided
  · rename_i unlocked
    obtain ⟨allowed, decided, same⟩ := Option.map_eq_some_iff.mp judged
    obtain ⟨rfl, rfl⟩ := Prod.mk.inj same
    refine .inl ⟨?_, fun row member => ?_, rfl⟩
    · unfold allowedDecision at decided
      split at decided <;> cases decided <;> rfl
    · by_contra locked
      exact unlocked (List.any_eq_true.mpr ⟨row, member, by simpa using locked⟩)

/-- What the account's row becomes: it is counted exactly when the call is admitted. -/
theorem row_of_judgeRows {key : Text} {bucket : Bucket}
    (found : rows.find? (fun row => row.1 = key) = some (key, bucket)) :
    (decision.allowed = true ∧ bucket.isLocked now = false ∧
      written.find? (fun row => row.1 = key) = some (key, bucket.attempt (curveOf key) now)) ∨
    (decision.allowed = false ∧ written.find? (fun row => row.1 = key) = some (key, bucket)) := by
  rcases rows_of_judgeRows judged with ⟨allowed, unlocked, rfl⟩ | ⟨blocked, rfl⟩
  · refine .inl ⟨allowed, unlocked _ (List.mem_of_find?_eq_some found), ?_⟩
    rw [List.find?_map]
    exact congrArg (Option.map _) found
  · exact .inr ⟨blocked, found⟩

theorem map_fst_of_judgeRows : written.map Prod.fst = rows.map Prod.fst := by
  rcases rows_of_judgeRows judged with ⟨_, _, rfl⟩ | ⟨_, rfl⟩
  · exact List.map_map
  · rfl

end

/-! ## One window -/

theorem lockDurationFor_nonneg (curve : RateLimitCurve) (failures : ℕ) : 0 ≤ lockDurationFor curve failures := by
  unfold lockDurationFor
  split
  · rename_i step found
    have listed : step.2 ∈ lockDurationsMs := (List.of_mem_zip (List.mem_of_find?_eq_some found)).2
    have all : ∀ duration ∈ lockDurationsMs, 0 ≤ duration := by decide
    exact all _ listed
  · decide

/-- How long after its start a window has admitted a number of attempts, at the earliest. -/
def reach (attempts : ℕ) : ℤ := ((List.range attempts).map (lockDurationFor .account)).sum

theorem reach_succ (attempts : ℕ) : reach (attempts + 1) = reach attempts + lockDurationFor .account attempts := by
  simp [reach, List.range_succ]

theorem reach_mono {few many : ℕ} (le : few ≤ many) : reach few ≤ reach many := by
  induction le with
  | refl => exact le_refl _
  | step _ ih =>
    have := lockDurationFor_nonneg .account
    rw [reach_succ]
    exact le_add_of_le_of_nonneg ih (this _)

/-- The thirteenth attempt comes after the window. -/
theorem le_twelve_of_reach_le {attempts : ℕ} (within : reach attempts ≤ authRateWindowMs) : attempts ≤ 12 := by
  by_contra more
  have late : authRateWindowMs < reach 13 := by decide
  have := reach_mono (show 13 ≤ attempts by omega)
  omega

/-- The row of an account beside the attempts admitted on it. -/
structure Current (log : List Admission) (bucket : Bucket) : Prop where
  counted : log.countP (fun entry => entry.window = some bucket.windowStartedAt) = bucket.failures
  older : ∀ entry ∈ log, ∀ start ∈ entry.window,
    start = bucket.windowStartedAt ∨ start + authRateWindowMs < bucket.windowStartedAt
  reached : bucket.windowStartedAt + reach bucket.failures ≤ bucket.updatedAt
  within : bucket.updatedAt ≤ bucket.windowStartedAt + authRateWindowMs
  locked : bucket.lockedUntil = if 0 < lockDurationFor .account bucket.failures then
      some (bucket.updatedAt + lockDurationFor .account bucket.failures)
    else none

namespace Current

variable {log : List Admission} {bucket : Bucket} {now : ℤ}

theorem started (current : Current log bucket) : bucket.windowStartedAt ≤ bucket.updatedAt := by
  have := reach_mono (Nat.zero_le bucket.failures)
  have zero : reach 0 = 0 := rfl
  have := current.reached
  omega

theorem fresh (before : ∀ entry ∈ log, ∀ start ∈ entry.window, start + authRateWindowMs < now) :
    Current log (Bucket.fresh now) where
  counted := by
    refine List.countP_eq_zero.mpr fun entry member same => ?_
    have counted := of_decide_eq_true same
    have := before entry member now counted
    have : 0 < authRateWindowMs := by decide
    omega
  older entry member start counted := .inr (before entry member start counted)
  reached := le_of_eq (add_zero now)
  within := le_add_of_nonneg_right (by decide)
  locked := rfl

/-- An attempt on an unlocked row waits for the lock of the one before. -/
theorem lock_le (current : Current log bucket) (unlocked : bucket.isLocked now = false)
    (later : bucket.updatedAt ≤ now) :
    bucket.updatedAt + lockDurationFor .account bucket.failures ≤ now := by
  have locked := current.locked
  unfold Bucket.isLocked at unlocked
  split at locked
  · rw [locked] at unlocked
    exact not_lt.mp (of_decide_eq_false unlocked)
  · have := lockDurationFor_nonneg .account bucket.failures
    omega

/-- An admitted attempt, counted in the window of the row or in a new one that starts with it. -/
theorem attempt (current : Current log bucket) (unlocked : bucket.isLocked now = false)
    (later : bucket.updatedAt ≤ now) (account : Text) {next : Bucket}
    (written : next = bucket.attempt .account now) :
    Current (⟨account, now, some next.windowStartedAt⟩ :: log) next ∧
      next.failures ≤ 12 ∧ next.windowStartedAt ≤ now ∧
      ∀ entry ∈ log, ∀ start ∈ entry.window,
        start = next.windowStartedAt ∨ start + authRateWindowMs < next.windowStartedAt := by
  have waited := current.lock_le unlocked later
  have started := current.started
  by_cases expired : bucket.windowStartedAt < now - authRateWindowMs
  · have shape : next = ⟨1, now, none, now⟩ := by
      rw [written, Bucket.attempt, decide_eq_true expired]
      rfl
    subst shape
    have older : ∀ entry ∈ log, ∀ start ∈ entry.window, start + authRateWindowMs < now := by
      intro entry member start counted
      rcases current.older entry member start counted with same | before <;> omega
    refine ⟨⟨?_, ?_, le_of_eq (add_zero now), le_add_of_nonneg_right (by decide), rfl⟩,
      Nat.le_of_ble_eq_true rfl, le_refl _, fun entry member start counted => .inr (older entry member start counted)⟩
    · exact (List.countP_cons_of_pos (by simp)).trans (congrArg (· + 1) (Current.fresh older).counted)
    · refine List.forall_mem_cons.mpr ⟨fun start counted => .inl (Option.some.inj counted).symm, ?_⟩
      exact fun entry member start counted => .inr (older entry member start counted)
  · have shape : next = ⟨bucket.failures + 1, bucket.windowStartedAt,
        if 0 < lockDurationFor .account (bucket.failures + 1) then
          some (now + lockDurationFor .account (bucket.failures + 1)) else none, now⟩ := by
      rw [written, Bucket.attempt, decide_eq_false expired]
      rfl
    subst shape
    have reached : bucket.windowStartedAt + reach (bucket.failures + 1) ≤ now := by
      have := current.reached
      rw [reach_succ]
      omega
    refine ⟨⟨?_, ?_, reached, by dsimp only; omega, rfl⟩, ?_, by dsimp only; omega, current.older⟩
    · exact (List.countP_cons_of_pos (by simp)).trans (congrArg (· + 1) current.counted)
    · exact List.forall_mem_cons.mpr ⟨fun start counted => .inl (Option.some.inj counted).symm, current.older⟩
    · exact le_twelve_of_reach_le (show reach (bucket.failures + 1) ≤ _ by omega)

end Current

namespace AuthLimits

/-- The attempts admitted on an account, the newest first. -/
def attempts (s : AuthLimits) (account : Text) : List Admission :=
  s.admitted.filter fun entry => entry.account = account

/-- What holds of an account as long as its row is not taken away from a call: every admitted attempt
is counted, a row that is missing will be created in a new window, and a call that has passed the
`INSERT` of its account will find the row. -/
structure Limited (account : Text) (s : AuthLimits) : Prop where
  windowed : Windowed authRateWindowMs (·.window) (·.now) (s.attempts account)
  few : ∀ start, (s.attempts account).countP (fun entry => entry.window = some start) ≤ 12
  row : ∀ bucket, s.table.find? account = some bucket →
    Current (s.attempts account) bucket ∧ (account, bucket.updatedAt) ∈ s.served
  absent : s.table.find? account = none → ∀ entry ∈ s.attempts account, ∀ start ∈ entry.window,
      start + authRateWindowMs < s.clock / 1000 ∧ ∀ id call, s.calls.find? id = some call → call.account = account →
          start + authRateWindowMs < call.now
  owner : ∀ id call, s.calls.find? id = some call → account ∈ call.own →
    call.account = account ∧ s.table.find? account = none
  alone : ∀ id call id' call', s.calls.find? id = some call → account ∈ call.own →
    s.calls.find? id' = some call' → account ∈ call'.own → id = id'
  past : ∀ id call, s.calls.find? id = some call → call.account = account → 0 < call.inserted →
    account ∈ call.own ∨ (s.table.find? account).isSome

namespace Limited

variable {account : Text} {s s' : AuthLimits}

theorem start (clock : ℤ) : Limited account (start clock) where
  windowed := .nil
  few _ := Nat.zero_le _
  row bucket found := by cases found
  absent _ entry member := by cases member
  owner id call found := by cases found
  alone id call id' call' found := by cases found
  past id call found := by cases found

/-- What does not touch the account: the clock moves on and calls end. -/
theorem frame (limited : Limited account s) (attempts : s'.attempts account = s.attempts account)
    (table : s'.table.find? account = s.table.find? account) (clock : s.clock ≤ s'.clock)
    (served : s.served ⊆ s'.served)
    (calls : ∀ id call, s'.calls.find? id = some call → s.calls.find? id = some call) :
    Limited account s' where
  windowed := attempts ▸ limited.windowed
  few := attempts ▸ limited.few
  row bucket found := by
    obtain ⟨current, read⟩ := limited.row bucket (table ▸ found)
    exact ⟨attempts ▸ current, served read⟩
  absent none entry member start counted := by
    obtain ⟨before, others⟩ := limited.absent (table ▸ none) entry (attempts ▸ member) start counted
    refine ⟨by omega, fun id call found => others id call (calls id call found)⟩
  owner id call found own := table ▸ limited.owner id call (calls id call found) own
  alone id call id' call' found own found' :=
    limited.alone id call id' call' (calls id call found) own (calls id' call' found')
  past id call found := table ▸ limited.past id call (calls id call found)

end Limited

variable {name account : Text} {s s' : AuthLimits} {call : AuthCall} {id : ℕ}

/-- A call that is taken off leaves the others alone. -/
theorem find?_endCall {other : ℕ} (found : (s.endCall id).calls.find? other = some call) :
    s.calls.find? other = some call ∧ other ≠ id := by
  obtain ⟨found, kept⟩ := Keyed.find?_filter_eq_some_iff.mp found
  exact ⟨found, of_decide_eq_true kept⟩

theorem Limited.endCall (limited : Limited account s) (id : ℕ) : Limited account (s.endCall id) :=
  limited.frame rfl rfl (le_refl _) (List.Subset.refl _) fun _ _ found => (find?_endCall found).1

/-- A call that is new or has moved on. -/
theorem Limited.putCall (limited : Limited account s)
    (later : s.table.find? account = none → call.account = account →
      ∀ entry ∈ s.attempts account, ∀ start ∈ entry.window, start + authRateWindowMs < call.now)
    (owner : account ∈ call.own → call.account = account ∧ s.table.find? account = none ∧
      ∀ other call', s.calls.find? other = some call' → account ∈ call'.own → other = id)
    (past : call.account = account → 0 < call.inserted → account ∈ call.own ∨ (s.table.find? account).isSome) :
    Limited account { s with calls := s.calls.put id call } := by
  have calls (other : ℕ) (call' : AuthCall) (found : (s.calls.put id call).find? other = some call') :
      s.calls.find? other = some call' ∨ other = id ∧ call' = call := by
    by_cases same : other = id
    · rw [same, Keyed.find?_put_self] at found
      exact .inr ⟨same, (Option.some.inj found).symm⟩
    · rw [Keyed.find?_put_of_ne _ _ same] at found
      exact .inl found
  refine ⟨limited.windowed, limited.few, limited.row, ?_, ?_, ?_, ?_⟩
  · intro none entry member start counted
    obtain ⟨before, others⟩ := limited.absent none entry member start counted
    refine ⟨before, fun other call' found same => ?_⟩
    rcases calls other call' found with old | ⟨rfl, rfl⟩
    · exact others other call' old same
    · exact later none same entry member start counted
  · intro other call' found own
    rcases calls other call' found with old | ⟨rfl, rfl⟩
    · exact limited.owner other call' old own
    · exact ⟨(owner own).1, (owner own).2.1⟩
  · intro first call₁ second call₂ found₁ own₁ found₂ own₂
    rcases calls first call₁ found₁ with old₁ | ⟨rfl, rfl⟩ <;>
      rcases calls second call₂ found₂ with old₂ | ⟨rfl, rfl⟩
    · exact limited.alone first call₁ second call₂ old₁ own₁ old₂ own₂
    · exact (owner own₂).2.2 first call₁ old₁ own₁
    · exact ((owner own₁).2.2 second call₂ old₂ own₂).symm
    · rfl
  · intro other call' found same positive
    rcases calls other call' found with old | ⟨rfl, rfl⟩
    · exact limited.past other call' old same positive
    · exact past same positive

/-- After the `INSERT` of its account a call owns the row or has seen one; only the first of several
calls can own it. -/
theorem Limited.insertRow (limited : Limited (accountKey name) s) (found : s.calls.find? id = some call)
    (inserted : s.insertRow id call = some s') : Limited (accountKey name) s' := by
  have later (none : s.table.find? (accountKey name) = none) (same : call.account = accountKey name) :
      ∀ entry ∈ s.attempts (accountKey name), ∀ start ∈ entry.window, start + authRateWindowMs < call.now :=
    fun entry member start counted =>
      (limited.absent none entry member start counted).2 id call found same
  have owner (own : accountKey name ∈ call.own) : call.account = accountKey name ∧
      s.table.find? (accountKey name) = none ∧ ∀ other call', s.calls.find? other = some call' →
        accountKey name ∈ call'.own → other = id := by
    obtain ⟨same, none⟩ := limited.owner id call found own
    exact ⟨same, none, fun other call' found' own' => limited.alone other call' id call found' own' found own⟩
  unfold AuthLimits.insertRow at inserted
  split at inserted
  · cases inserted
  · rename_i key next
    have first (same : call.account = accountKey name) (zero : call.inserted = 0) : key = accountKey name := by
      rw [zero, AuthCall.keys, getElem?_authKeys_zero] at next
      exact (Option.some.inj next).symm.trans same
    dsimp only at inserted
    split at inserted
    · rename_i bucket stored
      cases inserted
      refine limited.putCall later owner fun same _ => ?_
      rcases Nat.eq_zero_or_pos call.inserted with zero | positive
      · exact .inr (first same zero ▸ stored ▸ rfl)
      · exact limited.past id call found same positive
    · rename_i missing
      obtain ⟨free, moved⟩ := Option.ite_none_left_eq_some.mp inserted
      cases moved
      refine limited.putCall later (fun own => ?_) fun same _ => ?_
      · rcases List.mem_cons.mp own with rfl | own
        · refine ⟨mem_authKeys (List.mem_of_getElem? next), missing, fun other call' found' own' => ?_⟩
          by_contra different
          exact free (List.any_eq_true.mpr ⟨(other, call'), Keyed.mem_of_find?_eq_some found',
            decide_eq_true ⟨different, own'⟩⟩)
        · exact owner own
      · rcases Nat.eq_zero_or_pos call.inserted with zero | positive
        · exact .inl (first same zero ▸ List.mem_cons_self)
        · exact (limited.past id call found same positive).imp_left (List.mem_cons_of_mem _)

/-- The row a call finds under its account when it has passed the `INSERT`. -/
theorem Limited.exists_row (limited : Limited (accountKey name) s) (found : s.calls.find? id = some call)
    (same : call.account = accountKey name) (done : ¬call.inserted < call.keys.length) :
    ∃ bucket, (call.rows s.table).find? (fun row => row.1 = accountKey name) = some (accountKey name, bucket) ∧
      Current (s.attempts (accountKey name)) bucket ∧
      (accountKey name, bucket.updatedAt) ∈ (accountKey name, call.now) :: s.served ∧
      ∀ other call', s.calls.find? other = some call' → accountKey name ∈ call'.own → other = id := by
  have listed : accountKey name ∈ call.keys := by
    have first := getElem?_authKeys_zero call.ip call.username
    exact same ▸ List.mem_of_getElem? first
  have positive : 0 < call.inserted :=
    lt_of_lt_of_le (List.length_pos_of_mem listed) (not_lt.mp done)
  rw [AuthCall.rows, find?_tagged, if_pos listed]
  rcases limited.past id call found same positive with own | stored
  · obtain ⟨-, none⟩ := limited.owner id call found own
    refine ⟨Bucket.fresh call.now, by rw [if_pos own]; rfl, Current.fresh ?_, List.mem_cons_self, ?_⟩
    · exact fun entry member start counted => (limited.absent none entry member start counted).2 id call found same
    · exact fun other call' found' own' => limited.alone other call' id call found' own' found own
  · obtain ⟨bucket, stored⟩ := Option.isSome_iff_exists.mp stored
    obtain ⟨current, read⟩ := limited.row bucket stored
    have nobody (other : ℕ) (call' : AuthCall) (found' : s.calls.find? other = some call')
        (own : accountKey name ∈ call'.own) : False := by
      have none := (limited.owner other call' found' own).2
      rw [stored] at none
      cases none
    refine ⟨bucket, ?_, current, List.mem_cons_of_mem _ read, fun other call' found' own =>
      (nobody other call' found' own).elim⟩
    rw [if_neg (nobody id call found), stored]
    rfl

/-- An account whose row is stored and that no call owns. -/
theorem Limited.of_row {bucket : Bucket} {log : List Admission}
    (stored : s.table.find? account = some bucket) (logged : s.attempts account = log)
    (current : Current log bucket) (read : (account, bucket.updatedAt) ∈ s.served)
    (windowed : Windowed authRateWindowMs (·.window) (·.now) log)
    (few : ∀ start, log.countP (fun entry => entry.window = some start) ≤ 12)
    (nobody : ∀ id call, s.calls.find? id = some call → account ∉ call.own) : Limited account s := by
  subst logged
  refine ⟨windowed, few, ?_, ?_, ?_, ?_, fun _ _ _ _ _ => .inr (stored ▸ rfl)⟩
  · intro bucket' stored'
    obtain rfl := Option.some.inj (stored.symm.trans stored')
    exact ⟨current, read⟩
  · intro none
    rw [stored] at none
    cases none
  · exact fun id call found own => absurd own (nobody id call found)
  · exact fun id call id' call' found own => absurd own (nobody id call found)

/-- A call on another account. -/
theorem Limited.reserveOther (limited : Limited (accountKey name) s)
    (other : call.account ≠ accountKey name) {decision : RateLimitDecision} {written : List (Text × Bucket)}
    (judged : judgeRows call.now (call.rows s.table) = some (decision, written)) (window : Option ℤ) :
    Limited (accountKey name) { s.endCall id with
      table := written.foldl (fun table row => table.put row.1 row.2) s.table
      admitted := if decision.allowed then ⟨call.account, call.now, window⟩ :: s.admitted else s.admitted
      served := if window.isSome then (call.account, call.now) :: s.served else s.served } := by
  have keys := map_fst_of_judgeRows judged
  have distinct : (written.map Prod.fst).Nodup := keys ▸ nodup_rows call s.table
  have absent : (call.rows s.table).find? (fun row => row.1 = accountKey name) = none := by
    have outside : accountKey name ∉ call.keys := fun listed => other (mem_authKeys listed)
    rw [AuthCall.rows, find?_tagged, if_neg outside]
  have unwritten : written.find? (fun row => row.1 = accountKey name) = none := by
    refine List.find?_eq_none.mpr fun row member same => ?_
    have tagged : row.1 ∈ (call.rows s.table).map Prod.fst := keys ▸ List.mem_map_of_mem member
    obtain ⟨row', member', equal⟩ := List.mem_map.mp tagged
    exact List.find?_eq_none.mp absent row' member' (by rw [equal]; exact same)
  refine limited.frame ?_ ?_ (le_refl _) ?_ fun _ _ found => (find?_endCall found).1
  · unfold attempts
    dsimp only
    split
    · exact List.filter_cons_of_neg (by simpa using other)
    · rfl
  · exact (Keyed.find?_foldl_put s.table distinct _).trans (by rw [unwritten]; rfl)
  · dsimp only
    split
    · exact List.subset_cons_self _ _
    · exact List.Subset.refl _

/-- A call on the account finds its row, which is counted when the call is admitted. -/
theorem Limited.reserveSame (limited : Limited (accountKey name) s) (found : s.calls.find? id = some call)
    (same : call.account = accountKey name) (done : ¬call.inserted < call.keys.length)
    (ordered : InLockOrder (accountKey name) s (.reserve id)) {decision : RateLimitDecision}
    {written : List (Text × Bucket)}
    (judged : judgeRows call.now (call.rows s.table) = some (decision, written)) {window : Option ℤ}
    (recorded : window = (written.find? fun row => row.1 = call.account).map (·.2.windowStartedAt)) :
    Limited (accountKey name) { s.endCall id with
      table := written.foldl (fun table row => table.put row.1 row.2) s.table
      admitted := if decision.allowed then ⟨call.account, call.now, window⟩ :: s.admitted else s.admitted
      served := if window.isSome then (call.account, call.now) :: s.served else s.served } := by
  have distinct : (written.map Prod.fst).Nodup := map_fst_of_judgeRows judged ▸ nodup_rows call s.table
  obtain ⟨bucket, listed, current, read, alone⟩ := limited.exists_row found same done
  have later : bucket.updatedAt ≤ call.now := by
    rcases List.mem_cons.mp read with equal | read
    · exact le_of_eq (Prod.mk.inj equal).2
    · exact ordered call found same _ read rfl
  have nobody : ∀ other call', (s.endCall id).calls.find? other = some call' → accountKey name ∉ call'.own := by
    intro other call' found' own
    obtain ⟨found', different⟩ := find?_endCall found'
    exact different (alone other call' found' own)
  have stored {next : Bucket} (row : written.find? (fun row => row.1 = accountKey name) =
      some (accountKey name, next)) :
      (written.foldl (fun table row => table.put row.1 row.2) s.table).find? (accountKey name) = some next := by
    rw [Keyed.find?_foldl_put s.table distinct, row]
    rfl
  rw [same] at recorded ⊢
  rcases row_of_judgeRows judged listed with ⟨allowed, unlocked, row⟩ | ⟨blocked, row⟩
  · rw [curveOf_accountKey] at row
    rw [row, Option.map_some] at recorded
    subst recorded
    rw [if_pos allowed]
    have stamped : (bucket.attempt .account call.now).updatedAt = call.now := rfl
    obtain ⟨counted, atMost, since, older⟩ := current.attempt unlocked later (accountKey name) rfl
    generalize bucket.attempt .account call.now = next at row stamped counted atMost since older ⊢
    have log : (⟨accountKey name, call.now, some next.windowStartedAt⟩ :: s.admitted).filter
        (fun entry => entry.account = accountKey name) =
          ⟨accountKey name, call.now, some next.windowStartedAt⟩ :: s.attempts (accountKey name) :=
      List.filter_cons_of_pos (by simp)
    refine Limited.of_row (stored row) log counted (stamped.symm ▸ List.mem_cons_self) ?_ ?_ nobody
    · exact limited.windowed.cons rfl since (stamped ▸ counted.within) older
    · intro start
      by_cases new : start = next.windowStartedAt
      · subst new
        exact counted.counted.trans_le atMost
      · exact (List.countP_cons_of_neg (by simpa using Ne.symm new)).trans_le (limited.few start)
  · rw [row, Option.map_some] at recorded
    subst recorded
    rw [if_neg (by simp [blocked])]
    exact Limited.of_row (stored row) rfl current read limited.windowed limited.few nobody

theorem Limited.reserveRows (limited : Limited (accountKey name) s) (found : s.calls.find? id = some call)
    (ordered : InLockOrder (accountKey name) s (.reserve id)) (reserved : s.reserveRows id call = some s') :
    Limited (accountKey name) s' := by
  unfold AuthLimits.reserveRows at reserved
  obtain ⟨done, reserved⟩ := Option.ite_none_left_eq_some.mp reserved
  dsimp only at reserved
  split at reserved
  · cases reserved
    exact limited.endCall id
  · rename_i decision written judged
    cases reserved
    by_cases same : call.account = accountKey name
    · exact limited.reserveSame found same done ordered judged rfl
    · exact limited.reserveOther same judged _

/-- The cleanup takes a row away long after its window, when no call is on its way. -/
theorem Limited.cleanup (limited : Limited account s)
    (spared : SparesCalls account s .cleanupAuthRateLimits) :
    Limited account { s with table := s.table.filter fun _ bucket => !bucket.isStale s.clock } := by
  cases stored : s.table.find? account with
  | none =>
    have none : (s.table.filter fun _ bucket => !bucket.isStale s.clock).find? account = none := by
      refine Option.eq_none_iff_forall_ne_some.mpr fun bucket found => ?_
      rw [(Keyed.find?_filter_eq_some_iff.mp found).1] at stored
      cases stored
    exact limited.frame rfl (none.trans stored.symm) (le_refl _) (List.Subset.refl _) fun _ _ found => found
  | some bucket =>
    cases stale : bucket.isStale s.clock with
    | false =>
      have kept : (s.table.filter fun _ bucket => !bucket.isStale s.clock).find? account = some bucket :=
        Keyed.find?_filter_eq_some_iff.mpr ⟨stored, by simp [stale]⟩
      exact limited.frame rfl (kept.trans stored.symm) (le_refl _) (List.Subset.refl _) fun _ _ found => found
    | true =>
      have gone : (s.table.filter fun _ bucket => !bucket.isStale s.clock).find? account = none := by
        refine Option.eq_none_iff_forall_ne_some.mpr fun bucket' found => ?_
        obtain ⟨stored', fresh⟩ := Keyed.find?_filter_eq_some_iff.mp found
        obtain rfl := Option.some.inj (stored.symm.trans stored')
        simp [stale] at fresh
      have nobody (id : ℕ) (call : AuthCall) (found : s.calls.find? id = some call) : call.account ≠ account := by
        intro same
        have kept := spared ⟨(id, call), Keyed.mem_of_find?_eq_some found, same⟩ bucket stored
        rw [stale] at kept
        cases kept
      obtain ⟨current, -⟩ := limited.row bucket stored
      refine ⟨limited.windowed, limited.few, ?_, ?_, ?_, limited.alone, ?_⟩
      · intro bucket' found
        rw [gone] at found
        cases found
      · intro _ entry member start counted
        refine ⟨?_, fun id call found same => absurd same (nobody id call found)⟩
        have old := of_decide_eq_true stale
        have started := current.started
        have retained : authRateRetention = 86400000000 := by decide
        have lasting : authRateWindowMs = 900000 := by decide
        dsimp only
        rcases current.older entry member start counted with same | before <;> omega
      · exact fun id call found own => absurd (limited.owner id call found own).1 (nobody id call found)
      · exact fun id call found same => absurd same (nobody id call found)

/-- A login on another account. -/
theorem Limited.success (limited : Limited (accountKey name) s) {ip username : Text}
    (other : accountKey username ≠ accountKey name) :
    Limited (accountKey name) { s with table := s.table.filter fun key _ => key ∉ authKeys ip username } := by
  have same : (s.table.filter fun key _ => key ∉ authKeys ip username).find? (accountKey name) =
      s.table.find? (accountKey name) := by
    refine Option.ext fun bucket => ?_
    rw [Keyed.find?_filter_eq_some_iff]
    exact and_iff_left (decide_eq_true fun listed => other (mem_authKeys listed))
  exact limited.frame rfl same (le_refl _) (List.Subset.refl _) fun _ _ found => found

theorem Limited.step (limited : Limited (accountKey name) s) {e : AuthEvent}
    (ordered : InLockOrder (accountKey name) s e) (spared : SparesCalls (accountKey name) s e)
    (moved : s.step e = some s') : Limited (accountKey name) s' := by
  cases e with
  | tick micros =>
    cases moved
    exact limited.frame rfl rfl (by dsimp only; omega) (List.Subset.refl _) fun _ _ found => found
  | start id ip username =>
    cases taken : s.calls.find? id with
    | some call => simp [AuthLimits.step, taken] at moved
    | none =>
      obtain rfl : { s with calls := s.calls.put id ⟨ip, username, s.clock / 1000, 0, []⟩ } = s' := by
        simpa [AuthLimits.step, taken] using moved
      refine limited.putCall (fun none _ entry member start counted => ?_) (fun own => ?_) fun _ positive => ?_
      · exact (limited.absent none entry member start counted).1
      · cases own
      · cases positive
  | insert id =>
    obtain ⟨call, found, inserted⟩ := Option.bind_eq_some_iff.mp moved
    exact limited.insertRow found inserted
  | reserve id =>
    obtain ⟨call, found, reserved⟩ := Option.bind_eq_some_iff.mp moved
    exact limited.reserveRows found ordered reserved
  | abort id =>
    cases moved
    exact limited.endCall id
  | cleanupAuthRateLimits =>
    cases moved
    exact limited.cleanup spared
  | recordAuthSuccess ip username =>
    cases moved
    exact limited.success ordered

theorem Limited.of_reaches
    (reached : system.Reaches (fun s e => InLockOrder (accountKey name) s e ∧ SparesCalls (accountKey name) s e) s) :
    Limited (accountKey name) s := by
  refine reached.invariant (fun s initial => ?_) fun s e s' limited allowed moved => ?_
  · obtain ⟨clock, rfl⟩ := initial
    exact .start clock
  · exact limited.step allowed.1 allowed.2 moved

instance (account : Text) (s : AuthLimits) (e : AuthEvent) : Decidable (InLockOrder account s e) :=
  match e with
  | .reserve id => inferInstanceAs (Decidable (∀ call ∈ s.calls.find? id, call.account = account →
      ∀ reading ∈ s.served, reading.1 = account → reading.2 ≤ call.now))
  | .recordAuthSuccess _ username => inferInstanceAs (Decidable (accountKey username ≠ account))
  | .tick _ | .start _ _ _ | .insert _ | .abort _ | .cleanupAuthRateLimits => .isTrue trivial

instance (account : Text) (s : AuthLimits) (e : AuthEvent) : Decidable (SparesCalls account s e) :=
  match e with
  | .cleanupAuthRateLimits => inferInstanceAs (Decidable ((∃ entry ∈ s.calls.entries,
      entry.2.account = account) → ∀ bucket ∈ s.table.find? account, bucket.isStale s.clock = false))
  | .tick _ | .start _ _ _ | .insert _ | .reserve _ | .abort _ | .recordAuthSuccess _ _ => .isTrue trivial

/-- How many attempts on an account were admitted with a property. -/
def admittedOn (s : AuthLimits) (account : Text) (p : Admission → Bool) : ℕ :=
  s.admitted.countP fun entry => entry.account = account ∧ p entry

theorem admittedOn_eq (s : AuthLimits) (account : Text) (p : Admission → Bool) :
    s.admittedOn account p = (s.attempts account).countP p := by
  rw [admittedOn, attempts, List.countP_filter]
  exact List.countP_congr fun entry _ => by simp [and_comm]

/-- Twelve attempts in a window and twenty-four in any quarter of an hour, on every account whose
calls obtain the lock of its row in the order of their clock readings, as long as the cleanup never
deletes the row while a call on the account is in progress. -/
theorem brute_force_bound (name : Text) (s : AuthLimits)
    (reached : system.Reaches (fun s e => InLockOrder (accountKey name) s e ∧ SparesCalls (accountKey name) s e) s) :
    (∀ start, s.admittedOn (accountKey name) (fun entry => entry.window = some start) ≤ 12) ∧
      ∀ start, s.admittedOn (accountKey name)
        (fun entry => start ≤ entry.now ∧ entry.now ≤ start + authRateWindowMs) ≤ 24 := by
  have limited := Limited.of_reaches reached
  refine ⟨fun start => ?_, fun start => ?_⟩
  · rw [admittedOn_eq]
    exact limited.few start
  · rw [admittedOn_eq]
    exact limited.windowed.countP_interval_le limited.few start

/-- Six guesses from one address, a second apart. -/
def sampleGuesses : List AuthEvent := (List.range 6).flatMap fun id =>
  [.tick 1000000, .start id "192.0.2.7" "Ada ", .insert id, .insert id, .reserve id]

/-- Five quick guesses are admitted and a sixth finds the account locked. -/
theorem brute_force_bound_sixth_blocked : ∃ s : AuthLimits, (s.served.length = 6 ∧ s.admitted.length = 5) ∧
      (∀ start, s.admittedOn (accountKey "ada") (fun entry => entry.window = some start) ≤ 12) ∧
      ∀ start, s.admittedOn (accountKey "ada")
        (fun entry => start ≤ entry.now ∧ entry.now ≤ start + authRateWindowMs) ≤ 24 := by
  have ran : (system.runWithin (fun s e => InLockOrder (accountKey "ada") s e ∧
      SparesCalls (accountKey "ada") s e) (start 0) sampleGuesses).any
        (fun s => s.served.length = 6 ∧ s.admitted.length = 5) = true := by
    decide +kernel
  obtain ⟨s, executed, counts⟩ := (Option.any_eq_true _ _).mp ran
  refine ⟨s, of_decide_eq_true counts, brute_force_bound "ada" s ?_⟩
  exact System.Reaches.runWithin (s := start 0) (.init ⟨0, rfl⟩) sampleGuesses executed

/-- An account's row is a day old when twenty-five calls from as many addresses have passed their
`INSERT`s.  The cleanup deletes the row before any of them locks it. -/
def sampleRace : List AuthEvent :=
  let address (i : ℕ) : Text := "10.0.0." ++ Nat.toDigits 10 i
  [.start 0 (address 0) "ada", .insert 0, .insert 0, .reserve 0, .tick 86400002000] ++
    ((List.range 25).flatMap fun id => [.start id (address (id + 1)) "ada", .insert id, .insert id]) ++
    [.cleanupAuthRateLimits] ++ (List.range 25).map .reserve

/-- All of them are admitted at one moment. -/
theorem brute_force_uncounted : ∃ s : AuthLimits, system.Reaches (InLockOrder (accountKey "ada")) s ∧
      ¬s.admittedOn (accountKey "ada")
        (fun entry => 86400002 ≤ entry.now ∧ entry.now ≤ 86400002 + authRateWindowMs) ≤ 24 := by
  have ran : (system.runWithin (InLockOrder (accountKey "ada")) (start 0) sampleRace).any
      (fun s => ¬s.admittedOn (accountKey "ada")
        (fun entry => 86400002 ≤ entry.now ∧ entry.now ≤ 86400002 + authRateWindowMs) ≤ 24) = true := by
    decide +kernel
  obtain ⟨s, executed, many⟩ := (Option.any_eq_true _ _).mp ran
  exact ⟨s, System.Reaches.runWithin (s := start 0) (.init ⟨0, rfl⟩) sampleRace executed, of_decide_eq_true many⟩

end AuthLimits

/-! ## Waiting for each lock -/

section Attack

/-- The row of an account after some failed attempts, each made at the instant the lock of the one before ends, and the
instant of the next attempt. -/
def attack (row : Bucket) (now : ℤ) : ℕ → Bucket × ℤ
  | 0 => (row, row.lockedUntil.getD now)
  | n + 1 =>
    let next := (attack row now n).1.attempt .account (attack row now n).2
    (next, next.lockedUntil.getD (attack row now n).2)

/-- How long the attempt after `n` others locks the account. -/
def lockImposed (row : Bucket) (now : ℤ) (n : ℕ) : ℤ := (attack row now (n + 1)).2 - (attack row now n).2

/-- No attempt is followed by a shorter lock, and every tier is imposed at some time. -/
def Escalates (row : Bucket) (now : ℤ) : Prop :=
  (∀ n, lockImposed row now n ≤ lockImposed row now (n + 1)) ∧
  ∀ tier ∈ lockDurationsMs.tail ++ [longestLockMs], ∃ n, lockImposed row now n = tier

variable (row : Bucket) (now : ℤ) (n : ℕ)

/-- Every attempt of the attack is admitted. -/
theorem isLocked_attack : (attack row now n).1.isLocked (attack row now n).2 = false := by
  cases n with
  | zero | succ n =>
    dsimp only [attack, Bucket.isLocked]
    split
    · next locked => rw [locked, Option.getD_some, decide_eq_false (lt_irrefl _)]
    · rfl

/-- An attempt either opens a new window, which it does not lock, or is counted in the window of the one before. -/
theorem attack_window : lockImposed row now n = 0 ∨
    (attack row now (n + 1)).1.windowStartedAt = (attack row now n).1.windowStartedAt ∧
      (attack row now n).2 - authRateWindowMs ≤ (attack row now n).1.windowStartedAt := by
  by_cases expired : (attack row now n).1.windowStartedAt < (attack row now n).2 - authRateWindowMs
  · refine .inl ?_
    simp [lockImposed, attack, Bucket.attempt, expired, show lockDurationFor .account 1 = 0 from rfl]
  · exact .inr ⟨by simp [attack, Bucket.attempt, expired], not_lt.mp expired⟩

/-- Locks of some length in all attempts from the `n`th on use up its window. -/
theorem exists_short_lock {least : ℤ} (positive : 0 < least) : ∃ k, lockImposed row now (n + k) < least := by
  by_contra long
  have long : ∀ k, least ≤ lockImposed row now (n + k) := fun k => not_lt.mp fun short => long ⟨k, short⟩
  have counted (k : ℕ) := (attack_window row now (n + k)).resolve_left (by have := long k; omega)
  -- the window stays the one of the `n`th attempt while the clock moves on
  have start (k : ℕ) : (attack row now (n + k)).1.windowStartedAt = (attack row now n).1.windowStartedAt := by
    induction k with
    | zero => rfl
    | succ k ih => exact (counted k).1.trans ih
  have clock (k : ℕ) : (attack row now n).2 + k ≤ (attack row now (n + k)).2 := by
    induction k with
    | zero => simp
    | succ k ih =>
      have waited : least ≤ (attack row now (n + (k + 1))).2 - (attack row now (n + k)).2 := long k
      omega
  let late := ((attack row now n).1.windowStartedAt + authRateWindowMs + 1 - (attack row now n).2).toNat
  have passed := clock late
  have inside := (counted late).2
  rw [start late] at inside
  omega

/-- An attack that waits for each lock is always admitted, and its locks never escalate: a window does not last until
the longer tiers, and the attempt after it is not locked at all. -/
theorem attack_never_escalates (row : Bucket) (now : ℤ) :
    (∀ n, (attack row now n).1.isLocked (attack row now n).2 = false) ∧ ¬Escalates row now := by
  refine ⟨isLocked_attack row now, fun ⟨longer, imposed⟩ => ?_⟩
  obtain ⟨n, tier⟩ := imposed 30000 (by decide)
  obtain ⟨k, shorter⟩ := exists_short_lock row now n (show 0 < 30000 by decide)
  have grown := monotone_nat_of_le_succ longer (Nat.le_add_right n k)
  exact absurd (tier.symm.le.trans grown) (not_le.mpr shorter)

end Attack

/-- From a fresh row, the lock falls from five minutes to none at the thirteenth attempt. -/
theorem not_escalates_thirteen : lockImposed (.fresh 0) 0 11 = 300000 ∧ lockImposed (.fresh 0) 0 12 = 0 ∧
    ¬Escalates (.fresh 0) 0 := by
  have fifth : lockImposed (.fresh 0) 0 11 = 300000 := by decide +kernel
  have none : lockImposed (.fresh 0) 0 12 = 0 := by decide +kernel
  refine ⟨fifth, none, fun escalates => ?_⟩
  have shorter := escalates.1 11
  rw [fifth, none] at shorter
  exact absurd shorter (by decide)

end PrintGateway.Gateway
