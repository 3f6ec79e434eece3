import Mathlib.Data.Finset.Card
import PrintGateway.Machine.Liveness
import PrintGateway.Model.Odoo.SubmissionCron
import PrintGateway.Soundness.OutboxRetry

/-!
# Which rows the submission cron reaches

A run submits a row exactly when fewer than 25 older rows are due with it.  Rows that the Gateway throttles
become due again, so 25 of them keep every newer row waiting for ever.  They cannot when only finitely many
submissions of older rows leave them queued.
-/

namespace PrintGateway.Odoo

open Machine

/-- In a strictly sorted list an element is among the first ones when few elements are smaller. -/
theorem mem_take_iff {list : List ℕ} (sorted : list.Pairwise (· < ·)) {x limit : ℕ} (member : x ∈ list) :
    x ∈ list.take limit ↔ (list.filter (· < x)).length < limit := by
  obtain ⟨before, after, rfl⟩ := List.append_of_mem member
  obtain ⟨-, rest, smaller⟩ := List.pairwise_append.mp sorted
  have larger := (List.pairwise_cons.mp rest).1
  have filtered : (before ++ x :: after).filter (· < x) = before := by
    have all : before.filter (· < x) = before :=
      List.filter_eq_self.mpr fun y inside => decide_eq_true (smaller y inside x List.mem_cons_self)
    have none : (x :: after).filter (· < x) = [] := by
      refine List.filter_eq_nil_iff.mpr fun y inside => ?_
      rcases List.mem_cons.mp inside with rfl | later
      · simp
      · have := larger y later
        simp
        omega
    rw [List.filter_append, all, none, List.append_nil]
  rw [filtered]
  constructor
  · intro taken
    by_contra short
    rw [List.take_append_of_le_length (by omega)] at taken
    exact absurd (smaller x (List.mem_of_mem_take taken) x List.mem_cons_self) (lt_irrefl x)
  · intro long
    rw [List.take_append, List.mem_append]
    right
    obtain ⟨k, split⟩ : ∃ k, limit - before.length = k + 1 := ⟨limit - before.length - 1, by omega⟩
    rw [split, List.take_succ_cons]
    exact List.mem_cons_self

/-! ### One run -/

section Run

variable {now : ℤ} {table : OutboxTable} {attempts : ℕ → Attempt}

theorem mem_dueIds {id : ℕ} : id ∈ dueIds now table ↔ ∃ row, table.find? id = some row ∧ row.Due now := by
  simp only [dueIds, List.mem_map, List.mem_filter, decide_eq_true_eq, Keyed.find?_eq_some_iff]
  constructor
  · rintro ⟨⟨id, row⟩, ⟨stored, due⟩, rfl⟩
    exact ⟨row, stored, due⟩
  · rintro ⟨row, stored, due⟩
    exact ⟨(id, row), ⟨stored, due⟩, rfl⟩

theorem sorted_dueIds (now : ℤ) (table : OutboxTable) : ((dueIds now table).mergeSort (· ≤ ·)).Pairwise (· < ·) := by
  have distinct : (dueIds now table).Nodup := table.distinct.sublist (List.filter_sublist.map _)
  have sorted : ((dueIds now table).mergeSort (· ≤ ·)).Pairwise (· ≤ ·) :=
    (List.pairwise_mergeSort (by simp; omega) (by simp; omega) _).imp fun le => of_decide_eq_true le
  refine (sorted.and ((List.mergeSort_perm _ _).nodup_iff.mpr distinct)).imp ?_
  exact fun ⟨le, ne⟩ => lt_of_le_of_ne le ne

/-- A run submits a due row when fewer than 25 older rows are due. -/
theorem mem_jobIds {id : ℕ} : id ∈ jobIds now table ↔
    id ∈ dueIds now table ∧ ((dueIds now table).filter (· < id)).length < 25 := by
  have perm := List.mergeSort_perm (dueIds now table) (· ≤ ·)
  have count := (perm.filter (· < id)).length_eq
  by_cases due : id ∈ dueIds now table
  · rw [jobIds, mem_take_iff (sorted_dueIds now table) (perm.mem_iff.mpr due), count]
    simp [due]
  · simp only [due, false_and, iff_false]
    exact fun taken => due (perm.mem_iff.mp (List.mem_of_mem_take taken))

/-- A run that passes over a due row has submitted older rows only, and at least one. -/
theorem exists_older {id : ℕ} (due : id ∈ dueIds now table) (passed : id ∉ jobIds now table) :
    ∃ older ∈ jobIds now table, older < id := by
  have many : 25 ≤ ((dueIds now table).filter (· < id)).length := by
    by_contra few
    exact passed (mem_jobIds.mpr ⟨due, by omega⟩)
  have perm := List.mergeSort_perm (dueIds now table) (· ≤ ·)
  have count := (perm.filter (· < id)).length_eq
  -- The smallest due id is selected and is no larger than any due id.
  cases isSorted : (dueIds now table).mergeSort (· ≤ ·) with
  | nil => simp [isSorted] at count; omega
  | cons first rest =>
    refine ⟨first, by simp [jobIds, isSorted], ?_⟩
    have sorted := sorted_dueIds now table
    rw [isSorted] at sorted
    rcases List.mem_cons.mp (isSorted ▸ perm.mem_iff.mpr due) with same | later
    · exact absurd (by simp [jobIds, isSorted, same] : id ∈ jobIds now table) passed
    · exact (List.pairwise_cons.mp sorted).1 id later

theorem foldl_update_find? (ids : List ℕ) (distinct : ids.Nodup) (table : OutboxTable) (id : ℕ) :
    (ids.foldl (fun table id => table.update fun key row =>
      if key = id then row.actionSubmit (attempts id) else row) table).find? id =
      (table.find? id).map fun row => if id ∈ ids then row.actionSubmit (attempts id) else row := by
  induction ids generalizing table with
  | nil => simp
  | cons first rest ih =>
    obtain ⟨fresh, distinct⟩ := List.nodup_cons.mp distinct
    rw [List.foldl_cons, ih distinct, Keyed.find?_update, Option.map_map]
    refine congrArg (Option.map · _) (funext fun row => ?_)
    by_cases same : id = first
    · subst same
      simp [fresh]
    · simp [same]

/-- What a run does to each row. -/
theorem find?_cronSubmitPending (id : ℕ) : (cronSubmitPending now attempts table).find? id =
    (table.find? id).map fun row => if id ∈ jobIds now table then row.actionSubmit (attempts id) else row :=
  foldl_update_find? _ ((sorted_dueIds now table).imp (fun lt => ne_of_lt lt) |>.sublist (List.take_sublist _ _)) _ _

end Run

/-! ### Settled rows -/

/-- The Gateway took the job or may have taken it, or it refused it for good. -/
def Outcome.settles (outcome : Outcome) : Bool :=
  outcome.acknowledges || match outcome with
    | .answered response => response.statusCode ∈ [400, 404, 422]
    | .interrupted _ | .raised _ => false

/-- A submission that gets the lease and is answered in such a way. -/
def Attempt.Settles (attempt : Attempt) (row : PrintJob) : Prop :=
  attempt.enabled = true ∧ (PrintJob.claimSubmissionLease attempt.now attempt.token).guard row ∧
    ∃ answer ∈ attempt.outcomes.head?, answer.2.settles = true

theorem record_settles (s : Submission) {now : ℤ} {row : PrintJob} {outcome : Outcome}
    (lease : row.submitClaimToken = some s.token) (queued : row.status = .queued) (settles : outcome.settles = true) :
    (s.record now outcome row).1.status ≠ .queued ∧ (s.record now outcome row).2 = none := by
  cases acknowledged : outcome.acknowledges with
  | true =>
    refine ⟨(record_known s lease queued acknowledged).2, ?_⟩
    cases outcome with
    | answered response => rfl
    | interrupted failure =>
      rw [Submission.record, if_neg (by simpa [Outcome.acknowledges] using acknowledged)]
    | raised error => rfl
  | false =>
    cases outcome with
    | answered response =>
      have refused : response.statusCode = 400 ∨ response.statusCode = 404 ∨ response.statusCode = 422 := by
        simpa [Outcome.settles, acknowledged] using settles
      have planned : ∃ message, response.plan now s.attempts =
          .persist (terminalFailureValues now s.attempts message) := by
        unfold Response.plan
        obtain code | code | code := refused <;> rw [code] <;> exact ⟨_, rfl⟩
      obtain ⟨message, planned⟩ := planned
      refine ⟨?_, rfl⟩
      simp only [Submission.record, Submission.recordAnswer, planned]
      rw [persistState_queued .failed lease queued rfl (by decide)]
      exact Status.noConfusion
    | interrupted failure | raised error => simp [Outcome.settles, acknowledged] at settles

theorem actionSubmit_settles {now : ℤ} {attempt : Attempt} {row : PrintJob} (due : row.Due now)
    (settles : attempt.Settles row) : (row.actionSubmit attempt).status ≠ .queued := by
  obtain ⟨enabled, guard, ⟨now', outcome⟩, first, settles⟩ := settles
  obtain ⟨rest, outcomes⟩ := List.head?_eq_some_iff.mp first
  obtain ⟨settled, ended⟩ := @record_settles ⟨attempt.token, row.attempts, 0, [row.printerId], false⟩ now'
    ((PrintJob.claimSubmissionLease attempt.now attempt.token).set row) outcome rfl due.1 settles
  rw [PrintJob.actionSubmit, if_neg (by simp [enabled]), if_neg (by simp [guard.1]),
    if_neg (by simp [due.1, Status.isTerminal]), Update.exec_eq_some_iff.mpr ⟨guard, rfl⟩]
  dsimp only
  rw [outcomes, Submission.loop]
  split
  · next row' same =>
    rw [same] at settled
    exact settled
  · next row' next same =>
    rw [same] at ended
    cases ended

/-! ### Runs for ever -/

namespace CronHistory

variable (h : CronHistory) {id n k : ℕ}

theorem waits_iff : h.Waits id n ↔ id ∈ dueIds (h.now n) (h.table n) := mem_dueIds.symm

theorem attempted_iff : h.Attempted id n ↔ h.Waits id n ∧ h.olderDue id n < 25 := by
  rw [waits_iff]
  exact mem_jobIds

/-- The ids below one that are queued, or may still come to be. -/
def Live (id n older : ℕ) : Prop := older < id ∧
  ((∃ row, (h.table n).find? older = some row ∧ row.status = .queued) ∨ ∀ m ≤ n, (h.table m).find? older = none)

/-- An id that is live after a run was live before it. -/
theorem live_of_succ {older : ℕ} (live : h.Live id (n + 1) older) : h.Live id n older := by
  obtain ⟨below, ⟨row, found, queued⟩ | absent⟩ := live
  · refine ⟨below, ?_⟩
    rcases h.interim n older row found queued with ⟨after, stored, stillQueued⟩ | fresh
    · left
      rw [find?_cronSubmitPending] at stored
      obtain ⟨before, found, rfl⟩ := Option.map_eq_some_iff.mp stored
      split at stillQueued
      · next selected =>
        obtain ⟨row, found', due⟩ := mem_dueIds.mp (mem_jobIds.mp selected).1
        exact ⟨row, found', due.1⟩
      · exact ⟨before, found, stillQueued⟩
    · exact .inr fresh
  · exact ⟨below, .inr fun m early => absent m (by omega)⟩

/-- A run that settles an older row which it submits makes its id no longer live. -/
theorem not_live_succ {older : ℕ} (settles : h.SettlesOlder id n) (selected : older ∈ jobIds (h.now n) (h.table n))
    (below : older < id) : ¬h.Live id (n + 1) older := by
  obtain ⟨row, found, due⟩ := mem_dueIds.mp (mem_jobIds.mp selected).1
  have present : ¬∀ m ≤ n, (h.table m).find? older = none := fun absent => by simp [absent n le_rfl] at found
  rintro ⟨-, ⟨after, found', queued⟩ | absent⟩
  · rcases h.interim n older after found' queued with ⟨before, stored, stillQueued⟩ | fresh
    · rw [find?_cronSubmitPending, found, Option.map_some, if_pos selected] at stored
      cases stored
      exact settles older selected below row found stillQueued
    · exact present fresh
  · exact present fun m early => absent m (by omega)

open Classical in
/-- How many older ids are live. -/
noncomputable def rank (id n : ℕ) : ℕ := ((Finset.range id).filter (h.Live id n)).card

theorem rank_lt (settles : h.SettlesOlder id n) (waits : h.Waits id n) (passed : ¬h.Attempted id n) :
    h.rank id (n + 1) < h.rank id n := by
  classical
  obtain ⟨older, selected, below⟩ := exists_older (h.waits_iff.mp waits) passed
  obtain ⟨row, found, due⟩ := mem_dueIds.mp (mem_jobIds.mp selected).1
  refine Finset.card_lt_card (Finset.ssubset_iff_of_subset ?_ |>.mpr ⟨older, ?_, ?_⟩)
  · intro other member
    obtain ⟨inRange, live⟩ := Finset.mem_filter.mp member
    exact Finset.mem_filter.mpr ⟨inRange, h.live_of_succ live⟩
  · exact Finset.mem_filter.mpr ⟨Finset.mem_range.mpr below, below, .inl ⟨row, found, due.1⟩⟩
  · exact fun member => h.not_live_succ settles selected below (Finset.mem_filter.mp member).2

/-- The Gateway's answers settle the older rows that the run submits. -/
def AnswersOlder (id n : ℕ) : Prop := ∀ older ∈ jobIds (h.now n) (h.table n), older < id →
  ∀ row, (h.table n).find? older = some row → (h.attempts n older).Settles row

theorem AnswersOlder.settlesOlder {h : CronHistory} (answers : h.AnswersOlder id n) : h.SettlesOlder id n := by
  intro older selected below row found
  obtain ⟨row', found', due⟩ := mem_dueIds.mp (mem_jobIds.mp selected).1
  obtain rfl := Option.some.inj (found'.symm.trans found)
  exact actionSubmit_settles due (answers older selected below _ found)

/-- The row does not wait for ever from a run on. -/
def Served (id k : ℕ) : Prop := ∃ n ≥ k, ¬h.Waits id n ∨ h.Attempted id n

/-- A row waits for ever exactly when at least 25 older rows are due at every run, and it does not when
from some run on every older row that is submitted leaves the queue, as it does after an answer that settles it. -/
theorem served_iff (h : CronHistory) (id k : ℕ) : (h.Served id k ↔ ∃ n ≥ k, h.Waits id n → h.olderDue id n < 25) ∧
      ((∃ N, ∀ n ≥ N, h.SettlesOlder id n) → h.Served id k) ∧
      ((∃ N, ∀ n ≥ N, h.AnswersOlder id n) → h.Served id k) := by
  have served : (∃ N, ∀ n ≥ N, h.SettlesOlder id n) → h.Served id k := by
    rintro ⟨N, settles⟩
    obtain ⟨m, after, served⟩ := @exists_of_rank (fun n => ¬h.Waits id n ∨ h.Attempted id n)
      (h.rank id) N (fun n later => by
        by_cases waits : h.Waits id n
        · by_cases attempted : h.Attempted id n
          · exact ⟨n, le_rfl, .inl (.inr attempted)⟩
          · exact ⟨n + 1, by omega, .inr (h.rank_lt (settles n later) waits attempted)⟩
        · exact ⟨n, le_rfl, .inl (.inl waits)⟩) (max k N) (le_max_right _ _)
    exact ⟨m, le_trans (le_max_left _ _) after, served⟩
  refine ⟨?_, served, fun ⟨N, answers⟩ => served ⟨N, fun n later => (answers n later).settlesOlder⟩⟩
  refine exists_congr fun n => and_congr_right fun _ => ?_
  rw [attempted_iff]
  tauto

/-- A history in which nobody but the cron touches the table. -/
def undisturbed (start : OutboxTable) (now : ℕ → ℤ) (attempts : ℕ → ℕ → Attempt)
    (later : ∀ n, now n ≤ now (n + 1)) : CronHistory where
  now := now
  table n := n.rec start fun n table => cronSubmitPending (now n) (attempts n) table
  attempts := attempts
  later := later
  interim _ _ row found queued := .inl ⟨row, found, queued⟩

/-- A run every minute. -/
def everyMinute (n : ℕ) : ℤ := seconds (60 * n)

theorem everyMinute_succ (n : ℕ) : everyMinute (n + 1) = everyMinute n + seconds 60 := by
  simp only [everyMinute, seconds]
  push_cast
  omega

theorem everyMinute_le (n : ℕ) : everyMinute n ≤ everyMinute (n + 1) := by
  rw [everyMinute_succ]
  simp only [seconds]
  omega

/-- HTTP 429 with `Retry-After: 5`. -/
def tooManyRequests : Response where
  statusCode := 429
  code := []
  error := []
  retryAfter := some 5
  upgradeRequired := false
  entitlement := []
  limit := 0
  used := none
  body := none

/-- The Gateway throttles a submission. -/
def throttle (now : ℤ) : Attempt := ⟨true, now, 0, [(now, .answered tooManyRequests)]⟩

/-- A table of new rows. -/
def freshTable (count : ℕ) : OutboxTable where
  entries := (List.range' 1 count).map fun id => (id, .created 0 "printer" "desk")
  distinct := by simpa [List.map_map, Function.comp_def] using List.nodup_range'

def throttled (count : ℕ) : CronHistory :=
  undisturbed (freshTable count) everyMinute (fun n _ => throttle (everyMinute n)) everyMinute_le

/-- The last row of a run. -/
theorem served_iff_last : (throttled 25).Waits 25 0 ∧ (throttled 25).olderDue 25 0 = 24 ∧ (throttled 25).Served 25 0 := by
  have older : (throttled 25).olderDue 25 0 = 24 := by decide +kernel
  refine ⟨⟨_, rfl, by decide⟩, older, (served_iff (throttled 25) 25 0).1.mpr ⟨0, le_rfl, fun _ => ?_⟩⟩
  rw [older]
  decide

/-- A row that the cron submits again and again. -/
structure Parked (now : ℤ) (row : PrintJob) : Prop where
  due : row.Due now
  unsent : row.gatewayJobId = none
  free : row.submitClaimToken = none

theorem Parked.actionSubmit {now : ℤ} {row : PrintJob} (parked : Parked now row) :
    Parked (now + seconds 60) (row.actionSubmit (throttle now)) := by
  obtain ⟨⟨queued, -⟩, unsent, free⟩ := parked
  have active : row.status.isTerminal = false := by simp [queued, Status.isTerminal]
  have leased : (PrintJob.claimSubmissionLease now 0).exec row =
      some { row with submitClaimToken := some 0, submitClaimedAt := some now } :=
    Update.exec_eq_some_iff.mpr ⟨⟨unsent, active, .inl free⟩, rfl⟩
  have recorded : row.actionSubmit (throttle now) =
      ({ row with submitClaimToken := some 0, submitClaimedAt := some now } : PrintJob).assign now
        { tooManyRequests.throttled now row.attempts with releaseClaim := true } := by
    simp [PrintJob.actionSubmit, throttle, unsent, Status.isTerminal, leased, Submission.loop, Submission.record,
      Submission.recordAnswer, Response.plan, tooManyRequests, Submission.caught, PrintJob.persistState,
      PrintJob.write, Response.throttled, queued, PrintJob.stored, Except.map]
  rw [recorded]
  refine ⟨⟨rfl, ?_⟩, unsent, rfl⟩
  simp [PrintJob.assign, Response.throttled, tooManyRequests, Response.clampedRetryAfter, seconds]

theorem Parked.later {now now' : ℤ} {row : PrintJob} (parked : Parked now row) (later : now ≤ now') :
    Parked now' row := by
  obtain ⟨⟨queued, passed⟩, unsent, free⟩ := parked
  refine ⟨⟨queued, ?_⟩, unsent, free⟩
  cases date : row.nextRetryAt with
  | none => rfl
  | some due =>
    rw [date] at passed
    simp only [Option.all_some, decide_eq_true_eq] at passed ⊢
    omega

theorem find?_freshTable {count id : ℕ} (positive : 1 ≤ id) (small : id ≤ count) :
    (freshTable count).find? id = some (.created 0 "printer" "desk") := by
  refine Keyed.find?_eq_some_iff.mpr (List.mem_map.mpr ⟨id, ?_, rfl⟩)
  simp
  omega

theorem parked_throttled (n : ℕ) {id : ℕ} (positive : 1 ≤ id) (small : id ≤ 25) :
    ∃ row, ((throttled 26).table n).find? id = some row ∧ Parked (everyMinute n) row := by
  induction n with
  | zero => exact ⟨_, find?_freshTable positive (by omega), ⟨rfl, by decide⟩, rfl, rfl⟩
  | succ n ih =>
    obtain ⟨row, found, parked⟩ := ih
    have next : ((throttled 26).table (n + 1)).find? id = _ :=
      (find?_cronSubmitPending id).trans (congrArg _ found)
    rw [next, Option.map_some]
    refine ⟨_, rfl, ?_⟩
    split
    · rw [everyMinute_succ]
      exact parked.actionSubmit
    · exact parked.later (everyMinute_le n)

theorem le_olderDue_throttled (n : ℕ) : 25 ≤ (throttled 26).olderDue 26 n := by
  have listed : List.range' 1 25 ⊆
      (dueIds (everyMinute n) ((throttled 26).table n)).filter (· < 26) := by
    intro id member
    obtain ⟨positive, small⟩ := List.mem_range'_1.mp member
    obtain ⟨row, found, parked⟩ := parked_throttled n positive (by omega)
    exact List.mem_filter.mpr ⟨mem_dueIds.mpr ⟨row, found, parked.due⟩, decide_eq_true (by omega)⟩
  exact (List.subperm_of_subset List.nodup_range' listed).length_le

/-- With 25 older rows that the Gateway throttles and a run every minute, a due row is never submitted. -/
theorem exists_starved : ∃ (h : CronHistory) (id : ℕ), (∀ n, h.now (n + 1) = h.now n + seconds 60) ∧
    (∀ n older, older < id → h.attempts n older = throttle (h.now n)) ∧ h.Waits id 0 ∧ ¬h.Served id 0 := by
  have passed (n : ℕ) : ¬(throttled 26).Attempted 26 n := fun attempted => by
    have few := ((throttled 26).attempted_iff.mp attempted).2
    have := le_olderDue_throttled n
    omega
  have waiting (n : ℕ) : ((throttled 26).table n).find? 26 = some (.created 0 "printer" "desk") := by
    induction n with
    | zero => exact find?_freshTable (by omega) le_rfl
    | succ n ih =>
      have next : ((throttled 26).table (n + 1)).find? 26 = _ :=
        (find?_cronSubmitPending 26).trans (congrArg _ ih)
      rw [next, Option.map_some]
      exact congrArg some (if_neg (passed n))
  have due (n : ℕ) : (throttled 26).Waits 26 n := by
    refine ⟨_, waiting n, rfl, ?_⟩
    have past : 0 ≤ everyMinute n := by
      simp only [everyMinute, seconds]
      omega
    exact decide_eq_true past
  refine ⟨throttled 26, 26, everyMinute_succ, fun _ _ _ => rfl, due 0, ?_⟩
  rintro ⟨n, -, gone | attempted⟩
  · exact gone (due n)
  · exact passed n attempted

end CronHistory

end PrintGateway.Odoo
