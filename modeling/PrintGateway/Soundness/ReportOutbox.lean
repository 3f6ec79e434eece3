import PrintGateway.Machine.Liveness
import PrintGateway.Model.Agent.ReportOutbox

/-!
# Starvation in the outbox

A pass takes the oldest rows of the outbox, and a rejection changes neither a row nor its place.  While
fewer rows than one pass takes are rejected, every pass moves some older row out of the way: it is
acknowledged, or rejected for the first time.  Rows written later come later, so every row has its turn.
Once the rejected rows fill a pass, everything behind them waits for ever.
-/

namespace PrintGateway.Agent

open Machine

/-! ### One step -/

variable {row : LedgerRow} {report : TerminalReport} {id : Text} {s s' : OutboxState}
  {event : OutboxEvent} {horizon : ℤ}

theorem of_terminalReport (pending : terminalReport id row = some report) :
    report.id = id ∧ row.isTerminal = true ∧ row.claimToken = some report.claimToken := by
  unfold terminalReport at pending
  split at pending
  · rename_i terminal
    obtain ⟨token, stored, rfl⟩ := Option.map_eq_some_iff.mp pending
    exact ⟨rfl, terminal, stored⟩
  · cases pending

/-- A statement leaves a row alone, stamps it, or takes it out of the outbox. -/
def Settled (now : ℤ) (id : Text) (before : Option LedgerRow) (row : LedgerRow) : Prop :=
  before = some row ∨ row.updatedAt = now ∨ terminalReport id row = none

theorem settled_of_update {now : ℤ} (u : Update LedgerRow)
    (stamps : (u.set row).updatedAt = now ∨ terminalReport id (u.set row) = none) :
    Settled now id (some row) (u.next row) := by
  rcases Update.next_cases u row with ⟨-, assigned⟩ | missed
  · rw [assigned]
    exact .inr stamps
  · rw [missed]
    exact .inl rfl

theorem terminalReport_eq_none (cleared : row.claimToken = none) : terminalReport id row = none := by
  unfold terminalReport
  rw [cleared]
  split <;> rfl

theorem settled_write {now : ℤ} {write : LedgerWrite} {before : Option LedgerRow}
    (written : write.next now before = some row) : Settled now id before row := by
  cases write with
  | reserveBeforeDispatch token =>
    cases written
    unfold reserveBeforeDispatch
    cases before with
    | none => exact .inr (.inl rfl)
    | some row =>
      dsimp only [Option.getD_some]
      repeat' split
      all_goals first | exact .inr (.inl rfl) | exact .inl rfl
  | beginPrint token allowUnknownReprint =>
    simp only [LedgerWrite.next] at written
    split at written
    · rename_i begun
      cases written
      unfold beginPrint at begun
      dsimp only at begun
      repeat' split at begun
      all_goals cases begun
      all_goals exact .inr (.inl rfl)
    · exact .inl written
  | abortPrint reason | recordSpoolerJobId spoolerJobId | clearPreDispatchClaim token =>
    obtain ⟨row, rfl, rfl⟩ := Option.map_eq_some_iff.mp written
    exact settled_of_update _ (.inl rfl)
  | updateStatusWithError status message =>
    obtain ⟨row, rfl, rfl⟩ := Option.map_eq_some_iff.mp written
    exact .inr (.inl rfl)
  | updateTerminalWithEvidence status message spoolerJobId =>
    simp only [LedgerWrite.next] at written
    split at written
    · obtain ⟨row, rfl, rfl⟩ := Option.map_eq_some_iff.mp written
      exact .inr (.inl rfl)
    · exact .inl written
  | clearClaimToken token =>
    obtain ⟨row, rfl, rfl⟩ := Option.map_eq_some_iff.mp written
    exact settled_of_update _ (.inr (terminalReport_eq_none rfl))

/-- What every step keeps. -/
structure OutboxStep (s s' : OutboxState) : Prop where
  clock : s.clock ≤ s'.clock
  rejected : ∀ report ∈ s.rejected, report ∈ s'.rejected
  rows : ∀ id row, s'.ledger.find? id = some row → Settled s'.clock id (s.ledger.find? id) row

theorem outboxStep (step : s.step event = some s') : OutboxStep s s' := by
  cases event with
  | write now id write =>
    obtain ⟨later, same⟩ := Option.ite_none_right_eq_some.mp step
    cases same
    refine ⟨later, fun _ kept => kept, fun other row found => ?_⟩
    dsimp only [LedgerTable.write] at found ⊢
    split at found
    · rename_i written next
      by_cases equal : other = id
      · subst equal
        rw [Keyed.find?_put_self] at found
        cases found
        exact settled_write next
      · rw [Keyed.find?_put_of_ne _ _ equal] at found
        exact .inl found
    · exact .inl found
  | cleanup now cleanup =>
    obtain ⟨later, same⟩ := Option.ite_none_right_eq_some.mp step
    cases same
    exact ⟨later, fun _ kept => kept, fun id row found => .inl (Keyed.find?_filter_eq_some_iff.mp found).1⟩
  | restart now =>
    obtain ⟨later, same⟩ := Option.ite_none_right_eq_some.mp step
    cases same
    refine ⟨later, fun _ kept => kept, fun id row found => ?_⟩
    rw [Keyed.find?_update] at found
    obtain ⟨before, stored, rfl⟩ := Option.map_eq_some_iff.mp found
    rw [stored]
    exact settled_of_update _ (.inl rfl)
  | scan now marked =>
    obtain ⟨⟨later, -⟩, same⟩ := Option.ite_none_right_eq_some.mp step
    cases same
    exact ⟨later, fun _ kept => kept, fun id row found => .inl found⟩
  | report acknowledged =>
    simp only [OutboxState.step] at step
    split at step
    · cases step
    rename_i report sending queued
    split at step
    · split at step
      · cases step
      cases step
      refine ⟨le_rfl, fun _ kept => kept, fun id row found => ?_⟩
      dsimp only [LedgerTable.acknowledge] at found
      rw [Keyed.find?_update] at found
      obtain ⟨before, stored, rfl⟩ := Option.map_eq_some_iff.mp found
      rw [stored]
      split
      · exact settled_of_update _ (.inr (terminalReport_eq_none rfl))
      · exact .inl rfl
    · cases step
      exact ⟨le_rfl, fun _ kept => List.mem_cons_of_mem _ kept, fun id row found => .inl found⟩

/-- The first report of the queue was sent: its row is out of the outbox, or it is rejected. -/
theorem sent_of_report {acknowledged : Bool} {sending : List TerminalReport}
    (step : s.step (.report acknowledged) = some s') (first : s.sending = report :: sending) {id : Text}
    {row : LedgerRow} (pending : terminalReport id row = some report) :
    report ∈ s'.rejected ∨ s'.ledger.find? id ≠ some row := by
  simp only [OutboxState.step, first] at step
  split at step
  · split at step
    · cases step
    cases step
    refine .inr fun found => ?_
    obtain ⟨same, terminal, stored⟩ := of_terminalReport pending
    dsimp only [LedgerTable.acknowledge] at found
    rw [Keyed.find?_update] at found
    obtain ⟨before, -, after⟩ := Option.map_eq_some_iff.mp found
    rw [if_pos same.symm] at after
    by_cases matched : (clearClaimToken report.claimToken).guard before
    · rw [Update.next_of_guard matched] at after
      rw [← after] at stored
      cases stored
    · rw [Update.next_of_not_guard matched] at after
      subst after
      exact matched ⟨terminal, stored⟩
  · cases step
    exact .inl List.mem_cons_self

/-- A queued report stays in the queue until it is sent, or the process ends. -/
theorem queued_step (step : s.step event = some s') (queued : report ∈ s.sending)
    (runs : ∀ now, event ≠ .restart now) : report ∈ s'.sending ∨
      ∃ acknowledged sending, event = .report acknowledged ∧ s.sending = report :: sending := by
  cases event with
  | write now id write | cleanup now cleanup =>
    obtain ⟨-, same⟩ := Option.ite_none_right_eq_some.mp step
    cases same
    exact .inl queued
  | restart now => exact absurd rfl (runs now)
  | scan now marked =>
    obtain ⟨⟨-, idle, -⟩, -⟩ := Option.ite_none_right_eq_some.mp step
    rw [idle] at queued
    cases queued
  | report acknowledged =>
    cases sending : s.sending with
    | nil =>
      rw [sending] at queued
      cases queued
    | cons head rest =>
      rw [sending] at queued
      rcases List.mem_cons.mp queued with rfl | queued
      · exact .inr ⟨acknowledged, rest, rfl, rfl⟩
      · simp only [OutboxState.step, sending] at step
        repeat' split at step
        all_goals cases step
        all_goals exact .inl queued

/-! ### The rows in front -/

/-- The rows of the outbox up to an instant that were not rejected yet. -/
def waiting (horizon : ℤ) (s : OutboxState) : List (Text × LedgerRow) :=
  s.ledger.entries.filter fun entry =>
    decide (entry.2.updatedAt ≤ horizon) &&
      (terminalReport entry.1 entry.2).any fun report => decide (report ∉ s.rejected)

theorem mem_waiting {entry : Text × LedgerRow} :
    entry ∈ waiting horizon s ↔ s.ledger.find? entry.1 = some entry.2 ∧ entry.2.updatedAt ≤ horizon ∧
      ∃ report, terminalReport entry.1 entry.2 = some report ∧ report ∉ s.rejected := by
  rw [waiting, List.mem_filter, Keyed.find?_eq_some_iff, Bool.and_eq_true_iff, decide_eq_true_iff, Option.any_eq_true]
  simp only [decide_eq_true_iff]

theorem nodup_waiting (horizon : ℤ) (s : OutboxState) : (waiting horizon s).Nodup :=
  (List.Nodup.of_map _ s.ledger.distinct).filter _

/-- Nothing is added in front of an instant that has passed. -/
theorem waiting_subset (step : OutboxStep s s') (past : horizon < s.clock) :
    waiting horizon s' ⊆ waiting horizon s := by
  intro entry listed
  obtain ⟨found, old, report, pending, fresh⟩ := mem_waiting.mp listed
  refine mem_waiting.mpr ⟨?_, old, report, pending, fun rejected => fresh (step.rejected report rejected)⟩
  rcases step.rows _ _ found with same | stamped | none
  · exact same
  · have := step.clock
    omega
  · cases none.symm.trans pending

section Execution

variable (run : reportOutbox.Execution)

variable {n m first last : ℕ} {report : TerminalReport} {marked : List ((Text × LedgerRow) × Bool)}

theorem clock_le (later : n ≤ m) : (run.state n).clock ≤ (run.state m).clock := by
  induction m, later using Nat.le_induction with
  | base => exact le_rfl
  | succ m _ ih => exact ih.trans (outboxStep (run.step m)).clock

theorem waiting_subset_of_le {horizon : ℤ} (later : n ≤ m) (past : horizon < (run.state n).clock) :
    waiting horizon (run.state m) ⊆ waiting horizon (run.state n) := by
  induction m, later using Nat.le_induction with
  | base => exact List.Subset.refl _
  | succ m later ih =>
    have passed := past.trans_le (clock_le run later)
    exact fun entry listed => ih (waiting_subset (outboxStep (run.step m)) passed listed)

/-- The report is sent at the moment. -/
def Attempted (report : TerminalReport) (n : ℕ) : Prop :=
  ∃ acknowledged sending, run.event n = .report acknowledged ∧ (run.state n).sending = report :: sending

/-- A pass from its scan to its last report, without a restart in between. -/
structure CompletedPass (first last : ℕ) : Prop where
  scanned : ∃ now marked, run.event first = .scan now marked
  later : first < last
  undisturbed : ∀ n, first ≤ n → n < last → ∀ now, run.event n ≠ .restart now
  finished : (run.state last).sending = []

/-- What is in the queue of a pass is sent before the pass ends. -/
theorem attempted_or_queued (later : n ≤ m)
    (undisturbed : ∀ k, n ≤ k → k < m → ∀ now, run.event k ≠ .restart now)
    (queued : report ∈ (run.state n).sending) :
    (∃ k, n ≤ k ∧ k < m ∧ Attempted run report k) ∨ report ∈ (run.state m).sending := by
  induction m, later using Nat.le_induction with
  | base => exact .inr queued
  | succ m later ih =>
    rcases ih (fun k after before => undisturbed k after (before.trans m.lt_succ_self)) with
      ⟨k, after, before, attempted⟩ | queued
    · exact .inl ⟨k, after, before.trans m.lt_succ_self, attempted⟩
    · rcases queued_step (run.step m) queued (undisturbed m later m.lt_succ_self) with queued | attempted
      · exact .inr queued
      · exact .inl ⟨m, later, m.lt_succ_self, attempted⟩

theorem mem_pendingTerminalReports {entry : Text × LedgerRow} (taken : (entry, true) ∈ marked)
    (pending : terminalReport entry.1 entry.2 = some report) : report ∈ pendingTerminalReports marked := by
  refine List.mem_filterMap.mpr ⟨entry, (List.mem_insertionSort _).mpr ?_, pending⟩
  exact List.mem_map.mpr ⟨(entry, true), List.mem_filter.mpr ⟨taken, rfl⟩, rfl⟩

/-- The Gateway has rejected the report of the row. -/
def rejectedBy (s : OutboxState) (entry : Text × LedgerRow) : Bool :=
  (terminalReport entry.1 entry.2).any fun report => decide (report ∈ s.rejected)

/-- A scan takes the row, or some row in front of it that was not rejected yet. -/
theorem exists_of_scan {s : OutboxState} {id : Text} {row : LedgerRow} (scans : Scans s.ledger marked)
    (few : s.ledger.entries.countP (rejectedBy s) < reportLimit) (stored : s.ledger.find? id = some row)
    (pending : terminalReport id row = some report) : report ∈ pendingTerminalReports marked ∨
      ∃ entry ∈ waiting row.updatedAt s, ∃ report, terminalReport entry.1 entry.2 = some report ∧
        report ∈ pendingTerminalReports marked := by
  obtain ⟨same, batch⟩ := scans
  obtain ⟨⟨_, taken⟩, member, rfl⟩ := List.mem_map.mp (same ▸ Keyed.mem_of_find?_eq_some stored)
  cases taken with
  | true => exact .inl (mem_pendingTerminalReports member pending)
  | false =>
    have matched : Pending (id, row) := by
      rw [Pending, pending]
      rfl
    obtain ⟨full, first⟩ := batch.full_of_left member matched rfl
    -- the batch is full, and too few rows are rejected to fill it
    obtain ⟨⟨entry, taken⟩, inside, fresh, rfl⟩ : ∃ m ∈ marked, rejectedBy s m.1 = false ∧ m.2 = true := by
      by_contra all
      have all : ∀ m ∈ marked, m.2 = true → rejectedBy s m.1 = true := fun m inside taken =>
        eq_true_of_ne_false fun fresh => all ⟨m, inside, fresh, taken⟩
      have filled : marked.countP (·.2) ≤ (marked.map Prod.fst).countP (rejectedBy s) := by
        rw [List.countP_map]
        exact List.countP_mono_left all
      rw [full, same] at filled
      omega
    obtain ⟨report', pending'⟩ := Option.isSome_iff_exists.mp (batch.sound _ inside rfl)
    have listed : entry ∈ s.ledger.entries := same ▸ List.mem_map.mpr ⟨_, inside, rfl⟩
    refine .inr ⟨entry, mem_waiting.mpr ⟨Keyed.find?_eq_some_iff.mpr listed, first _ inside rfl, report',
      pending', ?_⟩, report', pending', mem_pendingTerminalReports inside pending'⟩
    rw [rejectedBy, pending'] at fresh
    exact of_decide_eq_false fresh

/-! ### Progress -/

/-- What a completed pass scanned is sent by it. -/
theorem CompletedPass.attempts {run : reportOutbox.Execution} (pass : CompletedPass run first last)
    {report : TerminalReport} (queued : report ∈ (run.state (first + 1)).sending) :
    ∃ n, first < n ∧ Attempted run report n := by
  have undisturbed := fun n (after : first + 1 ≤ n) => pass.undisturbed n ((Nat.le_succ _).trans after)
  rcases attempted_or_queued run pass.later undisturbed queued with ⟨n, after, -, attempted⟩ | queued
  · exact ⟨n, after, attempted⟩
  · rw [pass.finished] at queued
    cases queued

theorem CompletedPass.scan {run : reportOutbox.Execution} (pass : CompletedPass run first last) :
    ∃ marked, Scans (run.state first).ledger marked ∧
      (run.state (first + 1)).sending = pendingTerminalReports marked := by
  obtain ⟨now, marked, event⟩ := pass.scanned
  have step := run.step first
  rw [event] at step
  obtain ⟨⟨-, -, scans⟩, same⟩ := Option.ite_none_right_eq_some.mp step
  exact ⟨marked, scans, congrArg OutboxState.sending (Option.some.inj same).symm⟩

/-- A pass that does not take the row moves some row in front of it out of the way. -/
theorem CompletedPass.drops {run : reportOutbox.Execution} (pass : CompletedPass run first last)
    (few : (run.state first).ledger.entries.countP (rejectedBy (run.state first)) < reportLimit) {id : Text}
    {row : LedgerRow} {report : TerminalReport} (stored : (run.state first).ledger.find? id = some row)
    (pending : terminalReport id row = some report) (past : row.updatedAt < (run.state first).clock) :
    ∃ n, first < n ∧ (Attempted run report n ∨
      (waiting row.updatedAt (run.state n)).length < (waiting row.updatedAt (run.state first)).length) := by
  obtain ⟨marked, scans, queue⟩ := pass.scan
  rcases exists_of_scan scans few stored pending with queued | ⟨entry, front, other, pendingOther, queued⟩
  · obtain ⟨n, after, attempted⟩ := pass.attempts (queue ▸ queued)
    exact ⟨n, after, .inl attempted⟩
  · obtain ⟨n, after, acknowledged, sending, event, head⟩ := pass.attempts (queue ▸ queued)
    refine ⟨n + 1, after.trans n.lt_succ_self, .inr ?_⟩
    have step := run.step n
    rw [event] at step
    have gone : entry ∉ waiting row.updatedAt (run.state (n + 1)) := by
      intro listed
      obtain ⟨found, -, report', pending', fresh⟩ := mem_waiting.mp listed
      obtain rfl := Option.some.inj (pendingOther.symm.trans pending')
      rcases sent_of_report step head pendingOther with rejected | changed
      · exact fresh rejected
      · exact changed found
    have subset := waiting_subset_of_le run (after.le.trans n.le_succ) past
    exact ((List.nodup_cons.mpr ⟨gone, nodup_waiting _ _⟩).subperm
      (List.cons_subset.mpr ⟨front, subset⟩)).length_le

/-- No report starves while rejections leave room in a pass: in every execution whose passes keep coming
and in which fewer rows of the outbox than one pass takes are rejected at any time, a row of the outbox
is reported, unless another statement changes it first. -/
theorem pending_report_attempted (run : reportOutbox.Execution)
    (passes : ∀ n, ∃ first last, n ≤ first ∧ CompletedPass run first last)
    (time : ∀ instant, ∃ n, instant < (run.state n).clock)
    (few : ∀ n, (run.state n).ledger.entries.countP (rejectedBy (run.state n)) < reportLimit)
    {n : ℕ} {id : Text} {row : LedgerRow} {report : TerminalReport}
    (stored : (run.state n).ledger.find? id = some row) (pending : terminalReport id row = some report) :
    ∃ m ≥ n, Attempted run report m ∨
      ((run.state m).ledger.find? id = some row ∧ (run.state (m + 1)).ledger.find? id ≠ some row) := by
  obtain ⟨moment, passed⟩ := time row.updatedAt
  have past : ∀ m ≥ max n moment, row.updatedAt < (run.state m).clock := fun m later =>
    passed.trans_le (clock_le run ((le_max_right _ _).trans later))
  have drop : ∀ m ≥ max n moment, ∃ k ≥ m, (Attempted run report k ∨ (run.state k).ledger.find? id ≠ some row) ∨
        (waiting row.updatedAt (run.state k)).length < (waiting row.updatedAt (run.state m)).length := by
    intro m later
    obtain ⟨first, last, after, pass⟩ := passes m
    by_cases kept : (run.state first).ledger.find? id = some row
    · obtain ⟨k, next, attempted | shorter⟩ :=
        pass.drops (few first) kept pending (past first (later.trans after))
      · exact ⟨k, after.trans next.le, .inl (.inl attempted)⟩
      · refine ⟨k, after.trans next.le, .inr (shorter.trans_le ?_)⟩
        exact ((nodup_waiting _ _).subperm (waiting_subset_of_le run after (past m later))).length_le
    · exact ⟨first, after, .inl (.inr kept)⟩
  obtain ⟨m, later, attempted | changed⟩ := exists_of_rank
    (fun m => (waiting row.updatedAt (run.state m)).length) drop _ le_rfl
  · exact ⟨m, (le_max_left _ _).trans later, .inl attempted⟩
  · have later := (le_max_left _ _).trans later
    rcases run.unchanged_or_changes (fun s => s.ledger.find? id) later with same | ⟨k, after, -, same, differs⟩
    · exact absurd (same.trans stored) changed
    · exact ⟨k, after, .inr ⟨same.trans stored, stored ▸ differs⟩⟩

end Execution

/-! ### A rejected job -/

variable {report : TerminalReport} {row : LedgerRow} {s' s : OutboxState}

def sampleJob : Text := "a"

def otherJob : Text := "b"

/-- The row of a job that printed. -/
def printedRow (claimToken : Option Token) (updatedAt : ℤ) : LedgerRow := ⟨.success, some [], claimToken, none, updatedAt⟩

/-- Two jobs are printed, the Gateway rejects the report of the first one and acknowledges the other one, and the
token of the first one is cleared. -/
def sampleStart : List OutboxEvent :=
  [.write 0 otherJob (.reserveBeforeDispatch 8), .write 1 otherJob (.beginPrint 8 false),
    .write 2 otherJob (.updateStatusWithError .success []), .write 3 sampleJob (.reserveBeforeDispatch 7),
    .write 4 sampleJob (.beginPrint 7 false), .write 5 sampleJob (.updateStatusWithError .success []),
    .scan 6 [((otherJob, printedRow (some 8) 2), true), ((sampleJob, printedRow (some 7) 5), true)],
    .report false, .report true, .write 6 otherJob (.clearClaimToken 8)]

/-- The rows after that. -/
def sampleReported : LedgerTable := ⟨[(otherJob, printedRow none 2), (sampleJob, printedRow none 5)], by decide⟩

def sampleStates : ℕ → OutboxState
  | n + 10 => ⟨n + 6, sampleReported, [], [⟨otherJob, .success, [], 8, []⟩]⟩
  | n => ((reportOutbox.run ⟨0, .empty, [], []⟩ (sampleStart.take n)).getD ⟨0, .empty, [], []⟩)

/-- Then the passes find nothing. -/
def sampleEvents : ℕ → OutboxEvent
  | n + 10 => .scan (n + 7) (sampleReported.entries.map fun entry => (entry, false))
  | n => sampleStart.getD n (.report true)

def sampleExecution : reportOutbox.Execution where
  state := sampleStates
  event := sampleEvents
  start := ⟨rfl, rfl, rfl⟩
  step n := by
    match n with
    | 0 | 1 | 2 | 3 | 4 | 5 | 6 | 7 | 8 | 9 => rfl
    | n + 10 =>
      have later : (n + 6 : ℤ) ≤ n + 7 := by omega
      have scans : Scans sampleReported (sampleReported.entries.map fun entry => (entry, false)) := by decide
      have clock : ((n + 1 : ℕ) : ℤ) + 6 = n + 7 := by omega
      refine (if_pos ⟨later, rfl, scans⟩).trans ?_
      change _ = some (⟨((n + 1 : ℕ) : ℤ) + 6, sampleReported, [], [⟨otherJob, .success, [], 8, []⟩]⟩ : OutboxState)
      rw [clock]
      rfl

/-- The report behind the rejected one. -/
theorem pending_report_attempted_behind : ∃ m ≥ 6, Attempted sampleExecution ⟨sampleJob, .success, [], 7, []⟩ m ∨
      ((sampleExecution.state m).ledger.find? sampleJob = some (printedRow (some 7) 5) ∧
        (sampleExecution.state (m + 1)).ledger.find? sampleJob ≠ some (printedRow (some 7) 5)) := by
  refine pending_report_attempted sampleExecution (fun n => ⟨n + 10, n + 11, by omega, ?_⟩)
    (fun instant => ⟨instant.toNat + 10, ?_⟩) (fun n => ?_) rfl rfl
  · refine ⟨⟨_, _, rfl⟩, Nat.lt_succ_self _, ?_, rfl⟩
    intro k after before now
    obtain rfl : k = n + 10 := by omega
    exact OutboxEvent.noConfusion
  · change instant < (instant.toNat : ℤ) + 6
    omega
  · refine lt_of_le_of_lt (List.countP_le_length) ?_
    match n with
    | 0 | 1 | 2 | 3 | 4 | 5 | 6 | 7 | 8 | 9 => decide
    | n + 10 =>
      change 2 < reportLimit
      decide

/-! ### A full pass of rejections -/

/-- A step of passes that are rejected throughout. -/
def RejectedPass : OutboxEvent → Prop
  | .scan _ _ | .report false => True
  | .write _ _ _ | .cleanup _ _ | .restart _ | .report true => False

def isScan : OutboxEvent → Bool
  | .scan _ _ => true
  | .write _ _ _ | .cleanup _ _ | .restart _ | .report _ => false

/-- No scan takes a row behind as many others as one takes. -/
theorem not_scanned_of_behind {ledger : LedgerTable} {marked : List ((Text × LedgerRow) × Bool)} {id : Text}
    (scans : Scans ledger marked) (stored : ledger.find? id = some row)
    (pending : terminalReport id row = some report)
    (behind : reportLimit ≤ ledger.entries.countP fun entry => Pending entry ∧ entry.2.updatedAt < row.updatedAt) :
    report ∉ pendingTerminalReports marked := by
  intro queued
  obtain ⟨entry, member, reported⟩ := List.mem_filterMap.mp queued
  obtain ⟨⟨entry', taken⟩, inside, rfl⟩ := List.mem_map.mp ((List.mem_insertionSort _).mp member)
  obtain ⟨inside, rfl⟩ := List.mem_filter.mp inside
  obtain ⟨same, batch⟩ := scans
  have found : ledger.find? entry'.1 = some entry'.2 :=
    Keyed.find?_eq_some_iff.mpr (same ▸ List.mem_map.mpr ⟨_, inside, rfl⟩)
  rw [← (of_terminalReport reported).1, (of_terminalReport pending).1] at found
  obtain rfl := Option.some.inj (stored.symm.trans found)
  rw [← same, List.countP_map] at behind
  cases batch.left_of_behind inside behind

theorem rejected_step (step : s.step (.report false) = some s') : ∃ report sending, s.sending = report :: sending ∧
      s' = { s with sending, rejected := report :: s.rejected } := by
  simp only [OutboxState.step] at step
  split at step
  · cases step
  · rename_i report sending queue
    cases step
    exact ⟨report, sending, queue, rfl⟩

/-- Behind as many rejected rows as a pass takes, a report is never sent. -/
theorem starved_of_behind {id : Text} (stored : s.ledger.find? id = some row)
    (pending : terminalReport id row = some report)
    (behind : reportLimit ≤ s.ledger.entries.countP fun entry => Pending entry ∧ entry.2.updatedAt < row.updatedAt)
    (idle : report ∉ s.sending) {events : List OutboxEvent}
    (rejected : ∀ event ∈ events, RejectedPass event) (ran : reportOutbox.run s events = some s') :
    s'.ledger = s.ledger ∧ report ∉ s'.sending := by
  induction events generalizing s with
  | nil =>
    cases ran
    exact ⟨rfl, idle⟩
  | cons event events ih =>
    obtain ⟨next, step, rest⟩ := Option.bind_eq_some_iff.mp ran
    have pass := rejected event List.mem_cons_self
    have others := fun other member => rejected other (List.mem_cons_of_mem event member)
    obtain ⟨same, unsent⟩ : next.ledger = s.ledger ∧ report ∉ next.sending := by
      cases event with
      | write now id write => cases pass
      | cleanup now cleanup => cases pass
      | restart now => cases pass
      | scan now marked =>
        obtain ⟨⟨-, -, scans⟩, same⟩ := Option.ite_none_right_eq_some.mp step
        cases same
        exact ⟨rfl, not_scanned_of_behind scans stored pending behind⟩
      | report acknowledged =>
        cases acknowledged with
        | true => cases pass
        | false =>
          obtain ⟨head, sending, queue, rfl⟩ := rejected_step step
          rw [queue] at idle
          exact ⟨rfl, fun queued => idle (List.mem_cons_of_mem _ queued)⟩
    rw [← same] at stored behind ⊢
    exact ih stored behind unsent others rest

/-- A pass in which everything is rejected comes to its end. -/
theorem exists_rejected_rest (s : OutboxState) : ∃ s', s'.sending = [] ∧
      reportOutbox.run s (List.replicate s.sending.length (.report false)) = some s' := by
  induction queue : s.sending generalizing s with
  | nil => exact ⟨s, queue, rfl⟩
  | cons report sending ih =>
    obtain ⟨s', finished, ran⟩ := ih { s with sending, rejected := report :: s.rejected } rfl
    refine ⟨s', finished, Option.bind_eq_some_iff.mpr ⟨_, ?_, ran⟩⟩
    simp only [reportOutbox, OutboxState.step, queue]
    rfl

/-- Passes go on, whatever was rejected. -/
theorem exists_rejected_passes (s : OutboxState) (idle : s.sending = []) (count : ℕ) :
    ∃ events s', (∀ event ∈ events, RejectedPass event) ∧ events.countP isScan = count ∧
      reportOutbox.run s events = some s' := by
  induction count generalizing s with
  | zero => exact ⟨[], s, nofun, rfl, rfl⟩
  | succ count ih =>
    obtain ⟨marked, scans⟩ := Batch.exists_batch Pending (fun entry => entry.2.updatedAt) reportLimit
      s.ledger.entries
    obtain ⟨finished, empty, rejected⟩ :=
      exists_rejected_rest { s with sending := pendingTerminalReports marked }
    obtain ⟨events, s', passes, counted, ran⟩ := ih finished empty
    refine ⟨.scan s.clock marked :: (List.replicate (pendingTerminalReports marked).length (.report false) ++
      events), s', ?_, ?_, ?_⟩
    · intro event member
      rcases List.mem_cons.mp member with rfl | member
      · trivial
      rcases List.mem_append.mp member with member | member
      · rw [List.eq_of_mem_replicate member]
        trivial
      · exact passes event member
    · have none : (List.replicate (pendingTerminalReports marked).length
          (OutboxEvent.report false)).countP isScan = 0 :=
        List.countP_eq_zero.mpr fun event member => by
          rw [List.eq_of_mem_replicate member]
          exact Bool.false_ne_true
      rw [List.countP_cons, List.countP_append, none, counted]
      exact congrArg (· + 1) (Nat.zero_add count)
    · refine Option.bind_eq_some_iff.mpr ⟨_, if_pos ⟨le_rfl, idle, scans⟩, ?_⟩
      rw [System.run_append, rejected]
      exact ran

def sampleJobs : List OutboxEvent :=
  (List.range 33).flatMap fun n =>
    let id := [Char.ofNat (65 + n)]
    [.write (3 * n) id (.reserveBeforeDispatch n), .write (3 * n + 1) id (.beginPrint n false),
      .write (3 * n + 2) id (.updateStatusWithError .success [])]

/-- Thirty-three jobs wait in the outbox, and the Gateway rejects the thirty-two oldest for good. -/
theorem report_can_starve : ∃ s id row report, reportOutbox.Reachable s ∧ s.ledger.find? id = some row ∧
      terminalReport id row = some report ∧
      (∀ count, ∃ events s', (∀ event ∈ events, RejectedPass event) ∧ events.countP isScan = count ∧
        reportOutbox.run s events = some s') ∧
      ∀ events s', (∀ event ∈ events, RejectedPass event) → reportOutbox.run s events = some s' →
        s'.ledger = s.ledger ∧ report ∉ s'.sending := by
  have facts : (reportOutbox.run ⟨0, .empty, [], []⟩ sampleJobs).any (fun s =>
      s.sending.isEmpty && (s.ledger.find? [Char.ofNat 97]).any fun row =>
        (terminalReport [Char.ofNat 97] row).isSome && decide (reportLimit ≤ s.ledger.entries.countP fun entry =>
          Pending entry ∧ entry.2.updatedAt < row.updatedAt)) = true := by
    decide +kernel
  obtain ⟨s, ran, facts⟩ := (Option.any_eq_true _ _).mp facts
  obtain ⟨idle, facts⟩ := Bool.and_eq_true_iff.mp facts
  obtain ⟨row, stored, facts⟩ := (Option.any_eq_true _ _).mp facts
  obtain ⟨pending, behind⟩ := Bool.and_eq_true_iff.mp facts
  obtain ⟨report, pending⟩ := Option.isSome_iff_exists.mp pending
  have idle : s.sending = [] := List.isEmpty_iff.mp idle
  refine ⟨s, _, row, report, System.Reaches.run (.init ⟨rfl, rfl, rfl⟩) sampleJobs ran, stored, pending,
    exists_rejected_passes s idle, fun events s' rejected passed => ?_⟩
  refine starved_of_behind stored pending (of_decide_eq_true behind) ?_ rejected passed
  rw [idle]
  exact List.not_mem_nil

end PrintGateway.Agent
