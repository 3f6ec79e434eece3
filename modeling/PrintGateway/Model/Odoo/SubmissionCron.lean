import PrintGateway.Machine.Keyed
import PrintGateway.Model.Odoo.Outbox

/-!
# The submission cron

`cron_submit_pending` takes the 25 smallest ids of the rows that are queued and due and submits one after
the other.  A run has all the time it needs.  What each submission meets, the state of the integration, the
lease token and the outcome of every pass of its loop, is data.
-/

namespace PrintGateway.Odoo

open Machine

abbrev OutboxTable := Keyed ℕ PrintJob

/-- The row is queued and its retry date has passed. -/
def PrintJob.Due (now : ℤ) (row : PrintJob) : Prop := row.status = .queued ∧ row.nextRetryAt.all (· ≤ now) = true

instance (now : ℤ) (row : PrintJob) : Decidable (row.Due now) := inferInstanceAs (Decidable (_ ∧ _))

/-- What a call of `action_submit` meets. -/
structure Attempt where
  enabled : Bool
  now : ℤ
  token : Token
  outcomes : List (ℤ × Outcome)

/-- The submission loop; a worker that dies has no further outcome. -/
def Submission.loop (s : Submission) : List (ℤ × Outcome) → PrintJob → PrintJob
  | [], row => row
  | (now, outcome) :: outcomes, row =>
    match s.record now outcome row with
    | (row', none) => row'
    | (row', some s') => s'.loop outcomes row'

/-- `action_submit` of one row. -/
def PrintJob.actionSubmit (attempt : Attempt) (row : PrintJob) : PrintJob :=
  if attempt.enabled = false then
    row.assign attempt.now { nextRetryAt := some (some (attempt.now + seconds 300)) }
  else if row.gatewayJobId.isSome then row
  else if row.status.isTerminal then row
  else
    match (claimSubmissionLease attempt.now attempt.token).exec row with
    | none => row
    | some leased =>
      Submission.loop ⟨attempt.token, row.attempts, 0, [row.printerId], false⟩ attempt.outcomes leased

def dueIds (now : ℤ) (table : OutboxTable) : List ℕ :=
  (table.entries.filter fun entry => entry.2.Due now).map Prod.fst

/-- The ids that a run selects. -/
def jobIds (now : ℤ) (table : OutboxTable) : List ℕ := ((dueIds now table).mergeSort (· ≤ ·)).take 25

def cronSubmitPending (now : ℤ) (attempts : ℕ → Attempt) (table : OutboxTable) : OutboxTable :=
  (jobIds now table).foldl (fun table id => table.update fun key row =>
    if key = id then row.actionSubmit (attempts id) else row) table

/-- Runs of the cron for ever.  Between two runs others may do anything to the table, but a row that is no
longer queued does not become so again, and neither does an id come back. -/
structure CronHistory where
  now : ℕ → ℤ
  table : ℕ → OutboxTable
  attempts : ℕ → ℕ → Attempt
  later : ∀ n, now n ≤ now (n + 1)
  interim : ∀ n id row, (table (n + 1)).find? id = some row → row.status = .queued →
    (∃ before, (cronSubmitPending (now n) (attempts n) (table n)).find? id = some before ∧
      before.status = .queued) ∨ ∀ m ≤ n, (table m).find? id = none

namespace CronHistory

variable (h : CronHistory)

/-- The row is queued and due when a run starts. -/
def Waits (id n : ℕ) : Prop := ∃ row, (h.table n).find? id = some row ∧ row.Due (h.now n)

/-- The run submits the row. -/
def Attempted (id n : ℕ) : Prop := id ∈ jobIds (h.now n) (h.table n)

/-- How many rows with smaller ids are due when a run starts. -/
def olderDue (id n : ℕ) : ℕ := ((dueIds (h.now n) (h.table n)).filter (· < id)).length

/-- No older row that the run submits stays queued. -/
def SettlesOlder (id n : ℕ) : Prop := ∀ older ∈ jobIds (h.now n) (h.table n), older < id →
  ∀ row, (h.table n).find? older = some row → (row.actionSubmit (h.attempts n older)).status ≠ .queued

end CronHistory

end PrintGateway.Odoo
