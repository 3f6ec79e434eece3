import PrintGateway.Machine.Batch
import PrintGateway.Model.Gateway.Maintenance

/-!
# A whole sweep

`sweepPrintJobs` over a table: its eight statements in order, each bounded to a batch of the rows that
match it.  Six of them take the oldest rows first, the two that drop fences take any.
-/

namespace PrintGateway.Gateway

open Machine

/-- A row of `print_jobs` with the agent it belongs to. -/
structure OwnedJob where
  agentId : Text
  row : JobRow
  deriving DecidableEq, Repr

/-- One call of the sweep: the clocks, the configured lease and the optional agent. -/
structure SweepCall where
  stamp : Instant
  staleSeconds : ℤ
  agentId : Option Text
  deriving DecidableEq, Repr

/-- `agentFilter`; an empty agent id is no filter. -/
def SweepCall.Covers (call : SweepCall) (job : OwnedJob) : Prop :=
  call.agentId = none ∨ call.agentId = some [] ∨ call.agentId = some job.agentId

instance (call : SweepCall) (job : OwnedJob) : Decidable (call.Covers job) :=
  inferInstanceAs (Decidable (_ ∨ _))

namespace SweepStatement

/-- The `ORDER BY` column of a statement. -/
def orderBy : SweepStatement → JobRow → ℤ
  | expired => JobRow.expiresAt
  | requeuedClaims | silentDeliveries | stalePrinting | exhaustedClaims => JobRow.updatedAt
  | exhaustedQueued => JobRow.createdAt
  | expiredFences | failedFences => fun _ => 0

/-- The statement on a table of every agent's jobs. -/
def batched (call : SweepCall) (statement : SweepStatement) : BatchStatement OwnedJob where
  guard job := call.Covers job ∧ (statement.update call.stamp call.staleSeconds).guard job.row
  set job := { job with row := (statement.update call.stamp call.staleSeconds).set job.row }
  key job := statement.orderBy job.row

/-- The order in which a sweep runs its statements. -/
def order : List SweepStatement :=
  [expired, requeuedClaims, silentDeliveries, stalePrinting, exhaustedClaims, exhaustedQueued,
    expiredFences, failedFences]

theorem mem_order (statement : SweepStatement) : statement ∈ order := by
  cases statement <;> decide

end SweepStatement

/-- The statements of one sweep on a table. -/
def sweepStatements (call : SweepCall) : List (BatchStatement OwnedJob) :=
  SweepStatement.order.map (·.batched call)

/-- `sweepPrintJobs` with its batch limit, repeated at one time until it changes nothing, for any choice among rows
of equal age. -/
def SweepsTo (call : SweepCall) (limit : ℕ) (table final : List OwnedJob) : Prop :=
  Settles limit (sweepStatements call) table final

/-- One sweep as a single row sees it when no batch limit cuts it off. -/
def sweepRow (stamp : Instant) (staleSeconds : ℤ) (row : JobRow) : JobRow :=
  SweepStatement.order.foldl (fun row statement => (statement.update stamp staleSeconds).next row) row

theorem mem_sweepStatements {call : SweepCall} {statement : BatchStatement OwnedJob} :
    statement ∈ sweepStatements call ↔ ∃ s : SweepStatement, s.batched call = statement := by
  unfold sweepStatements
  rw [List.mem_map]
  exact ⟨fun ⟨s, _, same⟩ => ⟨s, same⟩, fun ⟨s, same⟩ => ⟨s, s.mem_order, same⟩⟩

end PrintGateway.Gateway
