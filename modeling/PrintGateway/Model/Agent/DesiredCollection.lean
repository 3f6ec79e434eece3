import PrintGateway.Model.Gateway.DesiredPage

/-!
# Collection of the desired state

`collectGatewayDesiredState` and the part of the heartbeat that starts it.  The Agent knows nothing of
the Gateway but its answers.  Whether a request is answered in time, whether the context is alive at
the end and the lengths `json.Marshal` gives are parameters.
-/

namespace PrintGateway.Agent

open Text
open Gateway (DesiredPrinter)

def maxDesiredStatePageRows : ℕ := 64

def maxDesiredStateBytes : ℕ := 16 * 1024 * 1024

def maxDesiredStateSnapshotBytes : ℕ := maxDesiredStateBytes / 2

inductive CollectError
  | heartbeatFailed
  | notOffered
  | invalidRow
  | duplicatePrinter
  | overBudget
  | invalidCursor
  | repeatedCursor
  | unavailable
  | invalidContract
  | cancelled
  deriving DecidableEq, Repr

/-- What decides whether a collection gets through: `answered n` says that the answer to the continuation
with number `n` arrived in time, within its byte limit and well formed. -/
structure Conditions where
  answered : ℕ → Bool
  alive : Bool
  marshalled : List DesiredPrinter → ℕ

/-- The answer to a continuation. -/
structure Continuation where
  agentId : Text
  rows : List DesiredPrinter
  nextCursor : Text

/-- `desiredStateCursorMatchesRows`: a cursor names the last row of its page. -/
def desiredStateCursorMatchesRows (rows : List DesiredPrinter) (cursor : Text) : Bool :=
  cursor.isEmpty || (decide (byteSize cursor ≤ 2732) && match rows.getLast?, Base64.decodeRaw .url cursor with
      | some last, some decoded =>
        decide (decoded = utf8 last.id) && decide (Base64.encodeRaw .url decoded = cursor)
      | _, _ => false)

/-- One turn of `validateDesiredStateRows`. -/
def validateDesiredStateRow (seen : List Text) (row : DesiredPrinter) : Except CollectError (List Text) :=
  if row.id = [] ∨ 2048 < byteSize row.id ∨ row.desiredRevision < 0 ∨
      row.lifecycle ∉ ["active".toList, "disabled", "retired"] then .error .invalidRow
  else if row.id ∈ seen then .error .duplicatePrinter
  else .ok (row.id :: seen)

/-- `validateDesiredStateRows`, with the ids seen so far. -/
def validateDesiredStateRows (rows : List DesiredPrinter) (seen : List Text) : Except CollectError (List Text) :=
  rows.foldlM validateDesiredStateRow seen

/-- The variables of the loop. -/
structure Collection where
  all : List DesiredPrinter
  rows : List DesiredPrinter
  cursor : Text
  seenIds : List Text
  seen : List Text
  bytes : ℕ

section Collect

variable (conditions : Conditions) (agentId : Text) (serve : Text → Option Continuation)

/-- The rows of one page are checked and counted. -/
def Collection.accept (collection : Collection) (seen : List Text) (rows : List DesiredPrinter)
    (nextCursor : Text) : Except CollectError Collection := do
  let seenIds ← validateDesiredStateRows rows collection.seenIds
  let bytes := collection.bytes + conditions.marshalled rows
  if maxDesiredStateSnapshotBytes < bytes then .error .overBudget
  else .ok ⟨collection.all ++ rows, rows, nextCursor, seenIds, seen, bytes⟩

/-- One turn of the loop. -/
def Collection.fetch (collection : Collection) : Except CollectError Collection :=
  let ⟨_, rows, cursor, _, seen, _⟩ := collection
  if desiredStateCursorMatchesRows rows cursor = false then .error .invalidCursor
  else if cursor ∈ seen then .error .repeatedCursor
  else if conditions.answered seen.length = false then .error .unavailable
  else
    match serve cursor with
    | none => .error .unavailable
    | some page =>
      if page.agentId ≠ agentId ∨ maxDesiredStatePageRows < page.rows.length then .error .invalidContract
      else collection.accept conditions (cursor :: seen) page.rows page.nextCursor

/-- The loop; `none` when the fuel does not suffice. -/
def Collection.run : ℕ → Collection → Option (Except CollectError (List DesiredPrinter))
  | 0, _ => none
  | fuel + 1, collection =>
    if collection.cursor = [] then
      some (if conditions.alive then .ok collection.all else .error .cancelled)
    else
      match collection.fetch conditions agentId serve with
      | .error error => some (.error error)
      | .ok next => next.run fuel

/-- `collectGatewayDesiredState`. -/
def collectGatewayDesiredState (fuel : ℕ) (rows : List DesiredPrinter) (cursor : Text) :
    Option (Except CollectError (List DesiredPrinter)) :=
  match Collection.accept conditions ⟨[], [], [], [], [], 0⟩ [] rows cursor with
  | .error error => some (.error error)
  | .ok collection => collection.run conditions agentId serve fuel

end Collect

/-- `GET /api/agent/desired-state`; every failure is a status other than 200. -/
def serveDesiredState (reader : Gateway.DesiredReader) (cursor : Text) : Option Continuation :=
  match reader.getDesiredPrinterPage (some cursor) with
  | .ok page => some ⟨reader.agentId, page.items, page.nextCursor.getD []⟩
  | .error _ => none

/-- The last page of a heartbeat and the collection that follows it. -/
def synchronizeDesiredState (conditions : Conditions) (agentId : Text) (reader : Gateway.DesiredReader)
    (fuel : ℕ) : Option (Except CollectError (List DesiredPrinter)) :=
  match reader.heartbeatReply true with
  | .error _ => some (.error .heartbeatFailed)
  | .ok reply =>
    match reply.desiredState with
    | none => some (.error .notOffered)
    | some rows =>
      collectGatewayDesiredState conditions agentId (serveDesiredState reader) fuel rows
        (reply.desiredStateNextCursor.getD [])

end PrintGateway.Agent
