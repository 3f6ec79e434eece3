import PrintGateway.Codec.Base64
import PrintGateway.Json.Canonical
import PrintGateway.Machine.Keyset
import PrintGateway.Model.Gateway.JobRow

/-!
# Pages of the desired state

`getDesiredPrinterPage` and the cursor it reads and writes.  The first page comes with the response to
the last page of a heartbeat, the others from `GET /api/agent/desired-state`.  The collation of the
database is a parameter, as is what `Buffer.toString` makes of bytes that are no UTF-8.
-/

namespace PrintGateway.Gateway

open Machine Text

/-- The columns of a printer that the Agent is told. -/
structure DesiredPrinter where
  id : Text
  name : Text
  printerType : Text
  deviceClass : Text
  connectionType : Text
  protocol : Text
  lifecycle : Text
  config : Json.Value
  desiredRevision : ℤ

def DesiredPrinter.toJson (row : DesiredPrinter) : Json.Value :=
  .obj [("id", .str row.id), ("name", .str row.name),
    ("printerType", .str row.printerType), ("deviceClass", .str row.deviceClass),
    ("connectionType", .str row.connectionType), ("protocol", .str row.protocol),
    ("lifecycle", .str row.lifecycle), ("config", row.config),
    ("desiredRevision", .num (decimal row.desiredRevision))]

/-- `Buffer.byteLength(JSON.stringify(row), "utf8")`. -/
def DesiredPrinter.byteLength (row : DesiredPrinter) : ℕ := byteSize row.toJson.stringify

/-- A row of the `printers` table. -/
structure PrinterRecord where
  tenantId : Text
  agentId : Text
  managementSource : ManagementSource
  printer : DesiredPrinter

/-- The table, with `printers_tenant_id_unique`. -/
structure PrinterRecords where
  rows : List PrinterRecord
  unique : (rows.map fun row => (row.tenantId, row.printer.id)).Nodup

/-- The printers of an agent that the Gateway manages. -/
def PrinterRecords.managerPrinters (records : PrinterRecords) (tenantId agentId : Text) : List DesiredPrinter :=
  (records.rows.filter fun row =>
    row.tenantId = tenantId ∧ row.agentId = agentId ∧ row.managementSource = .manager).map (·.printer)

/-! ### Cursors -/

/-- `Buffer.toString("utf8")`. -/
structure Utf8Decoder where
  decode : List UInt8 → Text
  decode_utf8 : ∀ text, decode (utf8 text) = text

inductive PageError
  | invalidCursorId
  | conflictingCursorIds
  | cursorIdLength
  | rowTooLarge
  deriving DecidableEq, Repr

/-- The pattern of an encoded id. -/
def isCursorText (encoded : Text) : Bool :=
  decide (1 ≤ encoded.length ∧ encoded.length ≤ 2732) && encoded.all fun c => c.isAlphanum || c == '_' || c == '-'

/-- `Buffer.from(id, "utf8").toString("base64url")`. -/
def encodeCursorId (id : Text) : Text := Base64.encodeRaw .url (utf8 id)

/-- The id named by `beforeId` and `beforeIdEncoded`. -/
def decodeCursorId (decoder : Utf8Decoder) (raw encoded : Option Text) : Except PageError (Option Text) :=
  match encoded with
  | none => .ok raw
  | some encoded =>
    let decoded := decoder.decode (Base64.decodeLenient encoded)
    if isCursorText encoded = false then .error .invalidCursorId
    else if encodeCursorId decoded ≠ encoded then .error .invalidCursorId
    else if raw.isSome ∧ raw ≠ some decoded then .error .conflictingCursorIds
    else .ok (some decoded)

/-- `readFleetCursorId`. -/
def readFleetCursorId (decoder : Utf8Decoder) (raw encoded : Option Text) : Except PageError (Option Text) := do
  let id ← decodeCursorId decoder raw encoded
  if id.any fun id => utf16Length id < 1 || 512 < utf16Length id then .error .cursorIdLength
  else .ok id

/-! ### Pages -/

def desiredStatePageRows : ℕ := 64

def desiredStatePageBytes : ℕ := 512 * 1024

structure DesiredPage where
  items : List DesiredPrinter
  nextCursor : Option Text

/-- The loop that fills a page; a first row that does not fit is an error. -/
def fillPage : List DesiredPrinter → ℕ → List DesiredPrinter → Except PageError (List DesiredPrinter)
  | items, _, [] => .ok items
  | items, bytes, row :: rows =>
    let size := row.byteLength + if items = [] then 0 else 1
    if desiredStatePageBytes < bytes + size then
      if items = [] then .error .rowTooLarge else .ok items
    else fillPage (items ++ [row]) (bytes + size) rows

/-- What a page is read with. -/
structure DesiredReader where
  collation : Collation Text
  decoder : Utf8Decoder
  records : PrinterRecords
  tenantId : Text
  agentId : Text

namespace DesiredReader

variable (reader : DesiredReader)

/-- The rows the pages are cut from. -/
def printers : List DesiredPrinter := reader.records.managerPrinters reader.tenantId reader.agentId

/-- `getDesiredPrinterPage`. -/
def getDesiredPrinterPage (cursor : Option Text) : Except PageError DesiredPage := do
  let afterId ← match cursor with
    | none => .ok none
    | some cursor => readFleetCursorId reader.decoder none (some cursor)
  let rows := reader.collation.readAfter (·.id) afterId (desiredStatePageRows + 1) reader.printers
  let items ← fillPage [] 2 (rows.take desiredStatePageRows)
  return {
    items
    nextCursor := if items.length < rows.length then items.getLast?.map (encodeCursorId ·.id) else none }

/-- The desired state in the response to the last page of a heartbeat. -/
structure HeartbeatReply where
  desiredState : Option (List DesiredPrinter)
  desiredStateNextCursor : Option Text
  desiredStateUpgradeRequired : Bool

/-- An Agent that does not page gets the desired state only when it is one page. -/
def heartbeatReply (desiredStatePaging : Bool) : Except PageError HeartbeatReply := do
  let page ← reader.getDesiredPrinterPage none
  return {
    desiredState :=
      if desiredStatePaging = true ∨ page.nextCursor = none then some page.items else none
    desiredStateNextCursor := if desiredStatePaging then page.nextCursor else none
    desiredStateUpgradeRequired := !desiredStatePaging && page.nextCursor.isSome }

end DesiredReader

end PrintGateway.Gateway
