import PrintGateway.Json.Object
import PrintGateway.Machine.Keyed
import PrintGateway.Model.Odoo.Intent
import PrintGateway.Model.Payload

/-!
# Persisted payloads

`create_operation` with its payload checks, and `_validate_persisted_payload`, which creation and
submission share.  A payload dictionary is the list of its entries; `json.dumps` followed by
`json.loads` gives it back.  What `base64.b64decode` makes of a text that is no canonical encoding
depends on the Python version, so the decoder is a parameter.
-/

namespace PrintGateway.Odoo

open Machine Text Vocabulary

/-- The `payload_type` column. -/
inductive PayloadKind
  | pdf
  | rasterJpeg
  | rawCmd
  deriving DecidableEq, Repr

instance : Vocabulary PayloadKind where
  all := [.pdf, .rasterJpeg, .rawCmd]
  text
    | .pdf => "pdf"
    | .rasterJpeg => "raster_jpeg"
    | .rawCmd => "raw_cmd"
  complete word := by cases word <;> decide
  distinct := by decide

/-- `_PAYLOAD_TYPE_MAP`. -/
def payloadTypeMap : PayloadType → PayloadKind
  | .raw | .escpos => .rawCmd
  | .image => .rasterJpeg
  | .pdf => .pdf

/-- One constructor for each refusal. -/
inductive PayloadError
  | printerRequired
  | destinationRequired
  | documentTypeRequired
  | tooLarge
  | unsupportedType
  | kindContradicted
  | documentProtocol
  | protocolContradicted
  | protocolRequired
  | protocolNotSelectable
  | keyReused
  | typeMissing
  | encodingUnsupported
  | typeMismatch
  | protocolNotInPayload
  | escposProtocolRequired
  | protocolUnsupported
  | protocolMismatch
  | dataMissing
  | dataInvalid
  | dataEmpty
  | notPdf
  | incompletePdf
  | notJpeg
  | disguisedPdf
  | peripheralsNotDictionary
  | peripheralsNeedEscpos
  deriving DecidableEq, Repr

/-- `base64.b64decode(text.encode("ascii"), validate=True)`; an exception is `none`. -/
structure PythonBase64 where
  b64decode : Text → Option (List UInt8)
  b64decode_encode : ∀ bytes, b64decode (Base64.encode bytes) = some bytes

def maxPrintContentBytes : ℕ := 5 * 1024 * 1024

def maxPrintBase64Chars : ℕ := 4 * ((maxPrintContentBytes + 2) / 3)

/-! ### Dictionaries -/

/-- The truth value of a JSON value. -/
def truthy : Json.Value → Bool
  | .null => false
  | .bool value => value
  | .num rendering =>
    !(rendering.takeWhile fun c => c ≠ 'e').all fun c => c == '-' || c == '0' || c == '.'
  | .str shown => !shown.isEmpty
  | .arr items => !items.isEmpty
  | .obj fields => !fields.isEmpty

/-- `dict.get`, where an absent key is falsy. -/
def isTruthy (value : Option Json.Value) : Bool := value.any truthy

/-- Comparison with a string. -/
def isText (value : Option Json.Value) (expected : Text) : Bool :=
  match value with
  | some (.str shown) => shown == expected
  | _ => false

/-- The entries `v and v != "none"`. -/
def activePeripherals (peripherals : List Json.Field) : List Json.Field :=
  peripherals.filter fun field => truthy field.2 && !isText (some field.2) "none"

/-- The member of the four protocols a value names. -/
def rawProtocol? : Option Json.Value → Option RawProtocol
  | some (.str shown) => ofText? shown
  | _ => none

mutual

/-- What the request encoding takes: `json.dumps` writes these numbers too, but not with `allow_nan=False`. -/
def encodable : Json.Value → Bool
  | .num rendering => rendering ∉ ["NaN".toList, "Infinity", "-Infinity"]
  | .arr items => encodableItems items
  | .obj fields => encodableFields fields
  | .null | .bool _ | .str _ => true

def encodableItems : List Json.Value → Bool
  | [] => true
  | item :: items => encodable item && encodableItems items

def encodableFields : List Json.Field → Bool
  | [] => true
  | (_, value) :: fields => encodable value && encodableFields fields

end

/-! ### The shared check -/

/-- The columns of a row that its payload is checked against. -/
structure StoredPayload where
  payloadType : PayloadKind
  protocol : Option RawProtocol
  payload : List Json.Field

/-- The checks on the protocol of a raw or ESC/POS payload. -/
def checkNative (row : StoredPayload) (payload : List Json.Field) (ptype : PayloadType) :
    Except PayloadError PayloadType :=
  let proto := Json.get? payload "protocol"
  if isTruthy proto = false then .error .protocolNotInPayload
  else if ptype = .escpos ∧ isText proto "escpos" = false then .error .escposProtocolRequired
  else
    match rawProtocol? proto with
    | none => .error .protocolUnsupported
    | some protocol =>
      if row.protocol.isSome ∧ row.protocol ≠ some protocol then .error .protocolMismatch else .ok ptype

/-- The type of the payload, checked against the columns. -/
def checkKind (row : StoredPayload) (payload : List Json.Field) : Except PayloadError PayloadType :=
  let ptype := Json.get? payload "type"
  let document (type : PayloadType) : Except PayloadError PayloadType :=
    if isText ptype (text type) = false then .error .typeMismatch
    else if isTruthy (Json.get? payload "protocol") then .error .documentProtocol
    else .ok type
  match row.payloadType with
  | .pdf => document .pdf
  | .rasterJpeg => document .image
  | .rawCmd =>
    if isText ptype (text PayloadType.raw) then checkNative row payload .raw
    else if isText ptype (text PayloadType.escpos) then checkNative row payload .escpos
    else .error .typeMismatch

/-- The bytes of the payload. -/
def checkData (python : PythonBase64) (payload : List Json.Field) : Except PayloadError (List UInt8) :=
  match Json.get? payload "data" with
  | some (.str rawData) =>
    if rawData = [] then .error .dataMissing
    else if maxPrintBase64Chars < rawData.length then .error .tooLarge
    else
      match python.b64decode rawData with
      | none => .error .dataInvalid
      | some decoded =>
        if decoded = [] then .error .dataEmpty
        else if maxPrintContentBytes < decoded.length then .error .tooLarge
        else .ok decoded
  | _ => .error .dataMissing

/-- The signature the kind asks for, or forbids. -/
def checkContent (kind : PayloadKind) (decoded : List UInt8) : Except PayloadError Unit :=
  let looksLikePdf := pdfPrefix.isPrefixOf decoded
  match kind with
  | .pdf =>
    if looksLikePdf = false then .error .notPdf
    else if occurs pdfEof (decoded.drop (decoded.length - 4096)) = false then .error .incompletePdf
    else .ok ()
  | .rasterJpeg => if jpegPrefix.isPrefixOf decoded = false then .error .notJpeg else .ok ()
  | .rawCmd => if looksLikePdf then .error .disguisedPdf else .ok ()

/-- The peripherals of the payload; inactive ones are taken out of it. -/
def checkPeripherals (row : StoredPayload) (payload : List Json.Field) (ptype : PayloadType) :
    Except PayloadError (List Json.Field) :=
  match Json.get? payload "peripherals" with
  | none | some .null => .ok payload
  | some (.obj peripherals) =>
    let active := activePeripherals peripherals
    let isEscpos := ptype == .escpos || (ptype == .raw &&
      (isText (Json.get? payload "protocol") "escpos" || row.protocol == some .escpos))
    if active = [] then .ok (Json.discard "peripherals" payload)
    else if isEscpos = false then .error .peripheralsNeedEscpos
    else .ok (Json.assign "peripherals" (.obj active) payload)
  | some _ => .error .peripheralsNotDictionary

/-- `_validate_persisted_payload`, with the payload as it leaves the check. -/
def validatePersistedPayload (python : PythonBase64) (row : StoredPayload) (payload : List Json.Field) :
    Except PayloadError (List Json.Field) := do
  if isTruthy (Json.get? payload "type") = false then .error .typeMissing
  else if isText (Json.get? payload "encoding") "base64" = false then
    .error .encodingUnsupported
  else
    let ptype ← checkKind row payload
    let decoded ← checkData python payload
    checkContent row.payloadType decoded
    checkPeripherals row payload ptype

/-! ### Creation -/

/-- The arguments of `create_operation`; a text that is not given is empty.  A call without a key gets
a fresh one. -/
structure OperationCall where
  company : ℕ
  idempotencyKey : Text
  printerId : Text
  destination : Text
  destinationKey : Text
  documentType : Text
  payload : List Json.Field
  payloadType : Text
  protocol : Text

/-- Inactive peripherals are omitted. -/
def omitInactive (payload : List Json.Field) : List Json.Field :=
  match Json.get? payload "peripherals" with
  | some (.obj peripherals) =>
    if activePeripherals peripherals = [] then Json.discard "peripherals" payload
    else Json.assign "peripherals" (.obj (activePeripherals peripherals)) payload
  | _ => payload

/-- The data are brought to their canonical encoding; content that does not decode is left to the
checks that follow. -/
def canonicalizeData (python : PythonBase64) (payload : List Json.Field) : Except PayloadError (List Json.Field) :=
  match Json.get? payload "data" with
  | some (.str data) =>
    if data = [] then .ok payload
    else if maxPrintBase64Chars < data.length then .error .tooLarge
    else
      match python.b64decode data with
      | some bytes => .ok (Json.assign "data" (.str (Base64.encode bytes)) payload)
      | none => .ok payload
  | _ => .ok payload

/-- The decoded size, or the size of the JSON text where there are no data. -/
def checkSize (python : PythonBase64) (payload : List Json.Field) : Except PayloadError Unit :=
  match Json.get? payload "data" with
  | some (.str (c :: data)) =>
    if (python.b64decode (c :: data)).any fun bytes => maxPrintContentBytes < bytes.length then
      .error .tooLarge
    else .ok ()
  | _ =>
    if maxPrintContentBytes < byteSize (Json.Value.obj payload).stringify then .error .tooLarge else .ok ()

/-- `_resolve_payload_kind`. -/
def resolvePayloadKind (payload : List Json.Field) : Except PayloadError PayloadKind :=
  match Json.get? payload "type" with
  | some (.str shown) =>
    match (ofText? (toLowerCase (strip shown)) : Option PayloadType) with
    | some type => .ok (payloadTypeMap type)
    | none => .error .unsupportedType
  | _ => .error .unsupportedType

/-- The protocol column, which must be one of its selection. -/
def effectiveProtocol (kind : PayloadKind) (protocol : Text) (payload : List Json.Field) :
    Except PayloadError (Option RawProtocol) :=
  let payloadProtocol := Json.get? payload "protocol"
  match kind with
  | .pdf | .rasterJpeg => if protocol ≠ [] then .error .documentProtocol else .ok none
  | .rawCmd =>
    if protocol ≠ [] ∧ isTruthy payloadProtocol ∧ isText payloadProtocol protocol = false then
      .error .protocolContradicted
    else if protocol = [] ∧ isTruthy payloadProtocol = false then .error .protocolRequired
    else
      match (if protocol ≠ [] then ofText? protocol else rawProtocol? payloadProtocol) with
      | some selected => .ok (some selected)
      | none => .error .protocolNotSelectable

/-- The columns of the row before the key is looked up. -/
def preparePayload (python : PythonBase64) (call : OperationCall) : Except PayloadError StoredPayload := do
  if strip call.printerId = [] then .error .printerRequired
  else if strip call.destination = [] then .error .destinationRequired
  else if strip call.documentType = [] then .error .documentTypeRequired
  else
    let payload ← canonicalizeData python (omitInactive call.payload)
    checkSize python payload
    let derived ← resolvePayloadKind payload
    if call.payloadType ≠ [] ∧ call.payloadType ≠ text derived then .error .kindContradicted
    else
      let protocol ← effectiveProtocol derived call.protocol payload
      return ⟨derived, protocol, payload⟩

/-- What a reused key is compared with. -/
def OperationCall.operation (call : OperationCall) (payload : List Json.Field) : Operation where
  printerId := strip call.printerId
  destination := strip call.destination
  destinationKey := if call.destinationKey = [] then none else some call.destinationKey
  documentType := toLowerCase (strip call.documentType)
  payload := (Json.Value.obj payload).stringify

/-- A row of the outbox as far as its payload goes. -/
structure PayloadRow where
  operation : Operation
  stored : StoredPayload

/-- The outbox, unique in company and key. -/
abbrev PayloadTable := Keyed (ℕ × Text) PayloadRow

/-- `create_operation`: the row the call returns and the table that holds it. -/
def PayloadTable.createOperation (python : PythonBase64) (call : OperationCall) (table : PayloadTable) :
    Except PayloadError (PayloadTable × PayloadRow) := do
  let stored ← preparePayload python call
  let key := (call.company, strip call.idempotencyKey)
  let operation := call.operation stored.payload
  match table.find? key with
  | some existing => if existing.operation = operation then .ok (table, existing) else .error .keyReused
  | none =>
    let _ ← validatePersistedPayload python stored stored.payload
    return (table.insert key ⟨operation, stored⟩, ⟨operation, stored⟩)

/-- Calls add rows, a failover redirects some, and the cleanup of terminal jobs drops some. -/
inductive PayloadEvent
  | createOperation (call : OperationCall)
  | redirect (printerId destination : ℕ × Text → Text)
  | drop (dropped : ℕ × Text → Bool)

/-- The outbox over time; a refused call changes nothing. -/
def payloadOutbox (python : PythonBase64) : System PayloadTable PayloadEvent where
  init table := table = .empty
  step table
    | .createOperation call =>
      match table.createOperation python call with
      | .ok (next, _) => some next
      | .error _ => some table
    | .redirect printerId destination => some (table.update fun key row =>
        { row with operation := { row.operation with
            printerId := printerId key
            destination := destination key } })
    | .drop dropped => some (table.filter fun key _ => !dropped key)

end PrintGateway.Odoo
