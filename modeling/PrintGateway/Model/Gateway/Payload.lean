import PrintGateway.Machine.Keyed
import PrintGateway.Model.Payload

/-!
# Admission of payloads

`validatePrintJobPayload` of `payload.ts`.  The schema reads the fields and collects what is wrong with
each; when all of them have their types, the refinement looks at the decoded bytes.
-/

namespace PrintGateway.Gateway

open Text Vocabulary

variable {value : Option Json.Value} {path : List Text} {Word : Type}

/-- A validated payload.  Its encoding is always `base64`. -/
structure PrintJobPayload where
  type : PayloadType
  protocol : Option RawProtocol
  peripherals : Option Peripherals
  data : Text
  deriving DecidableEq, Repr

/-- What is wrong with a field: its value, its size, keys the schema does not know, or a check of the
refinement. -/
inductive IssueKind
  | invalid
  | tooSmall
  | tooBig (message : Text)
  | unrecognizedKeys (keys : List Text)
  | custom (message : Text)
  deriving DecidableEq, Repr

/-- `ZodIssue`. -/
structure Issue where
  path : List Text
  kind : IssueKind
  deriving DecidableEq, Repr

def issues {Content : Type} : Except (List Issue) Content → List Issue
  | .ok _ => []
  | .error found => found

/-- A word as a JSON string. -/
def encodeWord {Word : Type} [Vocabulary Word] (word : Word) : Json.Value := .str (text word)

/-- `z.enum`. -/
def enumField (Word : Type) [Vocabulary Word] (path : List Text) : Option Json.Value → Except (List Issue) Word
  | some (.str shown) =>
    match (ofText? shown : Option Word) with
    | some word => .ok word
    | none => .error [⟨path, .invalid⟩]
  | _ => .error [⟨path, .invalid⟩]

/-- `.optional()`. -/
def optionalField {Content : Type} (field : Option Json.Value → Except (List Issue) Content) :
    Option Json.Value → Except (List Issue) (Option Content)
  | none => .ok none
  | some value => (field (some value)).map some

theorem enumField_eq_ok_iff [Vocabulary Word] {word : Word} :
    enumField Word path value = .ok word ↔ value = some (encodeWord word) := by
  constructor
  · intro read
    unfold enumField at read
    split at read
    next shown =>
      split at read
      next found =>
        cases read
        rw [encodeWord, text_of_ofText? found]
      · simp at read
    · simp at read
  · rintro rfl
    simp only [enumField, encodeWord, ofText?_text]

theorem optionalField_eq_ok_iff [Vocabulary Word] {word : Option Word} :
    optionalField (enumField Word path) value = .ok word ↔ value = word.map encodeWord := by
  cases value with
  | none => cases word <;> simp [optionalField]
  | some value =>
    constructor
    · intro read
      obtain ⟨word, found, rfl⟩ := Machine.exists_of_map_eq_ok read
      exact enumField_eq_ok_iff.mp found
    · intro written
      cases word with
      | none => simp at written
      | some word =>
        rw [optionalField, enumField_eq_ok_iff.mpr written]
        rfl

/-- `z.literal`. -/
def literalField (expected : Text) (path : List Text) (value : Option Json.Value) : Except (List Issue) Unit :=
  match value with
  | some (.str shown) => if shown = expected then .ok () else .error [⟨path, .invalid⟩]
  | _ => .error [⟨path, .invalid⟩]

/-- `z.string()`. -/
def stringField (path : List Text) : Option Json.Value → Except (List Issue) Text
  | some (.str shown) => .ok shown
  | _ => .error [⟨path, .invalid⟩]

def peripheralKeys : List Text := ["drawer", "cutter", "buzzer"]

/-- The strict object of the three peripherals. -/
def peripheralsField : Option Json.Value → Except (List Issue) Peripherals
  | some (.obj fields) =>
    let path (key : Text) : List Text := ["peripherals", key]
    let drawer := optionalField (enumField DrawerMode (path "drawer"))
      (Json.get? fields "drawer")
    let cutter := optionalField (enumField CutterMode (path "cutter"))
      (Json.get? fields "cutter")
    let buzzer := optionalField (enumField BuzzerMode (path "buzzer"))
      (Json.get? fields "buzzer")
    let unknown := (fields.map Prod.fst).filter fun key => !peripheralKeys.contains key
    match drawer, cutter, buzzer, unknown with
    | .ok drawer, .ok cutter, .ok buzzer, [] => .ok ⟨drawer, cutter, buzzer⟩
    | drawer, cutter, buzzer, [] => .error (issues drawer ++ issues cutter ++ issues buzzer)
    | drawer, cutter, buzzer, unknown => .error (issues drawer ++ issues cutter ++ issues buzzer ++
        [⟨["peripherals"], .unrecognizedKeys unknown⟩])
  | _ => .error [⟨["peripherals"], .invalid⟩]

theorem peripheralsField_eq_ok_iff {fields : List Json.Field} {modes : Peripherals} :
    peripheralsField (some (.obj fields)) = .ok modes ↔ Json.get? fields "drawer" = modes.drawer.map encodeWord ∧
      Json.get? fields "cutter" = modes.cutter.map encodeWord ∧
      Json.get? fields "buzzer" = modes.buzzer.map encodeWord ∧
      ∀ key ∈ fields.map Prod.fst, key ∈ peripheralKeys := by
  have known : (fields.map Prod.fst).filter (fun key => !peripheralKeys.contains key) = [] ↔
      ∀ key ∈ fields.map Prod.fst, key ∈ peripheralKeys := by
    simp [List.filter_eq_nil_iff]
  constructor
  · intro read
    simp only [peripheralsField] at read
    split at read
    next drawer cutter buzzer unknown =>
      cases read
      exact ⟨optionalField_eq_ok_iff.mp drawer, optionalField_eq_ok_iff.mp cutter,
        optionalField_eq_ok_iff.mp buzzer, known.mp unknown⟩
    · simp at read
    · simp at read
  · rintro ⟨drawer, cutter, buzzer, listed⟩
    simp only [peripheralsField, optionalField_eq_ok_iff.mpr drawer, optionalField_eq_ok_iff.mpr cutter,
      optionalField_eq_ok_iff.mpr buzzer, known.mpr listed]

def dataMessage : Text :=
  "payload.data must be valid base64 and decode to 1..5242880 bytes"

/-- `.min(1).max((MAX_PAYLOAD_BYTES / 3) * 4 + 8)`, where the division is not rounded. -/
def sizeIssues (data : Text) : List Issue :=
  (if utf16Length data < 1 then [⟨["data"], .tooSmall⟩] else []) ++
    if 4 * maxPayloadBytes + 24 < 3 * utf16Length data then [⟨["data"], .tooBig dataMessage⟩] else []

/-- The object of the schema; unknown keys are dropped. -/
def payloadObject : Json.Value → Except (List Issue) PrintJobPayload
  | .obj fields =>
    let type := enumField PayloadType ["type"] (Json.get? fields "type")
    let encoding := literalField "base64" ["encoding"] (Json.get? fields "encoding")
    let protocol := optionalField (enumField RawProtocol ["protocol"])
      (Json.get? fields "protocol")
    let peripherals := optionalField peripheralsField (Json.get? fields "peripherals")
    let data := stringField ["data"] (Json.get? fields "data")
    match type, encoding, protocol, peripherals, data with
    | .ok type, .ok _, .ok protocol, .ok peripherals, .ok data => .ok ⟨type, protocol, peripherals, data⟩
    | type, encoding, protocol, peripherals, data =>
      .error (issues type ++ issues encoding ++ issues protocol ++ issues peripherals ++ match data with
        | .ok data => sizeIssues data
        | .error found => found)
  | _ => .error [⟨[], .invalid⟩]

theorem literalField_eq_ok_iff {expected : Text} :
    literalField expected path value = .ok () ↔ value = some (.str expected) := by
  unfold literalField
  split
  · simp
  next other => simpa using fun same => other expected same

theorem stringField_eq_ok_iff {shown : Text} : stringField path value = .ok shown ↔ value = some (.str shown) := by
  unfold stringField
  split
  · simp
  next other => simpa using fun same => other shown same

theorem payloadObject_eq_ok_iff {fields : List Json.Field} {payload : PrintJobPayload} :
    payloadObject (.obj fields) = .ok payload ↔ Json.get? fields "type" = some (encodeWord payload.type) ∧
      Json.get? fields "encoding" = some (.str "base64") ∧
      Json.get? fields "protocol" = payload.protocol.map encodeWord ∧
      optionalField peripheralsField (Json.get? fields "peripherals") = .ok payload.peripherals ∧
      Json.get? fields "data" = some (.str payload.data) := by
  constructor
  · intro read
    simp only [payloadObject] at read
    split at read
    next type encoding protocol peripherals data =>
      cases read
      exact ⟨enumField_eq_ok_iff.mp type, literalField_eq_ok_iff.mp encoding,
        optionalField_eq_ok_iff.mp protocol, peripherals, stringField_eq_ok_iff.mp data⟩
    · simp at read
  · rintro ⟨type, encoding, protocol, peripherals, data⟩
    simp only [payloadObject, enumField_eq_ok_iff.mpr type, literalField_eq_ok_iff.mpr encoding,
      optionalField_eq_ok_iff.mpr protocol, peripherals, stringField_eq_ok_iff.mpr data]

/-- An issue of the refinement, unless the check holds. -/
def requireThat (holds : Bool) (field message : String) : List Issue :=
  if holds then [] else [⟨[field.toList], .custom message.toList⟩]

/-- The checks on the decoded bytes, the protocol and the peripherals. -/
def superRefineDecoded (payload : PrintJobPayload) (decoded : List UInt8) : List Issue :=
  let jpegSignature := jpegPrefix.isPrefixOf decoded
  let looksLikePdf := pdfPrefix.isPrefixOf decoded
  let bytes := payload.type == .raw || payload.type == .escpos
  let document := payload.type == .pdf || payload.type == .image
  requireThat (payload.type != .pdf || looksLikePdf) "data" "PDF payload must start with the %PDF- signature" ++
    requireThat (payload.type != .pdf || !looksLikePdf || occurs pdfEof (decoded.drop (decoded.length - 4096)))
      "data" "PDF payload is incomplete (missing %%EOF trailer)" ++
    requireThat (payload.type != .image || jpegSignature) "data" "Image payload must be a JPEG" ++
    requireThat (!bytes || !looksLikePdf) "data"
      "PDF bytes cannot be labeled as raw/escpos; provide a real byte-stream payload or convert explicitly" ++
    requireThat (payload.type != .raw || payload.protocol.isSome) "protocol"
      "protocol is required for raw payloads" ++
    requireThat (payload.type != .escpos || payload.protocol == some .escpos) "protocol"
      "protocol 'escpos' is required for escpos payloads" ++
    requireThat (!document || payload.protocol.isNone) "protocol"
      "protocol is not applicable for pdf/image payloads" ++
    requireThat (!payload.peripherals.any Peripherals.isActive || payload.protocol == some .escpos)
      "peripherals" "peripherals are only supported for escpos protocol"

/-- The refinement: the text must be the encoding of the bytes it decodes to, so what the decoder makes
of other texts does not matter. -/
def superRefine (payload : PrintJobPayload) : List Issue :=
  let decoded := Base64.decodeLenient payload.data
  if decoded.length = 0 ∨ maxPayloadBytes < decoded.length ∨ Base64.encode decoded ≠ payload.data then
    [⟨["data"], .custom dataMessage⟩]
  else superRefineDecoded payload decoded

/-- `validatePrintJobPayload`. -/
def validatePrintJobPayload (payload : Json.Value) : Except (List Issue) PrintJobPayload :=
  match payloadObject payload with
  | .error found => .error found
  | .ok payload =>
    match sizeIssues payload.data ++ superRefine payload with
    | [] => .ok payload
    | found => .error found

/-- An entry that `JSON.stringify` leaves out when its value is undefined. -/
def entry? {Content : Type} (key : String) (encode : Content → Json.Value) (value : Option Content) :
    List Json.Field :=
  (value.map fun value => (key.toList, encode value)).toList

def peripheralFields (peripherals : Peripherals) : List Json.Field :=
  entry? "drawer" encodeWord peripherals.drawer ++ entry? "cutter" encodeWord peripherals.cutter ++
    entry? "buzzer" encodeWord peripherals.buzzer

def PrintJobPayload.fields (payload : PrintJobPayload) : List Json.Field :=
  [("type".toList, encodeWord payload.type), ("encoding", .str "base64")] ++
    entry? "protocol" encodeWord payload.protocol ++
    entry? "peripherals" (fun modes => .obj (peripheralFields modes)) payload.peripherals ++
    [("data".toList, .str payload.data)]

/-- What `JSON.stringify` writes for a validated payload. -/
def PrintJobPayload.toJson (payload : PrintJobPayload) : Json.Value := .obj payload.fields

end PrintGateway.Gateway
