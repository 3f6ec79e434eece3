import PrintGateway.Model.Payload

/-!
# Payloads at the Agent

`Parse` of `payload.go` and `ValidatePDF` of `pdf.go`, on the value `json.Unmarshal` leaves.  An object
is a Go map, so of repeated keys the last one counts.
-/

namespace PrintGateway.Agent

open Text Vocabulary

/-- `Payload`; a protocol that was not given is the empty text. -/
structure Payload where
  type : PayloadType
  protocol : Text
  data : List UInt8
  peripherals : Peripherals
  deriving DecidableEq, Repr

/-- The errors of `Parse`, with what their texts quote. -/
inductive ParseError
  | missing
  | notObject
  | required (key : Text)
  | notString (key : Text)
  | unsupportedType (type : Text)
  | protocolRequired (type : PayloadType)
  | unsupportedProtocol (protocol : Text)
  | incompatibleProtocol (protocol : Text)
  | protocolNotApplicable (type : PayloadType)
  | unsupportedEncoding (encoding : Text)
  | tooLarge
  | invalidBase64
  | exceedsLimit
  | notPdf
  | notJpeg
  | disguisedPdf
  | peripheralsNotObject
  | invalidModeType (key : Text)
  | unknownPeripheral (keys : List Text)
  | invalidMode (key mode : Text)
  | peripheralsNeedEscpos
  deriving DecidableEq, Repr

def requiredStringField (m : List Json.Field) (key : Text) : Except ParseError Text :=
  match Json.get? m key with
  | none | some .null => .error (.required key)
  | some (.str value) => .ok value
  | some _ => .error (.notString key)

def optionalStringField (m : List Json.Field) (key : Text) : Except ParseError Text :=
  match Json.get? m key with
  | none | some .null => .ok []
  | some (.str value) => .ok value
  | some _ => .error (.notString key)

/-- The protocol a type allows. -/
def checkProtocol (type : PayloadType) (protocol : Text) : Except ParseError Unit :=
  match type with
  | .raw =>
    if protocol = [] then .error (.protocolRequired .raw)
    else if (ofText? protocol : Option RawProtocol).isNone then .error (.unsupportedProtocol protocol)
    else .ok ()
  | .escpos =>
    if protocol = [] then .error (.protocolRequired .escpos)
    else if protocol ≠ "escpos" then .error (.incompatibleProtocol protocol)
    else .ok ()
  | .pdf | .image => if protocol ≠ [] then .error (.protocolNotApplicable type) else .ok ()

/-- The signature a type asks for, or forbids. -/
def checkSignature (type : PayloadType) (decoded : List UInt8) : Except ParseError Unit :=
  let looksLikePdf := pdfPrefix.isPrefixOf decoded
  let looksLikeJpeg := jpegPrefix.isPrefixOf decoded
  if type = .pdf ∧ looksLikePdf = false then .error .notPdf
  else if type = .image ∧ looksLikeJpeg = false then .error .notJpeg
  else if (type = .raw ∨ type = .escpos) ∧ looksLikePdf = true then .error .disguisedPdf
  else .ok ()

/-- The data field, decoded. -/
def decodeData (dataStr : Text) : Except ParseError (List UInt8) :=
  if dataStr = [] then .error (.required "data")
  else if maxPayloadBytes / 3 * 4 + 8 < byteSize dataStr then .error .tooLarge
  else
    match Base64.decodePadded dataStr with
    | none => .error .invalidBase64
    | some decoded =>
      if decoded.length = 0 ∨ maxPayloadBytes < decoded.length then .error .exceedsLimit else .ok decoded

/-- The mode under a key of the peripherals. -/
def peripheralMode (Mode : Type) [Vocabulary Mode] (periphMap : List Json.Field) (key : Text) :
    Except ParseError (Option Mode) :=
  match Json.get? periphMap key with
  | some (.str shown) =>
    match (ofText? shown : Option Mode) with
    | some mode => .ok (some mode)
    | none => .error (.invalidMode key shown)
  | _ => .ok none

/-- A key whose value is no string. -/
def isMistyped (periphMap : List Json.Field) (key : Text) : Bool :=
  match Json.get? periphMap key with
  | none | some (.str _) => false
  | some _ => true

def peripheralNames : List Text := ["drawer", "cutter", "buzzer"]

/-- The modes of an object of peripherals. -/
def readPeripherals (periphMap : List Json.Field) : Except ParseError Peripherals :=
  match peripheralNames.find? (isMistyped periphMap) with
  | some key => .error (.invalidModeType key)
  | none =>
    match (periphMap.map Prod.fst).filter fun key => !peripheralNames.contains key with
    | [] => do
      let drawer ← peripheralMode DrawerMode periphMap "drawer"
      let cutter ← peripheralMode CutterMode periphMap "cutter"
      let buzzer ← peripheralMode BuzzerMode periphMap "buzzer"
      return ⟨drawer, cutter, buzzer⟩
    | unknown => .error (.unknownPeripheral unknown)

/-- The `peripherals` field. -/
def parsePeripherals (m : List Json.Field) : Except ParseError Peripherals :=
  match Json.get? m "peripherals" with
  | none => .ok .none
  | some (.obj periphMap) => readPeripherals periphMap
  | some _ => .error .peripheralsNotObject

/-- `Parse`. -/
def parse (raw : Json.Value) : Except ParseError Payload :=
  match raw with
  | .null => .error .missing
  | .obj m => do
    let typ ← requiredStringField m "type"
    match (ofText? typ : Option PayloadType) with
    | none => .error (if typ = [] then .required "type" else .unsupportedType typ)
    | some type =>
      let protocol ← optionalStringField m "protocol"
      checkProtocol type protocol
      let encoding ← requiredStringField m "encoding"
      if encoding ≠ "base64" then .error (.unsupportedEncoding encoding)
      let dataStr ← requiredStringField m "data"
      let decoded ← decodeData dataStr
      checkSignature type decoded
      let periph ← parsePeripherals m
      if periph.isActive = true ∧ protocol ≠ "escpos" then .error .peripheralsNeedEscpos
      return ⟨type, protocol, decoded, if periph.isActive then periph else .none⟩
  | _ => .error .notObject

/-- The errors of `ValidatePDF`. -/
inductive PdfError
  | empty
  | tooLarge (size : ℕ)
  | missingHeader
  | missingTrailer
  deriving DecidableEq, Repr

def pdfEofSearchWindow : ℕ := 4096

/-- `maxPrintBytes`. -/
def maxPrintBytes : ℕ := 5 * 1024 * 1024

/-- `ValidatePDF`. -/
def validatePdf (data : List UInt8) : Except PdfError Unit :=
  if data.length = 0 then .error .empty
  else if maxPrintBytes < data.length then .error (.tooLarge data.length)
  else if pdfPrefix.isPrefixOf data = false then .error .missingHeader
  else
    let tail := if pdfEofSearchWindow < data.length then data.drop (data.length - pdfEofSearchWindow) else data
    if occurs pdfEof tail = false then .error .missingTrailer else .ok ()

end PrintGateway.Agent
