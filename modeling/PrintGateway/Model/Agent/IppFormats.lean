import PrintGateway.Model.Agent.IppPrint

/-!
# Document formats over IPP

`parseIPPPrinterAttributes`, the selection of a document format from its flattened result, and what
`printPDFWithFormatNegotiation` hands to `printDocument`.  The two renderers are parameters.
-/

namespace PrintGateway.Agent

open Codec
open Machine (Keyed)

/-! ### Attributes of the printer -/

/-- `ippPrinterAttributeType`: the tag of a known attribute, and whether it has one value only. -/
def ippPrinterAttributeType (name : Bytes) : Option (UInt8 × Bool) :=
  if name = ascii "printer-state" then some (0x23, true)
  else if name = ascii "printer-is-accepting-jobs" then some (0x22, true)
  else if name = ascii "document-format-default" then some (0x49, true)
  else if name = ascii "document-format-supported" then some (0x49, false)
  else if name = ascii "printer-state-reasons" ∨ name = ascii "pwg-raster-document-type-supported" then
    some (0x44, false)
  else if name = ascii "pwg-raster-document-resolution-supported" then some (0x32, false)
  else none

/-- `invalid()`. -/
def invalidAttribute {Value : Type} (name : Bytes) : Except IppError Value :=
  .error (.message ("invalid IPP printer attribute " ++ ofAscii name))

/-- `decodeIPPPrinterAttribute`. -/
def decodeIPPPrinterAttribute (mediaType : Text → Option Text) (name : Bytes) (tag want : UInt8) (value : Bytes) :
    Except IppError Bytes :=
  if tag ≠ want then invalidAttribute name
  else if tag = 0x23 then
    if value.length ≠ 4 ∨ bigEndian value < 3 ∨ 5 < bigEndian value then invalidAttribute name
    else .ok (decodeIPPValue tag value)
  else if tag = 0x22 then
    if value.length ≠ 1 ∨ value.any (1 < ·) then invalidAttribute name else .ok (decodeIPPValue tag value)
  else if tag = 0x44 then
    if !validIPPKeyword value then invalidAttribute name else .ok (decodeIPPValue tag value)
  else if tag = 0x49 then
    if value.length = 0 ∨ 255 < value.length ∨ (value.any fun c => c < 0x20 || 0x7e < c) then invalidAttribute name
    else if !(mediaType (ofAscii value)).any (fun media => decide ('/' ∈ media)) then invalidAttribute name
    else if value.contains 44 then .ok []
    else .ok (decodeIPPValue tag value)
  else if tag = 0x32 then
    let x := int32 (value.take 4)
    let y := int32 ((value.drop 4).take 4)
    if value.length ≠ 9 ∨ x ≤ 0 ∨ y ≤ 0 ∨ (value[8]? ≠ some 3 ∧ value[8]? ≠ some 4) then invalidAttribute name
    else .ok (decimalBytes x ++ ascii "x" ++ decimalBytes y ++
      if value[8]? = some 4 then ascii "dpcm" else ascii "dpi")
  else .ok (decodeIPPValue tag value)

/-- The variables of the loop. -/
structure AttributeScan where
  group : UInt8
  currentTag : UInt8
  currentName : Bytes
  operationValues : ℕ
  collectionDepth : ℕ
  seen : List Bytes
  out : Keyed Bytes Bytes

def AttributeScan.start : AttributeScan := ⟨0, 0, [], 0, 0, [], Keyed.empty⟩

def maxIPPAttributesBytes : ℕ := 64 * 1024

/-- `strings.Contains(","+reasons+",", ",none,")`. -/
def listsNone (reasons : Bytes) : Bool :=
  let listed := ascii "," ++ reasons ++ ascii ","
  listed.tails.any fun rest => (ascii ",none,").isPrefixOf rest

/-- The end tag. -/
def finishAttributes (scan : AttributeScan) (rest : Bytes) : Except IppError (Keyed Bytes Bytes) :=
  if scan.collectionDepth ≠ 0 then ippFail "unfinished IPP collection"
  else if rest ≠ [] ∨ scan.operationValues < 2 then
    ippFail "incomplete IPP operation envelope or trailing response data"
  else
    let reasons := (scan.out.find? (ascii "printer-state-reasons")).getD []
    if reasons ≠ ascii "none" ∧ listsNone reasons then
      ippFail "IPP printer-state-reasons combines none with other values"
    else .ok scan.out

/-- A tag that opens a group. -/
def openAttributeGroup (scan : AttributeScan) (tag : UInt8) : Except IppError AttributeScan :=
  let opened := { scan with group := tag, currentName := [], seen := [] }
  if scan.collectionDepth ≠ 0 then ippFail "unfinished IPP collection"
  else if tag = 0x01 then if scan.group ≠ 0 then ippFail "repeated or misplaced IPP operation group" else .ok opened
  else if tag = 0x05 then
    if scan.group ≠ 0x01 ∨ scan.operationValues < 2 then ippFail "misplaced IPP unsupported group" else .ok opened
  else if tag = 0x04 then
    if (scan.group ≠ 0x01 ∧ scan.group ≠ 0x05) ∨ scan.operationValues < 2 then
      ippFail "repeated or misplaced IPP printer group"
    else .ok opened
  else ippFail "unexpected IPP printer response group"

/-- A value inside a collection. -/
def collectionMember (scan : AttributeScan) (tag : UInt8) (name value : Bytes) : Except IppError AttributeScan :=
  if name ≠ [] then ippFail "named IPP collection member value"
  else if tag = Ipp.beginCollection then
    if value.length ≠ 0 then ippFail "invalid IPP collection start"
    else .ok { scan with collectionDepth := scan.collectionDepth + 1 }
  else if tag = Ipp.endCollection then
    if value.length ≠ 0 then ippFail "invalid IPP collection end"
    else .ok { scan with collectionDepth := scan.collectionDepth - 1 }
  else if tag = 0x4a then
    if !validIPPKeyword value then ippFail "invalid IPP collection member name" else .ok scan
  else .ok scan

/-- The attribute a value belongs to. -/
def currentAttribute (scan : AttributeScan) (tag : UInt8) (name : Bytes) : Except IppError AttributeScan :=
  if name ≠ [] then
    if !validIPPKeyword name ∨ name ∈ scan.seen then ippFail "invalid or duplicate IPP attribute name"
    else .ok { scan with currentName := name, currentTag := tag, seen := name :: scan.seen }
  else if scan.currentName = [] then ippFail "IPP additional value has no attribute in its group"
  else .ok scan

/-- A value of the operation group. -/
def operationValue (wellFormed : Text → Bool) (scan : AttributeScan) (tag : UInt8) (named : Bool) (value : Bytes) :
    Except IppError AttributeScan :=
  if scan.group ≠ 0x01 then .ok scan
  else if scan.operationValues < 2 ∧ (!named ∨ scan.currentName ≠ wantedOperation scan.operationValues) then
    ippFail "required IPP operation attributes are not first and ordered"
  else if scan.currentName = ascii "attributes-charset" ∧ (!named ∨ tag ≠ 0x47 ∨ value ≠ ascii "utf-8") then
    ippFail "invalid IPP response charset"
  else if scan.currentName = ascii "attributes-natural-language" ∧
      (!named ∨ tag ≠ 0x48 ∨ !validIPPNaturalLanguage wellFormed value) then
    ippFail "invalid IPP response natural language"
  else .ok { scan with operationValues := scan.operationValues + 1 }

/-- The values that say that there is none. -/
def isOutOfBand (tag : UInt8) : Bool := tag == 0x10 || tag == 0x12 || tag == 0x13

/-- A value of the printer group, if it is of a known attribute. -/
def printerValue (mediaType : Text → Option Text) (scan : AttributeScan) (tag : UInt8) (named : Bool)
    (value : Bytes) : Except IppError AttributeScan :=
  if scan.group ≠ 0x04 then .ok scan
  else
    match ippPrinterAttributeType scan.currentName with
    | none => .ok scan
    | some (known, single) =>
      if (!named ∧ (single ∨ tag ≠ scan.currentTag)) ∨ (isOutOfBand tag ∧ value.length ≠ 0) then
        .error (.message ("invalid IPP additional or unavailable value for " ++ ofAscii scan.currentName))
      else if isOutOfBand tag then .ok { scan with out := scan.out.put scan.currentName [] }
      else do
        let decoded ← decodeIPPPrinterAttribute mediaType scan.currentName tag known value
        return if decoded = [] then scan else { scan with out := appendValue scan.out scan.currentName decoded }

/-- A value that begins a collection. -/
def openCollection (scan : AttributeScan) (tag : UInt8) (value : Bytes) : Except IppError AttributeScan :=
  if tag = Ipp.beginCollection then
    if value.length ≠ 0 then ippFail "invalid IPP collection start" else .ok { scan with collectionDepth := 1 }
  else .ok scan

/-- A name and a value. -/
def attributeValue (wellFormed : Text → Bool) (mediaType : Text → Option Text) (scan : AttributeScan) (tag : UInt8)
    (name value : Bytes) : Except IppError AttributeScan :=
  if scan.collectionDepth ≠ 0 then collectionMember scan tag name value
  else do
    let scan ← currentAttribute scan tag name
    if tag = Ipp.endCollection ∨ tag = 0x4a then ippFail "IPP collection member outside a collection"
    else do
      let scan ← operationValue wellFormed scan tag (name ≠ []) value
      let scan ← printerValue mediaType scan tag (name ≠ []) value
      openCollection scan tag value

/-- The loop of `parseIPPPrinterAttributes`. -/
def attributesReader (wellFormed : Text → Bool) (mediaType : Text → Option Text) :
    IppReader AttributeScan (Keyed Bytes Bytes) where
  missingEnd := "missing IPP response end tag"
  truncatedName := "IPP attribute outside a group or truncated name length"
  invalidName := "invalid IPP attribute name length"
  truncatedValue := "truncated IPP attribute value length"
  invalidValue := "negative or truncated IPP attribute value length"
  inGroup scan := scan.group ≠ 0
  finish := finishAttributes
  openGroup := openAttributeGroup
  name scan _ := .ok scan
  value := attributeValue wellFormed mediaType

/-- `parseIPPPrinterAttributes`. -/
def parseIPPPrinterAttributes (wellFormed : Text → Bool) (mediaType : Text → Option Text) (data : Bytes)
    (requestID : ℕ) : Except IppError (Keyed Bytes Bytes) :=
  if data.length < 9 ∨ maxIPPAttributesBytes < data.length then ippFail "invalid IPP attributes response size"
  else do
    let major ← byteAt data 0
    let minor ← byteAt data 1
    if (major ≠ 1 ∧ major ≠ 2) ∨ 127 < minor then ippFail "unsupported IPP attributes response version"
    else do
      let id := bigEndian (← slice 4 (data.drop 4))
      if requestID = 0 ∨ 0x7fffffff < requestID ∨ id ≠ requestID then
        ippFail "IPP attributes response request-id mismatch"
      else do
        let status := bigEndian (← slice 2 (data.drop 2))
        if 0x00ff < status then
          .error (.message ("IPP status 0x" ++ Json.hexDigits status ++ ": get-printer-attributes unsupported"))
        else (attributesReader wellFormed mediaType).scan .start (data.drop 8)

/-! ### Formats -/

def ippFormatPDF : Text := "application/pdf"

def ippFormatJPEG : Text := "image/jpeg"

def ippFormatPWG : Text := "image/pwg-raster"

def ippFormats : List Text :=
  [ippFormatPDF, ippFormatJPEG, ippFormatPWG, "image/urf", "application/pclm",
    "application/postscript", "application/vnd.hp-pcl"]

/-- `strings.ToLower(strings.TrimSpace(token))` of an ASCII text. -/
def formatOf (token : Bytes) : Text := Text.toLower (Text.trimSpace (ofAscii token))

/-- `parseIPPSupportedFormats`. -/
def parseIPPSupportedFormats (attrs : Keyed Bytes Bytes) : List Text :=
  let listed := (attrs.find? (ascii "document-format-supported")).getD []
  (((listed.splitOn 44).map formatOf).filter (· ∈ ippFormats)).eraseDups

/-! ### Negotiation -/

/-- What the probe came to. -/
inductive IppProbe
  | failed (error : Bytes) (preDispatch : Bool)
  | answered (answer : IppAnswer)
  deriving DecidableEq, Repr

/-- The error of a probe, and whether it proves that nothing was sent. -/
structure ProbeError where
  text : Bytes
  preDispatch : Bool
  deriving DecidableEq, Repr

def IppProbe.fail (text : Bytes) : Except ProbeError (Keyed Bytes Bytes) := .error ⟨text, false⟩

/-- `getPrinterAttributes`. -/
def getPrinterAttributes (wellFormed : Text → Bool) (mediaType : Text → Option Text) :
    IppProbe → Except ProbeError (Keyed Bytes Bytes)
  | .failed error preDispatch => .error ⟨error, preDispatch⟩
  | .answered answer =>
    let (body, readError) := answer.read maxIPPAttributesBytes
    if 400 ≤ answer.statusCode ∧ answer.statusCode < 500 then
      IppProbe.fail (ascii "HTTP " ++ decimalBytes answer.statusCode ++ ascii ": get-printer-attributes unsupported")
    else if answer.statusCode ≠ 200 then IppProbe.fail (ascii "HTTP " ++ decimalBytes answer.statusCode)
    else if mediaType answer.contentType ≠ some "application/ipp".toList then
      IppProbe.fail (ascii "IPP printer attributes response has an invalid Content-Type")
    else
      match readError with
      | some error => IppProbe.fail error
      | none =>
        if maxIPPAttributesBytes < body.length then
          IppProbe.fail (ascii "IPP printer attributes response exceeds 65536-byte limit")
        else
          match parseIPPPrinterAttributes wellFormed mediaType body ippRequestID with
          | .error error => IppProbe.fail error.bytes
          | .ok attrs => .ok attrs

/-- What the calls around the probe answer, and the renderers. -/
structure Negotiation where
  cancelled : Option Bytes
  admissionError : Option Bytes
  probe : IppProbe
  cancelledAfter : Option Bytes
  renderPWG : Bytes → Keyed Bytes Bytes → Except Bytes Bytes
  renderJPEG : Bytes → Except Bytes Bytes

/-- The document that goes to `printDocument`, or the error without one. -/
inductive FormatDecision
  | refuse (message : Bytes)
  | submit (documentFormat : Text) (document : Bytes)
  deriving DecidableEq, Repr

/-- `strings.Join(formats, ", ")`. -/
def joinFormats (formats : List Text) : Bytes :=
  ((formats.intersperse ", ".toList).flatten).map fun c => UInt8.ofNat c.toNat

/-- The choice among the formats of a printer. -/
def chooseFormat (negotiation : Negotiation) (url data : Bytes) (attrs : Keyed Bytes Bytes) : FormatDecision :=
  let formats := parseIPPSupportedFormats attrs
  if Text.equalFold (ofAscii ((attrs.find? (ascii "printer-is-accepting-jobs")).getD [])) "false" then
    .refuse (ascii "IPP printer " ++ url ++
      ascii " is rejecting new jobs; resume the printer before attempting submission")
  else if Text.trimSpace (ofAscii ((attrs.find? (ascii "document-format-supported")).getD [])) = [] then
    .refuse (ascii "IPP printer " ++ url ++ ascii (" did not advertise document-format-supported; no document was " ++
      "submitted. Verify the IPP endpoint and printer capabilities, or configure the installed Windows spooler " ++
      "driver"))
  else if ippFormatPDF ∈ formats then .submit ippFormatPDF data
  else if ippFormatPWG ∈ formats then
    match negotiation.renderPWG data attrs with
    | .error error =>
      .refuse (ascii "IPP printer " ++ url ++
        ascii " supports image/pwg-raster but conversion failed before submission: " ++ error ++
        ascii (". Configure the installed Windows spooler driver if this device needs a format variant the Agent " ++
          "cannot encode"))
    | .ok pwg => .submit ippFormatPWG pwg
  else if ippFormatJPEG ∈ formats then
    match negotiation.renderJPEG data with
    | .error error =>
      .refuse (ascii "IPP printer " ++ url ++ ascii " rejects application/pdf (supported: " ++ joinFormats formats ++
        ascii "); cannot convert document to JPEG: " ++ error ++
        ascii (". For multi-page/raster-only printers select a Windows spooler queue with an installed print " ++
          "driver"))
    | .ok jpeg => .submit ippFormatJPEG jpeg
  else
    .refuse (ascii "IPP printer " ++ url ++ ascii " rejects application/pdf (document-format-supported: " ++
      joinFormats formats ++ ascii ("). Configure the printer's installed Windows queue with the spooler transport " ++
        "for document conversion; no unsupported data was submitted"))

/-- `printPDFWithFormatNegotiation` up to `printDocument`. -/
def printPDFWithFormatNegotiation (wellFormed : Text → Bool) (mediaType : Text → Option Text)
    (negotiation : Negotiation) (url data : Bytes) : FormatDecision :=
  match negotiation.cancelled with
  | some error => .refuse error
  | none =>
    match negotiation.admissionError with
    | some error => .refuse (ascii "IPP format probe admission refused: " ++ error)
    | none =>
      match negotiation.cancelledAfter with
      | some error => .refuse error
      | none =>
        match getPrinterAttributes wellFormed mediaType negotiation.probe with
        | .error error =>
          if error.preDispatch then
            .refuse (ascii "IPP printer " ++ url ++ ascii (" unreachable (request not sent): capability probe could " ++
              "not connect; verify the IPP address, TCP port and protocol from the Windows Agent: ") ++ error.text)
          else
            .refuse (ascii "IPP printer " ++ url ++ ascii (" could not verify document-format-supported before " ++
              "submission; verify the IPP address, authentication and Get-Printer-Attributes support, or configure " ++
              "the installed Windows spooler driver: ") ++ error.text)
        | .ok attrs => chooseFormat negotiation url data attrs

end PrintGateway.Agent
