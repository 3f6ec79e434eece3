import PrintGateway.Model.Agent.IppResponse

/-!
# Submitting a document over IPP

`printDocument` from the context check to its result.  Texts that quote bytes of the printer are byte
strings.  A result tells success from an error, whose text is what the marker is looked for in.
-/

namespace PrintGateway.Agent

open Codec
open Machine (Keyed)

abbrev Bytes := List UInt8

/-! ### The attribute map for diagnostics -/

/-- `fmt.Sprintf("%d", n)`. -/
def decimalBytes (n : ℤ) : Bytes := (Text.decimal n).map fun c => UInt8.ofNat c.toNat

/-- `decodeIPPValue`. -/
def decodeIPPValue (tag : UInt8) (raw : Bytes) : Bytes :=
  if tag ∈ [0x10, 0x12, 0x13] then []
  else if tag ∈ [0x21, 0x23] then if raw.length ≠ 4 then [] else decimalBytes (int32 raw)
  else if tag = 0x22 then
    match raw with
    | [byte] => if byte ≠ 0 then ascii "true" else ascii "false"
    | _ => []
  else if tag = 0x32 then
    let x := bigEndian (raw.take 4)
    let y := bigEndian ((raw.drop 4).take 4)
    if raw.length ≠ 9 ∨ x = 0 ∨ y = 0 ∨ 1200 < x ∨ 1200 < y then []
    else if raw[8]? = some 3 then decimalBytes x ++ ascii "x" ++ decimalBytes y ++ ascii "dpi"
    else if raw[8]? = some 4 then decimalBytes x ++ ascii "x" ++ decimalBytes y ++ ascii "dpcm"
    else []
  else if tag ∈ [0x30, 0x41, 0x42, 0x44, 0x45, 0x46, 0x47, 0x48, 0x49] then raw
  else if raw.any fun b => b < 0x20 || 0x7e < b then []
  else raw

/-- A value behind those the attribute has already. -/
def appendValue (out : Keyed Bytes Bytes) (name value : Bytes) : Keyed Bytes Bytes :=
  let existing := (out.find? name).getD []
  out.put name (if existing ≠ [] then existing ++ ascii "," ++ value else value)

/-- The loop of `parseIPPAttributes`, which ends where something does not fit. -/
def attributesFrom (currentName : Bytes) (out : Keyed Bytes Bytes) (bytes : Bytes) : Keyed Bytes Bytes :=
  match bytes with
  | [] => out
  | tag :: bytes =>
    if tag = Ipp.endTag then out
    else
      match _read : Ipp.readItem tag bytes with
      | none => out
      | some (.group _, rest) => attributesFrom [] out rest
      | some (.value _ name raw, rest) =>
        let currentName := if name ≠ [] then name else currentName
        let value := decodeIPPValue tag raw
        attributesFrom currentName (if currentName = [] ∨ value = [] then out else appendValue out currentName value)
          rest
termination_by bytes.length
decreasing_by
  all_goals exact Nat.lt_succ_of_le (Ipp.length_le_of_readItem _read)

/-- `parseIPPAttributes`. -/
def parseIPPAttributes (data : Bytes) : Keyed Bytes Bytes :=
  if data.length < 8 then Keyed.empty else attributesFrom [] Keyed.empty (data.drop 8)

/-- `parseIPPStatus`. -/
def parseIPPStatus (data : Bytes) : ℕ × Bytes :=
  if completeIPPResponse data = false then (0xffff, ascii "invalid or truncated IPP response")
  else (bigEndian ((data.drop 2).take 2), ((parseIPPAttributes data).find? (ascii "status-message")).getD [])

/-! ### Errors -/

def errOutcomeUnknown : Bytes := ascii "UNKNOWN_PARTIAL_DELIVERY"

def Printer.outcomeMarkers : List Bytes :=
  [ascii "AGENT_EXECUTION_TIMEOUT", ascii "AGENT_RESTART_DURING_PRINT", ascii "JOB_EXPIRED_DURING_PRINT",
    ascii "UNKNOWN_PARTIAL_DELIVERY", ascii "UNKNOWN_SUBMISSION_OUTCOME"]

def Printer.hasUnknownOutcomeMarker (message : Bytes) : Bool :=
  Printer.outcomeMarkers.any fun marker => marker.isPrefixOf message

/-- `fmt.Errorf("%s: ...", ErrOutcomeUnknown, ...)`. -/
def wrapUnknown (message : Bytes) : Bytes := errOutcomeUnknown ++ ascii ": " ++ message

/-- `MarkUnknown`. -/
def markUnknown (message : Bytes) : Bytes :=
  if Printer.hasUnknownOutcomeMarker message then message else wrapUnknown message

/-- Four hexadecimal digits. -/
def hex4 (status : ℕ) : Bytes := (Json.hexDigits status).map fun c => UInt8.ofNat c.toNat

def ippStatusText (status : ℕ) : Bytes :=
  if status = 0x0000 then ascii "successful-ok"
  else if status = 0x0001 then ascii "successful-ok-ignored-or-substituted-attributes"
  else if status = 0x0400 then ascii "client-error-bad-request"
  else if status = 0x0401 then ascii "client-error-forbidden"
  else if status = 0x0402 then ascii "client-error-not-authenticated"
  else if status = 0x0403 then ascii "client-error-not-authorized"
  else if status = 0x0404 then ascii "client-error-not-possible"
  else if status = 0x040a then ascii "client-error-document-format-not-supported"
  else if status = 0x0500 then ascii "server-error-internal-error"
  else if status = 0x0501 then ascii "server-error-operation-not-supported"
  else if status = 0x0503 then ascii "server-error-version-not-supported"
  else ascii "unknown-0x" ++ hex4 status

/-! ### `printDocument` -/

/-- What `client.Do` and reading the body come to. -/
structure IppAnswer where
  statusCode : ℕ
  contentType : Text
  body : Bytes
  readError : Option Bytes
  deriving DecidableEq, Repr

inductive IppDelivery
  /-- Dialling or name resolution failed. -/
  | notSent (error : Bytes)
  | failed (error : Bytes)
  | answered (answer : IppAnswer)
  deriving DecidableEq, Repr

inductive PrintResult
  | success
  | error (message : Bytes)
  | panicked
  deriving DecidableEq, Repr

/-- The steps before the request goes to the HTTP client, each with its error. -/
structure IppSubmission where
  cancelled : Option Bytes
  requestError : Option Bytes
  admissionError : Option Bytes
  delivery : IppDelivery
  deriving DecidableEq, Repr

/-- `ippReq[4:8]`. -/
def ippRequestID : ℕ := 1

def IppError.bytes : IppError → Bytes
  | .outOfRange => []
  | .message text => text.map fun c => UInt8.ofNat c.toNat

/-- What a complete IPP response means. -/
def judgeResponse (wellFormed : Text → Bool) (url documentFormat body : Bytes) : PrintResult :=
  let (status, msg) := parseIPPStatus body
  if status = 0xffff then
    .error (wrapUnknown (ascii "IPP response from " ++ url ++ ascii " was truncated (job state unknown): " ++ msg))
  else if 0x0500 ≤ status ∧ status ≤ 0x05ff then
    .error (wrapUnknown (ascii "IPP printer " ++ url ++ ascii " returned server error 0x" ++ hex4 status ++
      ascii " (" ++ ippStatusText status ++ ascii "); the job may be queued (physical outcome unknown)"))
  else if 0x0400 ≤ status ∧ status ≤ 0x04ff then
    match parseIPPPrintResponse wellFormed body ippRequestID false with
    | .error .outOfRange => .panicked
    | .error error =>
      .error (markUnknown (ascii "IPP response from " ++ url ++
        ascii " has unusable refusal evidence after submission: " ++ error.bytes))
    | .ok _ =>
      if status = 0x040a then
        .error (ascii "IPP printer " ++ url ++ ascii " rejected document-format " ++ documentFormat ++
          ascii " (0x040A: " ++ ippStatusText status ++ ascii "): " ++ msg ++
          ascii ". Verify document-format-supported and use the Windows spooler driver if necessary")
      else
        .error (ascii "IPP printer " ++ url ++ ascii " returned client error 0x" ++ hex4 status ++ ascii " (" ++
          ippStatusText status ++ ascii "): " ++ msg)
  else if 0x00ff < status then
    .error (wrapUnknown (ascii "IPP printer " ++ url ++ ascii " returned unknown status 0x" ++ hex4 status ++
      ascii " (" ++ ippStatusText status ++ ascii ")"))
  else
    match parseIPPPrintResponse wellFormed body ippRequestID true with
    | .error .outOfRange => .panicked
    | .error error =>
      .error (markUnknown (ascii "IPP response from " ++ url ++ ascii " has unusable submitted Job evidence: " ++
        error.bytes))
    | .ok _ => .success

/-- What `io.ReadAll` returns below the limit of one byte beyond the budget. -/
def IppAnswer.read (answer : IppAnswer) (budget : ℕ) : Bytes × Option Bytes :=
  if budget < answer.body.length then (answer.body.take (budget + 1), none) else (answer.body, answer.readError)

/-- What an HTTP response means. -/
def judgeAnswer (wellFormed : Text → Bool) (mediaType : Text → Option Text) (url documentFormat : Bytes)
    (answer : IppAnswer) : PrintResult :=
  let (body, readError) := answer.read maxIPPPrintResponseBytes
  if answer.statusCode ≠ 200 then
    if 300 ≤ answer.statusCode ∧ answer.statusCode < 400 then
      .error (markUnknown (ascii "IPP printer " ++ url ++ ascii " redirected Print-Job with HTTP " ++
        decimalBytes answer.statusCode ++ ascii " after submission; output may exist"))
    else
      .error (markUnknown (ascii "IPP printer " ++ url ++ ascii " returned HTTP " ++ decimalBytes answer.statusCode ++
        ascii " after Print-Job; no correlated IPP result is available and output may exist"))
  else if mediaType answer.contentType ≠ some "application/ipp".toList then
    .error (markUnknown (ascii "IPP response from " ++ url ++
      ascii " has an invalid Content-Type after Print-Job; output may exist"))
  else
    match readError with
    | some error =>
      .error (wrapUnknown (ascii "IPP response from " ++ url ++ ascii " was truncated (job state unknown): " ++
        error))
    | none =>
      if maxIPPPrintResponseBytes < body.length then
        .error (markUnknown (ascii "IPP response from " ++ url ++
          ascii " exceeds the response budget (job state unknown)"))
      else judgeResponse wellFormed url documentFormat body

/-- `printDocument`. -/
def printDocument (wellFormed : Text → Bool) (mediaType : Text → Option Text) (url documentFormat : Bytes)
    (submission : IppSubmission) : PrintResult :=
  match submission.cancelled with
  | some error => .error error
  | none =>
    match submission.requestError with
    | some error => .error (ascii "IPP create request for " ++ url ++ ascii ": " ++ error)
    | none =>
      match submission.admissionError with
      | some error => .error (ascii "IPP print admission refused: " ++ error)
      | none =>
        match submission.delivery with
        | .notSent error =>
          .error (ascii "IPP printer " ++ url ++ ascii (" unreachable (request not sent): check TCP connectivity to " ++
            "the configured IPP endpoint from the Windows Agent, and confirm it supports IPP: ") ++ error)
        | .failed error =>
          .error (wrapUnknown (ascii "IPP submission to " ++ url ++
            ascii " failed after transmission may have occurred: " ++ error))
        | .answered answer => judgeAnswer wellFormed mediaType url documentFormat answer

end PrintGateway.Agent
