import PrintGateway.Model.Agent.IppReader
import PrintGateway.Net.Go

/-!
# Responses to Print-Job

`parseIPPPrintResponse` and `completeIPPResponse`.  Whether a language tag is well formed is left to the
package that decides it.
-/

namespace PrintGateway.Agent

open Text Net Codec

def validIPPKeyword (value : List UInt8) : Bool :=
  decide (0 < value.length ∧ value.length ≤ 255) && value.head?.any (fun c => 97 ≤ c && c ≤ 122) &&
    value.all fun c => (97 ≤ c && c ≤ 122) || (48 ≤ c && c ≤ 57) || c == 45 || c == 46 || c == 95

/-- The parts of a language tag, each of up to eight characters. -/
def languageParts (partLength : ℕ) : List UInt8 → Bool
  | [] => partLength != 0
  | c :: rest =>
    if !(97 ≤ c && c ≤ 122) && !(48 ≤ c && c ≤ 57) && c != 45 then false
    else if c = 45 then partLength != 0 && languageParts 0 rest
    else decide (partLength + 1 ≤ 8) && languageParts (partLength + 1) rest

def validIPPNaturalLanguage (wellFormed : Text → Bool) (value : List UInt8) : Bool :=
  decide (0 < value.length ∧ value.length ≤ 63) && languageParts 0 value && wellFormed (ofAscii value)

def ippURIHexDigit (c : UInt8) : Bool := (48 ≤ c && c ≤ 57) || (97 ≤ c && c ≤ 102) || (65 ≤ c && c ≤ 70)

/-- The alphabet and the escapes of RFC 3986. -/
def uriAlphabet : List UInt8 → Bool
  | [] => true
  | 37 :: a :: b :: rest => ippURIHexDigit a && ippURIHexDigit b && uriAlphabet rest
  | c :: rest =>
    ((97 ≤ c && c ≤ 122) || (65 ≤ c && c ≤ 90) || (48 ≤ c && c ≤ 57) ||
      (ascii "-._~:/?#[]@!$&'()*+,;=").contains c) && uriAlphabet rest

def validIPPJobURI (value : List UInt8) : Bool :=
  decide (0 < value.length ∧ value.length ≤ 1023) && uriAlphabet value && match Go.Url.parse (ofAscii value) with
    | none => false
    | some u =>
      if u.scheme = [] then false
      else if u.scheme ∈ ["ipp".toList, "ipps", "http", "https"] then u.hostname ≠ []
      else u.host ≠ [] || u.path ≠ []

/-! ### `parseIPPPrintResponse` -/

structure IppJobEvidence where
  id : ℤ
  state : ℤ
  deriving DecidableEq, Repr

/-- The variables of the loop. -/
structure ResponseScan where
  group : UInt8
  currentName : List UInt8
  operationValues : ℕ
  seenCharset : Bool
  seenLanguage : Bool
  seenJobGroup : Bool
  seenID : Bool
  seenURI : Bool
  seenState : Bool
  seenReasons : Bool
  reasonCount : ℕ
  hasNone : Bool
  job : IppJobEvidence
  deriving DecidableEq, Repr

def ResponseScan.start : ResponseScan :=
  ⟨0, [], 0, false, false, false, false, false, false, false, 0, false, ⟨0, 0⟩⟩

def maxIPPPrintResponseBytes : ℕ := 1 <<< 20

/-- The end tag. -/
def finishResponse (requireJob : Bool) (scan : ResponseScan) (rest : List UInt8) : Except IppError IppJobEvidence :=
  if rest ≠ [] then ippFail "trailing data after response end tag"
  else if !scan.seenCharset || !scan.seenLanguage then ippFail "missing required operation attributes"
  else if !requireJob then .ok scan.job
  else if scan.group ≠ 0x02 ∨ !scan.seenJobGroup ∨ !scan.seenID ∨ !scan.seenURI ∨ !scan.seenState ∨
      !scan.seenReasons then
    ippFail "missing required Job attributes"
  else if scan.hasNone ∧ scan.reasonCount ≠ 1 then ippFail "job-state-reasons combines none with other values"
  else if scan.job.state = 7 ∨ scan.job.state = 8 then
    .error (.message ("returned Job is canceled or aborted (state " ++ decimal scan.job.state ++ ")"))
  else .ok scan.job

/-- A tag that opens a group. -/
def openGroup (scan : ResponseScan) (tag : UInt8) : Except IppError ResponseScan :=
  let opened := { scan with group := tag, currentName := [] }
  if tag = 0x01 then if scan.group ≠ 0 then ippFail "repeated or misplaced operation group" else .ok opened
  else if tag = 0x05 then
    if scan.group ≠ 0x01 ∨ !scan.seenCharset ∨ !scan.seenLanguage then ippFail "misplaced unsupported group"
    else .ok opened
  else if tag = 0x02 then
    if (scan.group ≠ 0x01 ∧ scan.group ≠ 0x05) ∨ !scan.seenCharset ∨ !scan.seenLanguage ∨ scan.seenJobGroup then
      ippFail "repeated or misplaced Job group"
    else .ok { opened with seenJobGroup := true }
  else ippFail "unexpected Print-Job response group"

/-- The attribute an operation value must be. -/
def wantedOperation (operationValues : ℕ) : List UInt8 :=
  if operationValues = 1 then ascii "attributes-natural-language" else ascii "attributes-charset"

/-- A value of the operation group. -/
def operationAttribute (wellFormed : Text → Bool) (scan : ResponseScan) (tag : UInt8) (named : Bool)
    (value : List UInt8) : Except IppError ResponseScan :=
  if scan.operationValues < 2 ∧ (!named ∨ scan.currentName ≠ wantedOperation scan.operationValues) then
    ippFail "required operation attributes are not first and ordered"
  else
    let counted := { scan with operationValues := scan.operationValues + 1 }
    if scan.currentName = ascii "attributes-charset" then
      if !named ∨ scan.seenCharset ∨ tag ≠ 0x47 ∨ value ≠ ascii "utf-8" then
        ippFail "invalid or duplicate response charset"
      else .ok { counted with seenCharset := true }
    else if scan.currentName = ascii "attributes-natural-language" then
      if !named ∨ scan.seenLanguage ∨ tag ≠ 0x48 ∨ !validIPPNaturalLanguage wellFormed value then
        ippFail "invalid or duplicate response natural language"
      else .ok { counted with seenLanguage := true }
    else .ok counted

/-- A value of the job group. -/
def jobAttribute (scan : ResponseScan) (tag : UInt8) (named : Bool) (value : List UInt8) :
    Except IppError ResponseScan :=
  if scan.currentName = ascii "job-id" then
    if !named ∨ scan.seenID ∨ tag ≠ 0x21 ∨ value.length ≠ 4 then ippFail "invalid or duplicate job-id"
    else if int32 value ≤ 0 then ippFail "job-id must be a positive integer"
    else .ok { scan with job := { scan.job with id := int32 value }, seenID := true }
  else if scan.currentName = ascii "job-uri" then
    if !named ∨ scan.seenURI ∨ tag ≠ 0x45 ∨ !validIPPJobURI value then ippFail "invalid or duplicate job-uri"
    else .ok { scan with seenURI := true }
  else if scan.currentName = ascii "job-state" then
    if !named ∨ scan.seenState ∨ tag ≠ 0x23 ∨ value.length ≠ 4 then ippFail "invalid or duplicate job-state"
    else if int32 value < 3 ∨ 9 < int32 value then ippFail "unsupported job-state"
    else .ok { scan with job := { scan.job with state := int32 value }, seenState := true }
  else if scan.currentName = ascii "job-state-reasons" then
    if (named ∧ scan.seenReasons) ∨ tag ≠ 0x44 ∨ !validIPPKeyword value then
      ippFail "invalid or duplicate job-state-reasons"
    else .ok { scan with
      seenReasons := true
      reasonCount := scan.reasonCount + 1
      hasNone := scan.hasNone || value == ascii "none" }
  else .ok scan

/-- The name of an attribute, which stays the same for further values. -/
def nameAttribute (scan : ResponseScan) (name : List UInt8) : Except IppError ResponseScan :=
  if name ≠ [] then
    if !validIPPKeyword name then ippFail "invalid attribute name syntax"
    else .ok { scan with currentName := name }
  else if scan.currentName = [] then ippFail "additional value has no attribute in its group"
  else .ok scan

/-- A value in its group. -/
def takeValue (wellFormed : Text → Bool) (requireJob : Bool) (scan : ResponseScan) (tag : UInt8)
    (named : Bool) (value : List UInt8) : Except IppError ResponseScan :=
  if scan.group = 0x01 then operationAttribute wellFormed scan tag named value
  else if scan.group ≠ 0x02 ∨ !requireJob then .ok scan
  else jobAttribute scan tag named value

/-- The loop of `parseIPPPrintResponse`. -/
def responseReader (wellFormed : Text → Bool) (requireJob : Bool) : IppReader ResponseScan IppJobEvidence where
  missingEnd := "missing response end tag"
  truncatedName := "attribute outside a group or truncated name length"
  invalidName := "invalid attribute name length"
  truncatedValue := "truncated attribute value length"
  invalidValue := "negative or truncated attribute value length"
  inGroup scan := scan.group ≠ 0
  finish := finishResponse requireJob
  openGroup := openGroup
  name := nameAttribute
  value scan tag name value := takeValue wellFormed requireJob scan tag (name ≠ []) value

/-- `parseIPPPrintResponse`. -/
def parseIPPPrintResponse (wellFormed : Text → Bool) (data : List UInt8) (requestID : ℕ) (requireJob : Bool) :
    Except IppError IppJobEvidence :=
  if data.length < 9 ∨ maxIPPPrintResponseBytes < data.length then ippFail "invalid response size"
  else do
    let major ← byteAt data 0
    let minor ← byteAt data 1
    if (major ≠ 1 ∧ major ≠ 2) ∨ 127 < minor then ippFail "unsupported response version"
    else do
      let id := bigEndian (← slice 4 (data.drop 4))
      if requestID = 0 ∨ 0x7fffffff < requestID ∨ id ≠ requestID then
        ippFail "response request-id does not match submission"
      else do
        let status := bigEndian (← slice 2 (data.drop 2))
        if requireJob ∧ 0x00ff < status then ippFail "response status is not successful"
        else (responseReader wellFormed requireJob).scan .start (data.drop 8)

/-! ### `completeIPPResponse` -/

/-- The loop; a name or value that does not fit ends it. -/
def completeFrom (inGroup hasName : Bool) (bytes : List UInt8) : Bool :=
  match bytes with
  | [] => false
  | tag :: bytes =>
    if tag = Ipp.endTag then bytes.isEmpty
    else if Ipp.isDelimiter tag then if tag = 0 then false else completeFrom true false bytes
    else if !inGroup then false
    else
      match _read : Ipp.readItem tag bytes with
      | some (.value _ name _, rest) => if name = [] ∧ !hasName then false else completeFrom inGroup true rest
      | _ => false
termination_by bytes.length
decreasing_by
  · exact Nat.lt_succ_self _
  · exact Nat.lt_succ_of_le (Ipp.length_le_of_readItem _read)

def completeIPPResponse (data : List UInt8) : Bool :=
  if data.length < 9 then false
  else
    (data[0]? == some 1 || data[0]? == some 2) && bigEndian ((data.drop 4).take 4) == 1 &&
      completeFrom false false (data.drop 8)

end PrintGateway.Agent
