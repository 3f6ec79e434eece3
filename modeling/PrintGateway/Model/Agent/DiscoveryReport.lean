import PrintGateway.Json.Lengths
import PrintGateway.Model.Text

/-!
# The reports of a discovery session

`buildDiscoveryReportPayloads` cuts the observed devices into numbered request bodies.  A device is
whatever `json.Marshal` is given for it: its encoding, or the lack of one, is a parameter, and a
message it wrote is put into a body as it is.

A string of Go need not be UTF-8.  It is modelled by what `range` finds in it: characters, and bytes
that are not part of one.
-/

namespace PrintGateway.Agent

open Text

/-! ### Strings of Go -/

/-- One turn of `range` over a string. -/
inductive Rune
  | char (c : Char)
  | invalid (byte : UInt8)
  deriving DecidableEq, Repr

abbrev GoString := List Rune

def GoString.ofText (text : Text) : GoString := text.map .char

/-- A rune inside a JSON literal. -/
def Rune.escape : Rune → Text
  | .char c => Json.escapeChar c
  | .invalid _ => Json.backslash :: "ufffd"

/-- The JSON literal of a string. -/
def GoString.quote (value : GoString) : Text :=
  Json.quoteMark :: (value.flatMap Rune.escape ++ [Json.quoteMark])

def discoveryReportMaxDevices : ℕ := 250
def discoveryReportDeviceBudget : ℕ := 900 * 1024
def discoveryReportBodyLimit : ℕ := 2 * 1024 * 1024
def maxDiagnostics : ℕ := 64

inductive DiscoveryStatus
  | running
  | completed
  | partiallyCompleted
  | failed
  | cancelled
  deriving DecidableEq, Repr

def DiscoveryStatus.text : DiscoveryStatus → Text
  | .running => "running"
  | .completed => "completed"
  | .partiallyCompleted => "partial"
  | .failed => "failed"
  | .cancelled => "cancelled"

/-- The loop over the devices: closed pages, the open page with its bytes, and what was skipped. -/
structure ReportSplit where
  pages : List (List Text)
  page : List Text
  pageBytes : ℕ
  skipped : ℕ
  deriving DecidableEq, Repr

/-- What `json.Marshal` gives for a device, if the report takes it. -/
def encodable {Device : Type} (marshal : Device → Option Text) (device : Device) : Option Text :=
  (marshal device).filter fun item => Json.utf8Length item ≤ discoveryReportDeviceBudget

namespace ReportSplit

def empty : ReportSplit := ⟨[], [], 0, 0⟩

/-- Put an item on the open page, or on a new one. -/
def add (split : ReportSplit) (item : Text) : ReportSplit :=
  let bytes := Json.utf8Length item + 1
  if discoveryReportMaxDevices ≤ split.page.length ∨
      split.page ≠ [] ∧ discoveryReportDeviceBudget < split.pageBytes + bytes then
    { split with pages := split.pages ++ [split.page], page := [item], pageBytes := bytes }
  else { split with page := split.page ++ [item], pageBytes := split.pageBytes + bytes }

def next {Device : Type} (marshal : Device → Option Text) (split : ReportSplit) (device : Device) : ReportSplit :=
  match encodable marshal device with
  | none => { split with skipped := split.skipped + 1 }
  | some item => split.add item

/-- All pages; there is always one. -/
def close (split : ReportSplit) : List (List Text) :=
  if split.page ≠ [] ∨ split.pages = [] then split.pages ++ [split.page] else split.pages

end ReportSplit

/-- The payload of one request. -/
structure ReportPage where
  discoveryId : GoString
  status : DiscoveryStatus
  devices : List Text
  errors : List GoString
  chunkIndex : ℕ
  chunkCount : ℕ
  totalCandidates : ℕ
  deriving DecidableEq, Repr

/-- `json.Marshal(payload)`. -/
def ReportPage.body (page : ReportPage) : Text :=
  "\x7b\"discoveryId\":" ++ page.discoveryId.quote ++ ",\"status\":" ++ GoString.quote (.ofText page.status.text) ++
    ",\"devices\":[" ++ ",".toList.intercalate page.devices ++
    "],\"errors\":[" ++ ",".toList.intercalate (page.errors.map GoString.quote) ++
    "],\"chunkIndex\":" ++ digits page.chunkIndex ++
    ",\"chunkCount\":" ++ digits page.chunkCount ++
    ",\"totalCandidates\":" ++ digits page.totalCandidates ++ "\x7d"

section Build

variable {Device : Type} (marshal : Device → Option Text) (discoveryId : GoString)
  (status : DiscoveryStatus) (devices : List Device) (sourceErrors : List GoString)

end Build

end PrintGateway.Agent
