import PrintGateway.Model.Gateway.JobRow

/-!
# Heartbeat requests

The body of `POST /api/agent/heartbeat` and the checks the handler makes before its transaction.  What
passes them is a page, and a page carries what the checks established.
-/

namespace PrintGateway.Gateway

open Text

/-- A field of a JSON body: left out, of the expected type, or of another one. -/
inductive BodyField (Content : Type)
  | absent
  | value (content : Content)
  | malformed
  deriving DecidableEq, Repr

def BodyField.isPresent {Content : Type} : BodyField Content → Bool
  | .absent => false
  | .value _ | .malformed => true

/-- What an observation says about a device. -/
structure ObservedDetails where
  connectionType : ConnectionType
  protocol : PrinterProtocol
  status : PrinterStatus
  deriving DecidableEq, Repr

/-- An object of the `printers` array; `details` is the verdict of the checks on its transport,
capabilities and configuration. -/
structure ReportedPrinter where
  id : Option Text
  name : Option Text
  sharedWithGateway : BodyField Bool
  details : Except Text ObservedDetails
  deriving DecidableEq, Repr

/-- An entry of the `printers` array. -/
inductive ReportedEntry
  | other
  | printer (reported : ReportedPrinter)
  deriving DecidableEq, Repr

/-- The entry has the key `sharedWithGateway`. -/
def ReportedEntry.controlsSharing : ReportedEntry → Bool
  | .other => false
  | .printer reported => reported.sharedWithGateway.isPresent

/-- An entry of `desiredStateAcks`; a field that is no safe integer is missing. -/
structure DesiredStateAck where
  printerId : Option Text
  appliedDesiredRevision : Option ℤ
  observedDesiredRevision : Option ℤ
  deriving DecidableEq, Repr

/-- The body of a heartbeat.  A list field that is no array is empty, `privatePrinterIds` apart. -/
structure HeartbeatRequest where
  status : BodyField Text
  heartbeatPage : BodyField ℤ
  heartbeatPageCount : BodyField ℤ
  inventorySnapshotId : BodyField Text
  inventorySnapshotVersion : BodyField Text
  inventoryComplete : BodyField Bool
  desiredStatePaging : BodyField Bool
  printers : List ReportedEntry
  privatePrinterIds : BodyField (List (Option Text))
  gatewayOwnedPrinterIds : List (Option Text)
  keepAliveJobIds : List (Text × Option Token)
  desiredStateAcks : List DesiredStateAck
  deriving DecidableEq, Repr

/-- A validated heartbeat.  Every versioned page names its snapshot, and sharing controls only come
with a version. -/
structure HeartbeatPage where
  status : AgentStatus
  page : ℕ
  pageCount : ℕ
  snapshotId : Option Text
  version : Option ℕ
  complete : Bool
  printers : List ReportedEntry
  privatePrinterIds : List Text
  gatewayOwnedPrinterIds : List Text
  keepAlive : List (Text × Token)
  desiredStateAcks : List DesiredStateAck
  positive : 1 ≤ page
  bounded : page ≤ pageCount
  identified : version.isSome = true → snapshotId.isSome = true
  counted : ∀ number ∈ version, 1 ≤ number
  denials : privatePrinterIds ≠ [] → version.isSome = true
  permissions : printers.any ReportedEntry.controlsSharing = true → version.isSome = true
  deriving DecidableEq

namespace HeartbeatPage

/-- `isFinalHeartbeatPage`. -/
def isFinal (page : HeartbeatPage) : Bool := page.page == page.pageCount

end HeartbeatPage

def maxSnapshotVersion : ℕ := 9223372036854775807

def decimalValue (digits : Text) : ℕ := digits.foldl (fun value c => value * 10 + (c.toNat - 48)) 0

/-- `parseInventorySnapshotVersion`: a positive int64 without leading zeros. -/
def parseInventorySnapshotVersion : Text → Option ℕ
  | [] => none
  | c :: rest =>
    if 49 ≤ c.toNat ∧ c.toNat ≤ 57 ∧ rest.length ≤ 18 ∧ rest.all Char.isDigit = true ∧
        decimalValue (c :: rest) ≤ maxSnapshotVersion then some (decimalValue (c :: rest))
    else none

theorem le_foldl_decimal (digits : Text) (value : ℕ) :
    value ≤ digits.foldl (fun value c => value * 10 + (c.toNat - 48)) value := by
  induction digits generalizing value with
  | nil => exact le_rfl
  | cons c digits ih =>
    have first := ih (value * 10 + (c.toNat - 48))
    rw [List.foldl_cons]
    omega

theorem parseInventorySnapshotVersion_pos {value : Text} {number : ℕ}
    (parsed : parseInventorySnapshotVersion value = some number) : 1 ≤ number := by
  cases value with
  | nil => cases parsed
  | cons c rest =>
    obtain ⟨⟨low, -⟩, same⟩ := Option.ite_none_right_eq_some.mp parsed
    cases same
    have first := le_foldl_decimal rest (0 * 10 + (c.toNat - 48))
    simp only [decimalValue, List.foldl_cons]
    omega

/-- The characters of a snapshot id. -/
def isSnapshotChar (c : Char) : Bool :=
  c.isAlphanum || c == '.' || c == '_' || c == ':' || c == '-'

/-- The status of the agent; anything but a text means online. -/
def requestedStatus (field : BodyField Text) : Option AgentStatus :=
  match field with
  | .value text =>
    let word := (trim text).map Char.toLower
    if word = "online" then some .online
    else if word = "offline" then some .offline
    else none
  | .absent | .malformed => some .online

/-- A page number: one for a heartbeat without pages, and nothing valid for a malformed one. -/
def pageNumber (paginated : Bool) : BodyField ℤ → ℤ
  | .value n => if paginated then n else 1
  | .absent | .malformed => if paginated then -1 else 1

/-- The trimmed snapshot id; `none` when it is present and unusable. -/
def requestedSnapshotId (field : BodyField Text) : Option (Option Text) :=
  match field with
  | .absent => some none
  | .malformed => none
  | .value text =>
    let token := trim text
    if token ≠ [] ∧ utf16Length token ≤ 128 ∧ token.all isSnapshotChar = true then some (some token)
    else none

/-- The version; `none` when it is present and unusable. -/
def requestedVersion (field : BodyField Text) : Option (Option ℕ) :=
  match field with
  | .absent => some none
  | .malformed => none
  | .value text => (parseInventorySnapshotVersion text).map some

/-- A usable printer id. -/
def usableId (id : Text) : Bool := !(trim id).isEmpty && decide (utf16Length id ≤ 120)

/-- The trimmed ids of `privatePrinterIds`; `none` when one is unusable. -/
def requestedPrivateIds (ids : List (Option Text)) : Option (List Text) :=
  ids.mapM fun id => id.bind fun id => if usableId id then some (trim id) else none

/-- `tokened`: at most 64 entries are read, and only those with a token count. -/
def tokenedKeepAlive (entries : List (Text × Option Token)) : List (Text × Token) :=
  ((entries.filter fun entry => !entry.1.isEmpty && decide (utf16Length entry.1 ≤ 120)).take 64).filterMap
    fun entry => entry.2.map fun token => (entry.1, token)

theorem requestedVersion_pos {field : BodyField Text} {version : Option ℕ}
    (parsed : requestedVersion field = some version) : ∀ number ∈ version, 1 ≤ number := by
  cases field with
  | absent =>
    cases parsed
    exact fun number impossible => absurd impossible (Option.not_mem_none number)
  | malformed => cases parsed
  | value text =>
    obtain ⟨number, found, rfl⟩ := Option.map_eq_some_iff.mp parsed
    rintro _ ⟨⟩
    exact parseInventorySnapshotVersion_pos found

/-- Continue with a condition, or answer with an error. -/
def require (condition : Prop) [Decidable condition] (error : Text) : Except Text (PLift condition) :=
  if holds : condition then .ok ⟨holds⟩ else .error error

/-- Continue with a value, or answer with an error. -/
def expect {Content : Type} (content : Option Content) (error : Text) :
    Except Text { value : Content // content = some value } :=
  match content with
  | some value => .ok ⟨value, rfl⟩
  | none => .error error

def pagesError : Text :=
  "heartbeatPage and heartbeatPageCount must be positive integers with heartbeatPage " ++ "<= heartbeatPageCount"

def versionError : Text :=
  "inventorySnapshotVersion requires inventorySnapshotId and a positive int64 decimal string"

/-- The entries of `privatePrinterIds`; `none` when the field is no array of at most 500 entries. -/
def listedPrivateIds : BodyField (List (Option Text)) → Option (List (Option Text))
  | .absent => some []
  | .malformed => none
  | .value ids => if ids.length ≤ 500 then some ids else none

/-- The checks of the handler before its transaction, with the error of the first that fails. -/
def validateHeartbeat (request : HeartbeatRequest) : Except Text HeartbeatPage := do
  let ⟨status, _⟩ ← expect (requestedStatus request.status) "status must be online or offline"
  let paginated := request.heartbeatPage.isPresent || request.heartbeatPageCount.isPresent
  let page := pageNumber paginated request.heartbeatPage
  let pageCount := pageNumber paginated request.heartbeatPageCount
  let pages ← require (1 ≤ page ∧ 1 ≤ pageCount ∧ page ≤ pageCount) pagesError
  let ⟨snapshotId, _⟩ ← expect (requestedSnapshotId request.inventorySnapshotId)
    "inventorySnapshotId must be a non-empty safe token up to 128 characters"
  let _ ← require (request.inventoryComplete ≠ .malformed) "inventoryComplete must be boolean"
  let complete := decide (request.inventoryComplete = .value true)
  let _ ← require (complete = true → snapshotId.isSome = true)
    "inventoryComplete requires inventorySnapshotId"
  let ⟨version, parsed⟩ ← expect (requestedVersion request.inventorySnapshotVersion) versionError
  let identified ← require (version.isSome = true → snapshotId.isSome = true) versionError
  let _ ← require (request.desiredStatePaging ≠ .malformed) "desiredStatePaging must be boolean"
  let _ ← require (request.printers.length ≤ 500) "too many printers in heartbeat page"
  let controlled ← require
    ((request.privatePrinterIds.isPresent || request.printers.any ReportedEntry.controlsSharing) = true →
      paginated = true ∧ snapshotId.isSome = true ∧ version.isSome = true)
    "Printer sharing controls require a versioned paginated inventory snapshot"
  let ⟨ids, listed⟩ ← expect (listedPrivateIds request.privatePrinterIds)
    "privatePrinterIds must be an array of at most 500 printer IDs"
  let ⟨privatePrinterIds, usable⟩ ← expect (requestedPrivateIds ids)
    "privatePrinterIds must contain non-empty printer IDs up to 120 characters"
  let _ ← require (request.gatewayOwnedPrinterIds.length ≤ 500)
    "too many Gateway-owned printer IDs in heartbeat"
  return {
    status
    page := page.toNat
    pageCount := pageCount.toNat
    snapshotId
    version
    complete
    printers := request.printers
    privatePrinterIds
    gatewayOwnedPrinterIds :=
      (request.gatewayOwnedPrinterIds.filterMap id).filterMap fun owned =>
        if usableId owned then some (trim owned) else none
    keepAlive := tokenedKeepAlive request.keepAliveJobIds
    desiredStateAcks := request.desiredStateAcks.take 500
    positive := by have := pages.down; omega
    bounded := by have := pages.down; omega
    identified := identified.down
    counted := requestedVersion_pos parsed
    denials := by
      intro denies
      refine (controlled.down ?_).2.2
      cases field : request.privatePrinterIds with
      | absent =>
        rw [field] at listed
        cases listed
        cases usable
        exact absurd rfl denies
      | value _ | malformed => rfl
    permissions := by
      intro controls
      refine (controlled.down ?_).2.2
      rw [controls, Bool.or_true] }

end PrintGateway.Gateway
