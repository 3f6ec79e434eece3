import PrintGateway.Machine.Keyed
import PrintGateway.Model.Gateway.Delivery
import PrintGateway.Model.Gateway.Heartbeat

/-!
# The printer inventory

The transaction of `POST /api/agent/heartbeat`.  It runs under the tenant lock and the agent row lock,
so a page is one function of the agent's snapshot columns, the tenant's printers and its jobs.  The
order of the handler is kept: denials, observations of known printers, new printers, released jobs,
absence, snapshot columns.
-/

namespace PrintGateway.Gateway

open Machine Text

/-- A `printers` row of a tenant, stored under its id. -/
structure StoredPrinter where
  agentId : Text
  printer : PrinterRow
  sharedWithGatewayVersion : Option ℕ
  inventorySnapshotId : Option Text
  deriving DecidableEq, Repr

abbrev PrinterTable := Keyed Text StoredPrinter

/-- The columns of an `agents` row that follow a snapshot in progress. -/
structure SnapshotColumns where
  snapshotId : Option Text
  version : ℕ
  pageCount : ℕ
  nextPage : ℕ
  complete : Bool
  hadErrors : Bool
  deriving DecidableEq, Repr

/-- The defaults of a new agent. -/
def SnapshotColumns.initial : SnapshotColumns := ⟨none, 0, 0, 1, false, false⟩

/-- A `print_jobs` row with its owners, stored under its id. -/
structure PrinterJob where
  agentId : Text
  printerId : Text
  row : JobRow
  deriving DecidableEq, Repr

/-- What a heartbeat of one agent reads and writes. -/
structure AgentInventory where
  agent : AgentRow
  snapshot : SnapshotColumns
  printers : PrinterTable
  jobs : Keyed Text PrinterJob
  deriving DecidableEq

/-! ### Reported printers -/

/-- An observation that passed `sanitizePrinter`. -/
structure SanitizedPrinter where
  id : Text
  sharedWithGateway : Bool
  details : ObservedDetails
  deriving DecidableEq, Repr

structure SkippedPrinter where
  id : Text
  reason : Text
  deriving DecidableEq, Repr

/-- The id of an entry as the handler reads it before any check. -/
def ReportedEntry.rawId : ReportedEntry → Text
  | .printer reported => reported.id.getD "(unknown)"
  | .other => "(unknown)"

def usableName (name : Text) : Bool := !(trim name).isEmpty && decide (utf16Length name ≤ 100)

/-- `sanitizePrinter`. -/
def sanitizePrinter : ReportedEntry → Except Text SanitizedPrinter
  | .other => .error "invalid_printer"
  | .printer reported =>
    match reported.id with
    | none => .error "invalid_id"
    | some id =>
      if usableId id = false then .error "invalid_id"
      else if (reported.name.any usableName) = false then .error "invalid_name"
      else if reported.sharedWithGateway ≠ .absent ∧ reported.sharedWithGateway ≠ .value true then
        .error "invalid_shared_with_gateway"
      else
        reported.details.map fun details =>
          ⟨trim id, decide (reported.sharedWithGateway = .value true), details⟩

/-- The usable observations and the skipped ones; a denied entry is neither. -/
def sanitizeReported (privatePrinterIds : List Text) :
    List ReportedEntry → List SanitizedPrinter × List SkippedPrinter
  | [] => ([], [])
  | entry :: entries =>
    let (sanitized, skipped) := sanitizeReported privatePrinterIds entries
    if trim entry.rawId ∈ privatePrinterIds then (sanitized, skipped)
    else
      match sanitizePrinter entry with
      | .ok printer => (printer :: sanitized, skipped)
      | .error reason => (sanitized, ⟨entry.rawId, reason⟩ :: skipped)

/-- `aliasPrinterIdForAgent`, over the hexadecimal SHA-256 of a text. -/
def aliasPrinterIdForAgent (sha256 : Text → Text) (localId agentId : Text) : Text :=
  localId ++ "~" ++ (sha256 ("printer-alias:" ++ agentId ++ ":" ++ localId)).take 8

/-- An observation moves to its alias when another agent owns its id. -/
def resolveAlias (sha256 : Text → Text) (agentId : Text) (printers : PrinterTable)
    (printer : SanitizedPrinter) : SanitizedPrinter :=
  match printers.find? printer.id with
  | some row =>
    if row.agentId ≠ agentId then
      { printer with id := aliasPrinterIdForAgent sha256 printer.id agentId }
    else printer
  | none => printer

/-- The observations of a page under their stored ids, without those it denies. -/
def observations (sha256 : Text → Text) (agentId : Text) (page : HeartbeatPage)
    (printers : PrinterTable) : List SanitizedPrinter :=
  ((sanitizeReported page.privatePrinterIds page.printers).1.map
    (resolveAlias sha256 agentId printers)).filter fun printer =>
      decide (printer.id ∉ page.privatePrinterIds)

/-! ### Capacity -/

/-- Explicit permission counts when it is newer than the row's last sharing decision. -/
def mayUpdateSharing (version : Option ℕ) (printer : SanitizedPrinter) (existing : StoredPrinter) : Bool :=
  printer.sharedWithGateway && match version with
    | none => false
    | some incoming => existing.sharedWithGatewayVersion.all fun retained => decide (retained < incoming)

/-- The id of an observation that would take up a place of the tenant's plan. -/
def capacityCandidate (agentId : Text) (page : HeartbeatPage) (inventory : PrinterTable)
    (printer : SanitizedPrinter) : Option Text :=
  match inventory.find? printer.id with
  | none => if printer.id ∈ page.gatewayOwnedPrinterIds then none else some printer.id
  | some existing =>
    if existing.agentId ≠ agentId then none
    else if existing.printer.lifecycle = .retired then none
    else if existing.printer.sharedWithGateway = false then
      if mayUpdateSharing page.version printer existing then some printer.id else none
    else if existing.printer.managementSource ≠ .agent then none
    else if existing.printer.inventoryPresent then none
    else some printer.id

/-- The answer of `getTenantEntitlementLimit` for `max_printers`. -/
inductive Entitlement
  | limit (printers : Option ℕ)
  | billingError
  deriving DecidableEq, Repr

/-- The printers that count against the plan. -/
def countedPrinter (row : StoredPrinter) : Bool :=
  row.printer.lifecycle != .retired && row.printer.sharedWithGateway &&
    (row.printer.managementSource != .agent || row.printer.inventoryPresent)

/-- The ids beyond the plan. -/
def overLimitIds (entitlement : Entitlement) (inventory : PrinterTable) (candidates : List Text) : List Text :=
  match entitlement with
  | .billingError => candidates
  | .limit none => []
  | .limit (some printers) => candidates.drop (printers - inventory.count countedPrinter)

/-! ### Observations -/

/-- What the loops of a page share; `inventory` is read once, before them. -/
structure PageContext where
  agentId : Text
  now : ℤ
  page : HeartbeatPage
  inventory : PrinterTable
  overLimit : List Text
  billingBlocked : Bool

/-- What the loops change. -/
structure PageProgress where
  printers : PrinterTable
  skipped : List SkippedPrinter
  hadErrors : Bool
  positivelySharedIds : List Text

namespace PageContext

variable (context : PageContext)

def reshareBlocked (printer : SanitizedPrinter) (existing : StoredPrinter) : Bool :=
  !existing.printer.sharedWithGateway && mayUpdateSharing context.page.version printer existing &&
    decide (printer.id ∈ context.overLimit)

def reactivationBlocked (printer : SanitizedPrinter) (existing : StoredPrinter) : Bool :=
  existing.printer.sharedWithGateway && decide (existing.printer.managementSource = .agent) &&
    decide (existing.printer.lifecycle ≠ .retired) && !existing.printer.inventoryPresent &&
    decide (printer.id ∈ context.overLimit)

/-- The observation writes its permission. -/
def shares (printer : SanitizedPrinter) (existing : StoredPrinter) : Bool :=
  mayUpdateSharing context.page.version printer existing && !context.reshareBlocked printer existing

def overLimitReason : Text :=
  if context.billingBlocked then "billing_required" else "max_printers_exceeded"

/-- The assignment to a known printer of this agent; its transport follows the observation only while
the agent manages it. -/
def observedRow (printer : SanitizedPrinter) (existing row : StoredPrinter) : StoredPrinter :=
  { row with
    inventorySnapshotId := context.page.snapshotId.or row.inventorySnapshotId
    sharedWithGatewayVersion :=
      if context.shares printer existing then context.page.version else row.sharedWithGatewayVersion
    printer :=
      { row.printer with
        status :=
          if context.reactivationBlocked printer existing then .unknown else printer.details.status
        lastSeenAt := some context.now
        inventoryPresent := !context.reactivationBlocked printer existing
        sharedWithGateway := context.shares printer existing || row.printer.sharedWithGateway
        connectionType :=
          if existing.printer.managementSource = .agent then printer.details.connectionType
          else row.printer.connectionType
        protocol :=
          if existing.printer.managementSource = .agent then printer.details.protocol
          else row.printer.protocol } }

/-- One turn of the first loop. -/
def observeKnown (progress : PageProgress) (printer : SanitizedPrinter) : PageProgress :=
  match context.inventory.find? printer.id with
  | none => progress
  | some existing =>
    if existing.agentId ≠ context.agentId then
      { progress with
        skipped := progress.skipped ++ [⟨printer.id, "owned_by_another_agent (" ++ existing.agentId ++ ")"⟩]
        hadErrors := true }
    else
      let blocked := context.reshareBlocked printer existing || context.reactivationBlocked printer existing
      { progress with
        printers := progress.printers.update fun id row =>
          if id = printer.id ∧ row.agentId = context.agentId ∧
              row.printer.managementSource = existing.printer.managementSource then
            context.observedRow printer existing row
          else row
        skipped :=
          if blocked then progress.skipped ++ [⟨printer.id, context.overLimitReason⟩]
          else progress.skipped
        positivelySharedIds :=
          if mayUpdateSharing context.page.version printer existing && !blocked then
            progress.positivelySharedIds ++ [printer.id]
          else progress.positivelySharedIds }

/-- The row of a printer seen for the first time. -/
def newRow (printer : SanitizedPrinter) : StoredPrinter where
  agentId := context.agentId
  printer :=
    { lifecycle := .active
      inventoryPresent := true
      sharedWithGateway := true
      status := printer.details.status
      connectionType := printer.details.connectionType
      protocol := printer.details.protocol
      managementSource := .agent
      desiredRevision := 0
      appliedDesiredRevision := 0
      observedDesiredRevision := 0
      lastSeenAt := some context.now }
  sharedWithGatewayVersion := if printer.sharedWithGateway then context.page.version else none
  inventorySnapshotId := context.page.snapshotId

/-- The assignment when the id was taken after the inventory was read. -/
def racedRow (printer : SanitizedPrinter) (row : StoredPrinter) : StoredPrinter :=
  { row with
    inventorySnapshotId := context.page.snapshotId.or row.inventorySnapshotId
    printer :=
      { row.printer with
        status := printer.details.status
        inventoryPresent := true
        lastSeenAt := some context.now } }

/-- One turn of the second loop. -/
def insertUnknown (progress : PageProgress) (printer : SanitizedPrinter) : PageProgress :=
  if (context.inventory.find? printer.id).isSome then progress
  else if printer.id ∈ context.page.privatePrinterIds then progress
  else if printer.id ∈ context.page.gatewayOwnedPrinterIds then
    { progress with
      skipped := progress.skipped ++ [⟨printer.id, "gateway_owned_deletion_pending"⟩]
      hadErrors := true }
  else if printer.id ∈ context.overLimit then
    { progress with skipped := progress.skipped ++ [⟨printer.id, context.overLimitReason⟩] }
  else
    match progress.printers.find? printer.id with
    | none => { progress with printers := progress.printers.insert printer.id (context.newRow printer) }
    | some raced =>
      if raced.agentId = context.agentId then
        { progress with
          printers := progress.printers.update fun id row =>
            if id = printer.id ∧ row.agentId = context.agentId then context.racedRow printer row
            else row }
      else
        { progress with
          skipped := progress.skipped ++ [⟨printer.id, "insert_conflict_owned_by_another_agent"⟩]
          hadErrors := true }

end PageContext

/-! ### The transaction -/

/-- A valid entry of `desiredStateAcks`: the trimmed id and both revisions. -/
def DesiredStateAck.parsed (ack : DesiredStateAck) : Option (Text × ℤ × ℤ) :=
  match ack.printerId.map trim, ack.appliedDesiredRevision, ack.observedDesiredRevision with
  | some printerId, some applied, some observed =>
    if printerId = [] ∨ applied < 0 ∨ observed < 0 then none else some (printerId, applied, observed)
  | _, _, _ => none

/-- The assignment of an acknowledgement; revisions never pass the desired one. -/
def PrinterRow.acknowledged (applied observed : ℤ) (printer : PrinterRow) : PrinterRow :=
  { printer with
    appliedDesiredRevision := min printer.desiredRevision (max printer.appliedDesiredRevision applied)
    observedDesiredRevision :=
      min printer.desiredRevision (max printer.observedDesiredRevision
        (min observed (max printer.appliedDesiredRevision applied))) }

/-- An acknowledgement on a row, which only the manager's rows take. -/
def acknowledgeRow (agentId id : Text) (row : StoredPrinter) (ack : DesiredStateAck) : StoredPrinter :=
  match ack.parsed with
  | some (printerId, applied, observed) =>
    if id = printerId ∧ row.agentId = agentId ∧ row.printer.managementSource = .manager then
      { row with printer := row.printer.acknowledged applied observed }
    else row
  | none => row

/-- The denial of a page, where no newer decision is recorded. -/
def denyRow (agentId : Text) (page : HeartbeatPage) (id : Text) (row : StoredPrinter) : StoredPrinter :=
  if row.agentId = agentId ∧ id ∈ page.privatePrinterIds ∧ (row.sharedWithGatewayVersion.all fun retained =>
        page.version.any fun incoming => decide (retained ≤ incoming)) = true then
    { row with
      sharedWithGatewayVersion := page.version
      printer := { row.printer with sharedWithGateway := false } }
  else row

/-- Absence of what a complete snapshot did not stamp. -/
def absentRow (agentId snapshotId : Text) (row : StoredPrinter) : StoredPrinter :=
  if row.agentId = agentId ∧ row.printer.managementSource = .agent ∧
      row.printer.sharedWithGateway = true ∧ row.printer.lifecycle ≠ .retired ∧
      row.printer.inventoryPresent = true ∧ row.inventorySnapshotId ≠ some snapshotId then
    { row with printer := { row.printer with inventoryPresent := false, status := .unknown } }
  else row

/-- `inventoryVersionAllowsPage`. -/
def inventoryVersionAllowsPage (version : Option ℕ) (retained page : ℕ) : Bool :=
  match version with
  | none => retained == 0
  | some version => if page = 1 then decide (retained < version) else version == retained

/-- A later page continues the snapshot in progress. -/
def SnapshotColumns.Continues (columns : SnapshotColumns) (page : HeartbeatPage) : Prop :=
  columns.snapshotId = page.snapshotId ∧ columns.pageCount = page.pageCount ∧
    columns.nextPage = page.page ∧ columns.complete = page.complete

instance (columns : SnapshotColumns) (page : HeartbeatPage) : Decidable (columns.Continues page) :=
  inferInstanceAs (Decidable (_ ∧ _))

/-- The page is accepted. -/
def SnapshotColumns.Accepts (columns : SnapshotColumns) (page : HeartbeatPage) : Prop :=
  inventoryVersionAllowsPage page.version columns.version page.page = true ∧
    (page.snapshotId.isSome = true ∧ 1 < page.page → columns.Continues page)

instance (columns : SnapshotColumns) (page : HeartbeatPage) : Decidable (columns.Accepts page) :=
  inferInstanceAs (Decidable (_ ∧ _))

/-- `priorSnapshotHadErrors`. -/
def SnapshotColumns.priorErrors (columns : SnapshotColumns) (page : HeartbeatPage) : Bool :=
  page.page != 1 && columns.hadErrors

/-- The columns after a page. -/
def SnapshotColumns.after (columns : SnapshotColumns) (page : HeartbeatPage) (pageHadErrors : Bool) :
    SnapshotColumns :=
  match page.snapshotId with
  | none => columns
  | some snapshotId =>
    if page.isFinal then
      { SnapshotColumns.initial with version := page.version.getD columns.version }
    else
      { snapshotId := some snapshotId
        version := page.version.getD columns.version
        pageCount := page.pageCount
        nextPage := page.page + 1
        complete := page.complete
        hadErrors := columns.priorErrors page || pageHadErrors }

inductive HeartbeatRefusal
  | inactive (lifecycle : Lifecycle)
  | inventoryConflict (expectedPage minimumSnapshotVersion : ℕ)
  deriving DecidableEq, Repr

structure HeartbeatReply where
  skippedPrinters : List SkippedPrinter
  printerIdAliases : List (Text × Text)
  billingBlocked : Bool
  deriving DecidableEq, Repr

/-- What varies from call to call besides the page. -/
structure HeartbeatCall where
  sha256 : Text → Text
  agentId : Text
  now : ℤ
  entitlement : Entitlement

namespace HeartbeatCall

variable (call : HeartbeatCall) (page : HeartbeatPage)

/-- A row once acknowledgements and denials are written. -/
def deniedRow (id : Text) (row : StoredPrinter) : StoredPrinter :=
  denyRow call.agentId page id (page.desiredStateAcks.foldl (acknowledgeRow call.agentId id) row)

/-- The table from which the inventory is read. -/
def denied (printers : PrinterTable) : PrinterTable := printers.update (call.deniedRow page)

/-- The observations of the page under their stored ids. -/
def observed (printers : PrinterTable) : List SanitizedPrinter :=
  observations call.sha256 call.agentId page (call.denied page printers)

/-- The sorted ids that would take up capacity. -/
def capacityCandidateIds (printers : PrinterTable) : List Text :=
  sortUtf16 ((call.observed page printers).filterMap
    (capacityCandidate call.agentId page (call.denied page printers))).eraseDups

def context (printers : PrinterTable) : PageContext where
  agentId := call.agentId
  now := call.now
  page := page
  inventory := call.denied page printers
  overLimit := overLimitIds call.entitlement (call.denied page printers)
    (call.capacityCandidateIds page printers)
  billingBlocked := decide (call.entitlement = .billingError) && !(call.capacityCandidateIds page printers).isEmpty

/-- The page before the loops: an entry that did not pass its checks is an error. -/
def start (printers : PrinterTable) : PageProgress where
  printers := call.denied page printers
  skipped := (sanitizeReported page.privatePrinterIds page.printers).2
  hadErrors := !(sanitizeReported page.privatePrinterIds page.printers).2.isEmpty
  positivelySharedIds := []

/-- The two loops. -/
def progress (printers : PrinterTable) : PageProgress :=
  (call.observed page printers).foldl (call.context page printers).insertUnknown
    ((call.observed page printers).foldl (call.context page printers).observeKnown
      (call.start page printers))

/-- `mayReconcileAbsence`: the snapshot whose final, complete and error-free page this is. -/
def reconciledSnapshot (columns : SnapshotColumns) (printers : PrinterTable) : Option Text :=
  if page.version.isSome = true ∧ page.isFinal = true ∧ page.complete = true ∧
      columns.priorErrors page = false ∧ (call.progress page printers).hadErrors = false then
    page.snapshotId
  else none

/-- The printers after the page. -/
def printersAfter (columns : SnapshotColumns) (printers : PrinterTable) : PrinterTable :=
  match call.reconciledSnapshot page columns printers with
  | some snapshotId =>
    (call.progress page printers).printers.update fun _ => absentRow call.agentId snapshotId
  | none => (call.progress page printers).printers

/-- The row of a job once the page's keep-alive entries are written. -/
def keptAlive (id : Text) (row : JobRow) : JobRow :=
  page.keepAlive.foldl (fun row pair =>
    if pair.1 = id then (keepAlive ⟨call.now, call.now⟩ pair.2).next row else row) row

/-- A job after the page: the lease of a running attempt is kept alive, and a paused job of a newly
permitted printer returns to the queue. -/
def jobAfter (printers : PrinterTable) (id : Text) (job : PrinterJob) : PrinterJob :=
  if job.agentId = call.agentId then
    { job with
      row :=
        if job.printerId ∈ (call.progress page printers).positivelySharedIds then
          resumeShared.next (call.keptAlive page id job.row)
        else call.keptAlive page id job.row }
  else job

def jobsAfter (printers : PrinterTable) (jobs : Keyed Text PrinterJob) : Keyed Text PrinterJob :=
  jobs.update (call.jobAfter page printers)

def reply (printers : PrinterTable) : HeartbeatReply where
  skippedPrinters := (call.progress page printers).skipped
  printerIdAliases :=
    (sanitizeReported page.privatePrinterIds page.printers).1.filterMap fun printer =>
      let resolved := resolveAlias call.sha256 call.agentId (call.denied page printers) printer
      if resolved.id = printer.id then none else some (printer.id, resolved.id)
  billingBlocked := (call.context page printers).billingBlocked

/-- The transaction of a heartbeat. -/
def process (s : AgentInventory) : Except HeartbeatRefusal (AgentInventory × HeartbeatReply) :=
  if s.agent.lifecycle ≠ .active then .error (.inactive s.agent.lifecycle)
  else if s.snapshot.Accepts page then
    .ok
      ({ agent := { s.agent with status := page.status, lastSeenAt := some call.now }
         snapshot := s.snapshot.after page (call.progress page s.printers).hadErrors
         printers := call.printersAfter page s.snapshot s.printers
         jobs := call.jobsAfter page s.printers s.jobs },
        call.reply page s.printers)
  else .error (.inventoryConflict s.snapshot.nextPage s.snapshot.version)

end HeartbeatCall

end PrintGateway.Gateway
