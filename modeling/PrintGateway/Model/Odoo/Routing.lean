import PrintGateway.Model.Odoo.Payload

/-!
# From a document to a print binding

`resolve_binding` of the router with the two searches for a binding, and the scope checks at the start of
`create_operation`.  Companies form trees of any depth.  An empty `branch_id` counts as equal to the missing
branch of a root company.
-/

namespace PrintGateway.Odoo

open Text

/-- The companies with their parents.  The walk to the root ends, because a company is deeper than its
parent. -/
structure CompanyTree where
  parent : ℕ → Option ℕ
  depth : ℕ → ℕ
  depth_lt : ∀ {company up : ℕ}, parent company = some up → depth up < depth company

/-- The loops of `_binding_scope` and `_gateway_config`. -/
def CompanyTree.root (tree : CompanyTree) (company : ℕ) : ℕ :=
  match _above : tree.parent company with
  | none => company
  | some up => tree.root up
termination_by tree.depth company
decreasing_by exact tree.depth_lt _above

/-! ### Records -/

inductive DestinationModel
  | posConfig
  | posPrinter
  | pickingType
  | report
  deriving DecidableEq, Repr

/-- A reference to a destination. -/
structure Destination where
  model : DestinationModel
  id : ℕ
  deriving DecidableEq, Repr

structure ReportAction where
  id : ℕ
  model : Text
  reportName : Text
  deriving DecidableEq, Repr

def ReportAction.destination (report : ReportAction) : Destination := ⟨.report, report.id⟩

structure PrintedRecord where
  model : Text
  company : Option ℕ
  configId : Option ℕ
  pickingTypeId : Option ℕ
  deriving DecidableEq, Repr

inductive BindingProtocol
  | escpos
  | zpl
  | tspl
  | raw
  | spooler
  | ipp
  | ipps
  | unknown
  deriving DecidableEq, Repr

structure Binding where
  id : ℕ
  company : ℕ
  branch : Option ℕ
  enabled : Bool
  priority : ℤ
  destinationRef : Option Destination
  documentType : Text
  report : Option ℕ
  runtimeAgentId : Text
  printerId : Text
  printerProtocol : BindingProtocol
  deriving DecidableEq, Repr

/-- A row of `print_gateway.gateway_config`. -/
structure ConfigRow where
  id : ℕ
  company : ℕ
  enabled : Bool
  deriving DecidableEq, Repr

/-- A row of `print_gateway.runtime_agent_assignment`. -/
structure AgentAssignment where
  company : ℕ
  branch : Option ℕ
  runtimeAgentId : Text
  enabled : Bool
  deriving DecidableEq, Repr

/-- What the router reads. -/
structure RoutingDb where
  tree : CompanyTree
  configs : List ConfigRow
  bindings : List Binding
  assignments : List AgentAssignment
  destinationCompany : Destination → Option ℕ

/-- One constructor for each refusal. -/
inductive RouteError
  | notActiveCompany
  | documentOfOtherCompany
  | documentTypeUnknown
  | posConfigMissing
  | pickingTypeMissing
  | destinationMissing
  | bindingGone
  | bindingDisabled
  | bindingOutOfScope
  | bindingOfOtherReport
  | bindingOfOtherDestination
  | bindingNotRoutable
  | bindingProtocol
  | bindingNotDocument
  | documentTypeRequired
  | recordOutOfScope
  | destinationOutOfScope
  | bindingMissing
  | agentNotAssigned
  deriving DecidableEq, Repr

/-- The arguments of `resolve_binding` and the active company. -/
structure RouteRequest where
  envCompany : ℕ
  company : Option ℕ
  report : Option ReportAction
  record : Option PrintedRecord
  documentType : Option Text
  explicitDestination : Option Destination
  explicitBinding : Option ℕ
  protocol : Option BindingProtocol
  payloadType : Option PayloadKind
  raiseIfNotFound : Bool
  deriving DecidableEq, Repr

/-! ### Scope -/

/-- `_binding_scope`: the root company, and the company itself when it is a branch. -/
def CompanyTree.bindingScope (tree : CompanyTree) (company : ℕ) : ℕ × Option ℕ :=
  (tree.root company, if (tree.parent company).isSome then some company else none)

/-- `_gateway_config`. -/
def RoutingDb.gatewayConfig (db : RoutingDb) (company : ℕ) : Option ConfigRow :=
  (db.configs.find? fun config => config.company = db.tree.root company).filter (·.enabled)

/-- `_assert_current_company`. -/
def assertCurrentCompany (current company : ℕ) (record : Option PrintedRecord) : Except RouteError Unit :=
  if company ≠ current then .error .notActiveCompany
  else if (record.bind (·.company)).any (· ≠ current) then .error .documentOfOtherCompany
  else .ok ()

/-- `assigned_agent_ids`.  A branch has its own Agents only, the company-wide scope also those of the direct
branches. -/
def RoutingDb.assignedAgentIds (db : RoutingDb) (company : ℕ) (branch : Option ℕ) : List Text :=
  let inScope (assignment : AgentAssignment) : Bool := match branch with
    | some branch => db.tree.parent branch = some company ∧ assignment.branch = some branch
    | none => assignment.branch = none ∨ assignment.branch.bind db.tree.parent = some company
  ((db.assignments.filter fun assignment =>
    assignment.company = company ∧ assignment.enabled = true ∧ inScope assignment = true).map
      (strip ·.runtimeAgentId)).filter (· ≠ [])

/-- `is_agent_assigned`. -/
def RoutingDb.isAgentAssigned (db : RoutingDb) (company : ℕ) (branch : Option ℕ) (agent : Text) : Bool :=
  strip agent ≠ [] ∧ strip agent ∈ db.assignedAgentIds company branch

/-! ### Document types and destinations -/

/-- `REPORT_DOCUMENT_TYPES`. -/
def reportDocumentTypes : List (Text × Text) :=
  [("sale.order", "order"), ("account.move", "invoice"),
    ("stock.picking", "delivery"), ("purchase.order", "purchase_order"),
    ("pos.order", "receipt")]

def normalized (text : Text) : Text := toLowerCase (strip text)

/-- `_document_type`. -/
def documentTypeOf (report : Option ReportAction) (record : Option PrintedRecord) (explicit : Option Text) :
    Except RouteError Text :=
  let given := (explicit.map normalized).getD []
  let model := match record, report with
    | some record, _ => record.model
    | none, some report => report.model
    | none, none => []
  let technical := (report.map fun report => normalized report.reportName).getD []
  if given ≠ [] then .ok given
  else
    match reportDocumentTypes.lookup model with
    | some type => .ok type
    | none => if technical ≠ [] then .ok ("report:" ++ technical) else .error .documentTypeUnknown

/-- `destination_for`. -/
def destinationFor (report : Option ReportAction) (record : Option PrintedRecord)
    (explicit : Option Destination) : Except RouteError Destination :=
  let byReport : Except RouteError Destination := match report with
    | some report => .ok report.destination
    | none => .error .destinationMissing
  match explicit, record with
  | some destination, _ => .ok destination
  | none, none => byReport
  | none, some record =>
    if record.model = "pos.order" then
      match record.configId with
      | some config => .ok ⟨.posConfig, config⟩
      | none => .error .posConfigMissing
    else if record.model = "stock.picking" then
      match record.pickingTypeId with
      | some pickingType => .ok ⟨.pickingType, pickingType⟩
      | none => .error .pickingTypeMissing
    else byReport

/-! ### Bindings -/

/-- `resolve_explicit`. -/
def RoutingDb.resolveExplicit (db : RoutingDb) (id company : ℕ) (documentType : Text)
    (destination : Option Destination) (report : Option ReportAction) (branch : Option ℕ)
    (protocol : Option BindingProtocol) (payloadType : Option PayloadKind) : Except RouteError Binding :=
  match db.bindings.find? (·.id = id) with
  | none => .error .bindingGone
  | some binding =>
    if binding.enabled = false then .error .bindingDisabled
    else if binding.company ≠ company ∨ ¬(binding.branch = branch ∨ branch.isSome ∧ binding.branch = none) then
      .error .bindingOutOfScope
    else if report.any fun report => binding.report ≠ some report.id then .error .bindingOfOtherReport
    else if binding.destinationRef ≠ destination ∨ binding.documentType ≠ normalized documentType then
      .error .bindingOfOtherDestination
    else if binding.runtimeAgentId = [] ∨ binding.printerId = [] then .error .bindingNotRoutable
    else if protocol.any (binding.printerProtocol ≠ ·) then .error .bindingProtocol
    else if payloadType = some .pdf ∧ binding.printerProtocol ∉ [.spooler, .ipp, .ipps] then
      .error .bindingNotDocument
    else if payloadType = some .rasterJpeg ∧ binding.printerProtocol ∉ [.spooler, .escpos] then
      .error .bindingNotDocument
    else .ok binding

/-- `search(domain, order="priority asc, id asc", limit=1)`. -/
def RoutingDb.searchBinding (db : RoutingDb) (company : ℕ) (branch : Option ℕ) (destination : Destination)
    (documentType : Text) (report : Option ℕ) : Option Binding :=
  let matching := db.bindings.filter fun binding => binding.company = company ∧ binding.enabled = true ∧
    binding.destinationRef = some destination ∧ binding.documentType = documentType ∧
    binding.report = report ∧ binding.branch = branch
  (matching.insertionSort fun a b => a.priority < b.priority ∨ a.priority = b.priority ∧ a.id ≤ b.id).head?

/-- The two loops of `find_for`. -/
def RoutingDb.searchScopes (db : RoutingDb) (company : ℕ) (branch : Option ℕ) (documentType : Text)
    (report : Option ℕ) : List (Option ℕ × Destination) → Except RouteError (Option Binding)
  | [] => .ok none
  | (selected, destination) :: rest =>
    let owner := db.destinationCompany destination
    if owner.any (· ≠ branch.getD company) then .error .destinationOutOfScope
    else if selected = none ∧ branch.isSome ∧ owner = branch then
      db.searchScopes company branch documentType report rest
    else
      match db.searchBinding company selected destination documentType report with
      | some binding => .ok (some binding)
      | none => db.searchScopes company branch documentType report rest

/-- The destinations that `find_for` tries. -/
def candidateDestinations (report : Option ReportAction) (record : Option PrintedRecord)
    (explicit : Option Destination) : Except RouteError (List Destination) :=
  match explicit with
  | some destination => .ok [destination]
  | none => do
    let own ← match record with
      | none => .ok []
      | some record =>
        match destinationFor none (some record) none, report with
        | .ok destination, _ => .ok [destination]
        | .error error, none => .error error
        | .error _, some _ => .ok []
    let reports := report.toList.map ReportAction.destination
    let all := own ++ reports.filter (· ∉ own)
    if all = [] then (destinationFor report record none).map ([·]) else .ok all

def RoutingDb.findFor (db : RoutingDb) (company : ℕ) (documentType : Text) (report : Option ReportAction)
    (record : Option PrintedRecord) (explicit : Option Destination) (branch : Option ℕ) :
    Except RouteError (Option Binding) :=
  if normalized documentType = [] then .error .documentTypeRequired
  else if (record.bind (·.company)).any (· ≠ branch.getD company) then .error .recordOutOfScope
  else do
    let destinations ← candidateDestinations report record explicit
    let branches := if branch.isSome then [branch, none] else [none]
    db.searchScopes company branch (normalized documentType) (report.map (·.id))
      (branches.flatMap fun selected => destinations.map fun destination => (selected, destination))

/-! ### The router -/

/-- A route that is not native. -/
structure Route where
  config : ConfigRow
  binding : Binding
  documentType : Text
  destination : Option Destination
  company : ℕ
  branch : Option ℕ
  deriving DecidableEq, Repr

inductive Resolution
  | native
  | routed (route : Route)
  deriving DecidableEq, Repr

/-- The destination that an explicit binding is compared with. -/
def RoutingDb.requestedDestination (db : RoutingDb) (request : RouteRequest) :
    Except RouteError (Option Destination) :=
  let selected := (request.explicitBinding.bind fun id => db.bindings.find? (·.id = id)).bind (·.destinationRef)
  if request.report.isSome ∨ request.record.isSome ∨ request.explicitDestination.isSome then do
    let destination ← destinationFor request.report request.record request.explicitDestination
    let isReport := request.explicitDestination = none ∧ request.report.isSome ∧
      selected = request.report.map ReportAction.destination
    .ok (some (if isReport then selected.getD destination else destination))
  else .ok selected

def RoutingDb.selectBinding (db : RoutingDb) (request : RouteRequest) (documentType : Text)
    (destination : Option Destination) : Except RouteError (Option Binding) :=
  let scope := db.tree.bindingScope request.envCompany
  match request.explicitBinding with
  | some id => (db.resolveExplicit id scope.1 documentType destination request.report scope.2 request.protocol
      request.payloadType).map some
  | none => db.findFor scope.1 documentType request.report request.record request.explicitDestination scope.2

def RoutingDb.resolveBinding (db : RoutingDb) (request : RouteRequest) : Except RouteError Resolution := do
  assertCurrentCompany request.envCompany (request.company.getD request.envCompany) request.record
  match db.gatewayConfig request.envCompany with
  | none => .ok .native
  | some config => do
    let scope := db.tree.bindingScope request.envCompany
    let documentType ← documentTypeOf request.report request.record request.documentType
    let destination ← db.requestedDestination request
    let selected ← db.selectBinding request documentType destination
    match selected with
    | none => if request.raiseIfNotFound then .error .bindingMissing else .ok .native
    | some binding =>
      if binding.runtimeAgentId ≠ [] ∧ db.isAgentAssigned scope.1 binding.branch binding.runtimeAgentId = false then
        .error .agentNotAssigned
      else .ok (.routed ⟨config, binding, documentType, binding.destinationRef, scope.1, scope.2⟩)

/-! ### The outbox -/

inductive OperationError
  | notActiveCompany
  | foreignConfiguration
  deriving DecidableEq, Repr

/-- What the scope checks read of a job. -/
structure JobScope where
  company : ℕ
  config : ConfigRow
  deriving DecidableEq, Repr

/-- The job that `_submit_route` hands to `create_operation`.  The row is created in an environment of its own
company. -/
def submitRoute (company : ℕ) (route : Route) : JobScope := ⟨company, route.config⟩

/-- The scope checks of `create_operation`; `active` is the company of its environment. -/
def CompanyTree.createOperation (tree : CompanyTree) (active : ℕ) (job : JobScope) : Except OperationError Unit :=
  if job.company ≠ active then .error .notActiveCompany
  else if job.config.company ≠ (tree.parent job.company).getD job.company then .error .foreignConfiguration
  else .ok ()

end PrintGateway.Odoo
