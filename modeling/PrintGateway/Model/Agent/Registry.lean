import PrintGateway.Model.Agent.Device

/-!
# The registry of printers

`registry.go`: the durable list of printers and how discovery changes it.  Observations are merged into the rows by
id, by the continuity of a queue whose details got lost, or by physical identity; rows of the spooler that a complete
scan does not report are pruned.
-/

namespace PrintGateway.Agent

open Machine Text

section Registry

variable (env : DeviceEnv)

/-! ### Identity -/

/-- The device as its id reads it. -/
def Device.info (d : Device) : DeviceInfo where
  name := d.name
  connectionType := d.connectionType
  protocol := d.protocol
  endpoint := d.endpoint
  spoolerName := d.spoolerName
  spoolerServer := d.spoolerServer
  spoolerPort := d.spoolerPort
  spoolerDriver := d.spoolerDriver
  spoolerShare := d.spoolerShare
  usbVid := d.usbVid
  usbPid := d.usbPid
  usbSerial := d.usbSerial
  networkAddress := d.networkAddress
  port := d.port
  capabilities := {
    entries := d.capabilities.entries.map fun entry => (entry.1, env.sprint entry.2)
    distinct := by
      rw [List.map_map]
      exact d.capabilities.distinct }

def Device.identityValue (d : Device) (key : String) : Text :=
  capabilityIdentityValue env.toIdentityEnv (d.info env) [key]

/-- `physicalIdentityKey`. -/
def Device.physicalIdentity (d : Device) : Option Text := physicalIdentityKey env.toIdentityEnv (d.info env)

def spoolerDetailValue (d : Device) (field : Text) (capability : String) : Text :=
  if usableIdentityValue field then normalizeIdentityValue env.toIdentityEnv field else d.identityValue env capability

/-- The details that may get lost, but not contradict each other. -/
def spoolerDetails (d : Device) : List Text :=
  [d.identityValue env "spooler_scope", spoolerDetailValue env d d.spoolerPort "port_name",
    spoolerDetailValue env d d.spoolerDriver "driver_name", spoolerDetailValue env d d.spoolerShare "share_name"]

def sameSpoolerQueueDuringDetailLoss (a b : Device) : Bool :=
  let isSpooler (d : Device) : Bool := equalFold d.protocol "spooler" ||
    equalFold d.connectionType "spooler" || equalFold d.connectionType "windows_spooler"
  isSpooler a && isSpooler b && usableIdentityValue a.spoolerName && usableIdentityValue b.spoolerName &&
    normalizeIdentityValue env.toIdentityEnv a.spoolerName ==
      normalizeIdentityValue env.toIdentityEnv b.spoolerName &&
    spoolerDetailValue env a a.spoolerServer "server_name" ==
      spoolerDetailValue env b b.spoolerServer "server_name" &&
    !((a.physicalIdentity env).isSome && (b.physicalIdentity env).isSome) &&
    ((spoolerDetails env a).zip (spoolerDetails env b)).all fun pair =>
      pair.1 = [] || pair.2 = [] || pair.1 = pair.2

/-! ### Merging -/

/-- `withRegistrationSource`: a source that is there stays. -/
def withRegistrationSource (d : Device) (source : String) : Device :=
  { d with capabilities := d.capabilities.insert "registration_source" (.str source.toList) }

def markAutomaticDiscoveryRegistration (d : Device) : Device :=
  if (d.capabilities.find? "discovered_via").isSome then withRegistrationSource d "discovery" else d

/-- The entries of a map over those of another one. -/
def overlay (entries : List (Text × Json.Value)) (capabilities : Keyed Text Json.Value) : Keyed Text Json.Value :=
  entries.foldl (fun caps entry => caps.put entry.1 entry.2) capabilities

/-- The source of an operator stays. -/
def keepOperatorSource (prior : Device) (capabilities : Keyed Text Json.Value) : Keyed Text Json.Value :=
  match prior.capText? "registration_source" with
  | some source =>
    if isOperatorSource source then capabilities.put "registration_source" (.str source) else capabilities
  | none => capabilities

def preserveRegistryObservationEvidence (prior incoming : Device) : Device :=
  let lost := ["port_name", "driver_name", "server_name", "share_name"].filter fun key =>
    incoming.identityValue env key = [] ∧ prior.identityValue env key ≠ []
  let details := if sameSpoolerQueueDuringDetailLoss env prior incoming then
    prior.capabilities.entries.filter fun entry => entry.1 ∈ lost.map String.toList else []
  let caps := overlay details (overlay incoming.capabilities.entries prior.capabilities)
  { incoming with capabilities := keepOperatorSource prior caps }

/-- `usbHardwareIdentity` accepts the instance. -/
def isUSBHardwareIdentity (instanceID : Text) : Bool :=
  match instanceID.splitOn '\\' with
  | [bus, hardware, serial] =>
    let hardware := goUpper hardware
    equalFold bus "USB" && serial ≠ [] && 17 ≤ hardware.length && hardware.take 4 == "VID_" &&
      (hardware.drop 8).take 5 == "&PID_" && (hardware.length = 17 || hardware[17]? == some '&') &&
      ((hardware.drop 4).take 4 ++ (hardware.drop 13).take 4).all fun c => c.isDigit || ('A' ≤ c && c ≤ 'F')
  | _ => false

def refreshNativeUSBDiscoveryIDs (existing incoming : Device) : Bool :=
  let isNative (d : Device) : Bool := d.capText? "discovered_via" == some "usb".toList &&
    (d.capText? "registration_source").getD [] ∈ ["".toList, "discovery", "registry"]
  existing.id ≠ [] && existing.id = incoming.id && existing.endpoint ≠ [] &&
    env.fold existing.endpoint incoming.endpoint && equalFold existing.connectionType "usb" &&
    equalFold incoming.connectionType "usb" && isNative existing && isNative incoming &&
    incoming.isTrueCapability "usb_identity_verified" &&
    isUSBHardwareIdentity ("USB\\VID_" ++ incoming.usbVid ++ "&PID_" ++ incoming.usbPid ++ "\\validation")

/-- A text over an empty one. -/
def orElseText (text other : Text) : Text := if text = [] then other else text

def takeNames (existing incoming : Device) : Device :=
  let operatorNamed := isOperatorRegisteredDevice existing
  let takes : Bool := trimSpace incoming.name ≠ [] && (trimSpace existing.name = [] ||
    !operatorNamed && existing.spoolerName = [] && incoming.spoolerName ≠ [] ||
    !operatorNamed && isGenericPrinterName existing.name && !isGenericPrinterName incoming.name)
  let displayName := if takes then incoming.displayName else existing.displayName
  { existing with
    name := if takes then incoming.name else existing.name
    displayName := if trimSpace displayName = [] ∧ trimSpace incoming.displayName ≠ [] then incoming.displayName
      else displayName }

/-- Whether `mergeDeviceInfo` takes the transport of the observation. -/
def selectsIncoming (existing incoming : Device) : Bool :=
  let preferIncoming := existing.endpoint = [] || existing.protocol = [] || existing.protocol = "unknown" ||
    incoming.connectionType = "spooler" && existing.connectionType ≠ "spooler" ||
    isOperatorRegisteredDevice incoming
  let refused := isOperatorRegisteredDevice existing && !isOperatorRegisteredDevice incoming && existing.endpoint ≠ []
  preferIncoming && !refused && incoming.endpoint ≠ []

/-- The transport of a device is taken as a whole. -/
def takeTransport (merged incoming : Device) : Device :=
  let direct := { merged with
    endpoint := incoming.endpoint
    connectionType := incoming.connectionType
    protocol := incoming.protocol
    type := incoming.type
    networkAddress := incoming.networkAddress
    port := incoming.port }
  if isSpoolerDevice incoming then
    { direct with
      spoolerName := incoming.spoolerName
      spoolerPort := incoming.spoolerPort
      spoolerDriver := incoming.spoolerDriver
      spoolerServer := incoming.spoolerServer
      spoolerShare := incoming.spoolerShare }
  else direct

def sameTransport (existing incoming : Device) : Bool :=
  if isSpoolerDevice existing ∧ isSpoolerDevice incoming then
    env.fold (trimSpace existing.endpoint) (trimSpace incoming.endpoint)
  else env.fold existing.connectionType incoming.connectionType && env.fold existing.protocol incoming.protocol &&
    existing.endpoint = incoming.endpoint

/-- The capabilities that tell how a device was admitted. -/
def admissionKeys : List Text :=
  ["discovered_via", "verification", "runtime_scope", "candidate_reason", "supported_protocols",
    "requires_spooler"].map String.toList

/-- The capabilities an observation adds: of another transport only what is new and does not govern the row. -/
def mergedEntries (existing incoming : Device) : List (Text × Json.Value) :=
  if selectsIncoming existing incoming = false ∧ (isSpoolerDevice existing ∧ isSpoolerDevice incoming = false ∨
      isOperatorRegisteredDevice existing ∧ isOperatorRegisteredDevice incoming = false ∧
        sameTransport env existing incoming = false) then
    incoming.capabilities.entries.filter fun entry =>
      entry.1 ∉ admissionKeys ∧ (existing.capabilities.find? entry.1).isNone
  else incoming.capabilities.entries

def mergeDeviceInfo (existing incoming : Device) : Device :=
  let selected := selectsIncoming existing incoming
  let named := takeNames existing incoming
  let moved := if selected then takeTransport named incoming else named
  let refreshed := refreshNativeUSBDiscoveryIDs env existing incoming
  { moved with
    endpoint := orElseText moved.endpoint incoming.endpoint
    spoolerName := if isSpoolerDevice moved then orElseText moved.spoolerName incoming.spoolerName
      else moved.spoolerName
    usbVid := if refreshed then incoming.usbVid else orElseText moved.usbVid incoming.usbVid
    usbPid := if refreshed then incoming.usbPid else orElseText moved.usbPid incoming.usbPid
    usbSerial := orElseText moved.usbSerial incoming.usbSerial
    status := if incoming.status ≠ [] ∧ (selected ∨ sameTransport env existing incoming ∧
      incoming.status ≠ "unknown") then incoming.status else moved.status
    printerType := if incoming.printerType ≠ [] ∧ incoming.printerType ≠ "unknown" ∧
      moved.printerType = "unknown" then incoming.printerType else moved.printerType
    capabilities :=
      keepOperatorSource existing (overlay (mergedEntries env existing incoming) existing.capabilities) }

/-- The queue an observation of the spooler names. -/
def takeQueue (merged d : Device) : Device :=
  { merged with
    endpoint := orElseText d.endpoint merged.endpoint
    spoolerName := orElseText d.spoolerName merged.spoolerName
    spoolerPort := orElseText d.spoolerPort merged.spoolerPort
    spoolerDriver := orElseText d.spoolerDriver merged.spoolerDriver
    spoolerServer := orElseText d.spoolerServer merged.spoolerServer
    spoolerShare := orElseText d.spoolerShare merged.spoolerShare
    connectionType := orElseText d.connectionType merged.connectionType
    protocol := orElseText d.protocol merged.protocol }

/-- A row merged with an observation that has its id. -/
def mergeObservation (prior d : Device) : Device :=
  let d := preserveRegistryObservationEvidence env prior d
  let merged := mergeDeviceInfo env prior d
  let merged := { merged with
    name := orElseText d.name merged.name
    displayName := orElseText d.displayName merged.displayName }
  if d.connectionType = "spooler" ∨ d.protocol = "spooler" then takeQueue merged d else merged

/-- A row replaced by an observation of the same physical identity. -/
def replaceObservation (prior d : Device) : Device :=
  { preserveRegistryObservationEvidence env prior d with
    id := prior.id
    enabled := prior.enabled }

/-! ### Loading and saving -/

/-- A row as the file gives it: `type` is not stored. -/
def Device.read (stored : Device) : Device := { stored with type := [] }

/-- The file does not know the status of a printer. -/
def Device.unobserved (d : Device) : Device := { d with status := "unknown" }

/-- A row as it is loaded, unless it is dropped. -/
def loadRow (stored : Device) : Option Device :=
  let d := discoveredDeviceNames stored.read
  if isValidDiscoveredPrinter env d = false then none
  else if isVirtualDevice env d then none
  else some (withRegistrationSource d "registry").unobserved

/-- `loadRegistryPartitionedLocked`: the managed rows and the hidden ones. -/
def loadRegistry (file : List Device) : List Device × List Device :=
  (file.filterMap (loadRow env)).partition (isManagedPrinter env)

/-- `saveRegistryLocked`. -/
def saveRegistry (rows : List Device) : List Device := rows.filter fun row => !isVirtualDevice env row

/-! ### Observing -/

/-- The rows while observations are merged, and the row each id stands for. -/
structure Inventory where
  rows : List Device
  byID : Keyed Text ℕ

def Inventory.ofRows (rows : List Device) : Inventory where
  rows
  byID := rows.zipIdx.foldl (fun byID entry => if entry.1.id = [] then byID else byID.put entry.1.id entry.2) .empty

/-- The observation under the id of the row it continues, if there is at most one such row. -/
def Inventory.continued (s : Inventory) (d : Device) : Option Device :=
  if (s.byID.find? d.id).isSome then some d
  else
    match s.rows.filter fun prior => prior.id ≠ [] ∧ sameSpoolerQueueDuringDetailLoss env prior d with
    | [] => some d
    | [prior] => some { d with id := prior.id }
    | _ => none

/-- The row with the physical identity of an observation. -/
def Inventory.identified? (s : Inventory) (d : Device) : Option ℕ :=
  (d.physicalIdentity env).bind fun identity =>
    s.rows.findIdx? fun prior => prior.physicalIdentity env = some identity

/-- An observation merged into the row of its id or of its identity, or added. -/
def Inventory.merge (s : Inventory) (d : Device) : Inventory :=
  match s.byID.find? d.id with
  | some index => { s with rows := s.rows.modify index fun prior => mergeObservation env prior d }
  | none =>
    match s.identified? env d with
    | some index =>
      { rows := s.rows.modify index fun prior => replaceObservation env prior d
        byID := match s.rows[index]? with
          | some prior => s.byID.put prior.id index
          | none => s.byID }
    | none => ⟨s.rows ++ [d], s.byID.put d.id s.rows.length⟩

/-- The observation with its names and an id. -/
def identified (d : Device) : Device :=
  let d := discoveredDeviceNames d
  if d.id = [] then { d with id := stableIDForDevice env.toIdentityEnv (d.info env) } else d

def Inventory.observe (s : Inventory) (d : Device) : Inventory :=
  let d := identified env d
  if isValidDiscoveredPrinter env d = false ∨ isManagedPrinter env d = false then s
  else
    match s.continued env d with
    | none => s
    | some d => s.merge env d

/-! ### Pruning -/

def isAutoDiscoveredSpoolerRow (d : Device) : Bool :=
  !isOperatorRegisteredDevice d && (d.capText? "discovered_via" == some "windows_spooler".toList ||
    (d.capabilities.find? "spooler_scope").isSome || (d.capabilities.find? "spooler_attributes").isSome)

/-- An observation reports a row: it has its id, is the same queue during detail loss or has its identity. -/
def reports (stored current : Device) : Bool :=
  current.id ≠ [] && stored.id ≠ [] && current.id = stored.id ||
    sameSpoolerQueueDuringDetailLoss env stored current ||
    (stored.physicalIdentity env).isSome && stored.physicalIdentity env = current.physicalIdentity env

def shouldPruneMissingDiscoveryRow (stored : Device) (observed : List Device) (completeSources : Keyed Text Bool) :
    Bool :=
  completeSources.find? "windows_spooler" = some true && isAutoDiscoveredSpoolerRow stored &&
    observed.all fun current => !reports env stored current

/-- `mutateRegistryFromDiscovery` on the managed rows. -/
def reconcileRows (rows observed : List Device) (completeSources : Keyed Text Bool) : List Device :=
  let observed := observed.map markAutomaticDiscoveryRegistration
  let merged := (observed.foldl (Inventory.observe env) (Inventory.ofRows rows)).rows
  merged.filter fun stored => !shouldPruneMissingDiscoveryRow env stored observed completeSources

/-- The rows that `ReconcileDiscoveryRegistry` returns. -/
def reconcileDiscoveryRegistry (file observed : List Device) (completeSources : Keyed Text Bool) : List Device :=
  reconcileRows env (loadRegistry env file).1 observed completeSources

/-- A call of `mutateRegistryFromDiscovery`, and whether its two rewrites of the file succeed. -/
structure RegistryCall where
  observed : List Device
  completeSources : Keyed Text Bool
  cleaned : Bool
  saved : Bool

/-- The rows that a call is about to save. -/
def RegistryCall.unsaved (call : RegistryCall) (file : List Device) : List Device :=
  reconcileDiscoveryRegistry env file call.observed call.completeSources ++ (loadRegistry env file).2

/-- The file after a call. -/
def RegistryCall.run (file : List Device) (call : RegistryCall) : List Device :=
  let loaded := loadRegistry env file
  if call.saved then saveRegistry env (call.unsaved env file)
  else if call.cleaned ∧ file.any fun row => (loadRow env row).isNone then saveRegistry env (loaded.1 ++ loaded.2)
  else file

/-! ### Live discovery -/

def Device.config (d : Device) : PrinterConfig where
  id := d.id
  type := d.type
  connectionType := d.connectionType
  endpoint := d.endpoint
  protocol := d.protocol
  spoolerName := d.spoolerName
  usbVid := []
  usbPid := []
  registrationSource := none
  verification := none
  verifiedSpoolerSharingAlias := false

def isRuntimeDiscoveryPrinter (d : Device) : Bool :=
  let protocol := toLower (trimSpace d.protocol)
  let connection := toLower (trimSpace d.connectionType)
  let operator := isOperatorRegisteredDevice d
  let observed := (d.capabilities.find? "discovered_via").isSome
  if isVirtualDevice env d then false
  else if (validatePrinterEndpoint d.config).isOk = false then false
  else if protocol = "lpr" then false
  else if operator = false ∧ protocol ∈ ["ipp".toList, "ipps"] ∧ observed ∧
      d.isTrueCapability "ipp_verified" = false then false
  else if operator = false ∧ (d.capText? "verification").any fun verification =>
      toLower (trimSpace verification) ∈ ["candidate_only".toList, "device_detected_only"] then false
  else if connection ∈ ["network".toList, "tcp"] ∧ protocol ∈ [[], "unknown"] then operator || !observed
  else true

/-- `mainInventoryPrinterForPlatform`. -/
def isMainInventoryPrinter (windows : Bool) (d : Device) : Bool :=
  let found := match d.capabilities.find? "discovered_via" with
    | none | some .null => false
    | some (.str text) => trimSpace text ≠ []
    | some _ => true
  let automatic := found || (d.capText? "registration_source").any fun source =>
    equalFold (trimSpace source) "discovery"
  !windows || isOperatorRegisteredDevice d || !automatic || isSpoolerDevice d && trimSpace d.spoolerName ≠ []

/-- What the Agent knows while it persists a scan: its platform and the ids the Gateway owns or has deleted. -/
structure Ownership where
  windows : Bool
  gatewayOwned : List Text
  gatewayTombstones : List Text

/-- `RuntimeInventoryPrinters` and `filterGatewayOwned`. -/
def Ownership.kept (agent : Ownership) (live : List Device) : List Device :=
  (live.filter fun d => isRuntimeDiscoveryPrinter env d && isMainInventoryPrinter agent.windows d).filter fun d =>
    d.id ∉ agent.gatewayOwned ∧ d.id ∉ agent.gatewayTombstones

end Registry

end PrintGateway.Agent
