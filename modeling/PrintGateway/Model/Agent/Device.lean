import PrintGateway.Json.Canonical
import PrintGateway.Model.Agent.StableId

/-!
# Devices and what they are

A `DeviceInfo` with all the fields that inventory reads, the classifier of `classify_device.go` and the checks of
`discovery.go` that a device is a printer.  Reasons and confidences of a verdict are left out.
-/

namespace PrintGateway.Agent

open Machine Text

/-- A `DeviceInfo`.  A missing capability map is an empty one. -/
structure Device where
  id : Text
  name : Text
  displayName : Text
  printerType : Text
  connectionType : Text
  protocol : Text
  endpoint : Text
  spoolerName : Text
  spoolerServer : Text
  spoolerPort : Text
  spoolerDriver : Text
  spoolerShare : Text
  usbVid : Text
  usbPid : Text
  usbSerial : Text
  networkAddress : Text
  port : ℤ
  status : Text
  enabled : Bool
  isVirtual : Bool
  type : Text
  capabilities : Keyed Text Json.Value

/-- What devices take from outside: besides the functions of ids, the text `fmt.Sprint` writes of a value and
`strings.EqualFold`, known on ASCII. -/
structure DeviceEnv extends IdentityEnv where
  sprint : Json.Value → Text
  fold : Text → Text → Bool
  sprint_str : ∀ text, sprint (.str text) = text
  fold_ascii : ∀ {text other : Text}, (∀ c ∈ other, c.toNat < 128) → fold text other = equalFold text other

/-- Only strings are written. -/
def plainDeviceEnv : DeviceEnv where
  toIdentityEnv := plainIdentityEnv
  sprint
    | .str text => text
    | _ => []
  fold := equalFold
  sprint_str _ := rfl
  fold_ascii _ := rfl

/-! ### Capabilities -/

/-- The capability is a string. -/
def Device.capText? (d : Device) (key : String) : Option Text :=
  match d.capabilities.find? key.toList with
  | some (.str text) => some text
  | _ => none

theorem capText?_eq_some {d : Device} {key : String} {text : Text} (found : d.capText? key = some text) :
    d.capabilities.find? key.toList = some (.str text) := by
  unfold Device.capText? at found
  split at found
  · next same => rw [same, Option.some.inj found]
  · cases found

/-- `capString`. -/
def capString (env : DeviceEnv) (d : Device) (key : String) : Text :=
  match d.capabilities.find? key.toList with
  | none | some .null => []
  | some value => env.sprint value

/-- `capStringSlice`. -/
def capStringSlice (env : DeviceEnv) (d : Device) (key : String) : List Text :=
  match d.capabilities.find? key.toList with
  | some (.arr items) => items.map env.sprint
  | _ => []

def Device.isTrueCapability (d : Device) (key : String) : Bool :=
  match d.capabilities.find? key.toList with
  | some (.bool value) => value
  | _ => false

/-! ### Texts -/

/-- The characters that `spoolerToLowerTrim` drops. -/
def isBlank (c : Char) : Bool := c == ' ' || c == '\t' || c == '\n' || c == '\r'

/-- `spoolerToLowerTrim`. -/
def spoolerToLowerTrim (text : Text) : Text := (stripBy isBlank text).map Char.toLower

/-- `strings.ToUpper`, as far as it can end in ASCII letters. -/
def goUpper (text : Text) : Text :=
  text.map fun c => if c.toNat = 305 then 'I' else if c.toNat = 383 then 'S' else c.toUpper

def containsAny (text : Text) (markers : List String) : Bool := markers.any fun marker => contains text marker.toList

/-- The registration sources of an operator. -/
def isOperatorSource (source : Text) : Bool :=
  toLower (trimSpace source) ∈ ["manual".toList, "config"]

def isOperatorRegisteredDevice (d : Device) : Bool := (d.capText? "registration_source").any isOperatorSource

/-- `isSpoolerDevice`. -/
def isSpoolerDevice (d : Device) : Bool :=
  let connection := if trimSpace d.connectionType = [] then trimSpace d.type else trimSpace d.connectionType
  equalFold (trimSpace d.protocol) "spooler" || equalFold (trimSpace d.protocol) "windows_spooler" ||
    equalFold connection "spooler" || equalFold connection "windows_spooler"

/-! ### Evidence -/

inductive PrinterClass
  | physical
  | virtual
  | redirected
  | unknown
  deriving DecidableEq, Repr

/-- `DeviceFacts`. -/
structure DeviceFacts where
  name : Text
  displayName : Text
  driverName : Text
  portName : Text
  comment : Text
  connectionType : Text
  protocol : Text
  endpoint : Text
  spoolerName : Text
  networkAddress : Text
  port : ℤ
  usbVid : Text
  usbSerial : Text
  deviceId : Text
  deviceClass : Text
  hardwareIds : List Text
  compatibleIds : List Text
  deriving DecidableEq, Repr

/-- `FactsFromDevice`. -/
def factsFromDevice (env : DeviceEnv) (d : Device) : DeviceFacts where
  name := if d.name = [] then d.displayName else d.name
  displayName := d.displayName
  driverName := capString env d "driver_name"
  portName := capString env d "port_name"
  comment := capString env d "comment"
  connectionType := d.connectionType
  protocol := d.protocol
  endpoint := d.endpoint
  spoolerName := if d.spoolerName = [] ∧ isSpoolerDevice d then d.endpoint else d.spoolerName
  networkAddress := d.networkAddress
  port := d.port
  usbVid := d.usbVid
  usbSerial := d.usbSerial
  deviceId := capString env d "device_id"
  deviceClass := capString env d "class"
  hardwareIds := capStringSlice env d "hardware_ids"
  compatibleIds := capStringSlice env d "compatible_ids"

/-- `virtualPortMonitors`. -/
def virtualPortMonitors : List Text :=
  ["portprompt:", "xpsport:", "file:", "nul:", "null:", "shrfax:", "fax:", "brfax:"].map String.toList

/-- `softwareWriterTokens`. -/
def softwareWriterTokens : List Text :=
  ["microsoft print to pdf", "microsoft xps document writer", "microsoft shared fax", "send to onenote", "onenote",
    "pc-fax", "pc fax", "pcfax", "fax v.", "fax driver", "document writer", "documentwriter", "print to pdf",
    "topdf", "pdf writer", "pdfwriter", "pdf printer", "pdf creator", "pdf converter", "pdf architect",
    "virtual printer", "software printer", "image printer", "foxit", "anydesk", "cutepdf", "pdf995", "novapdf",
    "bullzip", "pdfcreator", "pdfforge", "doro pdf", "biopdf", "nitro pdf", "adobe pdf", "bluebeam", "tinypdf",
    "7-pdf", "icecream pdf", "pdf24"].map String.toList

/-- `sessionRedirectTokens`. -/
def sessionRedirectTokens : List Text :=
  ["remote desktop easy print", "terminal services easy print", "ts easy print", "easy print", "citrix",
    "vmware virtual print", "vmware universal printer", "thinprint", "safeguard print"].map String.toList

def hasToken (tokens : List Text) (text : Text) : Bool := tokens.any fun token => contains text token

/-- `portHead`. -/
def portHead (port : Text) : Text := spoolerToLowerTrim (port.takeWhile (· ≠ ','))

/-- What `portKind` tells: there is no port, a virtual one or one of hardware. -/
inductive PortKind
  | none
  | virtual
  | hardware
  deriving DecidableEq, Repr

def portKind (port : Text) : PortKind :=
  if portHead port = [] then .none
  else if virtualPortMonitors.any fun monitor => startsWith (portHead port) monitor then .virtual
  else .hardware

/-- `identityHaystack`. -/
def identityHaystack (f : DeviceFacts) : Text :=
  spoolerToLowerTrim
    ([' '].intercalate ([f.driverName, f.deviceId, f.comment] ++ f.hardwareIds ++ f.compatibleIds))

/-- The labels of redirected queues. -/
def isRedirectedLabel (label : Text) : Bool :=
  let name := spoolerToLowerTrim label
  contains name "(redirected" || "redirected)".toList.isSuffixOf name || contains name " in session " ||
    contains name "(from " && contains name "in session"

/-- The Terminal Services port monitors. -/
def isSessionPort (port : Text) : Bool :=
  match portHead port with
  | 't' :: 's' :: digits => digits ≠ [] && digits.all Char.isDigit
  | _ => false

def DeviceFacts.labels (f : DeviceFacts) : List Text := [f.name, f.displayName, f.spoolerName]

/-- `redirectedEvidence`. -/
def redirectedEvidence (f : DeviceFacts) : Bool :=
  f.labels.any isRedirectedLabel || isSessionPort f.portName || hasToken sessionRedirectTokens (identityHaystack f)

/-- `vendorFaxQueue`, for one label. -/
def isFaxLabel (label : Text) : Bool :=
  let name := toLower (trimSpace label)
  name == "fax" || " fax".toList.isSuffixOf name || "-fax".toList.isSuffixOf name || " (fax)".toList.isSuffixOf name

def vendorFaxQueue (f : DeviceFacts) : Bool := isFaxLabel f.driverName || f.labels.any isFaxLabel

/-- `virtualEvidence`. -/
def virtualEvidence (f : DeviceFacts) : Bool :=
  vendorFaxQueue f || portKind f.portName == .virtual || hasToken softwareWriterTokens (identityHaystack f) ||
    f.labels.any fun label => hasToken softwareWriterTokens (spoolerToLowerTrim label)

/-- `isPrinterUSBDevice`. -/
def isPrinterUSBDevice (hardwareIds compatibleIds : List Text) (deviceClass : Text) : Bool :=
  let combined := goUpper ([' '].intercalate (hardwareIds ++ compatibleIds))
  let classUpper := goUpper (trimSpace deviceClass)
  let has (marker : String) := contains combined marker.toList
  has "USBPRINT" || has "USB\\CLASS_07" || has "CLASS_07" && has "USB" || classUpper == "07" ||
    classUpper == "PRINTER" || contains classUpper "07" && contains classUpper "USB" ||
    has "PRINTER" && has "USB"

/-- `physicalEvidence`. -/
def physicalEvidence (f : DeviceFacts) : Bool :=
  let connection := spoolerToLowerTrim f.connectionType
  let protocol := spoolerToLowerTrim f.protocol
  let isIPP (name : Text) : Bool := name == "ipp" || name == "ipps"
  let filled (text : Text) : Bool := trimSpace text ≠ []
  filled f.usbVid || filled f.usbSerial || isPrinterUSBDevice f.hardwareIds f.compatibleIds f.deviceClass ||
    connection == "usb" && filled f.endpoint || filled f.networkAddress && f.port ≠ 0 ||
    (isIPP connection || isIPP protocol) && filled f.endpoint ||
    (connection == "network" || connection == "tcp") && filled f.networkAddress ||
    portKind f.portName == .hardware || filled f.spoolerName

/-- `ClassifyDevice`. -/
def classifyDevice (f : DeviceFacts) : PrinterClass :=
  if redirectedEvidence f then .redirected
  else if virtualEvidence f then .virtual
  else if physicalEvidence f then .physical
  else .unknown

/-- `ClassifyDeviceInfo`. -/
def classifyDeviceInfo (env : DeviceEnv) (d : Device) : PrinterClass :=
  let declared := toLower (trimSpace d.printerType)
  if declared = "virtual" then .virtual
  else if declared = "redirected" then .redirected
  else
    match classifyDevice (factsFromDevice env d) with
    | .virtual => .virtual
    | .redirected => .redirected
    | found => if d.isVirtual then .virtual else found

/-- `IsVirtualDevice`. -/
def isVirtualDevice (env : DeviceEnv) (d : Device) : Bool :=
  match classifyDeviceInfo env d with
  | .virtual | .redirected => true
  | .physical | .unknown => false

/-- `IsExplicitlyRegistered`. -/
def isExplicitlyRegistered (d : Device) : Bool :=
  d.isTrueCapability "manual" || (d.capText? "registration_source").any fun source =>
    spoolerToLowerTrim source ∈ ["manual".toList, "config", "registry"]

/-- `IsProductionPrinter`, which is `IsManagedPrinter`. -/
def isManagedPrinter (env : DeviceEnv) (d : Device) : Bool :=
  match classifyDeviceInfo env d with
  | .virtual | .redirected => false
  | .physical => true
  | .unknown => isExplicitlyRegistered d

/-! ### Printers -/

/-- The names of devices that are no printers. -/
def genericSubstrings : List String :=
  ["usb input device", "usb composite device", "hid-compliant", "hid compliant", "standard system devices",
    "standard usb host controller", "intel(r) wireless bluetooth", "wireless bluetooth", "bluetooth adapter",
    "fingerprint sensor", "touch fingerprint", "synaptics", "vfs7552", "hd camera", "hp hd camera", "camera",
    "usb hub", "generic usb hub"]

/-- `isValidSpoolerPrinter`. -/
def isValidSpoolerPrinter (portName driverName printerName : Text) : Bool :=
  let facts : DeviceFacts :=
    ⟨printerName, [], driverName, portName, [], [], [], [], [], [], 0, [], [], [], [], [], []⟩
  let lowerName := spoolerToLowerTrim printerName
  let lowerDriver := spoolerToLowerTrim driverName
  let isGeneric := containsAny lowerName genericSubstrings || containsAny lowerDriver genericSubstrings
  let saysPrinter := containsAny lowerDriver ["printer", "laser", "inkjet", "thermal", "label", "zebra"] ||
    contains lowerName "printer"
  if redirectedEvidence facts || virtualEvidence facts then false
  else if trimSpace printerName = [] then false
  else if isGeneric && !saysPrinter then false
  else if trimSpace driverName = [] ∧ containsAny lowerName ["usb"] ∧ containsAny lowerName ["device"] ∧
      ¬containsAny lowerName ["printer", "print"] then false
  else true

/-- `fmt.Sprint` of a capability that is there. -/
def capSprint (env : DeviceEnv) (d : Device) (key : String) : Text :=
  ((d.capabilities.find? key.toList).map env.sprint).getD []

/-- `isValidDiscoveredPrinter`. -/
def isValidDiscoveredPrinter (env : DeviceEnv) (d : Device) : Bool :=
  let nameLower := toLower (d.name ++ [' '] ++ d.displayName)
  let caps := ["driver_name", "port_name"].flatMap fun key =>
    ((d.capabilities.find? key.toList).map fun value => toLower (env.sprint value) ++ [' ']).getD []
  let combined := nameLower ++ [' '] ++ caps ++ toLower d.printerType
  let saysPrinter := containsAny combined ["printer", "laser", "inkjet", "thermal", "label", "zebra"]
  let portName := capSprint env d "port_name"
  let driverName := capSprint env d "driver_name"
  let hardwareIds := capStringSlice env d "hardware_ids"
  let compatibleIds := capStringSlice env d "compatible_ids"
  if d.isVirtual || isVirtualDevice env d then false
  else if containsAny nameLower genericSubstrings && !saysPrinter then false
  else if (d.connectionType = "spooler" ∨ d.protocol = "spooler") ∧
      (portName ≠ [] ∨ driverName ≠ []) ∧ isValidSpoolerPrinter portName driverName d.name = false then false
  else if d.connectionType = "usb" ∧ (hardwareIds ≠ [] ∨ compatibleIds ≠ []) ∧
      isPrinterUSBDevice hardwareIds compatibleIds (capSprint env d "class") = false then false
  else true

/-- `isGenericPrinterName`. -/
def isGenericPrinterName (name : Text) : Bool :=
  let lower := toLower (trimSpace name)
  lower = [] || ["network printer", "wsd printer", "snmp printer", "ipp printer"].any fun start =>
    startsWith lower start.toList

/-- `discoveredDeviceNames`. -/
def discoveredDeviceNames (d : Device) : Device :=
  let renamed := if isOperatorRegisteredDevice d = false ∧ isGenericPrinterName d.name ∧
      isGenericPrinterName d.displayName = false then trimSpace d.displayName else d.name
  let name := if trimSpace renamed ≠ [] then renamed
    else if trimSpace d.spoolerName ≠ [] then trimSpace d.spoolerName else trimSpace d.displayName
  { d with name := name, displayName := if trimSpace d.displayName = [] then name else d.displayName }

end PrintGateway.Agent
