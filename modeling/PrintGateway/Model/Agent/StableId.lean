import PrintGateway.Machine.Keyed
import PrintGateway.Model.Agent.PrinterConfig

/-!
# Stable ids

`stable_id.go`: the id of a device that discovery found, made from the strongest identity the device shows.
-/

namespace PrintGateway.Agent

open Machine Text Net

/-- A slice of the UTF-8 bytes from some offset on, where no character lies across it. -/
def dropBytes : ℕ → Text → Text
  | 0, text => text
  | _ + 1, [] => []
  | n + 1, c :: text => dropBytes (n + 1 - c.utf8Size) text
termination_by _ text => text.length

/-- The fields of a `DeviceInfo` that its id reads.  A capability is the text `fmt.Sprint` writes of it. -/
structure DeviceInfo where
  name : Text
  connectionType : Text
  protocol : Text
  endpoint : Text
  spoolerName : Text
  spoolerServer : Text
  spoolerPort : Text
  spoolerDriver : Text
  spoolerShare : Text
  usbVid : Text
  usbPid : Text
  usbSerial : Text
  networkAddress : Text
  port : ℤ
  capabilities : Keyed Text Text

/-- What ids take from outside: the normal form of Unicode and lower case, both known on ASCII, and the first
eight bytes of SHA-256 in hexadecimal digits. -/
structure IdentityEnv where
  nfc : Text → Text
  lower : Text → Text
  hash : Text → Text
  nfc_ascii : ∀ {text : Text}, (∀ c ∈ text, c.toNat < 128) → nfc text = text
  lower_ascii : ∀ {text : Text}, (∀ c ∈ text, c.toNat < 128) → lower text = text.map Char.toLower

/-- Ids that keep the key. -/
def plainIdentityEnv : IdentityEnv where
  nfc := id
  lower text := text.map Char.toLower
  hash := id
  nfc_ascii _ := rfl
  lower_ascii _ := rfl

section Identity

variable (env : IdentityEnv)

/-! ### Physical identity -/

def usableIdentityValue (value : Text) : Bool :=
  ["", "0", "unknown", "none", "null", "n/a", "na", "-", "unavailable"].all
    fun unusable => toLower (trimSpace value) != unusable.toList

def normalizeIdentityValue (value : Text) : Text :=
  let value := trimSpace value
  let value := if startsWith value "urn:uuid:" then value.drop 9 else value
  env.lower (env.nfc value)

def capabilityIdentityValue (d : DeviceInfo) (keys : List String) : Text :=
  (keys.findSome? fun key => (d.capabilities.find? key.toList).bind fun value =>
    let candidate := trimSpace value
    if usableIdentityValue candidate then some (normalizeIdentityValue env candidate) else none).getD []

def stableIDFromIdentityKey (key : Text) : Text := "printer_identity_" ++ env.hash key

def ippQueueIdentitySuffix (d : DeviceInfo) : Text :=
  let protocol := toLower d.protocol
  let connection := toLower d.connectionType
  if protocol ≠ "ipp" ∧ protocol ≠ "ipps" ∧ connection ≠ "ipp" ∧ connection ≠ "ipps" then
    []
  else
    match Go.Url.parse d.endpoint with
    | none => []
    | some u =>
      if u.hostname = [] then []
      else
        let path := if u.escapedPath = [] ∨ u.escapedPath = ['/'] then "/ipp/print".toList else u.escapedPath
        "|ipp-resource:" ++ path ++ "?" ++ u.rawQuery

def usbSerialKey (d : DeviceInfo) : Text :=
  let serial := normalizeIdentityValue env d.usbSerial
  let vid := normalizeIdentityValue env d.usbVid
  let pid := normalizeIdentityValue env d.usbPid
  if usableIdentityValue vid ∧ usableIdentityValue pid then
    "usb-serial:" ++ vid ++ ":" ++ pid ++ ":" ++ serial
  else "usb-serial:" ++ serial

/-- The identity of a queue from its port and driver, or from the capabilities of older records. -/
def spoolerKey (d : DeviceInfo) : Option Text :=
  let port := normalizeIdentityValue env d.spoolerPort
  let port := if usableIdentityValue port then port else capabilityIdentityValue env d ["port_name"]
  let driver := normalizeIdentityValue env d.spoolerDriver
  let driver := if usableIdentityValue driver then driver else capabilityIdentityValue env d ["driver_name"]
  if usableIdentityValue port ∧ usableIdentityValue driver then
    some ("spooler:" ++ normalizeIdentityValue env d.spoolerServer ++ "|port:" ++ port ++
      "|driver:" ++ driver ++ "|share:" ++ normalizeIdentityValue env d.spoolerShare)
  else none

def physicalIdentityKey (d : DeviceInfo) : Option Text :=
  let uuid := capabilityIdentityValue env d ["uuid", "printer_uuid"]
  let serial := capabilityIdentityValue env d ["serial"]
  let mac := capabilityIdentityValue env d ["mac", "mac_address", "macAddress"]
  if uuid ≠ [] then some ("uuid:" ++ uuid ++ ippQueueIdentitySuffix d)
  else if serial ≠ [] then
    some ("serial:" ++ serial ++ "|manufacturer:" ++ capabilityIdentityValue env d ["manufacturer"] ++
      "|model:" ++ capabilityIdentityValue env d ["model"] ++ ippQueueIdentitySuffix d)
  else if mac ≠ [] then some ("mac:" ++ mac ++ ippQueueIdentitySuffix d)
  else if trimSpace d.usbSerial ≠ [] ∧ usableIdentityValue d.usbSerial then some (usbSerialKey env d)
  else spoolerKey env d

/-! ### Ids -/

def stableIDFromSpooler (spoolerName : Text) : Text :=
  let name := env.lower (env.nfc (trimSpace spoolerName))
  "printer_spooler_" ++ env.hash ("spooler:" ++ name.map fun c => if c = ' ' then '_' else c)

def stableIDFromUSBFull (vid pid serial location instanceID : Text) : Text :=
  let key :=
    if serial ≠ [] ∧ usableIdentityValue serial then
      "usb-sn:" ++ normalizeIdentityValue env vid ++ ":" ++ normalizeIdentityValue env pid ++
        ":" ++ normalizeIdentityValue env serial
    else if instanceID ≠ [] then "usb-inst:" ++ normalizeIdentityValue env instanceID
    else if location ≠ [] then "usb-loc:" ++ normalizeIdentityValue env location
    else "usb-vidpid:" ++ normalizeIdentityValue env vid ++ ":" ++ normalizeIdentityValue env pid
  "printer_usb_" ++ env.hash key

def stableIDFromUSB (vid pid serial location : Text) : Text := stableIDFromUSBFull env vid pid serial location []

def stableIDFromNetwork (ip : Text) (port : ℤ) : Text :=
  let host := Go.trimBrackets (env.lower (env.nfc (trimSpace ip)))
  let host := match Go.parseIP host with
    | some parsed => Go.string parsed
    | none => host
  "printer_net_" ++ env.hash ("net:" ++ host ++ ":" ++ decimal port)

def stableIDFromEndpoint (endpoint : Text) : Text :=
  "printer_ep_" ++ env.hash ("endpoint:" ++ env.lower (env.nfc (trimSpace endpoint)))

/-- A URL whose decoded path is empty or the default. -/
def isDefaultQueue (u : Go.Url) : Bool :=
  u.path.isEmpty || decide (Go.Url.unescape u.path = utf8 "/ipp/print")

/-- The key of a queue. -/
def ippQueueKey (u : Go.Url) (host : Text) (port : ℤ) : Text :=
  "ipp-queue:" ++ u.scheme ++ "://" ++ Go.joinHostPort (env.lower host) (decimal port) ++
    u.escapedPath ++ "?" ++ u.rawQuery

def stableIDFromIPPURI (endpoint host : Text) (port : ℤ) : Text :=
  match Go.Url.parse endpoint with
  | none => stableIDFromEndpoint env endpoint
  | some u =>
    if u.hostname = [] then stableIDFromEndpoint env endpoint
    else if isDefaultQueue u ∧ u.rawQuery = [] then stableIDFromNetwork env host port
    else "printer_ep_" ++ env.hash (ippQueueKey env u host port)

/-- `fmt.Sscanf(text, "%d", &n)`, which leaves `n` when there is no number. -/
def sscanInt (n : ℤ) (text : Text) : ℤ :=
  let text := text.dropWhile fun c => isUnicodeSpace c && c != '\n'
  let sign := text.take 1 |>.filter fun c => c == '+' || c == '-'
  (Go.atoi (sign ++ (text.drop sign.length).takeWhile Char.isDigit)).getD n

/-- The port of an endpoint that is a URL. -/
def endpointPort (u : Go.Url) : ℤ :=
  if u.port ≠ [] then sscanInt 631 u.port else if u.scheme = "https" then 443 else 631

/-- The id of an endpoint that is a URL with a host. -/
def stableIDFromURL (d : DeviceInfo) : Option Text :=
  let lowerEP := toLower (trimSpace d.endpoint)
  let isIPP := startsWith lowerEP "ipp://"
  let isIPPS := startsWith lowerEP "ipps://"
  let parseStr :=
    if isIPP then "http://" ++ dropBytes 6 d.endpoint
    else if isIPPS then "https://" ++ dropBytes 7 d.endpoint
    else d.endpoint
  if isIPP ∨ isIPPS ∨ startsWith lowerEP "http://" ∨ startsWith lowerEP "https://" then
    (Go.Url.parse parseStr).bind fun u =>
      if u.host = [] ∨ u.hostname = [] then none
      else if isIPP ∨ isIPPS ∨ d.protocol = "ipp" ∨ d.protocol = "ipps" then
        some (stableIDFromIPPURI env d.endpoint u.hostname (endpointPort u))
      else some (stableIDFromNetwork env u.hostname (endpointPort u))
  else none

/-- `StableIDForDevice`. -/
def stableIDForDevice (d : DeviceInfo) : Text :=
  if (d.protocol = "ipp" ∨ d.protocol = "ipps") ∧ d.endpoint ≠ [] ∧ d.networkAddress ≠ [] ∧ 0 < d.port then
    stableIDFromIPPURI env d.endpoint d.networkAddress d.port
  else
    match physicalIdentityKey env d with
    | some key =>
      if startsWith key "usb-serial:" then stableIDFromUSB env d.usbVid d.usbPid d.usbSerial []
      else stableIDFromIdentityKey env key
    | none =>
      if d.spoolerName ≠ [] then stableIDFromSpooler env d.spoolerName
      else if d.usbSerial ≠ [] ∨ d.usbVid ≠ [] then stableIDFromUSB env d.usbVid d.usbPid d.usbSerial []
      else if d.networkAddress ≠ [] ∧ d.port ≠ 0 then stableIDFromNetwork env d.networkAddress d.port
      else if d.endpoint ≠ [] then
        match stableIDFromURL env d with
        | some id => id
        | none =>
          match Go.splitHostPort d.endpoint with
          | some (host, port) => stableIDFromNetwork env host (sscanInt 0 port)
          | none => stableIDFromEndpoint env d.endpoint
      else "printer_" ++ env.hash ("name:" ++ env.lower (env.nfc (trimSpace d.name)))

end Identity

end PrintGateway.Agent
