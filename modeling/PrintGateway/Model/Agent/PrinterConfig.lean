import PrintGateway.Model.Agent.Destination

/-!
# Configurations of printers at the Agent

`config.go`: the configuration of a printer, the transport and the protocol it stands for, and the check of its
endpoint.
-/

namespace PrintGateway.Agent

open Text Net

/-- The fields of a `PrinterConfig` that a sharing decision or a binding digest reads.  Of the
capabilities only two texts count. -/
structure PrinterConfig where
  id : Text
  type : Text
  connectionType : Text
  endpoint : Text
  protocol : Text
  spoolerName : Text
  usbVid : Text
  usbPid : Text
  registrationSource : Option Text
  verification : Option Text
  verifiedSpoolerSharingAlias : Bool
  deriving DecidableEq, Repr

/-- `NormalizedType`. -/
def PrinterConfig.normalizedType (pc : PrinterConfig) : Text :=
  let t := toLower (trimSpace (if pc.connectionType = [] then pc.type else pc.connectionType))
  if t = "tcp" then "network"
  else if t = "windows_spooler" then "spooler"
  else if t = "usb" then
    if trimSpace pc.spoolerName = [] then "usb" else "spooler"
  else if t = [] then "network"
  else t

/-- `NormalizedProtocol`. -/
def PrinterConfig.normalizedProtocol (pc : PrinterConfig) : Except Text Text :=
  let proto := toLower (trimSpace pc.protocol)
  if proto = [] then
    if pc.normalizedType = "spooler" then .ok "spooler"
    else if pc.normalizedType = "ipp" ∨ pc.normalizedType = "ipps" then .ok pc.normalizedType
    else .error ("printer " ++ pc.id ++ (": protocol must be declared explicitly (raw, escpos, zpl, tspl, " ++
      "ipp, ipps, spooler, or unknown)").toList)
  else if proto = "windows_spooler" then .ok "spooler"
  else if proto ∈ ["raw".toList, "escpos", "zpl", "tspl", "ipp", "ipps", "spooler", "unknown"] then .ok proto
  else .error ("printer " ++ pc.id ++ ": unsupported protocol " ++ pc.protocol)

/-- An error that names the printer. -/
def refuse (pc : PrinterConfig) (reason : String) : Except Text Unit :=
  .error ("printer " ++ pc.id ++ ": " ++ reason.toList)

/-- The endpoint is a URL. -/
def isURLEndpoint (nt proto ep : Text) : Bool :=
  nt == "ipp" || nt == "ipps" || startsWith proto "ipp" ||
    startsWith (toLower ep) "ipp://" || startsWith (toLower ep) "ipps://" ||
    startsWith (toLower ep) "http://" || startsWith (toLower ep) "https://"

/-- An endpoint without a scheme is expanded. -/
def expandEndpoint (proto ep : Text) : Text :=
  if proto = "ipp" ∧ contains ep "://" = false then
    match Go.splitHostPort ep with
    | some (host, port) =>
      if host ≠ [] ∧ port ≠ [] then
        "http://" ++ Go.joinHostPort (Go.trimBrackets host) port ++ "/ipp/print"
      else ep
    | none => ep
  else ep

/-- The checks on a URL. -/
def validateURLEndpoint (pc : PrinterConfig) (nt : Text) (endpoint : Text) : Except Text Unit :=
  match Go.Url.parse endpoint with
  | none => refuse pc "invalid IPP endpoint syntax or host"
  | some u =>
    let port := if u.port = [] then some 631 else (Go.atoi u.port).filter fun n => 1 ≤ n ∧ n ≤ 65535
    if u.hostname = [] then refuse pc "invalid IPP endpoint syntax or host"
    else if u.user then refuse pc "IPP endpoint must not contain embedded credentials"
    else if u.rawQuery ≠ [] ∨ u.fragment ≠ [] then
      refuse pc "IPP endpoint must not contain query strings or fragments"
    else if nt = "ipps" ∧ u.scheme ≠ "https" ∧ u.scheme ≠ "ipps" then
      refuse pc "IPPS endpoint must use https:// or ipps://"
    else if isAllowedPrinterIP (Go.parseIP (Go.trimBrackets u.hostname)) = false then
      refuse pc "IPP endpoint host must be a private or link-local IP"
    else
      match port with
      | none => refuse pc "invalid IPP endpoint port"
      | some port =>
        if port ≠ 80 ∧ port ≠ 443 ∧ port ≠ 631 then refuse pc "IPP endpoint port must be 80, 443, or 631"
        else .ok ()

/-- The checks on a host and port. -/
def validateSocketEndpoint (pc : PrinterConfig) (ep : Text) : Except Text Unit :=
  match Go.splitHostPort ep with
  | none => refuse pc "network endpoint must be host:port"
  | some (host, port) =>
    if isAllowedPrinterIP (Go.parseIP (Go.trimBrackets host)) = false then
      refuse pc "network endpoint host must be a private or link-local IP"
    else if Go.atoi port ≠ some 9100 then refuse pc "network endpoint port must be 9100"
    else .ok ()

/-- `ValidatePrinterEndpoint`. -/
def validatePrinterEndpoint (pc : PrinterConfig) : Except Text Unit :=
  let nt := pc.normalizedType
  if nt ≠ "network" ∧ nt ≠ "ipp" ∧ nt ≠ "ipps" then .ok ()
  else
    pc.normalizedProtocol.bind fun proto =>
      let ep := trimSpace pc.endpoint
      if ep = [] then refuse pc "network endpoint required"
      else if isURLEndpoint nt proto ep then validateURLEndpoint pc nt (expandEndpoint proto ep)
      else validateSocketEndpoint pc ep

end PrintGateway.Agent
