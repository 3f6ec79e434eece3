import PrintGateway.Machine.Keyed
import PrintGateway.Model.Agent.PrinterConfig

/-!
# The binding of a printer

`PrinterBindingDigest` of `printer_sharing.go`: the text that names the execution destination of a printer, and its
digest.  SHA-256 is a parameter, and so is what Go's libraries and the system answer; the name of the host may differ
from call to call.
-/

namespace PrintGateway.Agent

open Text Net

/-! ### Paths -/

/-- An escape: that of an unreserved octet is resolved, another one is written in capitals. -/
def normalEscape (a b : Char) (high low : ℕ) : Text :=
  let octet := Char.ofNat (16 * high + low)
  if Go.Url.isUnreserved octet then [octet] else ['%', a.toUpper, b.toUpper]

/-- The loop of `canonicalSharingURIPath` over escapes. -/
def normalizeEscapes : Text → Text
  | [] => []
  | '%' :: a :: b :: rest =>
    match Json.hexDigit a, Json.hexDigit b with
    | some high, some low => normalEscape a b high low ++ normalizeEscapes rest
    | _, _ => '%' :: normalizeEscapes (a :: b :: rest)
  | c :: rest => c :: normalizeEscapes rest

/-- The output without its last slash and what is behind it. -/
def dropSegment (output : Text) : Text := (output.rdropWhile (· ≠ '/')).dropLast

/-- The loop of `canonicalSharingURIPath` over dot segments. -/
def removeDotSegments (input output : Text) : Text :=
  match input with
  | [] => output
  | '.' :: '.' :: '/' :: rest => removeDotSegments rest output
  | '.' :: '/' :: rest => removeDotSegments rest output
  | '/' :: '.' :: '/' :: rest => removeDotSegments ('/' :: rest) output
  | ['/', '.'] => removeDotSegments ['/'] output
  | '/' :: '.' :: '.' :: '/' :: rest => removeDotSegments ('/' :: rest) (dropSegment output)
  | ['/', '.', '.'] => removeDotSegments ['/'] (dropSegment output)
  | ['.'] | ['.', '.'] => output
  | c :: rest => removeDotSegments (rest.dropWhile (· ≠ '/')) (output ++ c :: rest.takeWhile (· ≠ '/'))
termination_by input.length
decreasing_by
  all_goals simp only [List.length_cons, List.length_nil]
  all_goals first | omega | skip
  exact Nat.lt_succ_of_le (List.dropWhile_suffix _).length_le

def canonicalSharingURIPath (path : Text) : Text := removeDotSegments (normalizeEscapes path) []

/-! ### Digests -/

/-- A digit of `hex.EncodeToString`. -/
def isLowerHex (c : Char) : Bool := c.isDigit || ('a' ≤ c && c ≤ 'f')

def validBindingDigest (digest : Text) : Bool := decide (digest.length = 64) && digest.all isLowerHex

/-- What `PrinterBindingDigest` takes from outside: the normal form of Unicode, lower case, the name of the host when
there is one, and SHA-256 in hexadecimal digits. -/
structure BindingDigest where
  nfc : Text → Text
  lower : Text → Text
  hostname : Option Text
  sha256 : Text → Text
  hex : ∀ text, validBindingDigest (sha256 text) = true

namespace BindingDigest

variable (bindings : BindingDigest)

def sharingIdentity (value : Text) : Text := bindings.lower (bindings.nfc (trimSpace value))

/-- The queue of a server; the spellings of this host are replaced by its name. -/
def remoteQueue (server share : Text) : Except Text Text :=
  if server = [] ∨ share = [] then .error "invalid remote queue binding"
  else if server = "." ∨ server = "localhost" ∨ server = "127.0.0.1" then
    match bindings.hostname with
    | none | some [] => .error "cannot identify local queue server"
    | some host => .ok ("\\\\" ++ bindings.sharingIdentity host ++ "\\" ++ share)
  else .ok ("\\\\" ++ server ++ "\\" ++ share)

def spoolerBinding (pc : PrinterConfig) (protocol : Text) : Except Text Text :=
  let queue := if trimSpace pc.spoolerName = [] then trimSpace pc.endpoint else trimSpace pc.spoolerName
  if protocol ≠ "spooler" then .error "invalid spooler binding protocol"
  else if queue = [] ∨ queue.any Text.isControl then .error "missing or invalid native queue binding"
  else
    match bindings.sharingIdentity queue with
    | '\\' :: '\\' :: rest =>
      match rest.dropWhile (· ≠ '\\') with
      | '\\' :: share => (bindings.remoteQueue (rest.takeWhile (· ≠ '\\')) share).map ("spooler:" ++ ·)
      | _ => .error "invalid remote queue binding"
    | queue => .ok ("spooler:" ++ queue)

/-- The languages that are sent as they are. -/
def isByteLanguage (protocol : Text) : Bool := protocol ∈ ["raw", "escpos", "zpl", "tspl"].map String.toList

def usbBinding (pc : PrinterConfig) (protocol : Text) : Except Text Text :=
  let endpoint := trimSpace pc.endpoint
  let isDevicePath := startsWith endpoint "\\\\?\\" || startsWith endpoint "\\\\.\\"
  if isByteLanguage protocol = false then .error "invalid USB binding protocol"
  else if byteSize endpoint ≤ 4 ∨ isDevicePath = false ∨ pc.usbVid = [] ∨ pc.usbPid = [] then
    .error "USB sharing requires its actual unique device path and VID/PID"
  else .ok ("usb:" ++ bindings.sharingIdentity endpoint)

end BindingDigest

/-- The scheme of the transport and the port of a URL. -/
def transportOf (u : Go.Url) : Option (Text × Text) :=
  let port (default : String) := if u.port = [] then default.toList else u.port
  if u.scheme = "ipp" then some ("http", port "631")
  else if u.scheme = "ipps" then some ("https", port "631")
  else if u.scheme = "http" then some ("http", port "80")
  else if u.scheme = "https" then some ("https", port "443")
  else none

def ippBinding (pc : PrinterConfig) : Except Text Text :=
  let ep := trimSpace pc.endpoint
  let ep := if contains ep "://" then ep else "http://" ++ ep ++ "/ipp/print"
  match Go.Url.parse ep with
  | none => .error "invalid IPP binding"
  | some u =>
    let path := if u.escapedPath = [] ∨ u.escapedPath = ['/'] then "/ipp/print".toList else u.escapedPath
    if u.hostname = [] then .error "invalid IPP binding"
    else
      match transportOf u with
      | none => .error "invalid IPP binding scheme"
      | some (scheme, port) =>
        match Go.parseIP u.hostname with
        | none => .error "invalid IPP binding host"
        | some ip =>
          match Go.atoi port with
          | none => .error "invalid IPP binding port"
          | some number =>
            .ok ("ipp:" ++ scheme ++ "://" ++ Go.joinHostPort (Go.string ip) (decimal number) ++
              canonicalSharingURIPath path)

def tcpBinding (pc : PrinterConfig) (protocol : Text) : Except Text Text :=
  if pc.normalizedType ≠ "network" ∨ BindingDigest.isByteLanguage protocol = false then
    .error "invalid TCP binding protocol"
  else
    match Go.splitHostPort (trimSpace pc.endpoint) with
    | none => .error "invalid TCP binding"
    | some (host, port) =>
      match Go.parseIP host with
      | none => .error "invalid TCP binding"
      | some ip =>
        match Go.atoi port with
        | none => .error "invalid TCP binding port"
        | some number => .ok ("tcp:" ++ Go.joinHostPort (Go.string ip) (decimal number))

/-- The text that names the destination of a printer. -/
def BindingDigest.binding (bindings : BindingDigest) (pc : PrinterConfig) (protocol : Text) : Except Text Text :=
  let nt := pc.normalizedType
  if nt = "spooler" then bindings.spoolerBinding pc protocol
  else if nt = "network" ∨ nt = "ipp" ∨ nt = "ipps" then
    if protocol = "ipp" ∨ protocol = "ipps" then ippBinding pc else tcpBinding pc protocol
  else if nt = "usb" then bindings.usbBinding pc protocol
  else .error "unknown execution binding"

/-- `PrinterBindingDigest`. -/
def BindingDigest.digest (bindings : BindingDigest) (pc : PrinterConfig) : Except Text Text :=
  (validatePrinterEndpoint pc).bind fun _ =>
    match pc.normalizedProtocol with
    | .error _ => .error "printer binding has no declared execution protocol"
    | .ok protocol =>
      if protocol = "unknown" then .error "printer binding has no declared execution protocol"
      else (bindings.binding pc protocol).map bindings.sha256

theorem BindingDigest.valid {bindings : BindingDigest} {pc : PrinterConfig} {digest : Text}
    (resolved : bindings.digest pc = .ok digest) : validBindingDigest digest = true := by
  obtain ⟨-, -, resolved⟩ := Machine.exists_of_bind_eq_ok resolved
  split at resolved
  · cases resolved
  · split at resolved
    · cases resolved
    · obtain ⟨text, -, rfl⟩ := Machine.exists_of_map_eq_ok resolved
      exact bindings.hex text

end PrintGateway.Agent
