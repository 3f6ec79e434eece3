import PrintGateway.Model.Text

/-!
# What a printer can print, as the Agent sees it

`capability.go`: the decision at the device, and the list of capabilities the Agent derives for a
device that declares none.
-/

namespace PrintGateway.Agent

open Text

/-- `TransportFacts`; a `nil` list is `none`. -/
structure TransportFacts where
  protocol : Text
  connection : Text
  supportedProtocol : Option (List Text)
  supportedProtocolDeclared : Bool

namespace TransportFacts

/-- The connection after normalisation. -/
def conn (d : TransportFacts) : Text :=
  let conn := toLower (trimSpace d.connection)
  if conn = "windows_spooler" then "spooler" else conn

/-- The protocol after normalisation. -/
def proto (d : TransportFacts) : Text :=
  let proto := toLower (trimSpace d.protocol)
  if proto = "windows_spooler" ∧ d.conn = "spooler" then "spooler" else proto

/-- An undeclared protocol leaves the transport as the family. -/
def family (d : TransportFacts) : Text :=
  if d.proto = [] ∨ d.proto = "unknown" then d.conn else d.proto

def hasCaps (d : TransportFacts) : Bool := d.supportedProtocolDeclared || d.supportedProtocol.isSome

def physicalSpooler (d : TransportFacts) : Bool :=
  d.conn == "spooler" || (d.conn == "usb" && d.proto == "spooler")

def physicalPdf (d : TransportFacts) : Bool :=
  d.physicalSpooler || d.conn == "ipp" || d.conn == "ipps" ||
    (d.conn == "network" && (d.proto == "ipp" || d.proto == "ipps"))

def physicalImage (d : TransportFacts) : Bool :=
  d.physicalSpooler || (d.conn == "network" && d.proto == "escpos")

/-- The languages a byte pipe can carry. -/
def isByteLanguage (protocol : Text) : Bool :=
  protocol == "raw" || protocol == "escpos" || protocol == "zpl" || protocol == "tspl"

def physicalByteProtocol (d : TransportFacts) (protocol : Text) : Bool :=
  if d.physicalSpooler then protocol == "raw" || protocol == "escpos"
  else if d.conn ≠ "network" ∧ d.conn ≠ "usb" then false
  else if d.proto ≠ protocol then false
  else isByteLanguage protocol

def capabilityListed (d : TransportFacts) (names : List Text) : Bool :=
  names.any fun name => (d.supportedProtocol.getD []).any fun c => equalFold (trimSpace c) name

def declared (d : TransportFacts) (name : Text) : Bool :=
  if d.hasCaps then d.capabilityListed [name] && d.physicalByteProtocol name
  else d.physicalByteProtocol name

/-- `familyOrUnknown`. -/
def familyOrUnknown (d : TransportFacts) : Text :=
  if d.family = [] then "unknown" else d.family

def notDeclared (label : Text) : Text :=
  "This printer is configured for Windows document spooling and has not been declared as " ++ label ++ "-capable."

/-- `PayloadCompatibleForDevice`. -/
def payloadCompatibleForDevice (plType plProtocol : Text) (d : TransportFacts) : Except Text Unit :=
  let pt := toLower (trimSpace plType)
  let pp := toLower (trimSpace plProtocol)
  if pt = "pdf" then
    if pp ≠ [] then .error "pdf payloads cannot specify a printer protocol"
    else if !d.physicalPdf then .error "pdf requires spooler or IPP transport"
    else .ok ()
  else if pt = "image" then
    if pp ≠ [] then .error "image payloads cannot specify a printer protocol"
    else if !d.physicalImage then .error "image payload not supported by printer"
    else if d.physicalSpooler then .ok ()
    else if d.hasCaps && d.capabilityListed ["image", "jpeg", "escpos"] then .ok ()
    else if !d.hasCaps then .ok ()
    else .error "image payload not supported by printer"
  else if pt = "escpos" then
    if pp ≠ [] ∧ pp ≠ "escpos" then .error ("escpos payload cannot use protocol " ++ pp)
    else if d.physicalSpooler then
      if d.hasCaps && d.capabilityListed ["escpos"] then .ok ()
      else .error (notDeclared "ESC/POS")
    else if d.declared "escpos" then .ok ()
    else .error
      ("printer does not explicitly support ESC/POS (protocol=" ++ d.familyOrUnknown ++ ")")
  else if pt = "raw" then
    if pp = [] then
      .error "raw payloads must declare an explicit protocol (raw, escpos, zpl, or tspl)"
    else if !isByteLanguage pp then .error ("unsupported raw protocol " ++ pp)
    else if d.physicalSpooler then
      if (pp == "raw" || pp == "escpos") && d.hasCaps && d.capabilityListed [pp] then .ok ()
      else .error (notDeclared (if pp = "escpos" then "ESC/POS" else toUpper pp))
    else if d.declared pp then .ok ()
    else .error ("printer does not explicitly support " ++ toUpper pp ++ " (protocol=" ++ d.familyOrUnknown ++ ")")
  else .error ("unsupported payload type " ++ pt)

end TransportFacts

end PrintGateway.Agent
