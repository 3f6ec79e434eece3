import PrintGateway.Json.Canonical
import PrintGateway.Model.Text

/-!
# What a printer can print, as the Gateway sees it

`validatePayloadForPrinter` of `printer-capability.ts`.  Texts are brought to lower case first; what
follows is a table over the payload type, its protocol and the transport of the printer.
-/

namespace PrintGateway.Gateway

open Text

/-- `PayloadSpec`; `null` and `undefined` are the same. -/
structure PayloadSpec where
  type : Text
  protocol : Option Text

/-- The printer argument; `capabilities` are the entries of the reported object. -/
structure PrinterSpec where
  protocol : Option Text
  connectionType : Option Text
  capabilities : Option (List Json.Field)

def capabilityMismatch (reason : Text) : Except Text Unit :=
  .error ("CAPABILITY_MISMATCH: " ++ reason)

/-- `payloadContract.rawProtocols`. -/
def byteProtocols : List Text := ["raw", "escpos", "zpl", "tspl"]

/-- The transport facts of a printer after normalisation. -/
structure Transport where
  conn : Text
  proto : Text

namespace Transport

/-- A queue of the Windows spooler stands for its transport. -/
def ofPrinter (printer : PrinterSpec) : Transport :=
  let rawConn := toLowerCase (printer.connectionType.getD [])
  let conn := if rawConn = "windows_spooler".toList then "spooler".toList else rawConn
  let rawProto := toLowerCase (printer.protocol.getD [])
  ⟨conn, if rawProto = "windows_spooler" ∧ conn = "spooler" then "spooler"
    else rawProto⟩

def physicalSpooler (t : Transport) : Bool :=
  t.conn == "spooler" || (t.conn == "usb" && t.proto == "spooler")

def physicalPdf (t : Transport) : Bool :=
  t.physicalSpooler || t.conn == "ipp" || t.conn == "ipps" ||
    (t.conn == "network" && (t.proto == "ipp" || t.proto == "ipps"))

def physicalImage (t : Transport) : Bool :=
  t.physicalSpooler || (t.conn == "network" && t.proto == "escpos")

def physicalByteProtocol (t : Transport) (protocol : Text) : Bool :=
  if t.physicalSpooler then protocol == "raw" || protocol == "escpos"
  else (t.conn == "network" || t.conn == "usb") && t.proto == protocol && byteProtocols.contains protocol

/-- `proto || "unknown"`. -/
def shown (t : Transport) : Text := if t.proto = [] then "unknown" else t.proto

end Transport

/-- The reading of `supported_protocols`: `none` when the property is missing, an error when it is no
array.  Entries that are no strings are dropped. -/
def supportedProtocols (capabilities : Option (List Json.Field)) : Except Unit (Option (List Text)) :=
  match Json.get? (capabilities.getD []) "supported_protocols" with
  | none => .ok none
  | some (.arr items) => .ok (some (items.filterMap fun
      | .str value => some (trim (toLowerCase value))
      | _ => none))
  | some _ => .error ()

/-- `anyCap`: without an explicit list nothing is listed. -/
def anyCap (supported : Option (List Text)) (names : List Text) : Bool :=
  supported.any fun listed => names.any listed.contains

def notDeclared (label : Text) : Except Text Unit :=
  capabilityMismatch ("This printer is configured for Windows document spooling and has not been declared as "
    ++ label ++ "-capable.")

/-- The table of `validatePayloadForPrinter`; a payload without a protocol has the empty one. -/
def capabilityCheck (pt payloadProto : Text) (t : Transport) (supported : Option (List Text)) : Except Text Unit :=
  if pt = "pdf" then
    if payloadProto ≠ [] then capabilityMismatch "pdf payloads cannot specify a printer protocol"
    else if !t.physicalPdf then capabilityMismatch "pdf requires spooler or IPP transport"
    else .ok ()
  else if pt = "image" then
    if payloadProto ≠ [] then capabilityMismatch "image payloads cannot specify a printer protocol"
    else if !t.physicalImage then capabilityMismatch "image payload not supported by printer"
    else if t.physicalSpooler then .ok ()
    else if supported.isNone || anyCap supported ["image", "jpeg", "escpos"] then .ok ()
    else capabilityMismatch "image payload not supported by printer"
  else if pt = "escpos" then
    if payloadProto ≠ [] ∧ payloadProto ≠ "escpos" then
      capabilityMismatch ("escpos payload cannot use protocol " ++ payloadProto)
    else if t.physicalSpooler then
      if anyCap supported ["escpos"] then .ok () else notDeclared "ESC/POS"
    else if t.physicalByteProtocol "escpos" && (supported.isNone || anyCap supported ["escpos"]) then .ok ()
    else capabilityMismatch
      ("printer does not explicitly support ESC/POS (protocol=" ++ t.shown ++ ")")
  else if pt = "raw" then
    if payloadProto = [] then
      capabilityMismatch
        "raw payloads must declare an explicit protocol (raw, escpos, zpl, or tspl)"
    else if !byteProtocols.contains payloadProto then
      capabilityMismatch ("unsupported raw protocol " ++ payloadProto)
    else if t.physicalSpooler then
      if payloadProto = "escpos" ∧ anyCap supported ["escpos"] then .ok ()
      else if payloadProto = "raw" ∧ anyCap supported ["raw"] then .ok ()
      else notDeclared (if payloadProto = "escpos" then "ESC/POS" else toUpper payloadProto)
    else if t.physicalByteProtocol payloadProto && (supported.isNone || anyCap supported [payloadProto]) then .ok ()
    else capabilityMismatch ("printer does not explicitly support " ++ toUpper payloadProto ++
      " (protocol=" ++ t.shown ++ ")")
  else capabilityMismatch ("unsupported payload type " ++ pt)

/-- `validatePayloadForPrinter`. -/
def validatePayloadForPrinter (payloadInput : Option PayloadSpec) (printer : PrinterSpec) : Except Text Unit :=
  match payloadInput with
  | none => capabilityMismatch "payload is required"
  | some payload =>
    match supportedProtocols printer.capabilities with
    | .error _ => capabilityMismatch "supported_protocols must be an array"
    | .ok supported =>
      capabilityCheck (toLowerCase payload.type) (toLowerCase (payload.protocol.getD []))
        (.ofPrinter printer) supported

end PrintGateway.Gateway
