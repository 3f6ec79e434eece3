import PrintGateway.Model.Text
import PrintGateway.Sql.Expressions

/-!
# Virtual printers

The guard against software and redirected queues, once as `isVirtualPrinterRecord` and once as the SQL condition
`nonVirtualPrinterPredicate` for pages and counts.
-/

namespace PrintGateway.Gateway

open Text

/-! ### Tables -/

/-- `VIRTUAL_CAPABILITY_KEYS`. -/
def virtualCapabilityKeys : List Text :=
  ["virtual", "is_virtual", "virtual_test_sink", "virtual_spooler_test"].map String.toList

/-- `VIRTUAL_CLASSES`. -/
def virtualClasses : List Text := ["virtual", "redirected"].map String.toList

/-- `VIRTUAL_PORT_MONITORS`. -/
def virtualPortMonitors : List Text :=
  ["portprompt:", "xpsport:", "file:", "nul:", "null:", "shrfax:", "fax:", "brfax:"].map String.toList

/-- `SOFTWARE_WRITER_TOKENS`. -/
def softwareWriterTokens : List Text :=
  ["microsoft print to pdf", "microsoft xps document writer", "microsoft shared fax", "pc-fax", "pc fax", "pcfax",
    "fax driver", "fax v.", "send to onenote", "onenote", "document writer", "documentwriter", "print to pdf",
    "topdf", "pdf writer", "pdfwriter", "pdf printer", "pdf creator", "pdf converter", "pdf architect",
    "virtual printer", "software printer", "image printer", "foxit", "anydesk", "cutepdf", "pdf995", "novapdf",
    "bullzip", "pdfcreator", "pdfforge", "doro pdf", "biopdf", "nitro pdf", "adobe pdf", "bluebeam", "tinypdf",
    "7-pdf", "icecream pdf", "pdf24"].map String.toList

/-- `SESSION_REDIRECT_TOKENS`. -/
def sessionRedirectTokens : List Text :=
  ["remote desktop easy print", "terminal services easy print", "ts easy print", "easy print", "citrix",
    "vmware virtual print", "vmware universal printer", "thinprint", "safeguard print"].map String.toList

/-! ### Records -/

/-- `PrinterLike`.  Missing and null fields are `none`; so is a port that is a number, which is not read. -/
structure PrinterLike where
  name : Option Text
  displayName : Option Text
  displayNameSnake : Option Text
  spoolerName : Option Text
  spoolerNameSnake : Option Text
  endpoint : Option Text
  printerType : Option Text
  connectionType : Option Text
  protocol : Option Text
  port : Option Text
  driverName : Option Text
  capabilities : Option Json.Value
  config : Option Json.Value

/-- `lower` of a field. -/
def lower (value : Option Text) : Text := toLowerCase (trim (value.getD []))

/-- `lower` of a JSON value. -/
def lowerValue : Option Json.Value → Text
  | some (.str text) => toLowerCase (trim text)
  | _ => []

/-- `capabilitiesRecord`. -/
def capabilitiesRecord : Option Json.Value → Option (List Json.Field)
  | some (.obj fields) => some fields
  | _ => none

/-- `record?.key`. -/
def property (record : Option (List Json.Field)) (key : Text) : Option Json.Value :=
  record.bind fun fields => Json.get? fields key

/-- `first ?? second`. -/
def nullish (first second : Option Json.Value) : Option Json.Value :=
  match first with
  | none | some .null => second
  | some value => some value

/-- `isVirtualPortMonitor` of a port in lower case. -/
def isVirtualPortMonitor (raw : Text) : Bool :=
  let head := trim (raw.takeWhile (· ≠ ','))
  raw ≠ [] && virtualPortMonitors.any fun monitor => head == monitor || startsWith head monitor

/-- The labels of queues that belong to another session. -/
def isRedirectedName (name : Text) : Bool :=
  contains name "(redirected" || "redirected)".toList.isSuffixOf name ||
    contains name " in session " || " in session".toList.isSuffixOf name ||
    contains name "(from " && contains name "in session"

/-- `vendorFaxName` after `lower`. -/
def isFaxName (text : Text) : Bool :=
  text == "fax" || " fax".toList.isSuffixOf text || "-fax".toList.isSuffixOf text || " (fax)".toList.isSuffixOf text

def hasToken (tokens : List Text) (text : Text) : Bool := tokens.any fun token => contains text token

/-- The entries of an array, or none. -/
def arrayItems : Option Json.Value → List Json.Value
  | some (.arr items) => items
  | _ => []

def driverKeys : List Text := ["driver_name", "driverName", "comment", "device_id", "deviceId"].map String.toList

def hardwareKeys : List Text :=
  ["hardware_ids", "hardwareIds", "compatible_ids", "compatibleIds"].map String.toList

/-- The parts of `identityHaystack`. -/
def haystackParts (caps : Option (List Json.Field)) (printer : PrinterLike) : List Text :=
  ([lower printer.driverName, lower printer.port] ++ driverKeys.map (lowerValue <| property caps ·) ++
    hardwareKeys.flatMap fun key => (arrayItems (property caps key)).map (lowerValue <| some ·)).filter (· ≠ [])

def identityHaystack (caps : Option (List Json.Field)) (printer : PrinterLike) : Text :=
  [' '].intercalate (haystackParts caps printer)

def isSpoolerName (text : Text) : Bool := text = "spooler" ∨ text = "windows_spooler"

/-- The keys whose mere presence marks a test queue. -/
def sinkKeys : List Text := ["virtual_test_sink", "virtual_spooler_test"].map String.toList

/-- `value === true || lower(value) === "true"`. -/
def isTrueValue : Option Json.Value → Bool
  | some (.bool value) => value
  | value => lowerValue value == "true"

def aliasKeys : List Text := ["spooler_name", "spoolerName", "display_name", "displayName"].map String.toList

/-- The labels a queue is known under, in lower case. -/
def labelNames (printer : PrinterLike) : List Text :=
  let config := capabilitiesRecord printer.config
  let caps := capabilitiesRecord printer.capabilities
  let own := [printer.name, printer.displayName, printer.displayNameSnake, printer.spoolerName,
    printer.spoolerNameSnake].map lower ++ aliasKeys.map (lowerValue <| property config ·) ++
      aliasKeys.map (lowerValue <| property caps ·)
  let queue := if isSpoolerName (lower printer.connectionType) ∨ isSpoolerName (lower printer.protocol) then
    [lower printer.endpoint, lowerValue (property config "address")] else []
  (own ++ queue).filter (· ≠ [])

/-- `isVirtualPrinterRecord`. -/
def isVirtualPrinterRecord (printer : PrinterLike) : Bool :=
  let config := capabilitiesRecord printer.config
  let caps := capabilitiesRecord printer.capabilities
  let names := labelNames printer
  let hay := identityHaystack caps printer
  if lower printer.printerType ∈ virtualClasses ∨ lower printer.connectionType = "virtual" ∨
      lower printer.protocol = "virtual" then true
  else if [config, caps].any fun record => sinkKeys.any fun key => (property record key).isSome then true
  else if virtualCapabilityKeys.any fun key => isTrueValue (property caps key) then true
  else if lowerValue (nullish (property caps "printer_class") (property caps "printerClass")) ∈
      virtualClasses then true
  else if isVirtualPortMonitor
      (lowerValue (nullish (property caps "port_name") (property caps "portName"))) then true
  else if names.any isRedirectedName then true
  else if isVirtualPortMonitor (lower printer.port) then true
  else if (names.map (lower <| some ·) ++ [lower printer.driverName, lowerValue (property caps "driver_name"),
      lowerValue (property caps "driverName")]).any isFaxName then true
  else if hasToken softwareWriterTokens hay then true
  else if hasToken sessionRedirectTokens hay then true
  else names.any (hasToken softwareWriterTokens)

/-! ### The SQL condition -/

/-- The columns of `printers` that the guards read. -/
structure GuardRow where
  name : Text
  printerType : Text
  connectionType : Text
  protocol : Text
  config : Option Json.Value
  capabilities : Option Json.Value

/-- A row as `isVirtualPrinterRecord` sees it. -/
def GuardRow.toPrinterLike (row : GuardRow) : PrinterLike where
  name := some row.name
  displayName := none
  displayNameSnake := none
  spoolerName := none
  spoolerNameSnake := none
  endpoint := none
  printerType := some row.printerType
  connectionType := some row.connectionType
  protocol := some row.protocol
  port := none
  driverName := none
  capabilities := row.capabilities
  config := row.config

namespace VirtualSql

def trimChars : List Char :=
  [9, 10, 11, 12, 13, 32, 160, 5760, 8192, 8193, 8194, 8195, 8196, 8197, 8198, 8199, 8200, 8201, 8202, 8232, 8233,
    8239, 8287, 12288, 65279].map Char.ofNat

section

-- `locale` is the lower case of the database.
variable (locale : Char → Char)

def text (value : Option Text) : Option Text :=
  (Sql.coalesce value (some [])).map fun value => Sql.lower locale (Sql.btrim trimChars value)

def object (value : Option Json.Value) : Option Json.Value :=
  Sql.caseWhen (Sql.eq (Sql.typeof value) (some .object)) value (some (.obj []))

def string (value : Option Json.Value) : Option Text :=
  Sql.caseWhen (Sql.eq (Sql.typeof value) (some .string)) (text locale (Sql.content value)) (some [])

def choice (record : Option Json.Value) (first second : Text) : Option Json.Value :=
  Sql.coalesce (Sql.nullifNull (Sql.field record first)) (Sql.field record second)

def patterns (tokens : List Text) : List Text := tokens.map fun token => '%' :: (Sql.escape token ++ ['%'])

def contains (value : Option Text) (tokens : List Text) : Sql.Truth := Sql.likeAny value (patterns tokens)

def hardwareText (record : Option Json.Value) (key : Text) : Option Text :=
  let value := Sql.field record key
  let items := Sql.elements (Sql.caseWhen (Sql.eq (Sql.typeof value) (some .array)) value (some (.arr [])))
  let rows := items.filter fun item => Sql.and (Sql.eq (Sql.typeof (some item)) (some .string))
    (Sql.not (Sql.eq (string locale (some item)) (some []))) = some true
  Sql.coalesce (Sql.stringAgg [' '] (rows.filterMap fun item => string locale (some item))) (some [])

def vendorFax (value : Option Text) : Sql.Truth :=
  Sql.or (Sql.eq value (some "fax"))
    (Sql.likeAny value (["% fax", "%-fax", "% (fax)"].map String.toList))

/-- The condition on an alias. -/
def forbiddenAlias (name : Option Text) : Sql.Truth :=
  let like (pattern : String) : Sql.Truth := name.map (Sql.like pattern.toList)
  Sql.any [like "%(redirected%", like "%redirected)", like "% in session %", like "% in session",
    Sql.and (like "%(from %") (like "%in session%"), vendorFax name, contains name softwareWriterTokens]

/-- `nativeQueue`. -/
def nativeQueue (row : GuardRow) : Sql.Truth :=
  let spoolers := ["spooler", "windows_spooler"].map String.toList
  Sql.or (Sql.among (text locale (some row.connectionType)) spoolers)
    (Sql.among (text locale (some row.protocol)) spoolers)

def aliases (row : GuardRow) : List (Option Text) :=
  [text locale (some row.name)] ++ aliasKeys.map (fun key => string locale (Sql.field (object row.config) key)) ++
    aliasKeys.map (fun key => string locale (Sql.field (object row.capabilities) key)) ++
    [Sql.caseWhen (nativeQueue locale row) (string locale (Sql.field (object row.config) "address")) (some [])]

def hay (caps : Option Json.Value) : Text :=
  let parts := driverKeys.map (fun key => string locale (Sql.field caps key)) ++
    hardwareKeys.map (hardwareText locale caps)
  Sql.concatWs [' '] (parts.map Sql.nullifEmpty)

def virtualPort (caps : Option Json.Value) : Sql.Truth :=
  let port := string locale (choice caps "port_name" "portName")
  let portHead := port.map fun port => Sql.btrim trimChars (Sql.firstPart ',' port)
  Sql.any (virtualPortMonitors.map fun monitor => portHead.map (Sql.like (monitor ++ ['%'])))

/-- The condition on a key of `VIRTUAL_CAPABILITY_KEYS`. -/
def virtualFlag (caps : Option Json.Value) (key : Text) : Sql.Truth :=
  Sql.or (Sql.coalesce (Sql.isTrue (Sql.field caps key)) (some false))
    (Sql.eq (string locale (Sql.field caps key)) (some "true"))

def forbidden (row : GuardRow) : List Sql.Truth :=
  let config := object row.config
  let caps := object row.capabilities
  [Sql.among (text locale (some row.printerType)) virtualClasses,
    Sql.or (Sql.eq (text locale (some row.connectionType)) (some "virtual"))
      (Sql.eq (text locale (some row.protocol)) (some "virtual")),
    Sql.any ([config, caps].flatMap fun record => sinkKeys.map (Sql.hasKey record)),
    Sql.among (string locale (choice caps "printer_class" "printerClass")) virtualClasses,
    virtualPort locale caps,
    some ((aliases locale row).any fun name => forbiddenAlias name = some true),
    vendorFax (string locale (Sql.field caps "driver_name")),
    vendorFax (string locale (Sql.field caps "driverName")),
    contains (some (hay locale caps)) softwareWriterTokens,
    contains (some (hay locale caps)) sessionRedirectTokens] ++ virtualCapabilityKeys.map (virtualFlag locale caps)

def nonVirtualPrinterPredicate (row : GuardRow) : Sql.Truth := Sql.not (Sql.any (forbidden locale row))

end

end VirtualSql

end PrintGateway.Gateway
