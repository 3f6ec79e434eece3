import Mathlib.Data.List.Sort
import PrintGateway.Json.Stream
import PrintGateway.Model.Agent.PrinterBinding

/-!
# The local sharing policy

`printer_sharing.go`: which printers an operator withholds from the Gateway, and the file that keeps
the decision.  Locks, permissions and the atomic replacement of the file are assumed to work: a call they make
fail changes nothing.
-/

namespace PrintGateway.Agent

open Machine Text

/-- `independentlyKnownSpoolerBinding`. -/
def independentlyKnownSpoolerBinding (pc : PrinterConfig) : Bool :=
  let registration := toLower (trimSpace (pc.registrationSource.getD []))
  let verification := toLower (trimSpace (pc.verification.getD []))
  if registration = "manual" ∨ registration = "config" then true
  else if verification = "candidate_only" ∨ verification = "device_detected_only" then false
  else true

def validSharingId (id : Text) : Bool :=
  !id.isEmpty && decide (trimSpace id = id) && decide (id.length ≤ 512) && !id.any isControl

/-- The policy in memory. -/
structure PrinterSharing where
  version : ℤ
  deniedPrinters : Keyed Text Text
  deniedPrinterAliases : Keyed Text (List Text)
  present : Bool
  deriving DecidableEq

def maxPrinterSharingBytes : ℕ := 16 * 1024 * 1024

def maxPrinterSharingAliases : ℕ := 16

/-! ### Decisions -/

namespace PrinterSharing

/-- The digests recorded with the denials and their aliases. -/
def recorded (policy : PrinterSharing) : List Text :=
  policy.deniedPrinters.entries.map Prod.snd ++ policy.deniedPrinterAliases.entries.flatMap Prod.snd

def isDenied (policy : PrinterSharing) (id : Text) : Bool := (policy.deniedPrinters.find? id).isSome

end PrinterSharing

/-- The digest of a binding that has one. -/
def BindingDigest.ok? (bindings : BindingDigest) (pc : PrinterConfig) : Option Text :=
  (bindings.digest pc).toOption

/-- A policy resolved against the printers known now. -/
structure ResolvedPrinterSharing where
  policy : PrinterSharing
  bindings : List Text
  knownSpoolerBindings : List Text
  err : Option Text

/-- The ids that are denied, or whose current binding was recorded with a denial. -/
def PrinterSharing.deniedCurrentIds (policy : PrinterSharing) (bindings : BindingDigest)
    (known : List PrinterConfig) (id : Text) : Bool :=
  policy.isDenied id || known.any fun current =>
    current.id == id && (bindings.ok? current).any fun digest => decide (digest ∈ policy.recorded)

def unresolvedBinding (error : Text) : Text :=
  "cannot resolve a locally denied printer binding: " ++ error

/-- `Resolve`. -/
def PrinterSharing.resolve (policy : PrinterSharing) (bindings : BindingDigest)
    (known : List PrinterConfig) : ResolvedPrinterSharing :=
  let deniedNow := known.filter fun current => policy.deniedCurrentIds bindings known current.id
  { policy
    bindings := policy.recorded ++ deniedNow.filterMap bindings.ok?
    knownSpoolerBindings := (known.filter fun current =>
      decide (current.normalizedType = "spooler".toList) && independentlyKnownSpoolerBinding current).filterMap
        bindings.ok?
    err := deniedNow.findSome? fun current =>
      match bindings.digest current with
      | .ok _ => none
      | .error error => some (unresolvedBinding error) }

/-- `Shared` on a resolved policy. -/
def ResolvedPrinterSharing.shared (view : ResolvedPrinterSharing) (bindings : BindingDigest)
    (pc : PrinterConfig) : Except Text Bool :=
  if view.policy.present = false then .ok true
  else if view.policy.isDenied pc.id then .ok false
  else
    match view.err with
    | some error => .error error
    | none =>
      match bindings.digest pc with
      | .error error => .error error
      | .ok digest =>
        if digest ∈ view.bindings then .ok false
        else if pc.normalizedType = "spooler" ∧ view.policy.deniedPrinters.entries ≠ [] then
          .ok (decide (digest ∈ view.knownSpoolerBindings))
        else .ok true

/-- `Shared`. -/
def PrinterSharing.shared (policy : PrinterSharing) (bindings : BindingDigest) (pc : PrinterConfig)
    (known : List PrinterConfig) : Except Text Bool :=
  (policy.resolve bindings known).shared bindings pc

/-! ### The file -/

open Json Json.Decoder

def expectDelim (c : Char) (error : Text) (d : Decoder) : Except Text Decoder :=
  match d.token with
  | .ok (.delim found, d) => if found = c then .ok d else .error error
  | _ => .error error

/-- One turn of the loop over `deniedPrinters`. -/
def decodeDenied (denied : Keyed Text Text) (d : Decoder) : Except Text (Keyed Text Text × Decoder) :=
  match d.token with
  | .ok (.string id, d) =>
    if validSharingId id = false then .error "invalid sharing printer ID"
    else if (denied.find? id).isSome then .error "duplicate sharing printer ID"
    else
      match d.decodeString with
      | .ok (digest, d) =>
        if validBindingDigest digest then .ok (denied.insert id digest, d)
        else .error "invalid sharing binding digest"
      | .error _ => .error "invalid sharing binding digest"
  | _ => .error "invalid sharing printer ID"

def aliasesError : Text := "invalid, duplicate or excessive sharing aliases"

/-- One turn of the loop over the aliases of a printer. -/
def decodeAliasDigest (aliases : List Text) (d : Decoder) : Except Text (List Text × Decoder) :=
  match d.decodeString with
  | .ok (digest, d) =>
    if validBindingDigest digest = true ∧ digest ∉ aliases ∧ aliases.length < maxPrinterSharingAliases then
      .ok (aliases ++ [digest], d)
    else .error aliasesError
  | .error _ => .error aliasesError

/-- The array of aliases of a printer. -/
def decodeAliasDigests (d : Decoder) : Except Text (List Text × Decoder) := do
  let d ← expectDelim Container.array.opening "sharing aliases must be an array" d
  let (digests, d) ← d.whileMore decodeAliasDigest []
  let d ← expectDelim Container.array.closing "invalid or empty sharing aliases" d
  if digests = [] then .error "invalid or empty sharing aliases" else .ok (digests, d)

/-- One turn of the loop over `deniedPrinterAliases`. -/
def decodeAliases (aliases : Keyed Text (List Text)) (d : Decoder) : Except Text (Keyed Text (List Text) × Decoder) :=
  match d.token with
  | .ok (.string id, d) =>
    if validSharingId id = false then .error "invalid sharing alias anchor"
    else if (aliases.find? id).isSome then .error "duplicate sharing alias anchor"
    else (decodeAliasDigests d).map fun decoded => (aliases.insert id decoded.1, decoded.2)
  | _ => .error "invalid sharing alias anchor"

/-- An object whose entries are decoded one by one. -/
def decodeObject {Entries : Type} (entry : Entries → Decoder → Except Text (Entries × Decoder))
    (openError closeError : Text) (entries : Entries) (d : Decoder) : Except Text (Entries × Decoder) := do
  let d ← expectDelim Container.object.opening openError d
  let (entries, d) ← d.whileMore entry entries
  let d ← expectDelim Container.object.closing closeError d
  .ok (entries, d)

/-- A policy while it is read, with the fields seen so far. -/
structure PolicyFields where
  policy : PrinterSharing
  seen : List Text

/-- One turn of the loop over the fields of the policy. -/
def decodeField (fields : PolicyFields) (d : Decoder) : Except Text (PolicyFields × Decoder) :=
  match d.token with
  | .ok (.string key, d) =>
    if key ∈ fields.seen then .error "invalid or duplicate sharing policy field"
    else if key = "version" then
      match d.decodeInt with
      | .ok (version, d) => .ok (⟨{ fields.policy with version }, key :: fields.seen⟩, d)
      | .error _ => .error "invalid sharing policy version"
    else if key = "deniedPrinters" then
      (decodeObject decodeDenied "deniedPrinters must be an object"
        "invalid deniedPrinters object" fields.policy.deniedPrinters d).map fun decoded =>
          (⟨{ fields.policy with deniedPrinters := decoded.1 }, key :: fields.seen⟩, decoded.2)
    else if key = "deniedPrinterAliases" then
      (decodeObject decodeAliases "deniedPrinterAliases must be an object"
        "invalid deniedPrinterAliases object" fields.policy.deniedPrinterAliases d).map fun decoded =>
          (⟨{ fields.policy with deniedPrinterAliases := decoded.1 }, key :: fields.seen⟩, decoded.2)
    else .error "unknown sharing policy field"
  | _ => .error "invalid or duplicate sharing policy field"

/-- The checks once the whole text is read. -/
def PolicyFields.complete (fields : PolicyFields) : Except Text PrinterSharing :=
  if "version".toList ∉ fields.seen ∨ "deniedPrinters".toList ∉ fields.seen ∨ fields.policy.version ≠ 1 then
    .error "unsupported or incomplete sharing policy"
  else if fields.policy.deniedPrinterAliases.entries.all fun entry => fields.policy.isDenied entry.1 then
    .ok fields.policy
  else .error "sharing alias has no denied stable printer anchor"

def decodePrinterSharing (text : Text) : Except Text PrinterSharing := do
  let (fields, d) ← decodeObject decodeField "sharing policy must be an object"
    "invalid sharing policy object" ⟨⟨0, .empty, .empty, true⟩, []⟩ (Decoder.start text)
  match d.token with
  | .error .eof => fields.complete
  | _ => .error "trailing sharing policy data"

/-- `json.Marshal` of a map: its entries in the order of their keys. -/
def marshalMap {Value : Type} (marshal : Value → Text) (table : Keyed Text Value) : Text :=
  Container.object.opening :: (elements true ((table.entries.insertionSort fun a b => a.1 ≤ b.1).map fun entry =>
      quoteHtml entry.1 ++ ':' :: marshal entry.2) ++ [Container.object.closing])

def marshalTexts (texts : List Text) : Text :=
  Container.array.opening :: (elements true (texts.map quoteHtml) ++ [Container.array.closing])

def marshalInt (n : ℤ) : Text := if n < 0 then '-' :: digits n.natAbs else digits n.natAbs

/-- `json.Marshal` of a policy; an empty map of aliases is left out. -/
def marshalPrinterSharing (policy : PrinterSharing) : Text :=
  Container.object.opening :: (elements true
      ([quoteHtml "version" ++ ':' :: marshalInt policy.version,
        quoteHtml "deniedPrinters" ++ ':' :: marshalMap quoteHtml policy.deniedPrinters] ++
        if policy.deniedPrinterAliases.entries = [] then []
        else [quoteHtml "deniedPrinterAliases" ++ ':' :: marshalMap marshalTexts policy.deniedPrinterAliases]) ++
      [Container.object.closing])

/-- The policy file; `unreadable` stands for everything that is no bounded regular file of valid
UTF-8. -/
inductive SharingFile
  | absent
  | unreadable (error : Text)
  | content (data : Text)
  deriving DecidableEq, Repr

/-- `LoadPrinterSharing`. -/
def loadPrinterSharing : SharingFile → Except Text PrinterSharing
  | .absent => .ok ⟨1, .empty, .empty, false⟩
  | .unreadable error => .error error
  | .content data =>
    if maxPrinterSharingBytes < byteSize data then
      .error "local sharing policy is not a bounded regular file"
    else
      (decodePrinterSharing data).mapError fun error =>
        "parse local sharing policy: " ++ error

/-! ### Changing the policy -/

namespace PrinterSharing

/-- Delete a printer and its aliases. -/
def remove (policy : PrinterSharing) (id : Text) : PrinterSharing :=
  { policy with
    deniedPrinters := policy.deniedPrinters.filter fun other _ => other != id
    deniedPrinterAliases := policy.deniedPrinterAliases.filter fun other _ => other != id }

/-- Delete every printer whose denial recorded the digest. -/
def removeRecorded (policy : PrinterSharing) (digest : Text) : PrinterSharing :=
  { policy with
    deniedPrinters := policy.deniedPrinters.filter fun _ recorded => recorded != digest
    deniedPrinterAliases := policy.deniedPrinterAliases.filter fun id _ =>
      policy.deniedPrinters.find? id != some digest }

/-- Delete the printer of a known row whose current binding has the digest. -/
def removeCurrent (bindings : BindingDigest) (digest : Text) (policy : PrinterSharing)
    (current : PrinterConfig) : Except Text PrinterSharing :=
  if policy.isDenied current.id then
    match bindings.digest current with
    | .ok currentDigest =>
      if digest = currentDigest then .ok (policy.remove current.id) else .ok policy
    | .error error => .error (unresolvedBinding error)
  else .ok policy

/-- Take back the denial of the selected printer. -/
def share (policy : PrinterSharing) (bindings : BindingDigest) (selected : PrinterConfig)
    (digest : Text) (known : List PrinterConfig) : Except Text PrinterSharing :=
  known.foldlM (removeCurrent bindings digest) ((policy.remove selected.id).removeRecorded digest)

/-- Record the binding of a known row as an alias of the selected printer. -/
def addAlias (bindings : BindingDigest) (selected : PrinterConfig) (digest : Text) (aliases : List Text)
    (current : PrinterConfig) : Except Text (List Text) :=
  if current.id ≠ selected.id ∨ current.verifiedSpoolerSharingAlias = false then .ok aliases
  else
    match bindings.digest current with
    | .error error => .error ("invalid verified native share binding: " ++ error)
    | .ok aliasDigest =>
      if aliasDigest ≠ digest ∧ aliasDigest ∉ aliases then
        if maxPrinterSharingAliases ≤ aliases.length then
          .error "too many verified native sharing aliases"
        else .ok (aliases ++ [aliasDigest])
      else .ok aliases

/-- Record a denial with its binding and its aliases. -/
def record (policy : PrinterSharing) (id digest : Text) (aliases : List Text) : PrinterSharing :=
  { policy with
    deniedPrinters := policy.deniedPrinters.put id digest
    deniedPrinterAliases :=
      if aliases = [] then policy.deniedPrinterAliases else policy.deniedPrinterAliases.put id aliases }

/-- Deny the selected printer. -/
def deny (policy : PrinterSharing) (bindings : BindingDigest) (selected : PrinterConfig)
    (digest : Text) (known : List PrinterConfig) : Except Text PrinterSharing :=
  (known.foldlM (addAlias bindings selected digest)
    ((policy.deniedPrinterAliases.find? selected.id).getD [])).map (policy.record selected.id digest)

end PrinterSharing

def remainsDenied : Text :=
  "selected alias remains denied; select its stable local queue or provide current native " ++ "binding evidence"

/-- The policy to write: a sharing has to take effect under it. -/
def changedPolicy (bindings : BindingDigest) (policy : PrinterSharing) (selected : PrinterConfig)
    (digest : Text) (known : List PrinterConfig) (shared : Bool) : Except Text PrinterSharing :=
  if shared then do
    let policy ← policy.share bindings selected digest known
    let policy := { policy with present := true }
    let allowed ← policy.shared bindings selected known
    if allowed then .ok policy else .error remainsDenied
  else policy.deny bindings selected digest known

/-- What a successful call wrote. -/
structure WrittenPolicy where
  policy : PrinterSharing
  data : Text
  deriving DecidableEq

/-- `SetPrinterSharing`. -/
def setPrinterSharing (bindings : BindingDigest) (file : SharingFile) (selected : PrinterConfig)
    (known : List PrinterConfig) (shared : Bool) : Except Text WrittenPolicy :=
  if validSharingId selected.id = false then .error "invalid local printer ID".toList
  else do
    let digest ← bindings.digest selected
    let policy ← loadPrinterSharing file
    let policy ← changedPolicy bindings policy selected digest known shared
    if maxPrinterSharingBytes < byteSize (marshalPrinterSharing policy) then
      .error "local sharing policy exceeds its size limit"
    else .ok ⟨policy, marshalPrinterSharing policy⟩

end PrintGateway.Agent
