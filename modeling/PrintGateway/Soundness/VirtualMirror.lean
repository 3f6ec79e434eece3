import PrintGateway.Model.Agent.Device
import PrintGateway.Soundness.VirtualPrinter

/-!
# What the Gateway sees of a virtual device

The Agent and the Gateway keep the same tables, but the Agent reads more of a device.  A device that the Agent
takes for virtual is virtual for the Gateway exactly when each sign that only the Agent reads comes with one that
the Gateway reads as well.
-/

namespace PrintGateway.Agent

open Machine Text
open Gateway (lowerChar toLowerCase_eq lower lowerValue contains_iff)

/-! ### Lower case -/

section Lower

variable {f : Char → Char} {text before marker after : Text}

/-- A marker in a text that was lowered character by character is in its lower case. -/
theorem toLowerCase_split (each : ∀ c, f c ∈ marker → lowerChar c = [f c])
    (split : text.map f = before ++ marker ++ after) : ∃ first last, first.map f = before ∧ last.map f = after ∧
      toLowerCase text = toLowerCase first ++ marker ++ toLowerCase last := by
  rw [List.map_eq_append_iff] at split
  obtain ⟨front, last, rfl, isFront, isLast⟩ := split
  rw [List.map_eq_append_iff] at isFront
  obtain ⟨first, middle, rfl, isFirst, rfl⟩ := isFront
  refine ⟨first, last, isFirst, isLast, ?_⟩
  rw [toLowerCase_eq, toLowerCase_eq, toLowerCase_eq, List.flatMap_append, List.flatMap_append]
  congr 2
  rw [List.flatMap_congr fun c member => each c (List.mem_map_of_mem member), List.map_eq_flatMap]

theorem lowerChar_of_toLower {c : Char} (small : c.toLower.toNat < 128) : lowerChar c = [c.toLower] := by
  have ascii : c.toNat < 128 := by
    by_contra large
    rw [Codec.toLower_of_not_ascii large] at small
    exact large small
  rw [lowerChar, if_neg (by omega), if_neg (by omega)]

/-- The lower case of Go, one character at a time. -/
def goLowerChar (c : Char) : Char := if c.toNat = 304 then 'i' else if c.toNat = 8490 then 'k' else c.toLower

theorem lowerChar_of_goLowerChar {c : Char} (small : (goLowerChar c).toNat < 128) (noI : goLowerChar c ≠ 'i')
    (noK : goLowerChar c ≠ 'k') : lowerChar c = [goLowerChar c] := by
  unfold goLowerChar at small noI noK ⊢
  split at small
  · next dotted => exact absurd (if_pos dotted) noI
  · next noDot =>
    rw [if_neg noDot] at noI noK ⊢
    split at small
    · next kelvin => exact absurd (if_pos kelvin) noK
    · next noKelvin =>
      rw [if_neg noKelvin]
      exact lowerChar_of_toLower small

theorem infix_toLowerCase (ascii : ∀ c ∈ marker, c.toNat < 128) (found : marker <:+: text.map Char.toLower) :
    marker <:+: toLowerCase text := by
  obtain ⟨before, after, split⟩ := found
  obtain ⟨first, last, -, -, same⟩ :=
    toLowerCase_split (fun c member => lowerChar_of_toLower (ascii _ member)) split.symm
  exact ⟨_, _, same.symm⟩

theorem suffix_toLowerCase (each : ∀ c, f c ∈ marker → lowerChar c = [f c]) (found : marker <:+ text.map f) :
    marker <:+ toLowerCase text := by
  obtain ⟨before, split⟩ := found
  rw [← List.append_nil (before ++ marker)] at split
  obtain ⟨first, last, -, isLast, same⟩ := toLowerCase_split each split.symm
  obtain rfl := List.map_eq_nil_iff.mp isLast
  rw [same, show toLowerCase [] = [] from rfl, List.append_nil]
  exact List.suffix_append _ _

end Lower

/-! ### Borders -/

section Borders

variable {drop : Char → Bool} {text part : Text}

theorem suffix_dropWhile (found : part <:+ text) (starts : part.head?.any drop = false) :
    part <:+ text.dropWhile drop := by
  obtain ⟨before, rfl⟩ := found
  cases part with
  | nil => exact List.nil_suffix
  | cons c part =>
    induction before with
    | nil =>
      rw [List.nil_append, List.dropWhile_cons_of_neg (by simpa using starts)]
    | cons d before ih =>
      rw [List.cons_append]
      cases dropped : drop d with
      | true => rw [List.dropWhile_cons_of_pos dropped]; exact ih
      | false =>
        rw [List.dropWhile_cons_of_neg (by simp [dropped])]
        exact List.suffix_append (d :: before) _

theorem infix_dropWhile (found : part <:+: text) (starts : part.head?.any drop = false) :
    part <:+: text.dropWhile drop := by
  obtain ⟨before, after, rfl⟩ := found
  cases part with
  | nil => exact List.nil_infix
  | cons c part =>
    rw [List.append_assoc]
    have kept : c :: part ++ after <:+ (before ++ (c :: part ++ after)).dropWhile drop :=
      suffix_dropWhile (List.suffix_append _ _) starts
    exact (List.prefix_append _ _).isInfix.trans kept.isInfix

/-- A part that starts and ends with characters that stay is still there when the borders are dropped. -/
theorem infix_stripBy (found : part <:+: text) (starts : part.head?.any drop = false)
    (ends : part.getLast?.any drop = false) : part <:+: stripBy drop text := by
  have left := infix_dropWhile found starts
  rw [stripBy, ← List.reverse_infix, List.reverse_reverse]
  exact infix_dropWhile (List.reverse_infix.mpr left) (by rwa [List.head?_reverse])

theorem prefix_stripBy (found : part <+: text) (starts : part.head?.any drop = false)
    (ends : part.getLast?.any drop = false) : part <+: stripBy drop text := by
  obtain ⟨after, rfl⟩ := found
  cases part with
  | nil => exact List.nil_prefix
  | cons c part =>
    rw [stripBy, List.cons_append, List.dropWhile_cons_of_neg (by simpa using starts), ← List.cons_append,
      ← List.reverse_suffix, List.reverse_reverse, List.reverse_append]
    exact suffix_dropWhile (List.suffix_append _ _) (by rwa [List.head?_reverse])

theorem prefix_of_stripBy (found : part <+: stripBy drop text) :
    ∃ before after, text = before ++ part ++ after ∧ ∀ c ∈ before, drop c = true := by
  have whole : stripBy drop text <+: text.dropWhile drop :=
    List.reverse_suffix.mp (by rw [stripBy, List.reverse_reverse]; exact List.dropWhile_suffix _)
  obtain ⟨after, split⟩ := found.trans whole
  refine ⟨text.takeWhile drop, after, ?_, fun c member => List.mem_takeWhile_imp member⟩
  rw [List.append_assoc, split, List.takeWhile_append_dropWhile]

end Borders

/-! ### Markers -/

variable {label : Text}

/-- ASCII that neither starts nor ends with white space. -/
def IsSolid (marker : Text) : Prop :=
  (∀ c ∈ marker, c.toNat < 128) ∧ marker.head?.any isTrimmed = false ∧ marker.getLast?.any isTrimmed = false

instance (marker : Text) : Decidable (IsSolid marker) := inferInstanceAs (Decidable (_ ∧ _))

/-- A solid marker that the Agent finds in a text, the Gateway finds as well. -/
theorem contains_lower {marker text : Text} (solid : IsSolid marker)
    (found : contains (spoolerToLowerTrim text) marker = true) : contains (lower (some text)) marker = true := by
  rw [contains_iff] at found ⊢
  have inside : stripBy isBlank text <:+: text := by
    have left := List.dropWhile_suffix (l := text) isBlank
    have right : stripBy isBlank text <+: text.dropWhile isBlank :=
      List.reverse_suffix.mp (by rw [stripBy, List.reverse_reverse]; exact List.dropWhile_suffix _)
    exact right.isInfix.trans left.isInfix
  have lowered : marker <:+: toLowerCase text := by
    obtain ⟨before, after, split⟩ := inside
    refine (infix_toLowerCase solid.1 found).trans ⟨toLowerCase before, toLowerCase after, ?_⟩
    rw [toLowerCase_eq, toLowerCase_eq, toLowerCase_eq, ← List.flatMap_append, ← List.flatMap_append, split,
      toLowerCase_eq]
  change marker <:+: toLowerCase (trim text)
  rw [← Gateway.trim_toLowerCase]
  exact infix_stripBy lowered solid.2.1 solid.2.2

/-- The Agent and the Gateway drop the same white space around a text. -/
def PlainBorders (text : Text) : Prop := stripBy isBlank text = trim text ∧ trimSpace text = trim text

instance (text : Text) : Decidable (PlainBorders text) := inferInstanceAs (Decidable (_ ∧ _))

theorem isRedirectedName_lower (plain : PlainBorders label) (found : isRedirectedLabel label = true) :
    Gateway.isRedirectedName (lower (some label)) = true := by
  have inner : ∀ {marker : Text}, (∀ c ∈ marker, c.toNat < 128) →
      contains ((trim label).map Char.toLower) marker = true →
      contains (toLowerCase (trim label)) marker = true := by
    intro marker ascii found
    rw [contains_iff] at found ⊢
    exact infix_toLowerCase ascii found
  change Gateway.isRedirectedName (toLowerCase (trim label)) = true
  simp only [isRedirectedLabel, spoolerToLowerTrim, plain.1, Bool.or_eq_true, Bool.and_eq_true] at found
  simp only [Gateway.isRedirectedName, Bool.or_eq_true, Bool.and_eq_true]
  obtain ((opened | closed) | middle) | ⟨source, session⟩ := found
  · exact .inl (.inl (.inl (.inl (inner (by decide) opened))))
  · rw [List.isSuffixOf_iff_suffix] at closed
    refine .inl (.inl (.inl (.inr (List.isSuffixOf_iff_suffix.mpr (suffix_toLowerCase (fun c member => ?_) closed)))))
    have ascii : ∀ c ∈ "redirected)".toList, c.toNat < 128 := by decide
    exact lowerChar_of_toLower (ascii _ member)
  · exact .inl (.inl (.inr (inner (by decide) middle)))
  · exact .inr ⟨inner (by decide) source, inner (by decide) session⟩

theorem isFaxName_lower (plain : PlainBorders label) (found : isFaxLabel label = true) :
    Gateway.isFaxName (lower (some label)) = true := by
  have each : ∀ ending ∈ [" fax".toList, "-fax".toList, " (fax)".toList, "fax".toList], ∀ c,
      goLowerChar c ∈ ending → lowerChar c = [goLowerChar c] := by
    have letters : ∀ ending ∈ [" fax".toList, "-fax".toList, " (fax)".toList, "fax".toList], ∀ c ∈ ending,
        c.toNat < 128 ∧ c ≠ 'i' ∧ c ≠ 'k' := by decide
    intro ending listed c member
    obtain ⟨small, noI, noK⟩ := letters ending listed _ member
    exact lowerChar_of_goLowerChar small noI noK
  have ends : ∀ ending ∈ [" fax".toList, "-fax".toList, " (fax)".toList, "fax".toList],
      ending.isSuffixOf ((trim label).map goLowerChar) = true →
      ending.isSuffixOf (toLowerCase (trim label)) = true := by
    intro ending listed found
    rw [List.isSuffixOf_iff_suffix] at found ⊢
    exact suffix_toLowerCase (each ending listed) found
  change Gateway.isFaxName (toLowerCase (trim label)) = true
  have lowered : toLower (trimSpace label) = (trim label).map goLowerChar := by rw [plain.2]; rfl
  simp only [isFaxLabel, lowered, Bool.or_eq_true] at found
  simp only [Gateway.isFaxName, Bool.or_eq_true]
  obtain ((whole | blank) | dash) | closed := found
  · have split : (trim label).map goLowerChar = [] ++ "fax".toList ++ [] := by simpa using whole
    obtain ⟨first, last, isFirst, isLast, same⟩ := toLowerCase_split (each "fax".toList (by decide)) split
    obtain rfl := List.map_eq_nil_iff.mp isFirst
    obtain rfl := List.map_eq_nil_iff.mp isLast
    exact .inl (.inl (.inl (by rw [same]; rfl)))
  · exact .inl (.inl (.inr (ends _ (by decide) blank)))
  · exact .inl (.inr (ends _ (by decide) dash))
  · exact .inr (ends _ (by decide) closed)

/-! ### Ports -/

theorem isVirtualPortMonitor_lower {port : Text} (found : portKind port = .virtual) :
    Gateway.isVirtualPortMonitor (lower (some port)) = true := by
  obtain ⟨monitor, listed, starts⟩ : ∃ monitor ∈ virtualPortMonitors, monitor <+: portHead port := by
    unfold portKind at found
    split at found
    · cases found
    · split at found
      · next listed =>
        obtain ⟨monitor, listed, starts⟩ := List.any_eq_true.mp listed
        exact ⟨monitor, listed, List.isPrefixOf_iff_prefix.mp starts⟩
      · cases found
  have solid : ∀ monitor ∈ virtualPortMonitors, monitor ∈ Gateway.virtualPortMonitors ∧ IsSolid monitor ∧
      ∀ c ∈ monitor, c ≠ ',' := by decide +kernel
  obtain ⟨mirrored, ⟨ascii, head, last⟩, noComma⟩ := solid monitor listed
  obtain ⟨rest, split⟩ := starts
  obtain ⟨part, kept, isSplit, rfl, -⟩ := List.map_eq_append_iff.mp split.symm
  obtain ⟨before, after, isHead, blank⟩ := prefix_of_stripBy ⟨kept, isSplit.symm⟩
  have white : ∀ c ∈ toLowerCase before, isTrimmed c = true := by
    intro c member
    rw [toLowerCase_eq, List.mem_flatMap] at member
    obtain ⟨d, isBefore, member⟩ := member
    have small := blank d isBefore
    simp only [isBlank, Bool.or_eq_true, beq_iff_eq] at small
    rw [Gateway.isTrimmed_of_mem_lowerChar member]
    obtain ((rfl | rfl) | rfl) | rfl := small <;> rfl
  have lowered : toLowerCase part = part.map Char.toLower := by
    rw [toLowerCase_eq, List.map_eq_flatMap]
    exact List.flatMap_congr fun c member => lowerChar_of_toLower (ascii _ (List.mem_map_of_mem member))
  obtain ⟨tail, raw⟩ : part.map Char.toLower <+: lower (some port) := by
    change _ <+: toLowerCase (trim port)
    rw [← Gateway.trim_toLowerCase, ← List.takeWhile_append_dropWhile (p := (· ≠ ',')) (l := port), isHead,
      toLowerCase_eq, List.flatMap_append, List.flatMap_append, List.flatMap_append, ← toLowerCase_eq,
      ← toLowerCase_eq part, lowered, List.append_assoc, List.append_assoc, trim, stripBy,
      List.dropWhile_append_of_pos white]
    exact prefix_stripBy (List.prefix_append _ _) head last
  rw [Gateway.VirtualSql.isVirtualPortMonitor_eq, List.any_eq_true]
  refine ⟨_, mirrored, List.isPrefixOf_iff_prefix.mpr (prefix_stripBy ?_ head last)⟩
  rw [← raw, List.takeWhile_append_of_pos (by simpa using noComma)]
  exact List.prefix_append _ _

/-! ### Signs -/

/-- The printer record with the names, the connection and the capabilities of a device. -/
def Device.record (d : Device) : Gateway.PrinterLike where
  name := some d.name
  displayName := none
  displayNameSnake := none
  spoolerName := some d.spoolerName
  spoolerNameSnake := none
  endpoint := none
  printerType := none
  connectionType := some d.connectionType
  protocol := some d.protocol
  port := none
  driverName := none
  capabilities := some (.obj d.capabilities.entries)
  config := none

/-- The labels of the record. -/
def Device.recordLabels (d : Device) : List Text :=
  [lower (some d.name), lower (some d.spoolerName)] ++
    Gateway.aliasKeys.map fun key => lowerValue (d.capabilities.find? key)

/-- The texts of the record that name its driver and its hardware. -/
def Device.recordParts (d : Device) : List Text :=
  Gateway.driverKeys.map (fun key => lowerValue (d.capabilities.find? key)) ++ Gateway.hardwareKeys.flatMap fun key =>
    (Gateway.arrayItems (d.capabilities.find? key)).map (lowerValue <| some ·)

/-- The signs of a virtual queue that the Gateway reads. -/
inductive GatewaySign (d : Device) : Prop
  | connection (named : lower (some d.connectionType) = "virtual")
  | protocol (named : lower (some d.protocol) = "virtual")
  | sink {key : Text} (listed : key ∈ Gateway.sinkKeys) (present : (d.capabilities.find? key).isSome = true)
  | flag {key : Text} (listed : key ∈ Gateway.virtualCapabilityKeys)
      (set : Gateway.isTrueValue (d.capabilities.find? key) = true)
  | printerClass (listed : lowerValue (Gateway.nullish (d.capabilities.find? "printer_class")
      (d.capabilities.find? "printerClass")) ∈ Gateway.virtualClasses)
  | port (monitor : Gateway.isVirtualPortMonitor (lowerValue (Gateway.nullish
      (d.capabilities.find? "port_name") (d.capabilities.find? "portName"))) = true)
  | label {label : Text} (listed : label ∈ d.recordLabels) (marked : Gateway.isRedirectedName label = true ∨
      Gateway.isFaxName label = true ∨ Gateway.hasToken Gateway.softwareWriterTokens label = true)
  | driver {key : Text} (listed : key ∈ ["driver_name".toList, "driverName"])
      (fax : Gateway.isFaxName (lowerValue (d.capabilities.find? key)) = true)
  | haystack {token : Text} (listed : token ∈ Gateway.softwareWriterTokens ++ Gateway.sessionRedirectTokens)
      (found : contains ([' '].intercalate (d.recordParts.filter (· ≠ []))) token = true)

theorem property_record (d : Device) (key : Text) :
    Gateway.property (Gateway.capabilitiesRecord d.record.capabilities) key = d.capabilities.find? key := by
  change Json.get? d.capabilities.entries key = _
  cases found : d.capabilities.find? key with
  | none =>
    cases got : Json.get? d.capabilities.entries key with
    | none => rfl
    | some value =>
      rw [Keyed.find?_eq_some_iff.mpr (Json.mem_of_get? got)] at found
      cases found
  | some value =>
    have member := Keyed.find?_eq_some_iff.mp found
    obtain ⟨value', got⟩ := Json.exists_get?_of_mem (List.mem_map_of_mem member)
    rw [got, ← found, Keyed.find?_eq_some_iff.mpr (Json.mem_of_get? got)]

theorem any_labelNames_record (d : Device) {p : Text → Bool} (empty : p [] = false) :
    (Gateway.labelNames d.record).any p = true ↔ ∃ label ∈ d.recordLabels, p label = true := by
  have nonempty : (fun name => decide (name ≠ []) && p name) = p := by
    funext name
    cases name with
    | nil => simp [empty]
    | cons c name => simp
  have known : ∀ key, Gateway.property (Gateway.capabilitiesRecord (some (.obj d.capabilities.entries))) key =
    d.capabilities.find? key := property_record d
  have unknown : ∀ key, lowerValue (Gateway.property (Gateway.capabilitiesRecord none) key) = [] := fun _ => rfl
  rw [← List.any_eq_true, Gateway.labelNames, List.any_filter, nonempty]
  simp only [Device.record, Device.recordLabels, known, unknown, List.any_append, List.map_cons, List.map_nil,
    List.any_cons, List.any_nil, show lower none = [] from rfl, empty, Bool.or_false, Bool.false_or]
  split
  · simp [empty]
  · simp [empty]

theorem identityHaystack_record (d : Device) :
    Gateway.identityHaystack (Gateway.capabilitiesRecord d.record.capabilities) d.record =
      [' '].intercalate (d.recordParts.filter (· ≠ [])) := by
  rw [Gateway.identityHaystack, Gateway.haystackParts, List.append_assoc, List.filter_append]
  simp only [property_record]
  rfl

theorem hasToken_iff {tokens : List Text} {text : Text} :
    Gateway.hasToken tokens text = true ↔ ∃ token ∈ tokens, contains text token = true := by
  rw [Gateway.hasToken, List.any_eq_true]

theorem gatewaySign_iff (d : Device) : GatewaySign d ↔ Gateway.isVirtualPrinterRecord d.record = true := by
  have noClass : lower d.record.printerType ∉ Gateway.virtualClasses := show lower none ∉ _ by decide
  have noPort : Gateway.isVirtualPortMonitor (lower d.record.port) = false :=
    show Gateway.isVirtualPortMonitor (lower none) = false by decide
  have noDriver : Gateway.isFaxName (lower d.record.driverName) = false :=
    show Gateway.isFaxName (lower none) = false by decide
  have noConfig : (Gateway.sinkKeys.any fun key =>
      (Gateway.property (Gateway.capabilitiesRecord d.record.config) key).isSome) = false :=
    show (Gateway.sinkKeys.any fun _ => false) = false by decide
  rw [Gateway.isVirtualPrinterRecord_iff, identityHaystack_record]
  simp only [property_record, any_labelNames_record d (p := Gateway.isRedirectedName) (by decide),
    any_labelNames_record d (p := Gateway.isFaxName) (by decide),
    any_labelNames_record d (p := Gateway.hasToken Gateway.softwareWriterTokens) (by decide +kernel),
    List.any_cons, List.any_nil, Bool.or_false, noConfig, noClass, noPort, noDriver, Bool.false_or, false_or,
    Bool.false_eq_true, List.any_eq_true, hasToken_iff]
  constructor
  · intro sign
    cases sign with
    | connection named => exact .inl (.inl named)
    | protocol named => exact .inl (.inr named)
    | sink listed present => exact .inr (.inl ⟨_, listed, present⟩)
    | flag listed set => exact .inr (.inr (.inl ⟨_, listed, set⟩))
    | printerClass listed => exact .inr (.inr (.inr (.inl listed)))
    | port monitor => exact .inr (.inr (.inr (.inr (.inl monitor))))
    | label listed marked =>
      iterate 5 right
      obtain redirected | fax | token := marked
      · exact .inl ⟨_, listed, redirected⟩
      · exact .inr (.inl (.inl ⟨_, listed, fax⟩))
      · exact .inr (.inr (.inr (.inr ⟨_, listed, hasToken_iff.mp token⟩)))
    | driver listed fax =>
      iterate 6 right
      obtain rfl | rfl := List.mem_pair.mp listed
      · exact .inl (.inr (.inl fax))
      · exact .inl (.inr (.inr fax))
    | haystack listed found =>
      iterate 7 right
      obtain writer | session := List.mem_append.mp listed
      · exact .inl ⟨_, writer, found⟩
      · exact .inr (.inl ⟨_, session, found⟩)
  · rintro ((named | named) | ⟨key, listed, present⟩ | ⟨key, listed, set⟩ | listed | monitor |
      ⟨label, listed, marked⟩ | (⟨label, listed, marked⟩ | fax | fax) | ⟨token, listed, found⟩ |
      ⟨token, listed, found⟩ | ⟨label, listed, marked⟩)
    · exact .connection named
    · exact .protocol named
    · exact .sink listed present
    · exact .flag listed set
    · exact .printerClass listed
    · exact .port monitor
    · exact .label listed (.inl marked)
    · exact .label listed (.inr (.inl marked))
    · exact .driver (List.mem_pair.mpr (.inl rfl)) fax
    · exact .driver (List.mem_pair.mpr (.inr rfl)) fax
    · exact .haystack (List.mem_append_left _ listed) found
    · exact .haystack (List.mem_append_right _ listed) found
    · exact .label listed (.inr (.inr (hasToken_iff.mpr marked)))

/-! ### What only the Agent reads -/

/-- The labels of a device that its record lacks. -/
def Device.hiddenLabels (d : Device) : List Text :=
  d.displayName :: if d.spoolerName = [] ∧ isSpoolerDevice d then [d.endpoint] else []

/-- The label of a virtual queue. -/
def isMarkedLabel (label : Text) : Bool :=
  isRedirectedLabel label || isFaxLabel label || hasToken softwareWriterTokens (spoolerToLowerTrim label)

/-- The strings that name the driver and the hardware. -/
def Device.textParts (d : Device) : List Text :=
  let texts := ["hardware_ids", "compatible_ids"].flatMap fun key =>
    (Gateway.arrayItems (d.capabilities.find? key.toList)).filterMap fun
      | .str text => some text
      | _ => none
  ["driver_name", "device_id", "comment"].filterMap d.capText? ++ texts

def identityTokens : List Text := softwareWriterTokens ++ sessionRedirectTokens

/-- The signs of a virtual queue that the Gateway does not read. -/
inductive AgentOnly (env : DeviceEnv) (d : Device) : Prop
  | declared (listed : toLower (trimSpace d.printerType) ∈ ["virtual".toList, "redirected"])
  | flagged (flag : d.isVirtual = true)
  | sessionPort (session : isSessionPort (capString env d "port_name") = true)
  | hiddenLabel {label : Text} (hidden : label ∈ d.hiddenLabels) (marked : isMarkedLabel label = true)
  | border {label : Text} (listed : label ∈ [d.name, d.spoolerName]) (odd : ¬PlainBorders label)
      (marked : isRedirectedLabel label = true ∨ isFaxLabel label = true)
  | faxDriver (odd : ∀ text, d.capText? "driver_name" = some text → ¬PlainBorders text)
      (fax : isFaxLabel (capString env d "driver_name") = true)
  | port (noText : d.capText? "port_name" = none) (virtual : portKind (capString env d "port_name") = .virtual)
  | scattered {token : Text} (listed : token ∈ identityTokens)
      (found : contains (identityHaystack (factsFromDevice env d)) token = true)
      (nowhere : ∀ part ∈ d.textParts, hasToken identityTokens (spoolerToLowerTrim part) = false)

theorem evidence_iff (f : DeviceFacts) : redirectedEvidence f = true ∨ virtualEvidence f = true ↔
    (∃ label ∈ f.labels, isMarkedLabel label = true) ∨ isSessionPort f.portName = true ∨
      isFaxLabel f.driverName = true ∨ portKind f.portName = .virtual ∨
      ∃ token ∈ identityTokens, contains (identityHaystack f) token = true := by
  have marked : (∃ label ∈ f.labels, isMarkedLabel label = true) ↔
      f.labels.any isRedirectedLabel = true ∨ f.labels.any isFaxLabel = true ∨
        f.labels.any (fun label => hasToken softwareWriterTokens (spoolerToLowerTrim label)) = true := by
    simp only [isMarkedLabel, List.any_eq_true, Bool.or_eq_true, and_or_left, exists_or, or_assoc]
  have tokens : (∃ token ∈ identityTokens, contains (identityHaystack f) token = true) ↔
      hasToken softwareWriterTokens (identityHaystack f) = true ∨
        hasToken sessionRedirectTokens (identityHaystack f) = true := by
    simp only [identityTokens, hasToken, List.any_eq_true, List.mem_append, or_and_right, exists_or]
  have regroup : ∀ {a b c d e f g h : Prop}, ((a ∨ b) ∨ c) ∨ (((d ∨ e) ∨ f) ∨ g) ∨ h ↔
      (a ∨ e ∨ h) ∨ b ∨ d ∨ f ∨ g ∨ c := by grind
  rw [marked, tokens, redirectedEvidence, virtualEvidence, vendorFaxQueue]
  simp only [Bool.or_eq_true, beq_iff_eq]
  exact regroup

theorem classifyDevice_iff (f : DeviceFacts) : classifyDevice f = .virtual ∨ classifyDevice f = .redirected ↔
    redirectedEvidence f = true ∨ virtualEvidence f = true := by
  unfold classifyDevice
  cases redirectedEvidence f with
  | true => simp
  | false =>
    cases virtualEvidence f with
    | true => simp
    | false =>
      simp only [Bool.false_eq_true, if_false, or_false, iff_false, not_or]
      split <;> decide

section

variable {env : DeviceEnv} {d : Device} {label token : Text}

/-- All signs of a virtual device. -/
theorem classifyDeviceInfo_iff : classifyDeviceInfo env d = .virtual ∨ classifyDeviceInfo env d = .redirected ↔
      toLower (trimSpace d.printerType) ∈ ["virtual".toList, "redirected"] ∨ d.isVirtual = true ∨
      redirectedEvidence (factsFromDevice env d) = true ∨ virtualEvidence (factsFromDevice env d) = true := by
  rw [← classifyDevice_iff, List.mem_pair, classifyDeviceInfo]
  by_cases virtual : toLower (trimSpace d.printerType) = "virtual"
  · simp only [virtual, if_true, true_or]
  by_cases redirected : toLower (trimSpace d.printerType) = "redirected"
  · rw [if_neg virtual, if_pos redirected]
    simp [redirected]
  rw [if_neg virtual, if_neg redirected]
  simp only [virtual, redirected, false_or]
  cases classifyDevice (factsFromDevice env d) with
  | virtual | redirected => simp
  | physical | unknown => cases d.isVirtual <;> simp

theorem mem_labels (listed : label ∈ (factsFromDevice env d).labels) :
    label ∈ [d.name, d.spoolerName] ∨ label ∈ d.hiddenLabels := by
  simp only [DeviceFacts.labels, factsFromDevice, List.mem_cons, List.not_mem_nil, or_false] at listed
  obtain rfl | rfl | rfl := listed
  · split
    · exact .inr List.mem_cons_self
    · exact .inl List.mem_cons_self
  · exact .inr List.mem_cons_self
  · split
    · next native => exact .inr (List.mem_cons_of_mem _ (by rw [if_pos native]; exact List.mem_cons_self))
    · exact .inl (List.mem_cons_of_mem _ List.mem_cons_self)

theorem mem_labels_of_hidden (hidden : label ∈ d.hiddenLabels) : label ∈ (factsFromDevice env d).labels := by
  simp only [DeviceFacts.labels, factsFromDevice, List.mem_cons, List.not_mem_nil, or_false]
  obtain rfl | native := List.mem_cons.mp hidden
  · exact .inr (.inl rfl)
  · split at native
    · next spooler =>
      rw [if_pos spooler]
      exact .inr (.inr (List.mem_singleton.mp native))
    · cases native

theorem mem_labels_of_marked (listed : label ∈ [d.name, d.spoolerName])
    (marked : isMarkedLabel label = true) : label ∈ (factsFromDevice env d).labels := by
  have filled : label ≠ [] := by
    rintro rfl
    exact absurd marked (by decide +kernel)
  simp only [DeviceFacts.labels, factsFromDevice, List.mem_cons, List.not_mem_nil, or_false]
  obtain rfl | rfl := List.mem_pair.mp listed
  · exact .inl (if_neg filled).symm
  · exact .inr (.inr (if_neg fun native => filled native.1).symm)

theorem isMarkedLabel_of_or (sign : isRedirectedLabel label = true ∨ isFaxLabel label = true) :
    isMarkedLabel label = true := by
  rw [isMarkedLabel, Bool.or_eq_true, Bool.or_eq_true]
  exact .inl sign

/-- What only the Agent reads makes a device virtual. -/
theorem AgentOnly.classified (sign : AgentOnly env d) :
    classifyDeviceInfo env d = .virtual ∨ classifyDeviceInfo env d = .redirected := by
  rw [classifyDeviceInfo_iff, evidence_iff]
  cases sign with
  | declared listed => exact .inl listed
  | flagged flag => exact .inr (.inl flag)
  | sessionPort session => exact .inr (.inr (.inr (.inl session)))
  | hiddenLabel hidden marked => exact .inr (.inr (.inl ⟨_, mem_labels_of_hidden hidden, marked⟩))
  | border listed odd sign =>
    have marked := isMarkedLabel_of_or sign
    exact .inr (.inr (.inl ⟨_, mem_labels_of_marked listed marked, marked⟩))
  | faxDriver odd fax => exact .inr (.inr (.inr (.inr (.inl fax))))
  | port noText virtual => exact .inr (.inr (.inr (.inr (.inr (.inl virtual)))))
  | scattered listed found nowhere => exact .inr (.inr (.inr (.inr (.inr (.inr ⟨_, listed, found⟩)))))

theorem softwareWriterTokens_mirrored : ∀ token ∈ softwareWriterTokens,
    token ∈ Gateway.softwareWriterTokens ∧ IsSolid token ∧ token ≠ [] := by
  decide +kernel

theorem identityTokens_mirrored (listed : token ∈ identityTokens) :
    token ∈ Gateway.softwareWriterTokens ++ Gateway.sessionRedirectTokens ∧ IsSolid token ∧ token ≠ [] := by
  have solid : ∀ token ∈ sessionRedirectTokens, IsSolid token ∧ token ≠ [] := by decide +kernel
  obtain writer | session := List.mem_append.mp listed
  · obtain ⟨listed, solid⟩ := softwareWriterTokens_mirrored token writer
    exact ⟨List.mem_append_left _ listed, solid⟩
  · exact ⟨List.mem_append_right _ session, solid token session⟩

theorem hasToken_lower {text : Text} (found : hasToken softwareWriterTokens (spoolerToLowerTrim text) = true) :
    Gateway.hasToken Gateway.softwareWriterTokens (lower (some text)) = true := by
  obtain ⟨token, listed, found⟩ := List.any_eq_true.mp found
  obtain ⟨listed, solid, -⟩ := softwareWriterTokens_mirrored token listed
  exact hasToken_iff.mpr ⟨token, listed, contains_lower solid found⟩

theorem gatewaySign_of_label (listed : label ∈ [d.name, d.spoolerName])
    (marked : isMarkedLabel label = true) (noSign : ¬AgentOnly env d) : GatewaySign d := by
  have shown : lower (some label) ∈ d.recordLabels := by
    refine List.mem_append_left _ ?_
    obtain rfl | rfl := List.mem_pair.mp listed
    · exact List.mem_cons_self
    · exact List.mem_cons_of_mem _ List.mem_cons_self
  have plain : isRedirectedLabel label = true ∨ isFaxLabel label = true → PlainBorders label := by
    intro sign
    by_contra odd
    exact noSign (.border listed odd sign)
  rw [isMarkedLabel, Bool.or_eq_true, Bool.or_eq_true] at marked
  obtain (redirected | fax) | token := marked
  · exact .label shown (.inl (isRedirectedName_lower (plain (.inl redirected)) redirected))
  · exact .label shown (.inr (.inl (isFaxName_lower (plain (.inr fax)) fax)))
  · exact .label shown (.inr (.inr (hasToken_lower token)))

theorem capString_of_text {key : String} {text : Text} (found : d.capText? key = some text) :
    capString env d key = text := by
  rw [capString, capText?_eq_some found]
  exact env.sprint_str text

theorem gatewaySign_of_driver (fax : isFaxLabel (capString env d "driver_name") = true)
    (noSign : ¬AgentOnly env d) : GatewaySign d := by
  obtain ⟨text, found, plain⟩ : ∃ text, d.capText? "driver_name" = some text ∧ PlainBorders text := by
    by_contra none
    push Not at none
    exact noSign (.faxDriver none fax)
  rw [capString_of_text found] at fax
  refine .driver (List.mem_pair.mpr (.inl rfl)) ?_
  rw [capText?_eq_some found]
  exact isFaxName_lower plain fax

theorem gatewaySign_of_port (virtual : portKind (capString env d "port_name") = .virtual)
    (noSign : ¬AgentOnly env d) : GatewaySign d := by
  obtain ⟨text, found⟩ : ∃ text, d.capText? "port_name" = some text := by
    by_contra none
    exact noSign (.port (Option.eq_none_iff_forall_ne_some.mpr fun text found => none ⟨text, found⟩) virtual)
  rw [capString_of_text found] at virtual
  refine .port ?_
  rw [capText?_eq_some found]
  exact isVirtualPortMonitor_lower virtual

theorem mem_recordParts {text : Text} (listed : text ∈ d.textParts) : lower (some text) ∈ d.recordParts := by
  obtain named | listed := List.mem_append.mp listed
  · obtain ⟨key, member, found⟩ := List.mem_filterMap.mp named
    have known : ∀ key ∈ ["driver_name", "device_id", "comment"], key.toList ∈ Gateway.driverKeys := by decide
    refine List.mem_append_left _ (List.mem_map.mpr ⟨key.toList, known key member, ?_⟩)
    rw [capText?_eq_some found]
    rfl
  · obtain ⟨key, member, listed⟩ := List.mem_flatMap.mp listed
    obtain ⟨item, isItem, found⟩ := List.mem_filterMap.mp listed
    have known : ∀ key ∈ ["hardware_ids", "compatible_ids"], key.toList ∈ Gateway.hardwareKeys := by decide
    refine List.mem_append_right _ (List.mem_flatMap.mpr ⟨key.toList, known key member, ?_⟩)
    refine List.mem_map.mpr ⟨item, isItem, ?_⟩
    split at found
    · cases found
      rfl
    · cases found

theorem infix_intercalate {part : Text} {parts : List Text} (listed : part ∈ parts) :
    part <:+: [' '].intercalate parts := by
  induction parts with
  | nil => cases listed
  | cons first rest ih =>
    cases rest with
    | nil =>
      rw [List.mem_singleton.mp listed, List.intercalate_singleton]
    | cons second rest =>
      rw [List.intercalate_cons_cons]
      obtain rfl | listed := List.mem_cons.mp listed
      · exact ((List.prefix_append _ _).trans (List.prefix_append _ _)).isInfix
      · exact (ih listed).trans (List.suffix_append _ _).isInfix

theorem gatewaySign_of_token (listed : token ∈ identityTokens)
    (found : contains (identityHaystack (factsFromDevice env d)) token = true) (noSign : ¬AgentOnly env d) :
    GatewaySign d := by
  obtain ⟨part, member, marked⟩ : ∃ part ∈ d.textParts, hasToken identityTokens (spoolerToLowerTrim part) = true := by
    by_contra none
    push Not at none
    exact noSign (.scattered listed found fun part member => Bool.eq_false_iff.mpr (none part member))
  obtain ⟨token, listed, found⟩ := List.any_eq_true.mp marked
  obtain ⟨mirrored, solid, filled⟩ := identityTokens_mirrored listed
  have inside := contains_iff.mp (contains_lower solid found)
  have nonempty : lower (some part) ≠ [] := by
    intro empty
    rw [empty] at inside
    exact filled (List.infix_nil.mp inside)
  have joined : lower (some part) ∈ d.recordParts.filter (· ≠ []) :=
    List.mem_filter.mpr ⟨mem_recordParts member, decide_eq_true nonempty⟩
  exact .haystack mirrored (contains_iff.mpr (inside.trans (infix_intercalate joined)))

/-- The Gateway takes every device for virtual that the Agent takes for virtual, exactly when each sign that only the
Agent reads comes with one that the Gateway reads. -/
theorem isVirtualPrinterRecord_of_classified_iff (env : DeviceEnv) (d : Device) :
    (classifyDeviceInfo env d = .virtual ∨ classifyDeviceInfo env d = .redirected →
      Gateway.isVirtualPrinterRecord d.record = true) ↔ (AgentOnly env d → GatewaySign d) := by
  rw [← gatewaySign_iff]
  constructor
  · exact fun rejected sign => rejected sign.classified
  · intro mirrored classified
    by_cases sign : AgentOnly env d
    · exact mirrored sign
    rw [classifyDeviceInfo_iff, evidence_iff] at classified
    obtain declared | flag | ⟨label, listed, marked⟩ | session | fax | virtual | ⟨token, listed, found⟩ := classified
    · exact absurd (.declared declared) sign
    · exact absurd (.flagged flag) sign
    · obtain shown | hidden := mem_labels listed
      · exact gatewaySign_of_label shown marked sign
      · exact absurd (.hiddenLabel hidden marked) sign
    · exact absurd (.sessionPort session) sign
    · exact gatewaySign_of_driver fax sign
    · exact gatewaySign_of_port virtual sign
    · exact gatewaySign_of_token listed found sign

end

/-- A queue whose port belongs to a session. -/
def sessionQueue (name port : String) : Device where
  id := []
  name := name.toList
  displayName := []
  printerType := []
  connectionType := "spooler"
  protocol := "spooler"
  endpoint := []
  spoolerName := name.toList
  spoolerServer := []
  spoolerPort := []
  spoolerDriver := []
  spoolerShare := []
  usbVid := []
  usbPid := []
  usbSerial := []
  networkAddress := []
  port := 0
  status := []
  enabled := true
  isVirtual := false
  type := []
  capabilities := ⟨[("port_name", .str port.toList)], List.nodup_singleton _⟩

theorem sessionQueue_rejected : AgentOnly plainDeviceEnv (sessionQueue "Receipts (redirected 3)" "TS003") ∧
    Gateway.isVirtualPrinterRecord (sessionQueue "Receipts (redirected 3)" "TS003").record = true := by
  have session : AgentOnly plainDeviceEnv (sessionQueue "Receipts (redirected 3)" "TS003") :=
    .sessionPort (by decide +kernel)
  have labelled : GatewaySign (sessionQueue "Receipts (redirected 3)" "TS003") :=
    .label List.mem_cons_self (.inl (by decide +kernel))
  exact ⟨session, (isVirtualPrinterRecord_of_classified_iff _ _).mpr (fun _ => labelled) session.classified⟩

/-- The port of a session tells the Agent that a queue is redirected, and the Gateway does not look at it. -/
theorem exists_session_port_accepted : ¬∀ (env : DeviceEnv) (d : Device),
    classifyDeviceInfo env d = .virtual ∨ classifyDeviceInfo env d = .redirected →
      Gateway.isVirtualPrinterRecord d.record = true := by
  intro rejected
  have redirected : classifyDeviceInfo plainDeviceEnv (sessionQueue "Office Printer" "TS001") = .redirected := by
    decide +kernel
  have accepted : Gateway.isVirtualPrinterRecord (sessionQueue "Office Printer" "TS001").record = false := by
    decide +kernel
  rw [rejected _ _ (.inr redirected)] at accepted
  cases accepted

end PrintGateway.Agent
