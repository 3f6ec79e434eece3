import PrintGateway.Json.Object
import PrintGateway.Model.Gateway.VirtualPrinter
import PrintGateway.Net.Go

/-!
# The two guards agree

On rows whose letters are ASCII the SQL condition holds exactly when `isVirtualPrinterRecord` does not.  Every
part of the condition is a definite truth value, and the same one as its counterpart.
-/

namespace PrintGateway.Gateway

open Text

/-! ### Texts -/

theorem contains_iff {text marker : Text} : contains text marker = true ↔ marker <:+: text := by
  simp only [contains, startsWith, List.any_eq_true, List.mem_tails, List.isPrefixOf_iff_prefix,
    List.infix_iff_prefix_suffix, and_comm]

theorem mem_stripBy {drop : Char → Bool} {text : Text} {c : Char} (member : c ∈ stripBy drop text) : c ∈ text := by
  have dropped : ∀ {text : Text}, c ∈ text.dropWhile drop → c ∈ text :=
    fun member => (List.dropWhile_suffix _).subset member
  exact dropped (List.mem_reverse.mp (dropped (List.mem_reverse.mp member)))

theorem stripBy_stripBy (drop : Char → Bool) (text : Text) :
    stripBy drop (stripBy drop text) = stripBy drop text := by
  have kept : (stripBy drop text).dropWhile drop = stripBy drop text := by
    cases result : stripBy drop text with
    | nil => rfl
    | cons c rest =>
      have starts : [c] <+: text.dropWhile drop := by
        have whole : stripBy drop text <+: text.dropWhile drop :=
          List.reverse_suffix.mp (by rw [stripBy, List.reverse_reverse]; exact List.dropWhile_suffix _)
        rw [result] at whole
        exact (List.prefix_append [c] rest).trans whole
      obtain ⟨tail, split⟩ := starts
      have head := List.head?_dropWhile_not drop text
      rw [← split] at head
      exact List.dropWhile_cons_of_neg (by simpa using head)
  rw [stripBy, kept, stripBy, List.reverse_reverse, List.dropWhile_idempotent]

/-- Dropping at both ends commutes with a map that keeps the class of every character. -/
theorem stripBy_flatMap {drop : Char → Bool} {f : Char → Text} (same : ∀ c, ∀ d ∈ f c, drop d = drop c)
    (filled : ∀ c, f c ≠ []) (text : Text) : stripBy drop (text.flatMap f) = (stripBy drop text).flatMap f := by
  have dropped : ∀ {f : Char → Text}, (∀ c, ∀ d ∈ f c, drop d = drop c) → (∀ c, f c ≠ []) → ∀ text : Text,
      (text.flatMap f).dropWhile drop = (text.dropWhile drop).flatMap f := by
    intro f same filled text
    induction text with
    | nil => rfl
    | cons c text ih =>
      rw [List.flatMap_cons]
      cases isDropped : drop c with
      | true =>
        rw [List.dropWhile_append_of_pos fun d member => (same c d member).trans isDropped, ih,
          List.dropWhile_cons_of_pos isDropped]
      | false =>
        obtain ⟨d, rest, starts⟩ := List.exists_cons_of_ne_nil (filled c)
        have kept : drop d = false := (same c d (starts ▸ List.mem_cons_self)).trans isDropped
        rw [List.dropWhile_cons_of_neg (by simp [isDropped]), List.flatMap_cons, starts, List.cons_append,
          List.dropWhile_cons_of_neg (by simp [kept])]
  rw [stripBy, dropped same filled, List.reverse_flatMap,
    dropped (f := List.reverse ∘ f) (fun c d member => same c d (List.mem_reverse.mp member))
      (fun c => by simpa using filled c),
    List.reverse_flatMap, stripBy]
  refine List.flatMap_congr fun c _ => ?_
  exact List.reverse_reverse _

/-- The lower case of a character in JavaScript. -/
def lowerChar (c : Char) : Text :=
  if c.toNat = 304 then ['i', Char.ofNat 775] else if c.toNat = 8490 then ['k'] else [c.toLower]

theorem toLowerCase_eq (text : Text) : toLowerCase text = text.flatMap lowerChar := rfl

theorem lowerChar_of_mem {c d : Char} (member : d ∈ lowerChar c) : lowerChar d = [d] := by
  unfold lowerChar at member
  split at member
  · revert d
    decide +kernel
  · split at member
    · revert d
      decide +kernel
    · next noDot noKelvin =>
      rw [List.mem_singleton] at member
      rw [member]
      by_cases small : c.toNat < 128
      · exact Codec.forall_ascii (P := fun c => lowerChar c.toLower = [c.toLower]) (by decide +kernel) small
      · have stays := Codec.toLower_of_not_ascii small
        rw [stays, lowerChar, if_neg noDot, if_neg noKelvin, stays]

theorem isTrimmed_of_mem_lowerChar {c d : Char} (member : d ∈ lowerChar c) : isTrimmed d = isTrimmed c := by
  unfold lowerChar at member
  split at member
  · next dotted =>
    have plain : isTrimmed c = false := by simp [isTrimmed, dotted]
    rw [plain]
    revert d
    decide +kernel
  · split at member
    · next kelvin =>
      have plain : isTrimmed c = false := by simp [isTrimmed, kelvin]
      rw [plain]
      revert d
      decide +kernel
    · rw [List.mem_singleton] at member
      rw [member]
      exact Codec.forall_toLower (P := fun c d => isTrimmed d = isTrimmed c) (by decide +kernel) (fun _ => rfl) c

theorem trim_toLowerCase (text : Text) : trim (toLowerCase text) = toLowerCase (trim text) := by
  refine stripBy_flatMap (f := lowerChar) (fun c d => isTrimmed_of_mem_lowerChar) (fun c => ?_) text
  unfold lowerChar
  split <;> [simp; split <;> simp]

theorem lower_lower (value : Option Text) : lower (some (lower value)) = lower value := by
  have again : ∀ text : Text, toLowerCase (toLowerCase text) = toLowerCase text := by
    intro text
    rw [toLowerCase_eq, toLowerCase_eq, List.flatMap_assoc]
    refine List.flatMap_congr fun c _ => ?_
    rw [List.flatMap_congr (g := fun d => [d]) fun d member => lowerChar_of_mem member, List.flatMap_singleton']
  rw [lower, lower, Option.getD_some, trim_toLowerCase, again]
  exact congrArg toLowerCase (stripBy_stripBy _ _)

theorem lower_lowerValue (value : Option Json.Value) : lower (some (lowerValue value)) = lowerValue value := by
  unfold lowerValue
  split
  · exact lower_lower (some _)
  · rfl

/-- Labels are in lower case already. -/
theorem map_lower_labelNames (printer : PrinterLike) :
    (labelNames printer).map (lower <| some ·) = labelNames printer := by
  refine (List.map_congr_left fun name member => ?_).trans (List.map_id _)
  have listed := (List.mem_filter.mp member).1
  simp only [List.mem_append, List.mem_map, List.mem_ite_nil_right, List.mem_pair] at listed
  obtain ((⟨value, -, rfl⟩ | ⟨key, -, rfl⟩) | ⟨key, -, rfl⟩) | ⟨-, rfl | rfl⟩ := listed
  · exact lower_lower value
  · exact lower_lowerValue _
  · exact lower_lowerValue _
  · exact lower_lower _
  · exact lower_lowerValue _

/-- The evidence that `isVirtualPrinterRecord` looks for. -/
theorem isVirtualPrinterRecord_iff (printer : PrinterLike) : isVirtualPrinterRecord printer = true ↔
    (lower printer.printerType ∈ virtualClasses ∨ lower printer.connectionType = "virtual" ∨
      lower printer.protocol = "virtual") ∨
    ([capabilitiesRecord printer.config, capabilitiesRecord printer.capabilities].any fun record =>
      sinkKeys.any fun key => (property record key).isSome) = true ∨
    (virtualCapabilityKeys.any fun key => isTrueValue (property (capabilitiesRecord printer.capabilities) key)) = true ∨
    lowerValue (nullish (property (capabilitiesRecord printer.capabilities) "printer_class")
      (property (capabilitiesRecord printer.capabilities) "printerClass")) ∈ virtualClasses ∨
    isVirtualPortMonitor (lowerValue (nullish (property (capabilitiesRecord printer.capabilities) "port_name")
      (property (capabilitiesRecord printer.capabilities) "portName"))) = true ∨
    (labelNames printer).any isRedirectedName = true ∨
    isVirtualPortMonitor (lower printer.port) = true ∨
    ((labelNames printer).any isFaxName = true ∨ isFaxName (lower printer.driverName) = true ∨
      isFaxName (lowerValue (property (capabilitiesRecord printer.capabilities) "driver_name")) = true ∨
      isFaxName (lowerValue (property (capabilitiesRecord printer.capabilities) "driverName")) = true) ∨
    hasToken softwareWriterTokens (identityHaystack (capabilitiesRecord printer.capabilities) printer) = true ∨
    hasToken sessionRedirectTokens (identityHaystack (capabilitiesRecord printer.capabilities) printer) = true ∨
    (labelNames printer).any (hasToken softwareWriterTokens) = true := by
  dsimp only [isVirtualPrinterRecord]
  rw [map_lower_labelNames]
  simp only [List.any_append, List.any_cons, List.any_nil, Bool.or_false, Bool.if_true_left, Bool.or_eq_true,
    decide_eq_true_eq]

theorem mem_trimChars_iff (c : Char) : c ∈ VirtualSql.trimChars ↔ isTrimmed c = true := by
  constructor
  · intro member
    have every : ∀ c ∈ VirtualSql.trimChars, isTrimmed c = true := by decide
    exact every c member
  · intro trimmed
    rw [VirtualSql.trimChars, ← Char.ofNat_toNat c]
    apply List.mem_map_of_mem
    simp only [isTrimmed, Bool.or_eq_true, Bool.and_eq_true, decide_eq_true_eq, beq_iff_eq] at trimmed
    simp only [List.mem_cons, List.not_mem_nil, or_false]
    omega

theorem btrim_trimChars (text : Text) : Sql.btrim VirtualSql.trimChars text = trim text := by
  have same : (fun c => decide (c ∈ VirtualSql.trimChars)) = isTrimmed :=
    funext fun c => by rw [Bool.eq_iff_iff, decide_eq_true_eq, mem_trimChars_iff]
  rw [Sql.btrim, same]
  rfl

/-! ### Letters -/

/-- The letters of a text are ASCII: its other characters are the same in lower case. -/
def LettersAscii (locale : Char → Char) (text : Text) : Prop :=
  ∀ c ∈ text, c.toNat < 128 ∨ locale c = c ∧ c.toNat ≠ 304 ∧ c.toNat ≠ 8490

def valueTexts : Json.Value → List Text
  | .str text => [text]
  | .arr items => items.filterMap fun
    | .str text => some text
    | _ => none
  | _ => []

def recordTexts : Option Json.Value → List Text
  | some (.obj fields) => fields.flatMap (valueTexts ·.2)
  | _ => []

/-- The texts of a row that the guards can read. -/
def GuardRow.texts (row : GuardRow) : List Text :=
  [row.name, row.printerType, row.connectionType, row.protocol] ++ recordTexts row.config ++
    recordTexts row.capabilities

namespace VirtualSql

variable {locale : Char → Char}

theorem lower_eq (ascii : ∀ c : Char, c.toNat < 128 → locale c = c.toLower) {text : Text}
    (letters : LettersAscii locale text) : Sql.lower locale text = toLowerCase text := by
  rw [Sql.lower, toLowerCase_eq, ← List.flatMap_singleton' (text.map locale), List.flatMap_map]
  refine List.flatMap_congr fun c member => ?_
  obtain small | ⟨fixed, noDot, noKelvin⟩ := letters c member
  · rw [lowerChar, if_neg (by omega), if_neg (by omega), ascii c small]
  · by_cases small : c.toNat < 128
    · rw [lowerChar, if_neg noDot, if_neg noKelvin, ascii c small]
    · rw [lowerChar, if_neg noDot, if_neg noKelvin, fixed, Codec.toLower_of_not_ascii small]

theorem text_eq (ascii : ∀ c : Char, c.toNat < 128 → locale c = c.toLower) {value : Text}
    (letters : LettersAscii locale value) : text locale (some value) = some (lower (some value)) := by
  change some (Sql.lower locale (Sql.btrim trimChars value)) = some (toLowerCase (trim value))
  have inner : LettersAscii locale (trim value) := fun c member => letters c (mem_stripBy member)
  rw [btrim_trimChars, lower_eq ascii inner]

/-! ### JSON -/

theorem field_object (value : Option Json.Value) (key : Text) :
    Sql.field (object value) key = property (capabilitiesRecord value) key := by
  cases value with
  | none => rfl
  | some value => cases value <;> rfl

theorem hasKey_object (value : Option Json.Value) (key : Text) :
    Sql.hasKey (object value) key = some (property (capabilitiesRecord value) key).isSome := by
  cases value with
  | none => rfl
  | some value => cases value <;> rfl

theorem choice_object (value : Option Json.Value) (first second : Text) : choice (object value) first second =
      nullish (property (capabilitiesRecord value) first) (property (capabilitiesRecord value) second) := by
  rw [choice, field_object, field_object]
  cases property (capabilitiesRecord value) first with
  | none => rfl
  | some found => cases found <;> rfl

theorem mem_recordTexts {record : Option Json.Value} {key text : Text} {value : Json.Value}
    (found : property (capabilitiesRecord record) key = some value) (member : text ∈ valueTexts value) :
    text ∈ recordTexts record := by
  unfold capabilitiesRecord at found
  split at found
  · exact List.mem_flatMap.mpr ⟨_, Json.mem_of_get? found, member⟩
  · cases found

/-- The letters of a JSON value are ASCII. -/
def ValueAscii (locale : Char → Char) (value : Option Json.Value) : Prop :=
  ∀ found, value = some found → ∀ text ∈ valueTexts found, LettersAscii locale text

theorem string_eq (ascii : ∀ c : Char, c.toNat < 128 → locale c = c.toLower) {value : Option Json.Value}
    (letters : ValueAscii locale value) : string locale value = some (lowerValue value) := by
  cases value with
  | none => rfl
  | some value =>
    cases value with
    | str content => exact text_eq ascii (letters _ rfl content (List.mem_singleton.mpr rfl))
    | null | bool | num | arr | obj => rfl

theorem ValueAscii.nullish {first second : Option Json.Value} (one : ValueAscii locale first)
    (other : ValueAscii locale second) : ValueAscii locale (nullish first second) := by
  unfold Gateway.nullish
  split
  · exact other
  · exact other
  · exact one

/-! ### Names -/

theorem like_contains {token text : Text} :
    Sql.like ('%' :: (Sql.escape token ++ ['%'])) text = Text.contains text token := by
  rw [Bool.eq_iff_iff, Sql.like_contains_iff, contains_iff]

theorem like_isSuffixOf {token text : Text} : Sql.like ('%' :: Sql.escape token) text = token.isSuffixOf text := by
  rw [Bool.eq_iff_iff, Sql.like_endsWith_iff, List.isSuffixOf_iff_suffix]

theorem contains_some (text : Text) (tokens : List Text) :
    contains (some text) tokens = some (hasToken tokens text) := by
  rw [contains, Sql.likeAny_some, patterns, List.any_map, hasToken]
  exact congrArg some (congrArg (tokens.any ·) (funext fun token => like_contains))

theorem vendorFax_some (text : Text) : vendorFax (some text) = some (isFaxName text) := by
  have likes : Sql.likeAny (some text) (["% fax", "%-fax", "% (fax)"].map String.toList) =
      some ([" fax", "-fax", " (fax)"].any fun ending => ending.toList.isSuffixOf text) := by
    rw [Sql.likeAny_some]
    simp only [List.map_cons, List.map_nil, List.any_cons, List.any_nil]
    rw [← @like_isSuffixOf " fax", ← @like_isSuffixOf "-fax", ← @like_isSuffixOf " (fax)"]
    rfl
  rw [vendorFax, likes, show Sql.eq (some text) (some "fax") = some (decide (text = "fax")) from rfl, Sql.or_some]
  simp only [isFaxName, List.any_cons, List.any_nil, Bool.or_false, Bool.or_assoc, beq_eq_decide]

theorem forbiddenAlias_some (text : Text) : forbiddenAlias (some text) =
    some (isRedirectedName text || isFaxName text || hasToken softwareWriterTokens text) := by
  have opened : Sql.like "%(redirected%" text = Text.contains text "(redirected" :=
    @like_contains "(redirected" text
  have closed : Sql.like "%redirected)" text = "redirected)".toList.isSuffixOf text :=
    @like_isSuffixOf "redirected)" text
  have middle : Sql.like "% in session %" text = Text.contains text " in session " :=
    @like_contains " in session " text
  have last : Sql.like "% in session" text = " in session".toList.isSuffixOf text :=
    @like_isSuffixOf " in session" text
  have source : Sql.like "%(from %" text = Text.contains text "(from " :=
    @like_contains "(from " text
  have session : Sql.like "%in session%" text = Text.contains text "in session" :=
    @like_contains "in session" text
  simp only [forbiddenAlias, Option.map_some, Sql.any_cons, Sql.any_nil, vendorFax_some, contains_some, opened,
    closed, middle, last, source, session, Sql.and_some, Sql.or_some, isRedirectedName, Bool.or_false, Bool.or_assoc]

/-- The labels of a row, empty ones included. -/
theorem any_labelNames (row : GuardRow) {p : Text → Bool} (empty : p [] = false) :
    (labelNames row.toPrinterLike).any p =
      ([lower (some row.name)] ++ aliasKeys.map (lowerValue <| property (capabilitiesRecord row.config) ·) ++
        aliasKeys.map (lowerValue <| property (capabilitiesRecord row.capabilities) ·) ++
        [if isSpoolerName (lower (some row.connectionType)) ∨ isSpoolerName (lower (some row.protocol)) then
          lowerValue (property (capabilitiesRecord row.config) "address") else []]).any p := by
  have nonempty : (fun name => decide (name ≠ []) && p name) = p := by
    funext name
    cases name with
    | nil => simp [empty]
    | cons c name => simp
  rw [labelNames, List.any_filter, nonempty]
  simp only [GuardRow.toPrinterLike, List.any_append, List.map_cons, List.map_nil, List.any_cons, List.any_nil,
    show lower none = [] from rfl, empty, Bool.or_false]
  split
  · simp [empty]
  · simp [empty]

/-! ### Ports -/

theorem any_like_monitors (head : Text) : (virtualPortMonitors.any fun monitor => Sql.like (monitor ++ ['%']) head) =
      virtualPortMonitors.any fun monitor => startsWith head monitor := by
  have plain : ∀ monitor ∈ virtualPortMonitors, Sql.escape monitor = monitor := by decide +kernel
  rw [Bool.eq_iff_iff, List.any_eq_true, List.any_eq_true]
  refine exists_congr fun monitor => and_congr_right fun member => ?_
  rw [← plain monitor member, Sql.like_startsWith_iff, plain monitor member, startsWith, List.isPrefixOf_iff_prefix]

theorem isVirtualPortMonitor_eq (raw : Text) : isVirtualPortMonitor raw =
    virtualPortMonitors.any fun monitor => startsWith (trim (raw.takeWhile (· ≠ ','))) monitor := by
  have filled : (virtualPortMonitors.any fun monitor => startsWith [] monitor) = false := by decide +kernel
  cases raw with
  | nil => exact filled.symm
  | cons c raw =>
    rw [isVirtualPortMonitor, Bool.eq_iff_iff]
    simp only [decide_eq_true (List.cons_ne_nil c raw), Bool.true_and, List.any_eq_true, Bool.or_eq_true, beq_iff_eq]
    refine exists_congr fun monitor => and_congr_right fun _ => or_iff_right_of_imp fun same => ?_
    rw [same, startsWith, List.isPrefixOf_iff_prefix]

/-! ### The haystack -/

section Row

variable (ascii : ∀ c : Char, c.toNat < 128 → locale c = c.toLower) {record : Option Json.Value}
  (letters : ∀ text ∈ recordTexts record, LettersAscii locale text)

include letters in
theorem valueAscii (key : Text) : ValueAscii locale (property (capabilitiesRecord record) key) :=
  fun _ found text member => letters text (mem_recordTexts found member)

include ascii in
/-- The rows of an array: the entries that have a text. -/
theorem rows_eq {items : List Json.Value} (plain : ∀ text, .str text ∈ items → LettersAscii locale text) :
    (items.filter fun item => Sql.and (Sql.eq (Sql.typeof (some item)) (some .string))
      (Sql.not (Sql.eq (string locale (some item)) (some []))) = some true).filterMap
        (fun item => string locale (some item)) = (items.map (lowerValue <| some ·)).filter (· ≠ []) := by
  have shown : ∀ item ∈ items, string locale (some item) = some (lowerValue (some item)) := by
    intro item member
    cases item with
    | str content => exact text_eq ascii (plain content member)
    | null | bool | num | arr | obj => rfl
  have isText : ∀ item ∈ items, decide (Sql.and (Sql.eq (Sql.typeof (some item)) (some .string))
      (Sql.not (Sql.eq (string locale (some item)) (some []))) = some true) =
        decide (lowerValue (some item) ≠ []) := by
    intro item member
    rw [shown item member]
    cases item with
    | str content =>
      simp [Sql.eq, Sql.typeof, Sql.jsonType]
    | null | bool | num | arr | obj => simp [Sql.eq, Sql.typeof, Sql.jsonType, Sql.and, lowerValue]
  rw [List.filter_congr isText, List.filter_map,
    List.filterMap_congr (fun item member => shown item (List.mem_of_mem_filter member))]
  exact congrFun List.filterMap_eq_map _

include ascii letters

theorem string_field (key : Text) :
    string locale (Sql.field (object record) key) = some (lowerValue (property (capabilitiesRecord record) key)) := by
  rw [field_object, string_eq ascii (valueAscii letters key)]

theorem string_choice (first second : Text) : string locale (choice (object record) first second) =
    some (lowerValue (nullish (property (capabilitiesRecord record) first)
      (property (capabilitiesRecord record) second))) := by
  rw [choice_object, string_eq ascii ((valueAscii letters first).nullish (valueAscii letters second))]

/-- The entries of an array that have a text. -/
theorem hardwareText_eq (key : Text) : hardwareText locale (object record) key =
    Sql.coalesce (Sql.stringAgg [' '] (((arrayItems (property (capabilitiesRecord record) key)).map
      (lowerValue <| some ·)).filter (· ≠ []))) (some []) := by
  rw [hardwareText, field_object]
  have plain := valueAscii letters key
  cases found : property (capabilitiesRecord record) key with
  | none => rfl
  | some value =>
    cases value with
    | null | bool | num | str | obj => rfl
    | arr items =>
      have each : ∀ text, .str text ∈ items → LettersAscii locale text := fun text member =>
        plain _ found text (List.mem_filterMap.mpr ⟨_, member, rfl⟩)
      exact congrArg (fun rows => Sql.coalesce (Sql.stringAgg [' '] rows) (some [])) (rows_eq ascii each)

/-- The parts of the haystack are the aggregated groups. -/
theorem hay_eq : hay locale (object record) =
    [' '].intercalate ((driverKeys.map (lowerValue <| property (capabilitiesRecord record) ·) ++
      hardwareKeys.flatMap fun key => (arrayItems (property (capabilitiesRecord record) key)).map
        (lowerValue <| some ·)).filter (· ≠ [])) := by
  have single : ∀ text : Text, Sql.nullifEmpty (some text) =
      Sql.nullifEmpty (Sql.coalesce (Sql.stringAgg [' '] ([text].filter (· ≠ []))) (some [])) := by
    intro text
    cases text with
    | nil => rfl
    | cons c text => simp [Sql.stringAgg, Sql.coalesce]
  have parts : (driverKeys.map (fun key => string locale (Sql.field (object record) key)) ++
      hardwareKeys.map (hardwareText locale (object record))).map Sql.nullifEmpty =
        (driverKeys.map (fun key => [lowerValue (property (capabilitiesRecord record) key)].filter (· ≠ [])) ++
          hardwareKeys.map fun key => ((arrayItems (property (capabilitiesRecord record) key)).map
            (lowerValue <| some ·)).filter (· ≠ [])).map
          fun group => Sql.nullifEmpty (Sql.coalesce (Sql.stringAgg [' '] group) (some [])) := by
    rw [List.map_append, List.map_append, List.map_map, List.map_map, List.map_map, List.map_map]
    congr 1
    · refine List.map_congr_left fun key _ => ?_
      rw [Function.comp_apply, string_field ascii letters, single]
      rfl
    · refine List.map_congr_left fun key _ => ?_
      rw [Function.comp_apply, hardwareText_eq ascii letters]
      rfl
  rw [hay, parts, Sql.concatWs_groups]
  · congr 1
    rw [List.flatten_append, ← List.flatMap_def, ← List.flatMap_def, List.filter_append, List.filter_flatMap,
      List.map_eq_flatMap, List.filter_flatMap]
  · intro group member
    rw [List.mem_append, List.mem_map, List.mem_map] at member
    obtain ⟨key, -, rfl⟩ | ⟨key, -, rfl⟩ := member <;> simp

theorem virtualPort_eq : virtualPort locale (object record) =
    some (isVirtualPortMonitor (lowerValue (nullish (property (capabilitiesRecord record) "port_name")
      (property (capabilitiesRecord record) "portName")))) := by
  dsimp only [virtualPort]
  rw [string_choice ascii letters, isVirtualPortMonitor_eq, ← any_like_monitors, Option.map_some, btrim_trimChars]
  exact Sql.any_map_some _ _

theorem virtualFlag_eq (key : Text) : virtualFlag locale (object record) key =
    some (isTrueValue (property (capabilitiesRecord record) key)) := by
  unfold virtualFlag
  rw [string_field ascii letters, field_object]
  cases property (capabilitiesRecord record) key with
  | none => rfl
  | some value =>
    cases value with
    | bool value => cases value <;> rfl
    | str text =>
      change Sql.or (some false) (some (decide (lowerValue (some (.str text)) = "true"))) =
        some (lowerValue (some (.str text)) == "true")
      rw [Sql.or_some, Bool.false_or, beq_eq_decide]
    | null | num | arr | obj => rfl

end Row

/-! ### The guard -/

section Guard

variable {row : GuardRow} (ascii : ∀ c : Char, c.toNat < 128 → locale c = c.toLower)
  (letters : ∀ text ∈ row.texts, LettersAscii locale text)

include letters in
theorem letters_config : ∀ text ∈ recordTexts row.config, LettersAscii locale text := fun text member =>
  letters text (List.mem_append_left _ (List.mem_append_right _ member))

include letters in
theorem letters_capabilities : ∀ text ∈ recordTexts row.capabilities, LettersAscii locale text := fun text member =>
  letters text (List.mem_append_right _ member)

include ascii letters

theorem text_column {column : Text} (member :
    column ∈ [row.name, row.printerType, row.connectionType, row.protocol]) :
    text locale (some column) = some (lower (some column)) :=
  text_eq ascii (letters column (List.mem_append_left _ (List.mem_append_left _ member)))

theorem nativeQueue_eq : nativeQueue locale row =
    some (isSpoolerName (lower (some row.connectionType)) || isSpoolerName (lower (some row.protocol))) := by
  have among : ∀ text : Text, Sql.among (some text) (["spooler", "windows_spooler"].map String.toList) =
      some (isSpoolerName text) := by
    intro text
    rw [Sql.among_some, isSpoolerName]
    exact congrArg some (decide_eq_decide.mpr List.mem_pair)
  dsimp only [nativeQueue]
  rw [text_column ascii letters (by simp), text_column ascii letters (by simp), among, among, Sql.or_some]

theorem aliases_eq : aliases locale row =
    ([lower (some row.name)] ++ aliasKeys.map (lowerValue <| property (capabilitiesRecord row.config) ·) ++
      aliasKeys.map (lowerValue <| property (capabilitiesRecord row.capabilities) ·) ++
      [if isSpoolerName (lower (some row.connectionType)) ∨ isSpoolerName (lower (some row.protocol)) then
        lowerValue (property (capabilitiesRecord row.config) "address") else []]).map some := by
  have inConfig := fun key => string_field ascii (letters_config letters) key
  have inCaps := fun key => string_field ascii (letters_capabilities letters) key
  have address : Sql.caseWhen (nativeQueue locale row)
      (string locale (Sql.field (object row.config) "address")) (some []) =
      some (if isSpoolerName (lower (some row.connectionType)) ∨ isSpoolerName (lower (some row.protocol)) then
        lowerValue (property (capabilitiesRecord row.config) "address") else []) := by
    rw [nativeQueue_eq ascii letters, inConfig, Sql.caseWhen, apply_ite some]
    exact if_congr (by rw [Option.some.injEq, Bool.or_eq_true]) rfl rfl
  rw [aliases, text_column ascii letters (by simp), address, List.map_append, List.map_append, List.map_append,
    List.map_map, List.map_map, List.map_congr_left fun key _ => inConfig key,
    List.map_congr_left fun key _ => inCaps key]
  rfl

/-- The aliases are the labels. -/
theorem any_aliases : ((aliases locale row).any fun name => forbiddenAlias name = some true) =
    ((labelNames row.toPrinterLike).any isRedirectedName || (labelNames row.toPrinterLike).any isFaxName ||
      (labelNames row.toPrinterLike).any (hasToken softwareWriterTokens)) := by
  have combined : ∀ names : List Text, (names.any isRedirectedName || names.any isFaxName ||
      names.any (hasToken softwareWriterTokens)) =
        names.any fun name => isRedirectedName name || isFaxName name || hasToken softwareWriterTokens name := by
    intro names
    induction names with
    | nil => rfl
    | cons name names ih =>
      simp only [List.any_cons, ← ih]
      simp only [Bool.or_assoc, Bool.or_left_comm]
  rw [combined, any_labelNames row (by decide +kernel), aliases_eq ascii letters, List.any_map]
  congr 1
  funext name
  rw [Function.comp_apply, forbiddenAlias_some, Bool.eq_iff_iff, decide_eq_true_eq, Option.some.injEq]

omit ascii letters in
theorem sinks_eq (records : List (Option Json.Value)) :
    Sql.any ((records.map object).flatMap fun record => sinkKeys.map (Sql.hasKey record)) =
      some ((records.map capabilitiesRecord).any fun record => sinkKeys.any fun key =>
        (property record key).isSome) := by
  induction records with
  | nil => rfl
  | cons record records ih =>
    rw [List.map_cons, List.flatMap_cons, Sql.any_append, ih,
      List.map_congr_left fun key _ => hasKey_object record key, Sql.any_map_some, Sql.or_some, List.map_cons,
      List.any_cons]

theorem flags_eq : Sql.any (virtualCapabilityKeys.map (virtualFlag locale (object row.capabilities))) =
    some (virtualCapabilityKeys.any fun key => isTrueValue (property (capabilitiesRecord row.capabilities) key)) := by
  rw [List.map_congr_left fun key _ => virtualFlag_eq ascii (letters_capabilities letters) key]
  exact Sql.any_map_some _ _

theorem hay_row : hay locale (object row.capabilities) =
    identityHaystack (capabilitiesRecord row.capabilities) row.toPrinterLike := by
  rw [hay_eq ascii (letters_capabilities letters), identityHaystack, haystackParts, List.append_assoc,
    List.filter_append _ (_ ++ _)]
  rfl

omit ascii letters in
/-- The two guards list the same evidence in different orders. -/
theorem evidence_perm {type connection protocol sinks flags kind port redirected fax writer driver driver' hayWriter
    haySession : Prop} :
    ((type ∨ (connection ∨ protocol) ∨ sinks ∨ kind ∨ port ∨ ((redirected ∨ fax) ∨ writer) ∨ driver ∨ driver' ∨
      hayWriter ∨ haySession) ∨ flags) ↔
    ((type ∨ connection ∨ protocol) ∨ sinks ∨ flags ∨ kind ∨ port ∨ redirected ∨ (fax ∨ driver ∨ driver') ∨
      hayWriter ∨ haySession ∨ writer) := by
  tauto

/-- Every entry of the condition is definite. -/
theorem any_forbidden : Sql.any (forbidden locale row) = some (isVirtualPrinterRecord row.toPrinterLike) := by
  have caps := letters_capabilities letters
  have sinks := sinks_eq [row.config, row.capabilities]
  simp only [List.map_cons, List.map_nil] at sinks
  dsimp only [forbidden]
  rw [Sql.any_append, flags_eq ascii letters]
  simp only [Sql.any_cons, Sql.any_nil, sinks, virtualPort_eq ascii caps, any_aliases ascii letters,
    hay_row ascii letters, contains_some, string_field ascii caps, string_choice ascii caps, vendorFax_some,
    Sql.among_some, Sql.eq_some, Sql.or_some, text_column ascii letters (show row.printerType ∈ _ by simp),
    text_column ascii letters (show row.connectionType ∈ _ by simp),
    text_column ascii letters (show row.protocol ∈ _ by simp)]
  have noPort : isVirtualPortMonitor (lower row.toPrinterLike.port) = false := rfl
  have noDriver : isFaxName (lower row.toPrinterLike.driverName) = false := rfl
  rw [Option.some.injEq, Bool.eq_iff_iff, isVirtualPrinterRecord_iff, noPort, noDriver]
  simp only [Bool.or_eq_true, decide_eq_true_eq, Bool.false_eq_true, false_or, or_false]
  exact evidence_perm

/-- The SQL condition is true exactly for the rows that are not virtual. -/
theorem nonVirtualPrinterPredicate_iff :
    nonVirtualPrinterPredicate locale row = some true ↔ isVirtualPrinterRecord row.toPrinterLike = false := by
  rw [nonVirtualPrinterPredicate, any_forbidden ascii letters, Sql.not_some, Option.some.injEq, Bool.not_eq_true']

end Guard

/-- A network printer with a driver and hardware ids. -/
def sampleRow : GuardRow where
  name := "Kitchen"
  printerType := "physical"
  connectionType := "spooler"
  protocol := "windows_spooler"
  config := some (.obj [("spooler_name", .str "EPSON TM-T20")])
  capabilities := some (.obj [("driver_name", .str "EPSON TM-T20 Receipt"), ("port_name", .str "USB001"),
    ("hardware_ids", .arr [.str "USBPRINT\\EPSONTM-T20", .null])])

theorem nonVirtualPrinterPredicate_sampleRow : nonVirtualPrinterPredicate Char.toLower sampleRow = some true :=
  have ascii : ∀ text ∈ sampleRow.texts, ∀ c ∈ text, c.toNat < 128 := by decide +kernel
  (nonVirtualPrinterPredicate_iff (fun _ _ => rfl) fun text member c listed => .inl (ascii text member c listed)).mpr
    (by decide +kernel)

end VirtualSql

end PrintGateway.Gateway
