import PrintGateway.Model.Odoo.RawTemplate

/-!
# Values in raw command templates

What a value leaves in a rendered template has no command introducer of the printer's language, so the
introducers are those of the template.
-/

namespace PrintGateway.Odoo

open Text Codec.FormatString Machine

/-- The characters that start a command or end a quoted text. -/
def RawLanguage.isIntroducer : RawLanguage → Char → Bool
  | .zpl, c => c ∈ ['^', '~']
  | .tspl, c => c ∈ ['"', '\r', '\n']
  | .other, c => c < ' ' ∨ c = '\x7f'

/-- What a record puts in the place of a field. -/
def replacement (digit : Char → Option ℕ) (record : Record) (protocol : Text) (field : Field) : Text :=
  match record.value field.name, field.format digit with
  | .ok value, .ok format => format.apply (sanitizeRawValue value protocol)
  | _, _ => []

/-! ### Sanitised values -/

theorem mem_of_mem_strip {text : Text} {c : Char} (member : c ∈ strip text) : c ∈ text := by
  have dropped : ∀ {drop : Char → Bool} {text : Text}, c ∈ text.dropWhile drop → c ∈ text :=
    fun member => (List.dropWhile_suffix _).subset member
  exact dropped (List.mem_reverse.mp (dropped (List.mem_reverse.mp member)))

theorem isIntroducer_of_mem_sanitizeRawValue {value : Option Text} {protocol : Text} {c : Char}
    (member : c ∈ sanitizeRawValue value protocol) :
    (RawLanguage.ofProtocol protocol).isIntroducer c = false := by
  have kept := (List.mem_filter.mp (mem_of_mem_strip (List.mem_of_mem_take member))).2
  cases language : RawLanguage.ofProtocol protocol with
  | zpl | tspl =>
    simp only [language, decide_eq_true_eq] at kept
    exact decide_eq_false kept.1
  | other =>
    simp only [language, decide_eq_true_eq] at kept
    refine decide_eq_false fun introducer => ?_
    obtain below | isDel := introducer
    · exact Char.not_lt.mpr kept.2 below
    · exact kept.1 isDel

theorem isIntroducer_of_mem_replacement {digit : Char → Option ℕ} {record : Record} {protocol : Text}
    {field : Field} {c : Char}
    (plain : ∀ format, field.format digit = .ok format →
      (RawLanguage.ofProtocol protocol).isIntroducer format.fill = false)
    (member : c ∈ replacement digit record protocol field) :
    (RawLanguage.ofProtocol protocol).isIntroducer c = false := by
  unfold replacement at member
  split at member
  · next value format isValue isFormat =>
    obtain inner | rfl := StringFormat.mem_apply member
    · exact isIntroducer_of_mem_sanitizeRawValue inner
    · exact plain format isFormat
  · cases member

/-! ### Rendered templates -/

section Render

variable {policy : RawPolicy} {digit : Char → Option ℕ} {record : Record} {protocol rendered : Text}

theorem checkField_isFlat {field : Field} (checked : checkField field = .ok ()) : field.IsFlat := by
  obtain ⟨_, -, checked⟩ := exists_of_bind_eq_ok checked
  split at checked
  · cases checked
  · split at checked
    · cases checked
    · obtain ⟨_, nested, -⟩ := exists_of_bind_eq_ok checked
      unfold checkNested at nested
      split at nested
      · cases nested
      · next none =>
        split at nested
        · cases nested
        · next done => exact ⟨done, by simpa using none⟩

theorem checkField_of_forM {fields : List Field} (checked : fields.forM checkField = .ok ()) :
    ∀ field ∈ fields, checkField field = .ok () := by
  induction fields with
  | nil => exact nofun
  | cons field fields ih =>
    obtain ⟨_, first, later⟩ := exists_of_bind_eq_ok checked
    rintro other (_ | ⟨_, member⟩)
    · exact first
    · exact ih later other member

theorem lookup_placeholderValues {fields : List Field} {values : List (Text × Text)} {name text : Text}
    (resolved : placeholderValues record protocol fields = .ok values) (found : values.lookup name = some text) :
    ∃ value, record.value name = .ok value ∧ text = sanitizeRawValue value protocol := by
  obtain ⟨before, after, split, -⟩ := List.lookup_eq_some_iff.mp found
  obtain ⟨source, isPair⟩ := (of_mapM_eq_ok resolved).2 (name, text) (by simp [split])
  obtain ⟨value, isValue, same⟩ := exists_of_map_eq_ok isPair
  cases same
  exact ⟨value, isValue, rfl⟩

/-- A rendered template is small, and it is the template with its fields replaced. -/
theorem renderRawTemplate_eq (isRendered : policy.renderRawTemplate digit record protocol = .ok rendered) :
    byteSize rendered ≤ maxTemplateBytes ∧
      (parse policy.rawTemplate).segments.flatMap Segment.source = policy.rawTemplate ∧
      rendered = (parse policy.rawTemplate).segments.flatMap
        (·.substituted (replacement digit record (policy.effectiveProtocol protocol))) := by
  unfold RawPolicy.renderRawTemplate at isRendered
  split at isRendered
  · cases isRendered
  · split at isRendered
    · cases isRendered
    · obtain ⟨fields, checked, isRendered⟩ := exists_of_bind_eq_ok isRendered
      obtain ⟨values, resolved, isRendered⟩ := exists_of_bind_eq_ok isRendered
      obtain ⟨result, formatted, isRendered⟩ := exists_of_bind_eq_ok isRendered
      split at isRendered
      · cases isRendered
      · next small =>
        cases isRendered
        have isFormatted : format digit (values.lookup ·) policy.rawTemplate = .ok rendered := by
          cases outcome : format digit (values.lookup ·) policy.rawTemplate with
          | error error => rw [outcome] at formatted; cases formatted
          | ok text => rw [outcome] at formatted; exact congrArg _ (Except.ok.inj formatted)
        obtain ⟨_, each, -⟩ := exists_of_bind_eq_ok checked
        have isFlat := fun field member => checkField_isFlat (checkField_of_forM each field member)
        obtain ⟨done, same⟩ := format_eq_substituted
          (replacement digit record (policy.effectiveProtocol protocol)) isFormatted
          (fun segment member field hasField =>
            isFlat field (List.mem_filterMap.mpr ⟨segment, member, hasField⟩))
          (fun segment member field hasField text format found isFormat => by
            obtain ⟨value, isValue, rfl⟩ := lookup_placeholderValues resolved found
            simp only [replacement, isValue, isFormat])
        exact ⟨not_lt.mp small, parse_source done, same⟩

theorem filter_substituted {language : RawLanguage} {replacement : Field → Text} {segment : Segment}
    (inert : ∀ field, segment.field = some field → ∀ c ∈ replacement field, language.isIntroducer c = false) :
    (segment.substituted replacement).filter language.isIntroducer =
      segment.literal.filter language.isIntroducer := by
  rw [Segment.substituted, List.filter_append]
  cases hasField : segment.field with
  | none => exact List.append_nil _
  | some field =>
    have none : (replacement field).filter language.isIntroducer = [] :=
      List.filter_eq_nil_iff.mpr fun c member => by simp [inert field hasField c member]
    rw [Option.elim, none, List.append_nil]

/-- Values are inert: a field with a harmless fill character brings in no introducer, and where all fields have one
the introducers of two rendered records are the same. -/
theorem renderRawTemplate_inert : (∀ record rendered, policy.renderRawTemplate digit record protocol = .ok rendered →
      byteSize rendered ≤ maxTemplateBytes ∧
      ∃ segments : List Segment, segments.flatMap Segment.source = policy.rawTemplate ∧ rendered = segments.flatMap
          (·.substituted (replacement digit record (policy.effectiveProtocol protocol))) ∧
        ∀ segment ∈ segments, ∀ field, segment.field = some field → (∀ format, field.format digit = .ok format →
            (RawLanguage.ofProtocol (policy.effectiveProtocol protocol)).isIntroducer format.fill = false) →
          ∀ c ∈ replacement digit record (policy.effectiveProtocol protocol) field,
            (RawLanguage.ofProtocol (policy.effectiveProtocol protocol)).isIntroducer c = false) ∧
    ((∀ segment ∈ (parse policy.rawTemplate).segments, ∀ field, segment.field = some field →
        ∀ format, field.format digit = .ok format →
          (RawLanguage.ofProtocol (policy.effectiveProtocol protocol)).isIntroducer format.fill = false) →
      ∀ first second firstText secondText, policy.renderRawTemplate digit first protocol = .ok firstText →
        policy.renderRawTemplate digit second protocol = .ok secondText →
          firstText.filter (RawLanguage.ofProtocol (policy.effectiveProtocol protocol)).isIntroducer =
            secondText.filter (RawLanguage.ofProtocol (policy.effectiveProtocol protocol)).isIntroducer) := by
  refine ⟨fun record rendered isRendered => ?_, fun plain first second firstText secondText isFirst isSecond => ?_⟩
  · obtain ⟨small, source, same⟩ := renderRawTemplate_eq isRendered
    exact ⟨small, _, source, same, fun _ _ _ _ plain _ => isIntroducer_of_mem_replacement plain⟩
  · -- Both results have the introducers of the literals.
    obtain ⟨-, -, rfl⟩ := renderRawTemplate_eq isFirst
    obtain ⟨-, -, rfl⟩ := renderRawTemplate_eq isSecond
    rw [List.filter_flatMap, List.filter_flatMap]
    refine List.flatMap_congr fun segment member => ?_
    rw [filter_substituted fun field isField _ => isIntroducer_of_mem_replacement (plain segment member field isField),
      filter_substituted fun field isField _ => isIntroducer_of_mem_replacement (plain segment member field isField)]

/-- A label with a name in a field of eight characters. -/
def samplePolicy : RawPolicy where
  rawTemplate := "^XA^FD\x7bname:*>8\x7d^FS^XZ"
  rawProtocol := "zpl"

def asciiDigit (c : Char) : Option ℕ := if c.isDigit then some (c.toNat - 48) else none

def sampleRecord (name : String) : Record := fun field =>
  if field = "name" then some (.scalar (some name.toList)) else none

theorem samplePolicy_plain : ∀ segment ∈ (parse samplePolicy.rawTemplate).segments, ∀ field,
    segment.field = some field → ∀ format, field.format asciiDigit = .ok format →
      (RawLanguage.ofProtocol (samplePolicy.effectiveProtocol [])).isIntroducer format.fill = false := by
  have cut : (parse samplePolicy.rawTemplate).segments =
      [⟨"^XA^FD", some ⟨"name", none, some "*>8"⟩⟩, ⟨"^FS^XZ", none⟩] := by
    decide +kernel
  have isFormat : (⟨"name", none, some "*>8"⟩ : Field).format asciiDigit = .ok ⟨'*', .right, 8, none⟩ := by
    decide +kernel
  intro segment member field hasField format formatted
  rw [cut] at member
  obtain rfl | rfl := List.mem_pair.mp member
  · cases hasField
    obtain rfl := Except.ok.inj (isFormat.symm.trans formatted)
    decide +kernel
  · cases hasField

theorem renderRawTemplate_inert_sample : samplePolicy.renderRawTemplate asciiDigit (sampleRecord "A^~B") [] =
        .ok "^XA^FD******AB^FS^XZ" ∧
      ∀ record rendered, samplePolicy.renderRawTemplate asciiDigit record [] = .ok rendered →
        rendered.filter (RawLanguage.ofProtocol (samplePolicy.effectiveProtocol [])).isIntroducer = "^^^^" := by
  have isRendered : samplePolicy.renderRawTemplate asciiDigit (sampleRecord "A^~B") [] =
      .ok "^XA^FD******AB^FS^XZ" := by decide +kernel
  refine ⟨isRendered, fun record rendered other => ?_⟩
  rw [renderRawTemplate_inert.2 samplePolicy_plain record (sampleRecord "A^~B") rendered _ other isRendered]
  decide +kernel

end Render

end PrintGateway.Odoo
