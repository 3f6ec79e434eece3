import PrintGateway.Codec.FormatString
import PrintGateway.Model.Text

/-!
# Raw command templates

`render_raw_template` of a print policy: the checks of the template, the values of its placeholders and the
call of `str.format`.  The placeholders are resolved in the order of the template.
-/

namespace PrintGateway.Odoo

open Text Codec.FormatString

/-! ### Values -/

/-- The command languages that `sanitize_raw_value` tells apart. -/
inductive RawLanguage
  | zpl
  | tspl
  | other
  deriving DecidableEq, Repr

def RawLanguage.ofProtocol (protocol : Text) : RawLanguage :=
  let name := toLowerCase (strip protocol)
  if name = "zpl" then .zpl else if name = "tspl" then .tspl else .other

/-- `sanitize_raw_value` of a value as text; false and `None` have none. -/
def sanitizeRawValue (value : Option Text) (protocol : Text) : Text :=
  let keeps (c : Char) : Bool := match RawLanguage.ofProtocol protocol with
    | .zpl => c ∉ ['^', '~'] ∧ (' ' ≤ c ∨ c ∈ ['\n', '\t'])
    | .tspl => c ∉ ['"', '\r', '\n'] ∧ (' ' ≤ c ∨ c = '\t')
    | .other => c ≠ '\x7f' ∧ ' ' ≤ c
  (strip ((value.getD []).filter keeps)).take 200

/-! ### Records -/

structure Relation where
  id : ℕ
  displayName : Option Text
  deriving DecidableEq, Repr

/-- A field of a record with its value.  `scalar` stands for the types that are read as they are. -/
inductive RecordField
  | scalar (value : Option Text)
  | many2one (relation : Option Relation)
  | unsupported
  deriving DecidableEq, Repr

/-- `record._fields`, with the values. -/
abbrev Record := Text → Option RecordField

inductive RenderError
  | templateEmpty
  | templateTooLarge
  | attributeAccess
  | conversion
  | unnamed
  | specTooLong
  | nestedField
  | numberTooLarge
  | missing (placeholder : Text)
  | format (error : FormatError)
  | resultTooLarge
  deriving DecidableEq, Repr

/-- The value of a placeholder.  A name that is no field may be the id of a relation. -/
def Record.value (record : Record) (placeholder : Text) : Except RenderError (Option Text) :=
  let isId := record placeholder = none ∧ "_id" <:+ placeholder
  match record (if isId then placeholder.take (placeholder.length - 3) else placeholder) with
  | some (.scalar value) => if isId then .error (.missing placeholder) else .ok value
  | some (.many2one relation) =>
    .ok (if isId then relation.map (digits ·.id) else relation.bind (·.displayName))
  | some .unsupported | none => .error (.missing placeholder)

/-! ### Checks -/

def maxTemplateBytes : ℕ := 2 * 1024 * 1024

/-- `re.findall(r"[0-9]+", text)`, as numbers; `current` is the run that is being read. -/
def numbers (current : Option ℕ) : Text → List ℕ
  | [] => current.toList
  | c :: rest =>
    if c.isDigit then numbers (some (10 * current.getD 0 + (c.toNat - 48))) rest
    else current.toList ++ numbers none rest

/-- `_sanitize_template_field`. -/
def sanitizeTemplateField (field : Field) : Except RenderError Unit :=
  if '.' ∈ field.name ∨ '[' ∈ field.name ∨ contains field.name "__" then .error .attributeAccess
  else if field.formatConversion.isSome then .error .conversion
  else .ok ()

/-- The loop over the specification's own fields. -/
def checkNested (spec : Text) : Except RenderError Unit :=
  if (parse spec).segments.any (·.field.isSome) then .error .nestedField
  else
    match (parse spec).failure with
    | some error => .error (.format (.syntaxError error))
    | none => .ok ()

def checkField (field : Field) : Except RenderError Unit := do
  sanitizeTemplateField field
  if field.name = [] then .error .unnamed
  else if 32 < field.formatSpec.length then .error .specTooLong
  else do
    checkNested field.formatSpec
    if (numbers none field.formatSpec).any (4096 < ·) then .error .numberTooLarge else .ok ()

/-- The loop over the segments; an error of the parser comes after the fields before it. -/
def checkTemplate (template : Text) : Except RenderError (List Field) := do
  let fields := (parse template).segments.filterMap (·.field)
  fields.forM checkField
  match (parse template).failure with
  | some error => .error (.format (.syntaxError error))
  | none => .ok fields

/-! ### Rendering -/

structure RawPolicy where
  rawTemplate : Text
  rawProtocol : Text
  deriving DecidableEq, Repr

/-- The protocol that values are sanitised for. -/
def RawPolicy.effectiveProtocol (policy : RawPolicy) (protocol : Text) : Text :=
  toLowerCase (strip (if protocol = [] then policy.rawProtocol else protocol))

/-- The loop over the placeholders. -/
def placeholderValues (record : Record) (protocol : Text) (fields : List Field) :
    Except RenderError (List (Text × Text)) :=
  (fields.map (·.name)).dedup.mapM fun name =>
    (record.value name).map fun value => (name, sanitizeRawValue value protocol)

def RawPolicy.renderRawTemplate (policy : RawPolicy) (digit : Char → Option ℕ) (record : Record)
    (protocol : Text) : Except RenderError Text :=
  if policy.rawTemplate = [] then .error .templateEmpty
  else if maxTemplateBytes < byteSize policy.rawTemplate then .error .templateTooLarge
  else do
    let fields ← checkTemplate policy.rawTemplate
    let values ← placeholderValues record (policy.effectiveProtocol protocol) fields
    let rendered ← (format digit (values.lookup ·) policy.rawTemplate).mapError RenderError.format
    if maxTemplateBytes < byteSize rendered then .error .resultTooLarge else .ok rendered

end PrintGateway.Odoo
