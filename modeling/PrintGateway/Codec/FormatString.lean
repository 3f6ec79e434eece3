import Mathlib.Algebra.Group.Nat.Defs
import Mathlib.Data.List.TakeDrop
import Mathlib.Data.List.TakeWhile
import PrintGateway.Machine.Keyed

/-!
# Format strings

The replacement fields of Python's `str.format` and the format specifications of strings.  A format string is
cut into segments, each a literal and perhaps a field.  A double brace stands for itself and ends a segment.
-/

namespace Codec.FormatString

open Machine (exists_of_bind_eq_ok)

def openBrace : Char := '\x7b'

def closeBrace : Char := '\x7d'

def isBrace (c : Char) : Bool := c == openBrace || c == closeBrace

/-! ### Fields -/

/-- A replacement field; `spec` is what stands after the colon, if there is one. -/
structure Field where
  name : List Char
  conversion : Option Char
  spec : Option (List Char)
  deriving DecidableEq, Repr

structure Segment where
  literal : List Char
  field : Option Field
  deriving DecidableEq, Repr

inductive SyntaxError
  | singleBrace
  | braceInName
  | fieldNotClosed
  | specNotClosed
  | conversionMissing
  | colonMissing
  deriving DecidableEq, Repr

/-- The specification as the formatter sees it. -/
def Field.formatSpec (field : Field) : List Char := field.spec.getD []

/-- The conversion as the formatter sees it: the null character stands for none. -/
def Field.formatConversion (field : Field) : Option Char := field.conversion.filter (· ≠ '\x00')

/-- The text of a field. -/
def Field.source (field : Field) : List Char :=
  [openBrace] ++ field.name ++ (field.conversion.elim [] fun c => ['!', c]) ++
    (field.spec.elim [] fun spec => ':' :: spec) ++ [closeBrace]

/-- The text of a segment, with the braces of its literal doubled. -/
def Segment.source (segment : Segment) : List Char :=
  (segment.literal.flatMap fun c => if isBrace c then [c, c] else [c]) ++ segment.field.elim [] Field.source

/-- The name of a field, the character that ends it and what follows.  Nothing ends it between brackets. -/
def scanName (bracket : Bool) : List Char → Except SyntaxError (List Char × Char × List Char)
  | [] => .error .fieldNotClosed
  | c :: rest =>
    if bracket then (scanName (c ≠ ']') rest).map fun found => (c :: found.1, found.2)
    else if c = openBrace then .error .braceInName
    else if c = closeBrace ∨ c = ':' ∨ c = '!' then .ok ([], c, rest)
    else (scanName (c = '[') rest).map fun found => (c :: found.1, found.2)

/-- The specification up to the brace that closes the field, `depth` braces being open in it. -/
def scanSpec (depth : ℕ) : List Char → Except SyntaxError (List Char × List Char)
  | [] => .error .specNotClosed
  | c :: rest =>
    if c = openBrace then (scanSpec (depth + 1) rest).map fun found => (c :: found.1, found.2)
    else if c = closeBrace then
      match depth with
      | 0 => .ok ([], rest)
      | depth + 1 => (scanSpec depth rest).map fun found => (c :: found.1, found.2)
    else (scanSpec depth rest).map fun found => (c :: found.1, found.2)

/-- `parse_field`, after the opening brace. -/
def parseField (text : List Char) : Except SyntaxError (Field × List Char) := do
  let found ← scanName false text
  if found.2.1 = closeBrace then .ok (⟨found.1, none, none⟩, found.2.2)
  else if found.2.1 = ':' then (scanSpec 0 found.2.2).map fun spec => (⟨found.1, none, some spec.1⟩, spec.2)
  else
    match found.2.2 with
    | [] => .error .conversionMissing
    | [_] => .error .specNotClosed
    | conversion :: c :: rest =>
      if c = closeBrace then .ok (⟨found.1, some conversion, none⟩, rest)
      else if c = ':' then (scanSpec 0 rest).map fun spec => (⟨found.1, some conversion, some spec.1⟩, spec.2)
      else .error .colonMissing

/-- `MarkupIterator_next`. -/
def nextSegment (text : List Char) : Except SyntaxError (Segment × List Char) :=
  let literal := text.takeWhile fun c => !isBrace c
  match text.dropWhile fun c => !isBrace c with
  | [] => .ok (⟨literal, none⟩, [])
  | [_] => .error .singleBrace
  | c :: next :: rest =>
    if next = c then .ok (⟨literal ++ [c], none⟩, rest)
    else if c = closeBrace then .error .singleBrace
    else (parseField (next :: rest)).map fun found => (⟨literal, some found.1⟩, found.2)

/-- The segments up to the first error, as the generator of `parse` yields them. -/
structure Parsed where
  segments : List Segment
  failure : Option SyntaxError
  deriving DecidableEq, Repr

def parseWithin : ℕ → List Char → Parsed
  | 0, _ => ⟨[], none⟩
  | _ + 1, [] => ⟨[], none⟩
  | fuel + 1, c :: text =>
    match nextSegment (c :: text) with
    | .error error => ⟨[], some error⟩
    | .ok (segment, rest) => let parsed := parseWithin fuel rest
      ⟨segment :: parsed.segments, parsed.failure⟩

/-- Every segment takes a character. -/
def parse (text : List Char) : Parsed := parseWithin text.length text

/-! ### The segments are the text -/

section Source

variable {text rest : List Char} {segment : Segment}

theorem scanName_source {bracket : Bool} {name : List Char} {stop : Char}
    (scanned : scanName bracket text = .ok (name, stop, rest)) :
    text = name ++ stop :: rest ∧ (stop = closeBrace ∨ stop = ':' ∨ stop = '!') := by
  induction text generalizing bracket name with
  | nil => cases scanned
  | cons c text ih =>
    -- The scan goes on in the same way inside and outside of brackets.
    have onward : ∀ {inside : Bool},
        (scanName inside text).map (fun found => (c :: found.1, found.2)) = .ok (name, stop, rest) →
          c :: text = name ++ stop :: rest ∧ (stop = closeBrace ∨ stop = ':' ∨ stop = '!') := by
      intro inside mapped
      obtain ⟨⟨tail, stop', rest'⟩, found, same⟩ := Machine.exists_of_map_eq_ok mapped
      cases same
      obtain ⟨split, stops⟩ := ih found
      exact ⟨by rw [split]; rfl, stops⟩
    unfold scanName at scanned
    split at scanned
    · exact onward scanned
    · split at scanned
      · cases scanned
      · split at scanned
        · next stops =>
          cases scanned
          exact ⟨rfl, stops⟩
        · exact onward scanned

theorem scanSpec_source {depth : ℕ} {spec : List Char} (scanned : scanSpec depth text = .ok (spec, rest)) :
    text = spec ++ closeBrace :: rest := by
  induction text generalizing depth spec with
  | nil => cases scanned
  | cons c text ih =>
    have onward : ∀ {inner : ℕ}, (scanSpec inner text).map (fun found => (c :: found.1, found.2)) = .ok (spec, rest) →
          c :: text = spec ++ closeBrace :: rest := by
      intro inner mapped
      obtain ⟨⟨tail, rest'⟩, found, same⟩ := Machine.exists_of_map_eq_ok mapped
      cases same
      rw [ih found]
      rfl
    unfold scanSpec at scanned
    split at scanned
    · exact onward scanned
    · split at scanned
      · next closes =>
        split at scanned
        · cases scanned
          rw [closes]
          rfl
        · exact onward scanned
      · exact onward scanned

theorem parseField_source {field : Field} (parsed : parseField text = .ok (field, rest)) :
    openBrace :: text = field.source ++ rest := by
  obtain ⟨⟨name, stop, tail⟩, scanned, parsed⟩ := exists_of_bind_eq_ok parsed
  obtain ⟨split, stops⟩ := scanName_source scanned
  dsimp only at parsed
  rw [split]
  split at parsed
  · next closes =>
    cases parsed
    simp [Field.source, closes]
  · split at parsed
    · next colon =>
      obtain ⟨⟨spec, after⟩, specScanned, same⟩ := Machine.exists_of_map_eq_ok parsed
      cases same
      simp [Field.source, colon, scanSpec_source specScanned]
    · next unclosed uncoloned =>
      obtain rfl : stop = '!' := by
        obtain closes | colon | bang := stops
        · exact absurd closes unclosed
        · exact absurd colon uncoloned
        · exact bang
      split at parsed
      · cases parsed
      · cases parsed
      · split at parsed
        · next closes =>
          cases parsed
          simp [Field.source, closes]
        · split at parsed
          · next colon =>
            obtain ⟨⟨spec, after⟩, specScanned, same⟩ := Machine.exists_of_map_eq_ok parsed
            cases same
            simp [Field.source, colon, scanSpec_source specScanned]
          · cases parsed

theorem doubled_takeWhile (text : List Char) :
    ((text.takeWhile fun c => !isBrace c).flatMap fun c => if isBrace c then [c, c] else [c]) =
      text.takeWhile fun c => !isBrace c := by
  rw [List.flatMap_congr (g := fun c => [c]), List.flatMap_singleton']
  intro c member
  have plain := List.mem_takeWhile_imp member
  rw [if_neg (by simpa using plain)]

/-- A segment is the beginning of the text, and takes a character where there is one. -/
theorem nextSegment_source (next : nextSegment text = .ok (segment, rest)) :
    text = segment.source ++ rest ∧ (text ≠ [] → rest.length < text.length) := by
  obtain ⟨literal, isLiteral⟩ : ∃ literal, (text.takeWhile fun c => !isBrace c) = literal := ⟨_, rfl⟩
  obtain ⟨tail, isTail⟩ : ∃ tail, (text.dropWhile fun c => !isBrace c) = tail := ⟨_, rfl⟩
  have cut : text = literal ++ tail := by
    rw [← isLiteral, ← isTail, List.takeWhile_append_dropWhile]
  have doubled : (literal.flatMap fun c => if isBrace c then [c, c] else [c]) = literal := by
    rw [← isLiteral, doubled_takeWhile]
  have brace : ∀ {c more}, tail = c :: more → isBrace c = true := by
    intro c more starts
    have head := List.head?_dropWhile_not (fun c => !isBrace c) text
    rw [isTail, starts] at head
    simpa using head
  dsimp only [nextSegment] at next
  rw [isLiteral, isTail] at next
  rw [cut]
  cases tail with
  | nil =>
    cases next
    exact ⟨by simp [Segment.source, doubled], List.length_pos_of_ne_nil⟩
  | cons c more =>
    have isOne := brace rfl
    cases more with
    | nil => cases next
    | cons follower after =>
      dsimp only at next
      split at next
      · next double =>
        cases next
        exact ⟨by simp [Segment.source, doubled, isOne, double], fun _ => by simp; omega⟩
      · split at next
        · cases next
        · next notClosed =>
          obtain ⟨⟨field, left⟩, parsed, same⟩ := Machine.exists_of_map_eq_ok next
          cases same
          obtain rfl : c = openBrace := by
            simpa [isBrace, notClosed] using isOne
          have field_source := parseField_source parsed
          have length := congrArg List.length field_source
          simp only [Field.source, List.length_append, List.length_cons] at length
          refine ⟨by simp [Segment.source, doubled, field_source], fun _ => ?_⟩
          simp only [List.length_append, List.length_cons]
          omega

theorem parseWithin_source {fuel : ℕ} (enough : text.length ≤ fuel)
    (done : (parseWithin fuel text).failure = none) :
    (parseWithin fuel text).segments.flatMap Segment.source = text := by
  fun_induction parseWithin fuel text with
  | case1 text => simpa using enough
  | case2 fuel => rfl
  | case3 fuel c text error failed => cases done
  | case4 fuel c text segment rest next parsed ih =>
    obtain ⟨split, shorter⟩ := nextSegment_source next
    have shorter := shorter (List.cons_ne_nil _ _)
    rw [List.flatMap_cons, ih (by simp at shorter enough; omega) done, ← split]

/-- A text without errors is the concatenation of its segments. -/
theorem parse_source (done : (parse text).failure = none) : (parse text).segments.flatMap Segment.source = text :=
  parseWithin_source le_rfl done

end Source

/-! ### Formatting a string -/

inductive Align
  | left
  | right
  | center
  | numeric
  deriving DecidableEq, Repr

def Align.ofChar? (c : Char) : Option Align :=
  if c = '<' then some .left else if c = '>' then some .right else if c = '^' then some .center
  else if c = '=' then some .numeric else none

/-- A specification for a string. -/
structure StringFormat where
  fill : Char
  align : Align
  width : ℕ
  precision : Option ℕ
  deriving DecidableEq, Repr

inductive FormatError
  | syntaxError (error : SyntaxError)
  | spec
  | positional
  | missing (name : List Char)
  | recursionTooDeep
  deriving DecidableEq, Repr

/-- The fill character and the alignment at the start of a specification, and what follows. -/
def takeAlign : List Char → Option Char × Option Align × List Char
  | [] => (none, none, [])
  | [c] => match Align.ofChar? c with
    | some align => (none, some align, [])
    | none => (none, none, [c])
  | fill :: c :: rest => match Align.ofChar? c, Align.ofChar? fill with
    | some align, _ => (some fill, some align, rest)
    | none, some align => (none, some align, c :: rest)
    | none, none => (none, none, fill :: c :: rest)

section Format

-- `digit` is the value of a decimal digit, of any script.
variable (digit : Char → Option ℕ)

variable {f : Segment → Except FormatError (List Char)} {g : Segment → List Char}
  {segments : List Segment}

/-- `get_integer`: the number of digits, the number and what follows. -/
def takeNumber (text : List Char) : ℕ × ℕ × List Char :=
  let digits := text.takeWhile fun c => (digit c).isSome
  (digits.length, digits.foldl (fun value c => 10 * value + (digit c).getD 0) 0,
    text.dropWhile fun c => (digit c).isSome)

/-- `parse_internal_render_format_spec` and the checks of `format_string_internal`.  A string takes no sign, no
flags and no separators, and its only type is `s`. -/
def parseSpec (text : List Char) : Except FormatError StringFormat :=
  let aligned := takeAlign text
  let isZero := aligned.1 = none ∧ aligned.2.2.head? = some '0'
  let width := takeNumber digit (if isZero then aligned.2.2.tail else aligned.2.2)
  let isPrecise := width.2.2.head? = some '.'
  let precision := takeNumber digit width.2.2.tail
  let rest := if isPrecise then precision.2.2 else width.2.2
  if aligned.2.1 = some .numeric then .error .spec
  else if 2 ^ 63 ≤ width.2.1 ∨ isPrecise ∧ (precision.1 = 0 ∨ 2 ^ 63 ≤ precision.2.1) then .error .spec
  else if rest ≠ [] ∧ rest ≠ ['s'] then .error .spec
  else .ok ⟨aligned.1.getD (if isZero then '0' else ' '), aligned.2.1.getD .left, width.2.1,
    if isPrecise then some precision.2.1 else none⟩

/-- `format_string_internal`. -/
def StringFormat.apply (format : StringFormat) (value : List Char) : List Char :=
  let kept := format.precision.elim value value.take
  let padding := format.width - kept.length
  let before := match format.align with
    | .right => padding
    | .center => padding / 2
    | .left | .numeric => 0
  List.replicate before format.fill ++ kept ++ List.replicate (padding - before) format.fill

theorem StringFormat.mem_apply {format : StringFormat} {value : List Char} {c : Char}
    (member : c ∈ format.apply value) : c ∈ value ∨ c = format.fill := by
  dsimp only [apply] at member
  rw [List.mem_append, List.mem_append] at member
  obtain (padding | kept) | padding := member
  · exact .inr (List.eq_of_mem_replicate padding)
  · cases precise : format.precision with
    | none => simp only [precise, Option.elim] at kept; exact .inl kept
    | some precision => simp only [precise, Option.elim] at kept; exact .inl (List.mem_of_mem_take kept)
  · exact .inr (List.eq_of_mem_replicate padding)

/-- A field's value.  Names with attributes or indices are not looked up here. -/
def lookup (values : List Char → Option (List Char)) (name : List Char) : Except FormatError (List Char) :=
  if name.all fun c => (digit c).isSome then .error .positional
  else
    match values name with
    | some value => .ok value
    | none => .error (.missing name)

/-- `build_string`; conversions are not applied. -/
def formatWithin (values : List Char → Option (List Char)) : ℕ → List Char → Except FormatError (List Char)
  | 0, _ => .error .recursionTooDeep
  | depth + 1, text => do
    let pieces ← (parse text).segments.mapM fun segment =>
      match segment.field with
      | none => .ok segment.literal
      | some field => do
        let value ← lookup digit values field.name
        let spec ← (if openBrace ∈ field.formatSpec then formatWithin values depth field.formatSpec
          else .ok field.formatSpec)
        let format ← parseSpec digit spec
        .ok (segment.literal ++ format.apply value)
    match (parse text).failure with
    | none => .ok pieces.flatten
    | some error => .error (.syntaxError error)

/-- `str.format` with keyword arguments. -/
def format (values : List Char → Option (List Char)) (text : List Char) : Except FormatError (List Char) :=
  formatWithin digit values 2 text

/-- The format of a field whose specification has no fields itself. -/
def Field.format (field : Field) : Except FormatError StringFormat :=
  parseSpec digit (if openBrace ∈ field.formatSpec then (parse field.formatSpec).segments.flatMap (·.literal)
    else field.formatSpec)

/-- A specification without fields. -/
def Field.IsFlat (field : Field) : Prop :=
  (parse field.formatSpec).failure = none ∧ ∀ segment ∈ (parse field.formatSpec).segments, segment.field = none

/-- A segment with its field replaced. -/
def Segment.substituted (replacement : Field → List Char) (segment : Segment) : List Char :=
  segment.literal ++ segment.field.elim [] replacement

variable {digit} {values : List Char → Option (List Char)} {text result : List Char} {depth : ℕ}

theorem mapM_eq_ok (each : ∀ segment ∈ segments, f segment = .ok (g segment)) :
    segments.mapM f = .ok (segments.map g) := by
  induction segments with
  | nil => rfl
  | cons segment segments ih =>
    rw [List.mapM_cons, each segment List.mem_cons_self,
      ih fun other member => each other (List.mem_cons_of_mem _ member)]
    rfl

theorem flatten_of_mapM {pieces : List (List Char)} (mapped : segments.mapM f = .ok pieces)
    (each : ∀ segment ∈ segments, ∀ piece, f segment = .ok piece → piece = g segment) :
    pieces.flatten = segments.flatMap g := by
  induction segments generalizing pieces with
  | nil =>
    cases mapped
    rfl
  | cons segment segments ih =>
    rw [List.mapM_cons] at mapped
    obtain ⟨piece, first, mapped⟩ := exists_of_bind_eq_ok mapped
    obtain ⟨others, later, mapped⟩ := exists_of_bind_eq_ok mapped
    cases mapped
    rw [List.flatten_cons, List.flatMap_cons, each segment List.mem_cons_self piece first,
      ih later fun other member => each other (List.mem_cons_of_mem _ member)]

/-- A text without fields stands for its literals. -/
theorem formatWithin_flat (done : (parse text).failure = none)
    (flat : ∀ segment ∈ (parse text).segments, segment.field = none) :
    formatWithin digit values (depth + 1) text = .ok ((parse text).segments.flatMap (·.literal)) := by
  rw [formatWithin, mapM_eq_ok (g := (·.literal)) fun segment member => by rw [flat segment member], done]
  rfl

/-- A formatted text is the text with its fields replaced. -/
theorem format_eq_substituted (replacement : Field → List Char)
    (formatted : format digit values text = .ok result)
    (flat : ∀ segment ∈ (parse text).segments, ∀ field, segment.field = some field → field.IsFlat)
    (replaces : ∀ segment ∈ (parse text).segments, ∀ field, segment.field = some field →
      ∀ value format, values field.name = some value → field.format digit = .ok format →
        replacement field = format.apply value) :
    (parse text).failure = none ∧ result = (parse text).segments.flatMap (·.substituted replacement) := by
  rw [format, formatWithin] at formatted
  obtain ⟨pieces, mapped, formatted⟩ := exists_of_bind_eq_ok formatted
  cases done : (parse text).failure with
  | some error => simp [done] at formatted
  | none =>
    simp only [done] at formatted
    cases formatted
    refine ⟨rfl, flatten_of_mapM mapped fun segment member piece isPiece => ?_⟩
    cases hasField : segment.field with
    | none =>
      simp only [hasField] at isPiece
      cases isPiece
      simp [Segment.substituted, hasField]
    | some field =>
      simp only [hasField] at isPiece
      obtain ⟨value, looked, isPiece⟩ := exists_of_bind_eq_ok isPiece
      obtain ⟨spec, expanded, isPiece⟩ := exists_of_bind_eq_ok isPiece
      obtain ⟨format, parsed, isPiece⟩ := exists_of_bind_eq_ok isPiece
      cases isPiece
      have isFlat := flat segment member field hasField
      have isFormat : field.format digit = .ok format := by
        rw [formatWithin_flat isFlat.1 isFlat.2] at expanded
        rw [Field.format, ← parsed]
        split at expanded
        · next braced => rw [if_pos braced, Except.ok.inj expanded]
        · next plain => rw [if_neg plain, Except.ok.inj expanded]
      have isValue : values field.name = some value := by
        unfold lookup at looked
        split at looked
        · cases looked
        · split at looked
          · next found =>
            cases looked
            exact found
          · cases looked
      simp [Segment.substituted, hasField, replaces segment member field hasField value format isValue isFormat]

end Format

end Codec.FormatString
