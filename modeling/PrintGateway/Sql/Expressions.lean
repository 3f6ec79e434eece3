import Mathlib.Data.Fintype.Option
import PrintGateway.Json.Canonical

/-!
# SQL expressions

A value is an `Option`: `none` is `NULL`.  Conditions have three truth values.
-/

namespace Sql

/-! ### Truth values -/

abbrev Truth := Option Bool

def not (a : Truth) : Truth := a.map Bool.not

def or : Truth → Truth → Truth
  | some true, _ => some true
  | _, some true => some true
  | some false, some false => some false
  | _, _ => none

def and : Truth → Truth → Truth
  | some false, _ => some false
  | _, some false => some false
  | some true, some true => some true
  | _, _ => none

/-- A chain of `OR`. -/
def any (conditions : List Truth) : Truth := conditions.foldr or (some false)

@[simp] theorem not_some (a : Bool) : not (some a) = some (!a) := rfl

@[simp] theorem or_some (a b : Bool) : or (some a) (some b) = some (a || b) := by
  cases a <;> cases b <;> rfl

@[simp] theorem and_some (a b : Bool) : and (some a) (some b) = some (a && b) := by
  cases a <;> cases b <;> rfl

@[simp] theorem any_nil : any [] = some false := rfl

@[simp] theorem any_cons (a : Truth) (conditions : List Truth) : any (a :: conditions) = or a (any conditions) := rfl

theorem or_assoc : ∀ a b c : Truth, or a (or b c) = or (or a b) c := by decide

theorem false_or : ∀ a : Truth, or (some false) a = a := by decide

theorem any_append (first second : List Truth) : any (first ++ second) = or (any first) (any second) := by
  induction first with
  | nil => rw [List.nil_append, any_nil, false_or]
  | cons a first ih => rw [List.cons_append, any_cons, ih, or_assoc, any_cons]

theorem any_map_some {Item : Type*} (f : Item → Bool) (items : List Item) :
    any (items.map fun item => some (f item)) = some (items.any f) := by
  induction items with
  | nil => rfl
  | cons item items ih => rw [List.map_cons, any_cons, ih, or_some, List.any_cons]

/-! ### Values -/

section Values

variable {Value : Type*}

def eq [DecidableEq Value] (a b : Option Value) : Truth := a.bind fun a => b.map fun b => decide (a = b)

/-- `IN` with constants. -/
def among [DecidableEq Value] (a : Option Value) (values : List Value) : Truth :=
  any (values.map fun value => eq a (some value))

def coalesce (a b : Option Value) : Option Value := a.or b

/-- `CASE WHEN c THEN a ELSE b END`. -/
def caseWhen (condition : Truth) (a b : Option Value) : Option Value := if condition = some true then a else b

@[simp] theorem eq_some [DecidableEq Value] (a b : Value) : eq (some a) (some b) = some (decide (a = b)) := rfl

theorem among_some [DecidableEq Value] (a : Value) (values : List Value) :
    among (some a) values = some (decide (a ∈ values)) := by
  rw [among, show (fun value => eq (some a) (some value)) = fun value => some (decide (a = value)) from rfl,
    any_map_some]
  congr 1
  rw [Bool.eq_iff_iff]
  simp

end Values

/-! ### Texts -/

def lower (locale : Char → Char) (text : List Char) : List Char := text.map locale

def btrim (characters : List Char) (text : List Char) : List Char :=
  ((text.dropWhile (· ∈ characters)).reverse.dropWhile (· ∈ characters)).reverse

/-- `split_part(text, separator, 1)`. -/
def firstPart (separator : Char) (text : List Char) : List Char := text.takeWhile (· ≠ separator)

/-- `nullif(text, '')`. -/
def nullifEmpty (text : Option (List Char)) : Option (List Char) := if text = some [] then none else text

/-- `concat_ws`, which skips the missing values. -/
def concatWs (separator : List Char) (texts : List (Option (List Char))) : List Char :=
  separator.intercalate (texts.filterMap id)

/-- `string_agg` over rows without `NULL`; no rows give `NULL`. -/
def stringAgg (separator : List Char) (rows : List (List Char)) : Option (List Char) :=
  if rows = [] then none else some (separator.intercalate rows)

section Joins

variable {separator : List Char} {groups : List (List (List Char))}

theorem intercalate_append {first second : List (List Char)} (one : first ≠ []) (other : second ≠ []) :
    separator.intercalate (first ++ second) =
      separator.intercalate first ++ separator ++ separator.intercalate second := by
  induction first with
  | nil => exact absurd rfl one
  | cons text first ih =>
    by_cases last : first = []
    · rw [last, List.singleton_append, List.intercalate_cons_of_ne_nil other, List.intercalate_singleton]
    · rw [List.cons_append, List.intercalate_cons_of_ne_nil (by simp [last]), List.intercalate_cons_of_ne_nil last,
        ih last, ← List.append_assoc, ← List.append_assoc]

theorem intercalate_map_intercalate (filled : ∀ group ∈ groups, group ≠ []) :
    separator.intercalate (groups.map separator.intercalate) = separator.intercalate groups.flatten := by
  induction groups with
  | nil => rfl
  | cons group groups ih =>
    have first := filled group List.mem_cons_self
    have later := fun other member => filled other (List.mem_cons_of_mem _ member)
    cases groups with
    | nil => simp [List.intercalate_singleton]
    | cons next groups =>
      have flat : (next :: groups).flatten ≠ [] := by simp [later next List.mem_cons_self]
      rw [List.map_cons, List.intercalate_cons_of_ne_nil (by simp), ih later]
      exact (intercalate_append first flat).symm

/-- `concat_ws` over aggregated groups joins all the rows. -/
theorem concatWs_groups (filled : ∀ group ∈ groups, [] ∉ group) :
    concatWs separator (groups.map fun group => nullifEmpty (coalesce (stringAgg separator group) (some []))) =
      separator.intercalate groups.flatten := by
  have kept : ((groups.map fun group => nullifEmpty (coalesce (stringAgg separator group) (some []))).filterMap id) =
      (groups.filter (· ≠ [])).map separator.intercalate := by
    induction groups with
    | nil => rfl
    | cons group groups ih =>
      have later := ih fun other member => filled other (List.mem_cons_of_mem _ member)
      cases group with
      | nil => exact later
      | cons text group =>
        have full : separator.intercalate (text :: group) ≠ [] := by
          have some : text ≠ [] := fun none =>
            filled (text :: group) List.mem_cons_self (none ▸ List.mem_cons_self)
          cases group with
          | nil => rwa [List.intercalate_singleton]
          | cons next group => simp [List.intercalate_cons_cons, some]
        have shown : nullifEmpty (coalesce (stringAgg separator (text :: group)) (some [])) =
            some (separator.intercalate (text :: group)) := by
          simp [nullifEmpty, coalesce, stringAgg, full]
        rw [List.map_cons, List.filterMap_cons_some (by exact shown), later, List.filter_cons_of_pos (by simp),
          List.map_cons]
  rw [concatWs, kept, intercalate_map_intercalate fun group member => by simpa using (List.mem_filter.mp member).2]
  rw [List.flatten_filter_ne_nil]

end Joins

variable {text pattern literal : List Char}

/-- `LIKE`; a pattern does not end in a backslash. -/
def like : List Char → List Char → Bool
  | [], text => text.isEmpty
  | '%' :: pattern, text => text.tails.any (like pattern)
  | '_' :: pattern, _ :: text => like pattern text
  | '\\' :: c :: pattern, d :: text => c == d && like pattern text
  | c :: pattern, d :: text => c == d && like pattern text
  | _ :: _, [] => false

/-- `LIKE ANY (ARRAY[...])`. -/
def likeAny (text : Option (List Char)) (patterns : List (List Char)) : Truth :=
  any (patterns.map fun pattern => text.map (like pattern))

/-- The special characters of a pattern with a backslash. -/
def escape (literal : List Char) : List Char :=
  literal.flatMap fun c => if c = '\\' ∨ c = '%' ∨ c = '_' then ['\\', c] else [c]

theorem likeAny_some (text : List Char) (patterns : List (List Char)) :
    likeAny (some text) patterns = some (patterns.any fun pattern => like pattern text) :=
  any_map_some (fun pattern => like pattern text) patterns

theorem like_nil_iff : like [] text = true ↔ text = [] := by
  rw [like, List.isEmpty_iff]

theorem like_percent_iff : like ('%' :: pattern) text = true ↔ ∃ rest, rest <:+ text ∧ like pattern rest = true := by
  rw [like, List.any_eq_true]
  simp only [List.mem_tails]

/-- One escaped character matches itself. -/
theorem like_escape_cons {c : Char} : like (escape (c :: literal) ++ pattern) text = true ↔
      ∃ rest, text = c :: rest ∧ like (escape literal ++ pattern) rest = true := by
  rw [escape, List.flatMap_cons, ← escape, List.append_assoc]
  cases text with
  | nil =>
    split
    · simp [like]
    · next plain =>
      have noPercent : c ≠ '%' := fun same => plain (.inr (.inl same))
      simp [like]
  | cons d text =>
    have step : ∀ first, first = (if c = '\\' ∨ c = '%' ∨ c = '_' then ['\\', c] else [c]) →
        like (first ++ (escape literal ++ pattern)) (d :: text) =
          (c == d && like (escape literal ++ pattern) text) := by
      rintro first rfl
      split
      · simp [like]
      · next plain =>
        obtain ⟨noBackslash, noPercent, noUnderscore⟩ : c ≠ '\\' ∧ c ≠ '%' ∧ c ≠ '_' := by
          simpa only [not_or] using plain
        simp [like, noBackslash]
    rw [step _ rfl, Bool.and_eq_true, beq_iff_eq]
    constructor
    · rintro ⟨rfl, matched⟩
      exact ⟨text, rfl, matched⟩
    · rintro ⟨rest, same, matched⟩
      obtain ⟨rfl, rfl⟩ := List.cons.inj same
      exact ⟨rfl, matched⟩

/-- An escaped literal matches itself. -/
theorem like_escape_append :
    like (escape literal ++ pattern) text = true ↔ ∃ rest, text = literal ++ rest ∧ like pattern rest = true := by
  induction literal generalizing text with
  | nil => simp [escape]
  | cons c literal ih =>
    rw [like_escape_cons]
    constructor
    · rintro ⟨rest, rfl, matched⟩
      obtain ⟨tail, rfl, ends⟩ := ih.mp matched
      exact ⟨tail, rfl, ends⟩
    · rintro ⟨rest, rfl, matched⟩
      exact ⟨literal ++ rest, rfl, ih.mpr ⟨rest, rfl, matched⟩⟩

theorem like_startsWith_iff : like (escape literal ++ ['%']) text = true ↔ literal <+: text := by
  rw [like_escape_append]
  constructor
  · rintro ⟨rest, rfl, -⟩
    exact List.prefix_append literal rest
  · rintro ⟨rest, rfl⟩
    exact ⟨rest, rfl, like_percent_iff.mpr ⟨[], List.nil_suffix, like_nil_iff.mpr rfl⟩⟩

theorem like_endsWith_iff : like ('%' :: escape literal) text = true ↔ literal <:+ text := by
  rw [like_percent_iff]
  constructor
  · rintro ⟨rest, suffix, matched⟩
    rw [← List.append_nil (escape literal), like_escape_append] at matched
    obtain ⟨tail, rfl, ends⟩ := matched
    rwa [like_nil_iff.mp ends, List.append_nil] at suffix
  · intro suffix
    refine ⟨literal, suffix, ?_⟩
    rw [← List.append_nil (escape literal), like_escape_append]
    exact ⟨[], (List.append_nil literal).symm, like_nil_iff.mpr rfl⟩

theorem like_contains_iff : like ('%' :: (escape literal ++ ['%'])) text = true ↔ literal <:+: text := by
  rw [like_percent_iff]
  constructor
  · rintro ⟨rest, suffix, matched⟩
    exact (like_startsWith_iff.mp matched).isInfix.trans suffix.isInfix
  · rintro ⟨before, after, rfl⟩
    exact ⟨literal ++ after, ⟨before, (List.append_assoc _ _ _).symm⟩,
      like_startsWith_iff.mpr (List.prefix_append literal after)⟩

/-! ### `jsonb` -/

inductive JsonType
  | null
  | boolean
  | number
  | string
  | array
  | object
  deriving DecidableEq, Repr

def jsonType : Json.Value → JsonType
  | .null => .null
  | .bool _ => .boolean
  | .num _ => .number
  | .str _ => .string
  | .arr _ => .array
  | .obj _ => .object

/-- `jsonb_typeof`. -/
def typeof (value : Option Json.Value) : Option JsonType := value.map jsonType

/-- `value -> key`. -/
def field (value : Option Json.Value) (key : List Char) : Option Json.Value :=
  value.bind fun
    | .obj fields => Json.get? fields key
    | _ => none

/-- `value ? key` for an object. -/
def hasKey (value : Option Json.Value) (key : List Char) : Truth :=
  value.map fun
    | .obj fields => (Json.get? fields key).isSome
    | _ => false

/-- `value #>> '\x7b\x7d'` of a string. -/
def content (value : Option Json.Value) : Option (List Char) :=
  value.bind fun
    | .str text => some text
    | _ => none

/-- `nullif(value, 'null'::jsonb)`. -/
def nullifNull (value : Option Json.Value) : Option Json.Value :=
  value.bind fun
    | .null => none
    | value => some value

/-- `value = 'true'::jsonb`. -/
def isTrue (value : Option Json.Value) : Truth :=
  value.map fun
    | .bool truth => truth
    | _ => false

/-- `jsonb_array_elements` of an array. -/
def elements (value : Option Json.Value) : List Json.Value :=
  match value with
  | some (.arr items) => items
  | _ => []

end Sql
