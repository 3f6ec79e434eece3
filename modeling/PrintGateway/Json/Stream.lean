import PrintGateway.Json.Quoting

/-!
# A streaming JSON decoder

The decoder hands out one token at a time and keeps a state that says what may follow, with a stack for
the open objects and arrays.  A caller can also decode a whole value in place.  The lemmas give the
tokens of a written text one after the other.
-/

namespace Json

/-- What may follow. -/
inductive TokenState
  | topValue
  | arrayStart
  | arrayValue
  | arrayComma
  | objectStart
  | objectKey
  | objectColon
  | objectValue
  | objectComma
  deriving DecidableEq, Repr

/-- A number literal, in its parts. -/
structure Number where
  sign : List Char
  integer : List Char
  fraction : List Char
  exponent : List Char
  deriving DecidableEq, Repr

inductive Token
  | delim (c : Char)
  | string (text : List Char)
  | number (number : Number)
  | word (literal : List Char)
  deriving DecidableEq, Repr

/-- No input is left, or what is left is no such token. -/
inductive Failure
  | eof
  | invalid
  deriving DecidableEq, Repr

structure Decoder where
  rest : List Char
  state : TokenState
  stack : List TokenState
  deriving DecidableEq, Repr

namespace TokenState

def valueAllowed : TokenState → Bool
  | topValue | arrayStart | arrayValue | objectValue => true
  | arrayComma | objectStart | objectKey | objectColon | objectComma => false

/-- The state once a value was read. -/
def valueEnd : TokenState → TokenState
  | arrayStart | arrayValue => arrayComma
  | objectValue => objectComma
  | state => state

end TokenState

/-! ### Scalars -/

def isSpace (c : Char) : Bool := c == ' ' || c.toNat == 9 || c.toNat == 10 || c.toNat == 13

def skipSpace (text : List Char) : List Char := text.dropWhile isSpace

/-- A sign, if there is one. -/
def scanSign : List Char → List Char × List Char
  | '-' :: rest => (['-'], rest)
  | rest => ([], rest)

/-- Digits, of which there must be one at least. -/
def scanDigits (text : List Char) : Option (List Char × List Char) :=
  if text.takeWhile Char.isDigit = [] then none
  else some (text.takeWhile Char.isDigit, text.dropWhile Char.isDigit)

/-- The integer part of a number: no leading zeros. -/
def scanInteger : List Char → Option (List Char × List Char)
  | '0' :: rest => some (['0'], rest)
  | text => scanDigits text

def scanFraction : List Char → Option (List Char × List Char)
  | '.' :: rest => (scanDigits rest).map fun scanned => ('.' :: scanned.1, scanned.2)
  | text => some ([], text)

/-- The sign of an exponent. -/
def scanExponentSign : List Char → List Char × List Char
  | '+' :: rest => (['+'], rest)
  | '-' :: rest => (['-'], rest)
  | rest => ([], rest)

def scanExponent : List Char → Option (List Char × List Char)
  | c :: rest =>
    if c = 'e' ∨ c = 'E' then
      (scanDigits (scanExponentSign rest).2).map fun scanned =>
        (c :: (scanExponentSign rest).1 ++ scanned.1, scanned.2)
    else some ([], c :: rest)
  | [] => some ([], [])

def scanNumber (text : List Char) : Option (Number × List Char) := do
  let (integer, rest) ← scanInteger (scanSign text).2
  let (fraction, rest) ← scanFraction rest
  let (exponent, rest) ← scanExponent rest
  return (⟨(scanSign text).1, integer, fraction, exponent⟩, rest)

def digitsValue (digits : List Char) : ℕ :=
  digits.foldl (fun value c => value * 10 + (c.toNat - 48)) 0

/-- The 64-bit integer a literal stands for. -/
def Number.toInt (n : Number) : Option ℤ :=
  if n.fraction = [] ∧ n.exponent = [] then
    let magnitude : ℤ := digitsValue n.integer
    let value := if n.sign = [] then magnitude else -magnitude
    if -9223372036854775808 ≤ value ∧ value ≤ 9223372036854775807 then some value else none
  else none

/-- The words of the language. -/
def words : List (List Char) := ["true".toList, "false".toList, "null".toList]

/-- A word at the beginning of the text. -/
def scanWord (text : List Char) : Option (List Char × List Char) :=
  (words.find? fun word => word.isPrefixOf text).map fun word => (word, text.drop word.length)

/-- A scalar value at the beginning of the text. -/
def scanScalar (text : List Char) : Option (Token × List Char) :=
  match text with
  | [] => none
  | c :: rest =>
    if c = quoteMark then (readString rest).map fun read => (.string read.1, read.2)
    else if c = '-' ∨ c.isDigit = true then
      (scanNumber text).map fun scanned => (.number scanned.1, scanned.2)
    else (scanWord text).map fun scanned => (.word scanned.1, scanned.2)

/-! ### Tokens -/

namespace Decoder

/-- The decoder at the beginning of a text. -/
def start (text : List Char) : Decoder := ⟨text, .topValue, []⟩

/-- There is another element in the open object or array. -/
def more (d : Decoder) : Bool :=
  match skipSpace d.rest with
  | [] => false
  | c :: _ => c != ']' && c != '}'

/-- Consume a separator the state waits for. -/
def separated (d : Decoder) : Decoder :=
  match skipSpace d.rest with
  | [] => d
  | c :: rest =>
    if c = ':' ∧ d.state = .objectColon then ⟨rest, .objectValue, d.stack⟩
    else if c = ',' ∧ d.state = .arrayComma then ⟨rest, .arrayValue, d.stack⟩
    else if c = ',' ∧ d.state = .objectComma then ⟨rest, .objectKey, d.stack⟩
    else d

/-- Open an object or an array. -/
def opened (d : Decoder) (c : Char) (rest : List Char) (inside : TokenState) : Except Failure (Token × Decoder) :=
  if d.state.valueAllowed then .ok (.delim c, ⟨rest, inside, d.state :: d.stack⟩)
  else .error .invalid

/-- Close the innermost object or array, which the state has to allow. -/
def closed (d : Decoder) (c : Char) (rest : List Char) (allowed : Bool) : Except Failure (Token × Decoder) :=
  match allowed, d.stack with
  | true, outer :: stack => .ok (.delim c, ⟨rest, outer.valueEnd, stack⟩)
  | _, _ => .error .invalid

/-- The key of an entry, whose opening quotation mark is gone. -/
def key (d : Decoder) (rest : List Char) : Except Failure (Token × Decoder) :=
  match readString rest with
  | some (text, rest) => .ok (.string text, ⟨rest, .objectColon, d.stack⟩)
  | none => .error .invalid

/-- A scalar where a value is allowed. -/
def scalar (d : Decoder) (text : List Char) : Except Failure (Token × Decoder) :=
  match d.state.valueAllowed, scanScalar text with
  | true, some (token, rest) => .ok (token, ⟨rest, d.state.valueEnd, d.stack⟩)
  | _, _ => .error .invalid

/-- The token at the beginning of the input. -/
def tokenHere (d : Decoder) : Except Failure (Token × Decoder) :=
  match skipSpace d.rest with
  | [] => .error .eof
  | c :: rest =>
    if c = '[' then d.opened c rest .arrayStart
    else if c = ']' then d.closed c rest (d.state == .arrayStart || d.state == .arrayComma)
    else if c = '\x7b' then d.opened c rest .objectStart
    else if c = '\x7d' then d.closed c rest (d.state == .objectStart || d.state == .objectComma)
    else if c = quoteMark ∧ (d.state = .objectStart ∨ d.state = .objectKey) then d.key rest
    else d.scalar (c :: rest)

/-- The next token; one separator may stand before it. -/
def token (d : Decoder) : Except Failure (Token × Decoder) := d.separated.tokenHere

/-- Get ready to decode a value in place: an element after another, or the value of an entry. -/
def prepared (d : Decoder) : Except Failure Decoder :=
  match d.state, skipSpace d.rest with
  | .arrayComma, c :: rest => if c = ',' then .ok ⟨rest, .arrayValue, d.stack⟩ else .error .invalid
  | .objectColon, c :: rest => if c = ':' then .ok ⟨rest, .objectValue, d.stack⟩ else .error .invalid
  | .arrayComma, [] | .objectColon, [] => .error .eof
  | _, _ => .ok d

/-- Decode a scalar in place. -/
def decodeScalar (d : Decoder) : Except Failure (Token × Decoder) :=
  match d.prepared with
  | .error failure => .error failure
  | .ok d => d.scalar (skipSpace d.rest)

/-- Decode a string in place; `null` leaves the empty default. -/
def decodeString (d : Decoder) : Except Failure (List Char × Decoder) :=
  match d.decodeScalar with
  | .ok (.string text, d) => .ok (text, d)
  | .ok (.word word, d) => if word = "null".toList then .ok ([], d) else .error .invalid
  | .ok (_, _) => .error .invalid
  | .error failure => .error failure

/-- Decode an integer in place; `null` leaves the default zero. -/
def decodeInt (d : Decoder) : Except Failure (ℤ × Decoder) :=
  match d.decodeScalar with
  | .ok (.number number, d) =>
    match number.toInt with
    | some value => .ok (value, d)
    | none => .error .invalid
  | .ok (.word word, d) => if word = "null".toList then .ok (0, d) else .error .invalid
  | .ok (_, _) => .error .invalid
  | .error failure => .error failure

/-- Repeat a step while there is another element.  Each turn consumes input, so the length of the input is enough
fuel. -/
def loop {State Error : Type*} (body : State → Decoder → Except Error (State × Decoder)) :
    ℕ → State → Decoder → Except Error (State × Decoder)
  | 0, s, d => .ok (s, d)
  | fuel + 1, s, d =>
    if d.more then
      match body s d with
      | .ok (s, d) => loop body fuel s d
      | .error error => .error error
    else .ok (s, d)

def whileMore {State Error : Type*} (body : State → Decoder → Except Error (State × Decoder))
    (s : State) (d : Decoder) : Except Error (State × Decoder) :=
  loop body d.rest.length s d

/-! ### Written text -/

theorem skipSpace_cons {c : Char} (visible : isSpace c = false) (rest : List Char) :
    skipSpace (c :: rest) = c :: rest :=
  List.dropWhile_cons_of_neg (by simp [visible])

theorem skipSpace_quoteHtml (text rest : List Char) : skipSpace (quoteHtml text ++ rest) = quoteHtml text ++ rest :=
  skipSpace_cons (by decide) _

theorem quoteHtml_append (text rest : List Char) :
    quoteHtml text ++ rest = quoteMark :: (text.flatMap escapeChar ++ quoteMark :: rest) := by
  simp [quoteHtml]

theorem scanScalar_quoteHtml (text rest : List Char) :
    scanScalar (quoteHtml text ++ rest) = some (.string text, rest) := by
  rw [quoteHtml_append, scanScalar, if_pos rfl, readString_quoteHtml]
  rfl

/-- An object or an array. -/
inductive Container
  | object
  | array
  deriving DecidableEq, Repr

namespace Container

def opening : Container → Char
  | object => '\x7b'
  | array => '['

def closing : Container → Char
  | object => '\x7d'
  | array => ']'

/-- The state before the first element, and before a later one. -/
def state : Container → Bool → TokenState
  | object, true => .objectStart
  | object, false => .objectComma
  | array, true => .arrayStart
  | array, false => .arrayComma

end Container

/-- The comma before an element that is not the first. -/
def comma (first : Bool) : List Char := if first then [] else [',']

/-- Written elements, with commas between them. -/
def elements : Bool → List (List Char) → List Char
  | _, [] => []
  | first, text :: texts => comma first ++ text ++ elements false texts

/-- What follows a written value: a comma or the end of the object or array. -/
def Delimited (rest : List Char) : Prop :=
  ∃ c tail, rest = c :: tail ∧ (c = ',' ∨ c = ']' ∨ c = '\x7d')

theorem delimited_elements (container : Container) (texts : List (List Char)) (rest : List Char) :
    Delimited (elements false texts ++ container.closing :: rest) := by
  cases texts with
  | nil =>
    refine ⟨container.closing, rest, rfl, ?_⟩
    cases container <;> simp [Container.closing]
  | cons text texts =>
    refine ⟨',', text ++ elements false texts ++ container.closing :: rest, ?_, .inl rfl⟩
    simp [elements, comma]

section Tokens

variable (text rest : List Char) (stack : List TokenState) (first : Bool)

/-- A written text begins with an object. -/
theorem token_start : token (start (Container.object.opening :: rest)) =
      .ok (.delim Container.object.opening, ⟨rest, Container.object.state true, [.topValue]⟩) := by
  simp (disch := decide) [token, start, separated, tokenHere, opened, skipSpace_cons, Container.opening,
    Container.state, TokenState.valueAllowed]

/-- The value of an entry is an object or an array. -/
theorem token_openValue (container : Container) : token ⟨':' :: container.opening :: rest, .objectColon, stack⟩ =
      .ok (.delim container.opening, ⟨rest, container.state true, .objectValue :: stack⟩) := by
  cases container <;> simp (disch := decide) [token, separated, tokenHere, opened, skipSpace_cons,
    Container.opening, Container.state, TokenState.valueAllowed]

/-- The end of an object or an array. -/
theorem token_close (container : Container) (outer : TokenState) :
    token ⟨container.closing :: rest, container.state first, outer :: stack⟩ =
      .ok (.delim container.closing, ⟨rest, outer.valueEnd, stack⟩) := by
  cases container <;> cases first <;> simp (disch := decide) [token, separated, tokenHere, closed, skipSpace_cons,
    Container.closing, Container.state]

/-- The key of a written entry. -/
theorem token_key : token ⟨comma first ++ quoteHtml text ++ rest, Container.object.state first, stack⟩ =
      .ok (.string text, ⟨rest, .objectColon, stack⟩) := by
  have marks : quoteMark ≠ ':' ∧ quoteMark ≠ ',' ∧ quoteMark ≠ '[' ∧ quoteMark ≠ ']' ∧
      quoteMark ≠ '\x7b' ∧ quoteMark ≠ '\x7d' := by decide
  cases first <;> simp (disch := decide) [comma, quoteHtml_append, token, separated, tokenHere, key,
    skipSpace_cons, marks, readString_quoteHtml, Container.state]

/-- The text of a written entry. -/
theorem decodeString_value : decodeString ⟨':' :: (quoteHtml text ++ rest), .objectColon, stack⟩ =
      .ok (text, ⟨rest, Container.object.state false, stack⟩) := by
  simp (disch := decide) [decodeString, decodeScalar, prepared, scalar, skipSpace_cons, skipSpace_quoteHtml,
    scanScalar_quoteHtml, TokenState.valueAllowed, TokenState.valueEnd, Container.state]

omit stack in
/-- A digit before a delimiter is a whole number. -/
theorem scanNumber_digit {c : Char} {rest : List Char} (digit : c.isDigit = true)
    (delimited : Delimited rest) : scanNumber (c :: rest) = some (⟨[], [c], [], []⟩, rest) := by
  obtain ⟨next, tail, rfl, ends⟩ := delimited
  have stops : next.isDigit = false ∧ next ≠ '.' ∧ next ≠ 'e' ∧ next ≠ 'E' := by
    rcases ends with rfl | rfl | rfl <;> decide
  have signed : scanSign (c :: next :: tail) = ([], c :: next :: tail) := by
    unfold scanSign
    split
    · rename_i same
      cases same
      exact absurd digit (by decide)
    · rfl
  have integer : scanInteger (c :: next :: tail) = some ([c], next :: tail) := by
    unfold scanInteger
    split
    · rename_i same
      cases same
      rfl
    · simp [scanDigits, digit, stops.1]
  have fraction : scanFraction (next :: tail) = some ([], next :: tail) := by
    unfold scanFraction
    split
    · rename_i same
      cases same
      exact absurd rfl stops.2.1
    · rfl
  have exponent : scanExponent (next :: tail) = some ([], next :: tail) :=
    if_neg (not_or.mpr stops.2.2)
  simp [scanNumber, signed, integer, fraction, exponent]

/-- A one-digit number of a written entry. -/
theorem decodeInt_digit {c : Char} {rest : List Char} (digit : c.isDigit = true)
    (delimited : Delimited rest) :
    decodeInt ⟨':' :: c :: rest, .objectColon, stack⟩ =
      .ok ((c.toNat - 48 : ℕ), ⟨rest, Container.object.state false, stack⟩) := by
  have bounds : 48 ≤ c.toNat ∧ c.toNat ≤ 57 := Char.isDigit_iff_toNat.mp digit
  have visible : skipSpace (c :: rest) = c :: rest := by
    refine skipSpace_cons ?_ rest
    have blank : c ≠ ' ' := by
      rintro rfl
      exact absurd digit (by decide)
    simp only [isSpace, Bool.or_eq_false_iff, beq_eq_false_iff_ne]
    exact ⟨⟨⟨blank, by omega⟩, by omega⟩, by omega⟩
  have mark : c ≠ quoteMark := by
    rintro rfl
    exact absurd digit (by decide)
  have scanned : scanScalar (c :: rest) = some (.number ⟨[], [c], [], []⟩, rest) := by
    rw [scanScalar, if_neg mark, if_pos (.inr digit), scanNumber_digit digit delimited]
    rfl
  have value : (⟨[], [c], [], []⟩ : Number).toInt = some ((c.toNat - 48 : ℕ) : ℤ) := by
    simp only [Number.toInt, digitsValue, List.foldl_cons, List.foldl_nil, and_self, if_true,
      Nat.zero_mul, Nat.zero_add]
    exact if_pos (by omega)
  simp (disch := decide) [decodeInt, decodeScalar, prepared, scalar, skipSpace_cons, visible, scanned, value,
    TokenState.valueAllowed, TokenState.valueEnd, Container.state]

/-- A written text in an array. -/
theorem decodeString_element :
    decodeString ⟨comma first ++ quoteHtml text ++ rest, Container.array.state first, stack⟩ =
      .ok (text, ⟨rest, Container.array.state false, stack⟩) := by
  cases first <;> simp (disch := decide) [comma, decodeString, decodeScalar, prepared, scalar, skipSpace_cons,
    skipSpace_quoteHtml, scanScalar_quoteHtml, TokenState.valueAllowed, TokenState.valueEnd, Container.state]

end Tokens

/-! ### Loops -/

section Loops

variable {State Error Element : Type*} {body : State → Decoder → Except Error (State × Decoder)}
  {s s' : State} {fuel : ℕ} {d d' : Decoder}

/-- What every turn keeps holds at the end. -/
theorem loop_keeps (Inv : State → Prop) (keep : ∀ s d s' d', Inv s → body s d = .ok (s', d') → Inv s')
    (start : Inv s) (finished : loop body fuel s d = .ok (s', d')) : Inv s' := by
  induction fuel generalizing s d with
  | zero =>
    cases finished
    exact start
  | succ fuel ih =>
    unfold loop at finished
    split at finished
    · split at finished
      · rename_i turned
        exact ih (keep _ _ _ _ start turned) finished
      · cases finished
    · cases finished
      exact start

theorem loop_of_more (another : d.more = true) (turn : body s d = .ok (s', d')) :
    loop body (fuel + 1) s d = loop body fuel s' d' := by
  rw [loop, if_pos another, turn]

theorem loop_of_not_more (last : d.more = false) : loop body fuel s d = .ok (s, d) := by
  cases fuel with
  | zero => rfl
  | succ fuel => rw [loop, last]; rfl

theorem more_of_visible {c : Char} {rest : List Char} {state : TokenState} {stack : List TokenState}
    (visible : isSpace c = false) (inside : c ≠ ']' ∧ c ≠ '\x7d') :
    more ⟨c :: rest, state, stack⟩ = true := by
  simp [more, skipSpace_cons visible, inside.1, inside.2]

theorem more_quoteHtml (first : Bool) (text rest : List Char) (state : TokenState)
    (stack : List TokenState) : more ⟨comma first ++ quoteHtml text ++ rest, state, stack⟩ = true := by
  cases first with
  | true | false => exact more_of_visible (by decide) (by decide)

theorem more_closing (container : Container) (rest : List Char) (state : TokenState)
    (stack : List TokenState) : more ⟨container.closing :: rest, state, stack⟩ = false := by
  cases container <;> simp (disch := decide) [more, Container.closing, skipSpace_cons]

theorem length_le_elements (first : Bool) (texts : List (List Char))
    (nonempty : ∀ text ∈ texts, text ≠ []) : texts.length ≤ (elements first texts).length := by
  induction texts generalizing first with
  | nil => exact Nat.zero_le _
  | cons text texts ih =>
    have here := List.length_pos_of_ne_nil (nonempty text List.mem_cons_self)
    have later := ih false fun other member => nonempty other (List.mem_cons_of_mem _ member)
    simp only [elements, List.length_append, List.length_cons]
    omega

variable (body) (container : Container) (stack : List TokenState) (text tail : Element → List Char)
  (turn : State → Element → State) (Fits : State → Element → Prop)
  (turns : ∀ s e first rest, Fits s e → Delimited rest →
    body s ⟨comma first ++ quoteHtml (text e) ++ (tail e ++ rest), container.state first, stack⟩ =
      .ok (turn s e, ⟨rest, container.state false, stack⟩)) (rest : List Char) (es : List Element)

include turns

/-- Over written elements a loop takes one turn each.  Each element begins with a literal, `text`, and
`Fits` is what a turn needs to succeed. -/
theorem loop_elements {first : Bool} (enough : es.length ≤ fuel)
    (fits : ∀ before e after, es = before ++ e :: after → Fits (before.foldl turn s) e) :
    loop body fuel s ⟨elements first (es.map fun e => quoteHtml (text e) ++ tail e) ++
        container.closing :: rest, container.state first, stack⟩ =
      .ok (es.foldl turn s, ⟨container.closing :: rest, container.state (first && es.isEmpty), stack⟩) := by
  induction es generalizing s first fuel with
  | nil =>
    simp only [List.map_nil, elements, List.nil_append, List.foldl_nil, List.isEmpty_nil, Bool.and_true]
    exact loop_of_not_more (more_closing ..)
  | cons e es ih =>
    obtain ⟨fuel, rfl⟩ : ∃ n, fuel = n + 1 := ⟨fuel - 1, by rw [List.length_cons] at enough; omega⟩
    have written : elements first ((e :: es).map fun e => quoteHtml (text e) ++ tail e) ++ container.closing :: rest =
        comma first ++ quoteHtml (text e) ++ (tail e ++
          (elements false (es.map fun e => quoteHtml (text e) ++ tail e) ++ container.closing :: rest)) := by
      simp [elements, List.append_assoc]
    rw [written, loop_of_more (more_quoteHtml ..) (turns s e first _ (fits [] e es rfl)
      (delimited_elements ..)), ih]
    · simp
    · rw [List.length_cons] at enough
      omega
    · intro before other after split
      exact fits (e :: before) other after (by rw [split]; rfl)

/-- The loop over the written elements of an object or an array, from its beginning. -/
theorem whileMore_elements
    (fits : ∀ before e after, es = before ++ e :: after → Fits (before.foldl turn s) e) :
    whileMore body s ⟨elements true (es.map fun e => quoteHtml (text e) ++ tail e) ++
        container.closing :: rest, container.state true, stack⟩ =
      .ok (es.foldl turn s, ⟨container.closing :: rest, container.state es.isEmpty, stack⟩) := by
  refine loop_elements body container stack text tail turn Fits turns rest es ?_ fits
  have written := length_le_elements true (es.map fun e => quoteHtml (text e) ++ tail e) (by simp [quoteHtml])
  rw [List.length_map] at written
  dsimp only
  rw [List.length_append]
  omega

end Loops

end Decoder

end Json
