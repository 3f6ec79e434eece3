import Mathlib.Data.Char
import Mathlib.Tactic.IntervalCases
import PrintGateway.Codec.Characters

/-!
# JSON string literals

A string literal is scanned character by character into pieces, and the code units of its `\u` escapes
are joined afterwards, so that a surrogate pair becomes one character and a lone surrogate the
replacement character.  The writer escapes what a parser or an HTML page could misread.  Reading back
what was written returns the text.
-/

namespace Json

def quoteMark : Char := Char.ofNat 34

def backslash : Char := Char.ofNat 92

/-- The character U+FFFD. -/
def replacement : Char := Char.ofNat 65533

/-- A scanned piece: a character, or the code unit of a `\u` escape. -/
inductive Piece
  | char (c : Char)
  | unit (n : ℕ)
  deriving DecidableEq, Repr

/-- Where the scanner is inside a literal; `unicode` counts the missing digits of a `\u` escape. -/
inductive StringState
  | plain
  | escaped
  | unicode (missing value : ℕ)
  deriving DecidableEq, Repr

/-- The letters of two-character escapes and the characters they stand for. -/
def escapes : List (Char × Char) :=
  [(quoteMark, quoteMark), (backslash, backslash), ('b', Char.ofNat 8), ('f', Char.ofNat 12),
    ('n', Char.ofNat 10), ('r', Char.ofNat 13), ('t', Char.ofNat 9)]

/-- The character of a two-character escape; a slash may be escaped, too. -/
def simpleEscape (letter : Char) : Option Char :=
  if letter = '/' then some '/'
  else (escapes.find? fun entry => entry.1 = letter).map Prod.snd

/-- The value of a hexadecimal digit. -/
def hexDigit (c : Char) : Option ℕ :=
  let n := c.toNat
  if 48 ≤ n ∧ n ≤ 57 then some (n - 48)
  else if 97 ≤ n ∧ n ≤ 102 then some (n - 87)
  else if 65 ≤ n ∧ n ≤ 70 then some (n - 55)
  else none

/-- Scan to the closing quotation mark: the pieces before it and the text after it. -/
def scanString : StringState → List Char → Option (List Piece × List Char)
  | _, [] => none
  | .plain, c :: rest =>
    if c = quoteMark then some ([], rest)
    else if c = backslash then scanString .escaped rest
    else if c.toNat < 32 then none
    else (scanString .plain rest).map fun scanned => (.char c :: scanned.1, scanned.2)
  | .escaped, c :: rest =>
    if c = 'u' then scanString (.unicode 4 0) rest
    else
      (simpleEscape c).bind fun plain =>
        (scanString .plain rest).map fun scanned => (.char plain :: scanned.1, scanned.2)
  | .unicode missing value, c :: rest =>
    (hexDigit c).bind fun digit =>
      if missing ≤ 1 then
        (scanString .plain rest).map fun scanned => (.unit (value * 16 + digit) :: scanned.1, scanned.2)
      else scanString (.unicode (missing - 1) (value * 16 + digit)) rest

def isSurrogate (n : ℕ) : Bool := 55296 ≤ n && n < 57344

/-- The character of a surrogate pair. -/
def pairChar (high low : ℕ) : Option Char :=
  if 55296 ≤ high ∧ high < 56320 ∧ 56320 ≤ low ∧ low < 57344 then
    some (Char.ofNat (65536 + (high - 55296) * 1024 + (low - 56320)))
  else none

/-- The text of scanned pieces. -/
def joinPieces : List Piece → List Char
  | [] => []
  | .char c :: rest => c :: joinPieces rest
  | .unit high :: .unit low :: rest =>
    if isSurrogate high then
      match pairChar high low with
      | some c => c :: joinPieces rest
      | none => replacement :: joinPieces (.unit low :: rest)
    else Char.ofNat high :: joinPieces (.unit low :: rest)
  | .unit n :: rest => (if isSurrogate n then replacement else Char.ofNat n) :: joinPieces rest

/-- Read a literal whose opening quotation mark is gone. -/
def readString (text : List Char) : Option (List Char × List Char) :=
  (scanString .plain text).map fun scanned => (joinPieces scanned.1, scanned.2)

/-! ### Writing -/

def hexChar (n : ℕ) : Char := if n < 10 then Char.ofNat (48 + n) else Char.ofNat (87 + n)

/-- The four digits of a `\u` escape. -/
def hexDigits (n : ℕ) : List Char :=
  [hexChar (n / 4096 % 16), hexChar (n / 256 % 16), hexChar (n / 16 % 16), hexChar (n % 16)]

/-- The letter of the escape a character is written with. -/
def escapeLetter (c : Char) : Option Char :=
  (escapes.find? fun entry => entry.2 = c).map Prod.fst

/-- The characters written as `\u` escapes: controls, what HTML reads, and the line separators. -/
def isEscapedUnit (c : Char) : Bool :=
  c.toNat < 32 || c == '<' || c == '>' || c == '&' || c.toNat == 8232 || c.toNat == 8233

def escapeChar (c : Char) : List Char :=
  match escapeLetter c with
  | some letter => [backslash, letter]
  | none => if isEscapedUnit c then backslash :: 'u' :: hexDigits c.toNat else [c]

/-- The literal of a text, safe inside an HTML page. -/
def quoteHtml (text : List Char) : List Char :=
  quoteMark :: (text.flatMap escapeChar ++ [quoteMark])

/-! ### Reading back -/

/-- The piece a written character is scanned as. -/
def pieceOf (c : Char) : Piece :=
  if escapeLetter c = none ∧ isEscapedUnit c = true then .unit c.toNat else .char c

theorem hexDigit_hexChar {n : ℕ} (small : n < 16) : hexDigit (hexChar n) = some n := by
  interval_cases n <;> decide

/-- Four scanned digits make up the written number. -/
theorem scanString_hexDigits {n : ℕ} (small : n < 65536) (rest : List Char) :
    scanString (.unicode 4 0) (hexDigits n ++ rest) =
      (scanString .plain rest).map fun scanned => (.unit n :: scanned.1, scanned.2) := by
  have digit : ∀ m, hexDigit (hexChar (m % 16)) = some (m % 16) :=
    fun m => hexDigit_hexChar (Nat.mod_lt m (by decide))
  have value : (((0 * 16 + n / 4096 % 16) * 16 + n / 256 % 16) * 16 + n / 16 % 16) * 16 + n % 16 = n := by
    omega
  simp only [hexDigits, List.cons_append, List.nil_append, scanString, digit, Option.bind_some,
    show ¬ (4 ≤ 1) by decide, show ¬ (4 - 1 ≤ 1) by decide, show ¬ (4 - 1 - 1 ≤ 1) by decide,
    show 4 - 1 - 1 - 1 ≤ 1 by decide, if_true, if_false, value]

theorem simpleEscape_of_mem : ∀ entry ∈ escapes, entry.1 ≠ 'u' ∧ simpleEscape entry.1 = some entry.2 := by
  decide

theorem simpleEscape_escapeLetter {c letter : Char} (escaped : escapeLetter c = some letter) :
    letter ≠ 'u' ∧ simpleEscape letter = some c := by
  obtain ⟨entry, found, rfl⟩ := Option.map_eq_some_iff.mp escaped
  have same : entry.2 = c := by simpa using List.find?_some found
  exact same ▸ simpleEscape_of_mem entry (List.mem_of_find?_eq_some found)

theorem escapeLetter_eq_none {c : Char} (bare : escapeLetter c = none) : c ≠ quoteMark ∧ c ≠ backslash := by
  constructor
  · rintro rfl
    exact absurd bare (by decide)
  · rintro rfl
    exact absurd bare (by decide)

theorem toNat_lt_of_isEscapedUnit {c : Char} (escaped : isEscapedUnit c = true) : c.toNat < 55296 := by
  simp only [isEscapedUnit, Bool.or_eq_true, decide_eq_true_eq, beq_iff_eq] at escaped
  rcases escaped with ((((small | rfl) | rfl) | rfl) | same) | same
  · omega
  · decide
  · decide
  · decide
  · omega
  · omega

/-- A written character is scanned as one piece. -/
theorem scanString_escapeChar (c : Char) (rest : List Char) : scanString .plain (escapeChar c ++ rest) =
      (scanString .plain rest).map fun scanned => (pieceOf c :: scanned.1, scanned.2) := by
  unfold escapeChar pieceOf
  cases lettered : escapeLetter c with
  | some letter =>
    obtain ⟨notUnicode, plain⟩ := simpleEscape_escapeLetter lettered
    have mark : ¬ backslash = quoteMark := by decide
    simp [scanString, mark, notUnicode, plain]
  | none =>
    obtain ⟨notMark, notBackslash⟩ := escapeLetter_eq_none lettered
    by_cases escaped : isEscapedUnit c = true
    · have mark : ¬ backslash = quoteMark := by decide
      have small := toNat_lt_of_isEscapedUnit escaped
      simp only [escaped, if_true, List.cons_append, scanString, if_neg mark, and_self]
      exact scanString_hexDigits (by omega) rest
    · have large : ¬ c.toNat < 32 := by
        intro small
        exact escaped (by simp [isEscapedUnit, small])
      simp [escaped, scanString, notMark, notBackslash, large]

theorem scanString_text (text rest : List Char) : scanString .plain (text.flatMap escapeChar ++ quoteMark :: rest) =
      some (text.map pieceOf, rest) := by
  induction text with
  | nil => simp [scanString]
  | cons c text ih =>
    rw [List.flatMap_cons, List.append_assoc, scanString_escapeChar, ih]
    rfl

/-- No written escape is a surrogate, so the pieces join to the text. -/
theorem joinPieces_pieceOf (text : List Char) : joinPieces (text.map pieceOf) = text := by
  have lone : ∀ c, isEscapedUnit c = true → isSurrogate c.toNat = false := by
    intro c escaped
    have := toNat_lt_of_isEscapedUnit escaped
    simp only [isSurrogate, Bool.and_eq_false_iff, decide_eq_false_iff_not]
    omega
  induction text with
  | nil => rfl
  | cons c text ih =>
    rw [List.map_cons]
    by_cases escaped : escapeLetter c = none ∧ isEscapedUnit c = true
    · have plain := lone c escaped.2
      rw [pieceOf, if_pos escaped]
      cases tail : text.map pieceOf with
      | nil =>
        rw [tail] at ih
        simp [joinPieces, plain, ← ih]
      | cons next pieces =>
        rw [tail] at ih
        cases next with
        | char other => simp [joinPieces, plain, ← ih]
        | unit other => simp [joinPieces, plain, ← ih]
    · rw [pieceOf, if_neg escaped]
      exact congrArg (c :: ·) ih

/-- Reading a written literal returns its text and what follows it. -/
theorem readString_quoteHtml (text rest : List Char) :
    readString (text.flatMap escapeChar ++ quoteMark :: rest) = some (text, rest) := by
  rw [readString, scanString_text, Option.map_some, joinPieces_pieceOf]

end Json
