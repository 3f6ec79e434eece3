import Mathlib.Algebra.Group.Int.Defs
import Mathlib.Algebra.GroupWithZero.Nat
import Mathlib.Data.Int.Order.Basic
import Mathlib.Data.List.Infix
import Mathlib.Data.List.Lex
import Mathlib.Order.Nat
import PrintGateway.Codec.Characters

/-!
# Texts, instants and tokens

Error texts are lists of characters, so that the prefix tests the programs make on them compute.
Instants are microseconds of the database clock.  Claim tokens are only ever compared, and the
SHA-256 digest of a token is kept symbolic.
-/

namespace PrintGateway

abbrev Text := List Char

/-- The literals of the sources are texts. -/
instance textOfString : Coe String Text := ⟨String.toList⟩

namespace Text

/-- The prefix test `String.prototype.startsWith` and `str.startswith`. -/
def startsWith (text marker : Text) : Bool := marker.isPrefixOf text

/-- Cutting a text after its marker keeps the marker. -/
theorem startsWith_take {text marker : Text} {n : ℕ} (room : marker.length ≤ n) :
    startsWith (text.take n) marker = startsWith text marker := by
  rw [Bool.eq_iff_iff]
  simp only [startsWith, List.isPrefixOf_iff_prefix, List.prefix_take_iff]
  exact and_iff_left room

/-- SQL `LIKE`: `_` stands for one character and `%` for any text. -/
def like : Text → Text → Bool
  | [], text => text.isEmpty
  | '%' :: pattern, text => text.tails.any (like pattern)
  | '_' :: pattern, _ :: text => like pattern text
  | c :: pattern, d :: text => c == d && like pattern text
  | _ :: _, [] => false

theorem like_percent (text : Text) : like ['%'] text = true := by
  rw [like, List.any_eq_true]
  exact ⟨[], (List.mem_tails _ _).mpr List.nil_suffix, rfl⟩

/-- A pattern without `%` matches itself, an underscore included. -/
theorem like_append_percent {pattern : Text} (plain : '%' ∉ pattern) (rest : Text) :
    like (pattern ++ ['%']) (pattern ++ rest) = true := by
  induction pattern with
  | nil => exact like_percent rest
  | cons c pattern ih =>
    obtain ⟨notPercent, plain⟩ := not_or.mp (List.mem_cons.not.mp plain)
    have tail := ih plain
    by_cases underscore : c = '_'
    · subst underscore
      simpa [like] using tail
    · simpa [like, Ne.symm notPercent, underscore] using tail

/-- Python's `marker in text`. -/
def contains (text marker : Text) : Bool := text.tails.any (startsWith · marker)

/-- The characters for which `str.isspace` holds. -/
def isSpace (c : Char) : Bool :=
  let n := c.toNat
  (9 ≤ n && n ≤ 13) || (28 ≤ n && n ≤ 32) || n == 133 || n == 160 || n == 5760 ||
    (8192 ≤ n && n ≤ 8202) || n == 8232 || n == 8233 || n == 8239 || n == 8287 || n == 12288

/-- Drop the characters of a class at both ends. -/
def stripBy (drop : Char → Bool) (text : Text) : Text :=
  ((text.dropWhile drop).reverse.dropWhile drop).reverse

/-- Python's `str.strip()`. -/
def strip (text : Text) : Text := stripBy isSpace text

/-- The characters `String.prototype.trim` removes. -/
def isTrimmed (c : Char) : Bool :=
  let n := c.toNat
  (9 ≤ n && n ≤ 13) || n == 32 || n == 160 || n == 5760 || (8192 ≤ n && n ≤ 8202) || n == 8232 ||
    n == 8233 || n == 8239 || n == 8287 || n == 12288 || n == 65279

/-- JavaScript's `trim()`. -/
def trim (text : Text) : Text := stripBy isTrimmed text

/-- The characters `unicode.IsSpace` accepts. -/
def isUnicodeSpace (c : Char) : Bool :=
  let n := c.toNat
  (9 ≤ n && n ≤ 13) || n == 32 || n == 133 || n == 160 || n == 5760 || (8192 ≤ n && n ≤ 8202) ||
    n == 8232 || n == 8233 || n == 8239 || n == 8287 || n == 12288

/-- `strings.TrimSpace`. -/
def trimSpace (text : Text) : Text := stripBy isUnicodeSpace text

/-- `unicode.IsControl`. -/
def isControl (c : Char) : Bool := c.toNat < 32 || (127 ≤ c.toNat && c.toNat < 160)

/-- `strings.ToLower`, as far as it can end in ASCII letters. -/
def toLower (text : Text) : Text :=
  text.map fun c => if c.toNat = 304 then 'i' else if c.toNat = 8490 then 'k' else c.toLower

/-- `String.prototype.toLowerCase`, as far as it can end in ASCII letters; a dotted capital i leaves
its dot behind. -/
def toLowerCase (text : Text) : Text :=
  text.flatMap fun c =>
    if c.toNat = 304 then ['i', Char.ofNat 775] else if c.toNat = 8490 then ['k'] else [c.toLower]

/-- `toUpperCase` and `strings.ToUpper` on ASCII texts. -/
def toUpper (text : Text) : Text := text.map Char.toUpper

/-- Case folding as far as it meets ASCII: the Kelvin sign and the long s fold to letters. -/
def foldChar (c : Char) : Char :=
  if c.toNat = 8490 then 'k' else if c.toNat = 383 then 's' else c.toLower

/-- `strings.EqualFold` with an ASCII text. -/
def equalFold (text ascii : Text) : Bool := text.map foldChar == ascii.map foldChar

/-- ASCII without capital letters and without white space around it. -/
def IsToken (text : Text) : Prop :=
  (∀ c ∈ text, c.toNat < 128 ∧ c.isUpper = false) ∧ trimSpace text = text

instance (text : Text) : Decidable (IsToken text) := inferInstanceAs (Decidable (_ ∧ _))

/-- The size of a text in UTF-8. -/
def byteSize (text : Text) : ℕ := (text.map Char.utf8Size).sum

/-- The bytes of a text in UTF-8. -/
def utf8 (text : Text) : List UInt8 := text.flatMap String.utf8EncodeChar

/-- The UTF-16 code units of a text, by which JavaScript measures and orders strings. -/
def utf16 (text : Text) : List ℕ :=
  text.flatMap fun c =>
    let n := c.toNat
    if n < 65536 then [n] else [55296 + (n - 65536) / 1024, 56320 + (n - 65536) % 1024]

/-- JavaScript's `length`. -/
def utf16Length (text : Text) : ℕ := (utf16 text).length

/-- JavaScript's `sort()` on strings. -/
def sortUtf16 (texts : List Text) : List Text :=
  texts.mergeSort fun a b => decide (utf16 a ≤ utf16 b)

/-- The decimal digits of a number. -/
def digits (n : ℕ) : Text := Nat.toDigits 10 n

/-- `strconv.FormatInt(n, 10)`. -/
def decimal (n : ℤ) : Text := if n < 0 then '-' :: digits n.natAbs else digits n.natAbs

end Text

/-- Instants and spans of time are microseconds. -/
def seconds (n : ℤ) : ℤ := n * 1000000

def minutes (n : ℤ) : ℤ := seconds (n * 60)

def hours (n : ℤ) : ℤ := minutes (n * 60)

/-- The two clocks a statement reads: `now()`, fixed when its transaction starts, and
`clock_timestamp()`, read while it runs. -/
structure Instant where
  now : ℤ
  clock : ℤ
  deriving DecidableEq, Repr

/-- Claim tokens are random and only ever compared. -/
abbrev Token := ℕ

/-- A SHA-256 digest, kept symbolic. -/
structure Digest (Subject : Type*) where
  subject : Subject
  deriving DecidableEq, Repr

end PrintGateway
