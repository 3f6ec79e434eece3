import PrintGateway.Json.Canonical
import PrintGateway.Json.Quoting
import Mathlib.Algebra.Order.BigOperators.Group.List

/-!
# Lengths of encoded values

Lengths are counted in UTF-8.  The length of an array is the sum of its parts with a comma between them, and a
character costs at most six bytes in a literal.
-/

namespace Json

/-- The length of a text in UTF-8. -/
def utf8Length (text : List Char) : ℕ := (text.map Char.utf8Size).sum

/-- The length of parts of the given lengths with a comma between them. -/
def separated (lengths : List ℕ) : ℕ := lengths.sum + (lengths.length - 1)

/-! ### Lengths of texts -/

@[simp]
theorem utf8Length_nil : utf8Length [] = 0 := rfl

@[simp]
theorem utf8Length_cons (c : Char) (text : List Char) : utf8Length (c :: text) = c.utf8Size + utf8Length text := by
  simp [utf8Length]

@[simp]
theorem utf8Length_append (first second : List Char) :
    utf8Length (first ++ second) = utf8Length first + utf8Length second := by
  simp [utf8Length]

theorem utf8Length_intercalate (texts : List (List Char)) :
    utf8Length (",".toList.intercalate texts) = separated (texts.map utf8Length) := by
  induction texts with
  | nil => rfl
  | cons text texts ih =>
    cases texts with
    | nil => simp [separated]
    | cons next texts =>
      have comma : utf8Length ",".toList = 1 := by decide
      simp only [separated, List.map_cons, List.sum_cons, List.length_cons, List.length_map] at ih ⊢
      rw [List.intercalate_cons_cons, utf8Length_append, utf8Length_append, comma, ih]
      omega

/-! ### Escapes -/

theorem utf8Length_hexDigits (n : ℕ) : utf8Length (hexDigits n) = 4 := by
  have digit (m : ℕ) : (hexChar (m % 16)).utf8Size = 1 := by
    have small : m % 16 < 16 := Nat.mod_lt m (by decide)
    interval_cases m % 16 <;> decide
  simp [hexDigits, digit]

theorem utf8Size_of_escapeLetter {c letter : Char} (escaped : escapeLetter c = some letter) :
    letter.utf8Size = 1 := by
  obtain ⟨entry, found, rfl⟩ := Option.map_eq_some_iff.mp escaped
  have all : ∀ entry ∈ escapes, entry.1.utf8Size = 1 := by decide
  exact all entry (List.mem_of_find?_eq_some found)

/-- The three lengths an escaped character can have. -/
theorem utf8Length_escapeChar (c : Char) : utf8Length (escapeChar c) = match escapeLetter c with
      | some _ => 2
      | none => if isEscapedUnit c then 6 else c.utf8Size := by
  unfold escapeChar
  have slash : backslash.utf8Size = 1 := by decide
  cases lettered : escapeLetter c with
  | some letter => simp [slash, utf8Size_of_escapeLetter lettered]
  | none =>
    dsimp only
    split
    · rw [utf8Length_cons, utf8Length_cons, utf8Length_hexDigits, slash]
      rfl
    · simp

theorem utf8Length_escapeChar_le (c : Char) : utf8Length (escapeChar c) ≤ 6 := by
  rw [utf8Length_escapeChar]
  have four := c.utf8Size_le_four
  split
  · decide
  · split <;> omega

end Json
