import Mathlib.Data.List.Basic
import Mathlib.Data.List.TakeWhile

/-!
# Base64

Bytes as digits of six bits, in the standard and in the URL alphabet.  Encoding is one function; the
decoders differ in what they let pass: one wants exact padding and skips line breaks, one takes no
padding, and one skips every character it does not know.  All of them read an encoding back.
-/

namespace Base64

variable {bytes : List UInt8} {c : Char}

inductive Alphabet
  | std
  | url
  deriving DecidableEq, Repr

variable {alphabet : Alphabet}

/-- The character of a digit below 64. -/
def digit (alphabet : Alphabet) (n : ℕ) : Char :=
  if n < 26 then Char.ofNat (65 + n)
  else if n < 52 then Char.ofNat (71 + n)
  else if n < 62 then Char.ofNat (n - 4)
  else match alphabet, n with
    | .std, 62 => '+'
    | .std, _ => '/'
    | .url, 62 => '-'
    | .url, _ => '_'

/-- The digit of a character. -/
def value (alphabet : Alphabet) (c : Char) : Option ℕ :=
  if c.isUpper then some (c.toNat - 65)
  else if c.isLower then some (c.toNat - 71)
  else if c.isDigit then some (c.toNat + 4)
  else match alphabet, c with
    | .std, '+' => some 62
    | .std, '/' => some 63
    | .url, '-' => some 62
    | .url, '_' => some 63
    | _, _ => none

theorem value_digit (alphabet : Alphabet) {n : ℕ} (bound : n < 64) : value alphabet (digit alphabet n) = some n := by
  revert n
  cases alphabet <;> decide

theorem digit_ascii (alphabet : Alphabet) {n : ℕ} (bound : n < 64) : (digit alphabet n).toNat < 128 := by
  revert n
  cases alphabet <;> decide

/-- Three bytes are four digits; what is left over gives two or three. -/
def sextets : List UInt8 → List ℕ
  | [] => []
  | [a] => [a.toNat / 4, a.toNat % 4 * 16]
  | [a, b] => [a.toNat / 4, a.toNat % 4 * 16 + b.toNat / 16, b.toNat % 16 * 4]
  | a :: b :: c :: rest =>
    a.toNat / 4 :: (a.toNat % 4 * 16 + b.toNat / 16) :: (b.toNat % 16 * 4 + c.toNat / 64) ::
      c.toNat % 64 :: sextets rest

/-- Digits back to bytes; a single digit that is left over says nothing. -/
def octets : List ℕ → List UInt8
  | p :: q :: r :: s :: rest =>
    .ofNat (p * 4 + q / 16) :: .ofNat (q % 16 * 16 + r / 4) :: .ofNat (r % 4 * 64 + s) :: octets rest
  | [p, q, r] => [.ofNat (p * 4 + q / 16), .ofNat (q % 16 * 16 + r / 4)]
  | [p, q] => [.ofNat (p * 4 + q / 16)]
  | _ => []

theorem ofNat_eq {a : UInt8} {n : ℕ} (same : n = a.toNat) : UInt8.ofNat n = a := by
  rw [same, UInt8.ofNat_toNat]

theorem octets_sextets (bytes : List UInt8) : octets (sextets bytes) = bytes := by
  fun_induction sextets bytes with
  | case1 => rfl
  | case2 a =>
    have first : a.toNat / 4 * 4 + a.toNat % 4 * 16 / 16 = a.toNat := by omega
    rw [octets, ofNat_eq first]
  | case3 a b =>
    have small := b.toNat_lt
    have first : a.toNat / 4 * 4 + (a.toNat % 4 * 16 + b.toNat / 16) / 16 = a.toNat := by omega
    have second : (a.toNat % 4 * 16 + b.toNat / 16) % 16 * 16 + b.toNat % 16 * 4 / 4 = b.toNat := by omega
    rw [octets, ofNat_eq first, ofNat_eq second]
  | case4 a b c rest ih =>
    have small := b.toNat_lt
    have small' := c.toNat_lt
    have first : a.toNat / 4 * 4 + (a.toNat % 4 * 16 + b.toNat / 16) / 16 = a.toNat := by omega
    have second : (a.toNat % 4 * 16 + b.toNat / 16) % 16 * 16 + (b.toNat % 16 * 4 + c.toNat / 64) / 4 =
        b.toNat := by omega
    have third : (b.toNat % 16 * 4 + c.toNat / 64) % 4 * 64 + c.toNat % 64 = c.toNat := by omega
    rw [octets, ofNat_eq first, ofNat_eq second, ofNat_eq third, ih]

theorem sextets_lt (bytes : List UInt8) : ∀ n ∈ sextets bytes, n < 64 := by
  fun_induction sextets bytes with
  | case1 => simp
  | case2 a =>
    have small := a.toNat_lt
    simp only [List.mem_cons, List.not_mem_nil, or_false]
    omega
  | case3 a b =>
    have small := a.toNat_lt
    have small' := b.toNat_lt
    simp only [List.mem_cons, List.not_mem_nil, or_false]
    omega
  | case4 a b c rest ih =>
    have small := a.toNat_lt
    have small' := b.toNat_lt
    have small'' := c.toNat_lt
    simp only [List.forall_mem_cons]
    exact ⟨by omega, by omega, by omega, by omega, ih⟩

theorem length_sextets (bytes : List UInt8) : (sextets bytes).length = (4 * bytes.length + 2) / 3 := by
  fun_induction sextets bytes with
  | case1 => rfl
  | case2 | case3 => simp
  | case4 a b c rest ih =>
    simp only [List.length_cons, ih]
    omega

/-- Encoding without padding. -/
def encodeRaw (alphabet : Alphabet) (bytes : List UInt8) : List Char :=
  (sextets bytes).map (digit alphabet)

def padding (bytes : List UInt8) : ℕ := (3 - bytes.length % 3) % 3

/-- Encoding with padding to a multiple of four. -/
def encode (bytes : List UInt8) : List Char :=
  encodeRaw .std bytes ++ List.replicate (padding bytes) '='

theorem length_encode (bytes : List UInt8) : (encode bytes).length = 4 * ((bytes.length + 2) / 3) := by
  simp only [encode, encodeRaw, padding, List.length_append, List.length_map, List.length_replicate, length_sextets]
  omega

theorem filterMap_value_encodeRaw (alphabet : Alphabet) (bytes : List UInt8) :
    (encodeRaw alphabet bytes).filterMap (value alphabet) = sextets bytes := by
  rw [encodeRaw, List.filterMap_map]
  refine (List.filterMap_congr fun n member => ?_).trans List.filterMap_some
  exact value_digit alphabet (sextets_lt bytes n member)

theorem value_of_mem_encodeRaw (member : c ∈ encodeRaw alphabet bytes) : (value alphabet c).isSome = true := by
  obtain ⟨n, listed, rfl⟩ := List.mem_map.mp member
  rw [value_digit alphabet (sextets_lt bytes n listed)]
  rfl

theorem encodeRaw_ascii (member : c ∈ encodeRaw alphabet bytes) : c.toNat < 128 := by
  obtain ⟨n, listed, rfl⟩ := List.mem_map.mp member
  exact digit_ascii alphabet (sextets_lt bytes n listed)

theorem encode_ascii (member : c ∈ encode bytes) : c.toNat < 128 := by
  rcases List.mem_append.mp member with body | pad
  · exact encodeRaw_ascii body
  · obtain rfl := List.eq_of_mem_replicate pad
    decide

/-- A decoder without padding reads every digit of the alphabet it meets. -/
theorem octets_filterMap_encodeRaw (alphabet : Alphabet) (bytes : List UInt8) :
    octets ((encodeRaw alphabet bytes).filterMap (value alphabet)) = bytes := by
  rw [filterMap_value_encodeRaw, octets_sextets]

/-! ### Decoders -/

/-- Skip every character that is a digit of neither alphabet. -/
def decodeLenient (text : List Char) : List UInt8 :=
  octets (text.filterMap fun c => (value .std c).or (value .url c))

/-- Digits and exactly the padding they need. -/
def decodeStrict (text : List Char) : Option (List UInt8) :=
  let body := text.takeWhile fun c => (value .std c).isSome
  let pad := text.dropWhile fun c => (value .std c).isSome
  if pad = List.replicate pad.length '=' ∧ pad.length ≤ 2 ∧ text.length % 4 = 0 then
    some (octets (body.filterMap (value .std)))
  else none

/-- Skip line breaks; the rest is strict. -/
def decodePadded (text : List Char) : Option (List UInt8) :=
  decodeStrict (text.filter fun c => c ≠ '\r' ∧ c ≠ '\n')

/-- Skip line breaks; the rest is digits only, and none of them is left over. -/
def decodeRaw (alphabet : Alphabet) (text : List Char) : Option (List UInt8) :=
  let clean := text.filter fun c => c ≠ '\r' ∧ c ≠ '\n'
  if clean.all (fun c => (value alphabet c).isSome) ∧ clean.length % 4 ≠ 1 then
    some (octets (clean.filterMap (value alphabet)))
  else none

theorem decodeLenient_encode (bytes : List UInt8) : decodeLenient (encode bytes) = bytes := by
  have pad : (List.replicate (padding bytes) '=').filterMap
      (fun c => (value .std c).or (value .url c)) = [] :=
    List.filterMap_eq_nil_iff.mpr fun c member => by rw [List.eq_of_mem_replicate member]; rfl
  have body : (encodeRaw .std bytes).filterMap (fun c => (value .std c).or (value .url c)) =
      (encodeRaw .std bytes).filterMap (value .std) :=
    List.filterMap_congr fun c member => by
      obtain ⟨n, found⟩ := Option.isSome_iff_exists.mp (value_of_mem_encodeRaw member)
      rw [found]
      rfl
  rw [decodeLenient, encode, List.filterMap_append, pad, body, List.append_nil, octets_filterMap_encodeRaw]

theorem decodeLenient_encodeRaw_url (bytes : List UInt8) : decodeLenient (encodeRaw .url bytes) = bytes := by
  have body : (encodeRaw .url bytes).filterMap (fun c => (value .std c).or (value .url c)) =
      (encodeRaw .url bytes).filterMap (value .url) := by
    refine List.filterMap_congr fun c member => ?_
    obtain ⟨n, listed, rfl⟩ := List.mem_map.mp member
    exact (by decide : ∀ n < 64, (value .std (digit .url n)).or (value .url (digit .url n)) =
      value .url (digit .url n)) n (sextets_lt bytes n listed)
  rw [decodeLenient, body, octets_filterMap_encodeRaw]

theorem filter_breaks {text : List Char} (plain : ∀ c ∈ text, c ≠ '\r' ∧ c ≠ '\n') :
    (text.filter fun c => c ≠ '\r' ∧ c ≠ '\n') = text :=
  List.filter_eq_self.mpr fun c member => by simpa using plain c member

theorem ne_break_of_value (digit : (value alphabet c).isSome = true) : c ≠ '\r' ∧ c ≠ '\n' := by
  cases alphabet <;> exact ⟨by rintro rfl; exact absurd digit (by decide),
    by rintro rfl; exact absurd digit (by decide)⟩

theorem decodeStrict_encode (bytes : List UInt8) : decodeStrict (encode bytes) = some bytes := by
  have digits : ∀ c ∈ encodeRaw .std bytes, (value .std c).isSome = true :=
    fun c => value_of_mem_encodeRaw
  have body : (encode bytes).takeWhile (fun c => (value .std c).isSome) = encodeRaw .std bytes := by
    rw [encode, List.takeWhile_append_of_pos digits]
    cases padding bytes <;> simp [List.replicate_succ, show value .std '=' = none from rfl]
  have pad : (encode bytes).dropWhile (fun c => (value .std c).isSome) = List.replicate (padding bytes) '=' := by
    rw [encode, List.dropWhile_append_of_pos digits]
    cases padding bytes <;> simp [List.replicate_succ, show value .std '=' = none from rfl]
  unfold decodeStrict
  simp only [body, pad, List.length_replicate, length_encode]
  rw [if_pos ⟨trivial, by unfold padding; omega, by omega⟩, octets_filterMap_encodeRaw]

theorem decodePadded_encode (bytes : List UInt8) : decodePadded (encode bytes) = some bytes := by
  have clean : (encode bytes).filter (fun c => c ≠ '\r' ∧ c ≠ '\n') = encode bytes := by
    refine filter_breaks fun c member => ?_
    rcases List.mem_append.mp member with body | pad
    · exact ne_break_of_value (value_of_mem_encodeRaw body)
    · obtain rfl := List.eq_of_mem_replicate pad
      decide
  rw [decodePadded, clean, decodeStrict_encode]

end Base64
