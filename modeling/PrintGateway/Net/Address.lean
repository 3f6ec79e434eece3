import Mathlib.Data.List.Induction
import Mathlib.Data.List.TakeWhile
import PrintGateway.Json.Quoting

/-!
# IP addresses

Addresses as numbers, the texts that denote them and the canonical text of an IPv6 address.  A text may
leave out a run of zero groups, write a group with any case and leading zeros, and end in a dotted IPv4
address.  The canonical text leaves out the first longest run of at least two zero groups and writes no
leading zeros; reading it back gives the address.
-/

namespace Net

open Json (hexDigit hexChar hexDigit_hexChar)

/-! ### IPv4 -/

variable {c separator : Char} {text : List Char} {pieces : List (List Char)}

instance neZeroOctet : NeZero 256 := ⟨by decide⟩

instance neZeroGroup : NeZero 65536 := ⟨by decide⟩

structure Ipv4 where
  a : Fin 256
  b : Fin 256
  c : Fin 256
  d : Fin 256
  deriving DecidableEq, Repr

/-- The number of an address. -/
def Ipv4.number (address : Ipv4) : ℕ :=
  ((address.a.val * 256 + address.b.val) * 256 + address.c.val) * 256 + address.d.val

/-- The address of a number. -/
def Ipv4.ofNumber (n : ℕ) : Ipv4 :=
  ⟨Fin.ofNat 256 (n / 16777216), Fin.ofNat 256 (n / 65536), Fin.ofNat 256 (n / 256), Fin.ofNat 256 n⟩

/-- A decimal byte without leading zeros. -/
def readByte (text : List Char) : Option (Fin 256) :=
  if text ≠ [] ∧ text.all Char.isDigit ∧ (text.head? = some '0' → text = ['0']) then
    if small : Nat.ofDigitChars 10 text 0 < 256 then some ⟨_, small⟩ else none
  else none

/-- Four decimal bytes between dots. -/
def readIpv4 (text : List Char) : Option Ipv4 :=
  match text.splitOn '.' with
  | [a, b, c, d] => do
    return ⟨← readByte a, ← readByte b, ← readByte c, ← readByte d⟩
  | _ => none

/-- The text of an address. -/
def Ipv4.write (address : Ipv4) : List Char :=
  ['.'].intercalate ([address.a, address.b, address.c, address.d].map fun byte => Nat.toDigits 10 byte.val)

/-- A decimal digit is one of ten characters. -/
theorem exists_of_isDigit (digit : c.isDigit = true) : ∃ k < 10, c = Char.ofNat (48 + k) := by
  have range : 48 ≤ c.toNat ∧ c.toNat ≤ 57 := Char.isDigit_iff_toNat.mp digit
  refine ⟨c.toNat - 48, by omega, ?_⟩
  rw [show 48 + (c.toNat - 48) = c.toNat by omega, Char.ofNat_toNat]

theorem digitChar_sub (digit : c.isDigit = true) : (c.toNat - '0'.toNat).digitChar = c := by
  obtain ⟨k, small, rfl⟩ := exists_of_isDigit digit
  interval_cases k <;> decide

/-- Decimal digits without leading zeros are determined by their value. -/
theorem toDigits_ofDigitChars {digits : List Char} (nonempty : digits ≠ [])
    (all : ∀ c ∈ digits, c.isDigit = true) (leading : digits.head? = some '0' → digits = ['0']) :
    Nat.toDigits 10 (Nat.ofDigitChars 10 digits 0) = digits := by
  induction digits using List.reverseRecOn with
  | nil => exact absurd rfl nonempty
  | append_singleton digits c ih =>
    have digit := all c (by simp)
    have value : Nat.ofDigitChars 10 (digits ++ [c]) 0 =
        10 * Nat.ofDigitChars 10 digits 0 + (c.toNat - '0'.toNat) := by
      simp [Nat.ofDigitChars_append, Nat.ofDigitChars_cons, Nat.ofDigitChars_nil]
    have small : c.toNat - '0'.toNat < 10 := by
      obtain ⟨k, bound, rfl⟩ := exists_of_isDigit digit
      interval_cases k <;> decide
    have last : Nat.toDigits 10 (c.toNat - '0'.toNat) = [c] := by
      rw [Nat.toDigits_of_lt_base small, digitChar_sub digit]
    rcases digits with - | ⟨first, rest⟩
    · rw [value]
      simpa using last
    · have noZero : first ≠ '0' := by
        rintro rfl
        simpa using leading rfl
      have before := ih (by simp) (fun d member => all d (List.mem_append_left _ member))
        (fun zero => absurd (by simpa using zero) noZero)
      have positive : 0 < Nat.ofDigitChars 10 (first :: rest) 0 := by
        rw [Nat.pos_iff_ne_zero]
        intro zero
        rw [zero, Nat.toDigits_zero] at before
        exact noZero (List.cons.inj before).1.symm
      rw [value, ← Nat.toDigits_append_toDigits (by decide) positive small, before, last]

theorem readByte_eq_some_iff {byte : Fin 256} : readByte text = some byte ↔ text = Nat.toDigits 10 byte.val := by
  constructor
  · intro read
    unfold readByte at read
    split_ifs at read with plain small
    cases read
    exact (toDigits_ofDigitChars plain.1 (List.all_eq_true.mp plain.2.1) plain.2.2).symm
  · rintro rfl
    have value : Nat.ofDigitChars 10 (Nat.toDigits 10 byte.val) 0 = byte.val := Nat.ofDigitChars_ten_toDigits
    have plain : Nat.toDigits 10 byte.val ≠ [] ∧ (Nat.toDigits 10 byte.val).all Char.isDigit ∧
        ((Nat.toDigits 10 byte.val).head? = some '0' → Nat.toDigits 10 byte.val = ['0']) := by
      refine ⟨Nat.toDigits_ne_nil, ?_, ?_⟩
      · exact List.all_eq_true.mpr fun c => Nat.isDigit_of_mem_toDigits (by decide) (by decide)
      · have table : ∀ byte : Fin 256,
            (Nat.toDigits 10 byte.val).head? = some '0' → Nat.toDigits 10 byte.val = ['0'] := by
          decide +kernel
        exact table byte
    rw [readByte, if_pos plain, dif_pos (by rw [value]; exact byte.isLt)]
    simp only [value]

theorem Ipv4.splitOn_write (address : Ipv4) : address.write.splitOn '.' =
    [address.a, address.b, address.c, address.d].map fun byte => Nat.toDigits 10 byte.val := by
  have noDot (byte : Fin 256) : '.' ∉ Nat.toDigits 10 byte.val := fun dot =>
    absurd (Nat.isDigit_of_mem_toDigits (by decide) (by decide) dot) (by decide)
  refine List.splitOn_intercalate '.' ?_ (by simp)
  simp [noDot]

/-- An IPv4 address has one text. -/
theorem readIpv4_eq_some_iff {address : Ipv4} : readIpv4 text = some address ↔ text = address.write := by
  constructor
  · intro read
    have joined : ['.'].intercalate (text.splitOn '.') = text := List.intercalate_splitOn '.'
    unfold readIpv4 at read
    split at read
    case h_1 a b c d pieces =>
      simp only [Option.bind_eq_bind, Option.pure_def, Option.bind_eq_some_iff, readByte_eq_some_iff] at read
      obtain ⟨_, rfl, _, rfl, _, rfl, _, rfl, same⟩ := read
      cases same
      rw [← joined, pieces]
      rfl
    case h_2 => cases read
  · rintro rfl
    have read (byte : Fin 256) : readByte (Nat.toDigits 10 byte.val) = some byte :=
      readByte_eq_some_iff.mpr rfl
    simp [readIpv4, Ipv4.splitOn_write, read]

/-! ### IPv6 -/

abbrev Group := Fin 65536

variable {group : Group}

/-- The eight groups of an address. -/
structure Ipv6 where
  groups : List Group
  length : groups.length = 8
  deriving DecidableEq, Repr

variable {address : Ipv6}

/-- The number that groups write in base 65536. -/
def number : List Group → ℕ
  | [] => 0
  | group :: groups => group.val * 65536 ^ groups.length + number groups

def Ipv6.number (address : Ipv6) : ℕ := Net.number address.groups

theorem Ipv6.exists_groups (address : Ipv6) :
    ∃ a b c d e f g h : Group, address.groups = [a, b, c, d, e, f, g, h] := by
  obtain ⟨groups, length⟩ := address
  match groups, length with
  | [a, b, c, d, e, f, g, h], _ => exact ⟨a, b, c, d, e, f, g, h, rfl⟩

theorem number_eight (a b c d e f g h : Group) : number [a, b, c, d, e, f, g, h] =
    a.val * 2 ^ 112 + b.val * 2 ^ 96 + c.val * 2 ^ 80 + d.val * 2 ^ 64 + e.val * 2 ^ 48 + f.val * 2 ^ 32 +
      g.val * 2 ^ 16 + h.val := by
  simp only [number, List.length_cons, List.length_nil]
  omega

/-- The leading bits of the number of an address are its first group. -/
theorem Ipv6.number_div (address : Ipv6) : address.number / 2 ^ 112 = (address.groups.headD 0).val := by
  obtain ⟨a, b, c, d, e, f, g, h, same⟩ := address.exists_groups
  rw [Ipv6.number, same, number_eight, List.headD_cons]
  omega

/-- The value of hexadecimal digits. -/
def hexValue (text : List Char) : ℕ := text.foldl (fun n c => n * 16 + (hexDigit c).getD 0) 0

/-- One to four hexadecimal digits. -/
def IsHexGroup (text : List Char) : Prop :=
  text ≠ [] ∧ text.length ≤ 4 ∧ ∀ c ∈ text, (hexDigit c).isSome = true

instance (text : List Char) : Decidable (IsHexGroup text) := inferInstanceAs (Decidable (_ ∧ _))

def readGroup (text : List Char) : Option Group :=
  if IsHexGroup text then
    if small : hexValue text < 65536 then some ⟨_, small⟩ else none
  else none

def readGroups : List (List Char) → Option (List Group)
  | [] => some []
  | part :: parts => do return (← readGroup part) :: (← readGroups parts)

/-- The two groups of an embedded address. -/
def Ipv4.groups (address : Ipv4) : List Group :=
  [⟨address.a.val * 256 + address.b.val, by omega⟩, ⟨address.c.val * 256 + address.d.val, by omega⟩]

/-- Groups at the end of a text, the last of which may be a dotted address. -/
def readTail : List (List Char) → Option (List Group)
  | [] => some []
  | [part] => ((readGroup part).map fun group => [group]).or ((readIpv4 part).map Ipv4.groups)
  | part :: parts => do return (← readGroup part) :: (← readTail parts)

/-- The pieces between double colons. -/
def splitPairs : List Char → List (List Char)
  | [] => [[]]
  | ':' :: ':' :: rest => [] :: splitPairs rest
  | c :: rest => (splitPairs rest).modifyHead (c :: ·)

/-- The pieces between colons; an empty text has none. -/
def parts (text : List Char) : List (List Char) := if text = [] then [] else text.splitOn ':'

def Ipv6.ofGroups (groups : List Group) : Option Ipv6 :=
  if length : groups.length = 8 then some ⟨groups, length⟩ else none

/-- Groups around a run of zeros that was left out. -/
def Ipv6.around (left right : List Group) : Option Ipv6 :=
  if left.length + right.length < 8 then
    Ipv6.ofGroups (left ++ List.replicate (8 - (left.length + right.length)) 0 ++ right)
  else none

/-- The address a text denotes. -/
def readIpv6 (text : List Char) : Option Ipv6 :=
  match splitPairs text with
  | [whole] => (readTail (parts whole)).bind Ipv6.ofGroups
  | [left, right] => do Ipv6.around (← readGroups (parts left)) (← readTail (parts right))
  | _ => none

inductive Address
  | v4 (address : Ipv4)
  | v6 (address : Ipv6)
  deriving DecidableEq, Repr

/-- The address, an IPv4-mapped one as the IPv4 address. -/
def Address.unmapped : Address → Address
  | .v4 address => .v4 address
  | .v6 address =>
    if address.number / 2 ^ 32 = 0xffff then .v4 (Ipv4.ofNumber (address.number % 2 ^ 32)) else .v6 address

def readAddress (text : List Char) : Option Address :=
  ((readIpv4 text).map .v4).or ((readIpv6 text).map .v6)

/-! ### The canonical text -/

/-- A group without leading zeros. -/
def writeGroup (group : Group) : List Char :=
  let n := group.val
  if n < 16 then [hexChar n]
  else if n < 256 then [hexChar (n / 16), hexChar (n % 16)]
  else if n < 4096 then [hexChar (n / 256), hexChar (n / 16 % 16), hexChar (n % 16)]
  else [hexChar (n / 4096), hexChar (n / 256 % 16), hexChar (n / 16 % 16), hexChar (n % 16)]

def writeGroups (groups : List Group) : List Char := [':'].intercalate (groups.map writeGroup)

/-- The length of the run of zeros at an index. -/
def zerosAt (groups : List Group) (index : ℕ) : ℕ := ((groups.drop index).takeWhile (· = 0)).length

/-- The first longest run of zeros: where it starts and how long it is. -/
def zeroRun (groups : List Group) : ℕ × ℕ :=
  (List.range groups.length).foldl
    (fun best index => if best.2 < zerosAt groups index then (index, zerosAt groups index) else best) (0, 0)

def Ipv6.write (address : Ipv6) : List Char :=
  let run := zeroRun address.groups
  if 2 ≤ run.2 then
    writeGroups (address.groups.take run.1) ++ "::".toList ++ writeGroups (address.groups.drop (run.1 + run.2))
  else writeGroups address.groups

/-- The canonical text. -/
def Address.write : Address → List Char
  | .v4 address => address.write
  | .v6 address => address.write

example : (readIpv6 "FD00:0ec2::0254".toList).map Ipv6.write = some "fd00:ec2::254".toList := by decide

example : (readIpv6 "0:0:0:0:0:FFFF:10.0.0.1".toList).map Ipv6.write = some "::ffff:a00:1".toList := by decide

/-! ### Reading the canonical text back -/

theorem exists_of_mem_writeGroup (member : c ∈ writeGroup group) : ∃ k < 16, c = hexChar k := by
  have bound := group.isLt
  unfold writeGroup at member
  dsimp only at member
  split_ifs at member <;> simp only [List.mem_cons, List.not_mem_nil, or_false] at member
  · exact ⟨_, by omega, member⟩
  · rcases member with rfl | rfl <;> exact ⟨_, by omega, rfl⟩
  · rcases member with rfl | rfl | rfl <;> exact ⟨_, by omega, rfl⟩
  · rcases member with rfl | rfl | rfl | rfl <;> exact ⟨_, by omega, rfl⟩

theorem isHexGroup_writeGroup (group : Group) : IsHexGroup (writeGroup group) := by
  rw [IsHexGroup, ← and_assoc]
  refine ⟨?_, fun c member => ?_⟩
  · unfold writeGroup
    dsimp only
    split_ifs <;> simp
  · obtain ⟨k, small, rfl⟩ := exists_of_mem_writeGroup member
    rw [hexDigit_hexChar small]
    rfl

theorem hexValue_writeGroup (group : Group) : hexValue (writeGroup group) = group.val := by
  have digit (m : ℕ) (small : m < 16) : (hexDigit (hexChar m)).getD 0 = m := by
    rw [hexDigit_hexChar small]
    rfl
  have bound := group.isLt
  unfold writeGroup
  dsimp only
  split_ifs with one two three <;> simp only [hexValue, List.foldl_cons, List.foldl_nil] <;>
    (repeat rw [digit _ (by omega)]) <;> omega

theorem readGroup_writeGroup (group : Group) : readGroup (writeGroup group) = some group := by
  rw [readGroup, if_pos (isHexGroup_writeGroup group), dif_pos (by rw [hexValue_writeGroup]; exact group.isLt)]
  simp only [hexValue_writeGroup]

theorem colon_not_mem_writeGroup (group : Group) : ':' ∉ writeGroup group := by
  intro colon
  have hex := (isHexGroup_writeGroup group).2.2 ':' colon
  revert hex
  decide

theorem readGroups_writeGroup (groups : List Group) : readGroups (groups.map writeGroup) = some groups := by
  induction groups with
  | nil => rfl
  | cons group groups ih => simp [readGroups, readGroup_writeGroup, ih]

/-- Groups are read in the same way at the end of a text. -/
theorem readTail_of_readGroups {groups : List Group} (read : readGroups pieces = some groups) :
    readTail pieces = some groups := by
  induction pieces generalizing groups with
  | nil => exact read
  | cons piece pieces ih =>
    simp only [readGroups, Option.bind_eq_bind, Option.pure_def, Option.bind_eq_some_iff] at read
    obtain ⟨_, first, _, rest, same⟩ := read
    cases pieces with
    | nil =>
      cases rest
      simp [readTail, first, same]
    | cons next pieces => simp [readTail, first, ih rest, same]

theorem parts_writeGroups (groups : List Group) : parts (writeGroups groups) = groups.map writeGroup := by
  cases groups with
  | nil => rfl
  | cons group groups =>
    have nonempty : writeGroups (group :: groups) ≠ [] := by
      have := (isHexGroup_writeGroup group).1
      cases groups <;> simp [writeGroups, List.intercalate, this]
    rw [parts, if_neg nonempty, writeGroups, List.splitOn_intercalate]
    · simp only [List.mem_map]
      rintro _ ⟨member, -, rfl⟩
      exact colon_not_mem_writeGroup member
    · simp

theorem splitPairs_cons (notColon : c ≠ ':') (text : List Char) :
    splitPairs (c :: text) = (splitPairs text).modifyHead (c :: ·) := by
  rw [splitPairs]
  rintro _ rfl
  exact absurd rfl notColon

theorem splitPairs_colon_cons (notColon : c ≠ ':') (text : List Char) :
    splitPairs (':' :: c :: text) = (splitPairs (c :: text)).modifyHead (':' :: ·) := by
  rw [splitPairs]
  intro _ _ same
  exact notColon (List.cons.inj same).1

theorem modifyHead_nil_append (pieces : List (List Char)) : pieces.modifyHead ([] ++ ·) = pieces := by
  cases pieces <;> rfl

theorem splitPairs_append {part : List Char} (noColon : ':' ∉ part) (text : List Char) :
    splitPairs (part ++ text) = (splitPairs text).modifyHead (part ++ ·) := by
  induction part with
  | nil => exact (modifyHead_nil_append _).symm
  | cons c part ih =>
    obtain ⟨notColon, noColon⟩ := not_or.mp (List.mem_cons.not.mp noColon)
    rw [List.cons_append, splitPairs_cons (Ne.symm notColon), ih noColon, List.modifyHead_modifyHead]
    rfl

/-- A written list of groups has no double colon inside and none at its end. -/
theorem splitPairs_writeGroups (groups : List Group) (text : List Char) :
    splitPairs (writeGroups groups ++ text) = (splitPairs text).modifyHead (writeGroups groups ++ ·) := by
  induction groups with
  | nil => exact (modifyHead_nil_append _).symm
  | cons group groups ih =>
    have noColon := colon_not_mem_writeGroup group
    cases groups with
    | nil =>
      have single : writeGroups [group] = writeGroup group := by simp [writeGroups]
      rw [single, splitPairs_append noColon]
    | cons next groups =>
      obtain ⟨c, rest, first⟩ := List.exists_cons_of_ne_nil (isHexGroup_writeGroup next).1
      have notColon : c ≠ ':' := fun colon =>
        colon_not_mem_writeGroup next (first ▸ colon ▸ List.mem_cons_self)
      have joined : writeGroups (group :: next :: groups) =
          writeGroup group ++ ':' :: writeGroups (next :: groups) := by
        simp [writeGroups, List.intercalate]
      obtain ⟨tail, isTail⟩ : ∃ tail, writeGroups (next :: groups) = c :: tail := by
        cases groups <;> simp [writeGroups, List.intercalate, first]
      rw [joined, List.append_assoc, splitPairs_append noColon, List.cons_append, isTail, List.cons_append,
        splitPairs_colon_cons notColon, ← List.cons_append, ← isTail, ih, List.modifyHead_modifyHead,
        List.modifyHead_modifyHead]
      congr 1
      funext text
      simp

/-! ### The run of zeros -/

theorem zeroRun_le (groups : List Group) : (zeroRun groups).2 ≤ zerosAt groups (zeroRun groups).1 := by
  refine List.foldlRecOn (motive := fun best : ℕ × ℕ => best.2 ≤ zerosAt groups best.1) _ _ (Nat.zero_le _)
    fun best kept index _ => ?_
  split
  · exact le_rfl
  · exact kept

theorem drop_eq_replicate {groups : List Group} {index n : ℕ} (zeros : n ≤ zerosAt groups index) :
    groups.drop index = List.replicate n 0 ++ groups.drop (index + n) := by
  have isZeros : (groups.drop index).take n = List.replicate n 0 := by
    rw [← List.takeWhile_append_dropWhile (p := (· = 0)) (l := groups.drop index),
      List.take_append_of_le_length zeros, List.eq_replicate_iff]
    refine ⟨(List.length_take_of_le zeros), fun group member => ?_⟩
    simpa using List.mem_takeWhile_imp (List.mem_of_mem_take member)
  rw [← isZeros, ← List.drop_drop, List.take_append_drop]

theorem eq_around_zeroRun (groups : List Group) : groups = groups.take (zeroRun groups).1 ++
      (List.replicate (zeroRun groups).2 0 ++ groups.drop ((zeroRun groups).1 + (zeroRun groups).2)) := by
  rw [← drop_eq_replicate (zeroRun_le groups), List.take_append_drop]

/-- How the canonical text is cut: it has no double colon, or one for at least one group. -/
theorem Ipv6.write_cases (address : Ipv6) : address.write = writeGroups address.groups ∨ ∃ left right n, 0 < n ∧
      address.groups = left ++ (List.replicate n 0 ++ right) ∧
      address.write = writeGroups left ++ ':' :: ':' :: writeGroups right := by
  unfold Ipv6.write
  dsimp only
  split
  case isFalse => exact .inl rfl
  case isTrue long =>
    refine .inr ⟨_, _, (zeroRun address.groups).2, by omega, eq_around_zeroRun _, ?_⟩
    simp

theorem Ipv6.ofGroups_groups (address : Ipv6) : Ipv6.ofGroups address.groups = some address :=
  dif_pos address.length

theorem Ipv6.around_eq {left right : List Group} {n : ℕ} (some' : 0 < n)
    (same : address.groups = left ++ (List.replicate n 0 ++ right)) :
    Ipv6.around left right = some address := by
  have length := address.length
  rw [same] at length
  simp only [List.length_append, List.length_replicate] at length
  have missing : 8 - (left.length + right.length) = n := by omega
  rw [Ipv6.around, if_pos (by omega), missing, List.append_assoc, ← same, ofGroups_groups]

theorem readIpv6_write (address : Ipv6) : readIpv6 address.write = some address := by
  rcases address.write_cases with whole | ⟨left, right, n, some', same, cut⟩
  · have single := splitPairs_writeGroups address.groups []
    rw [List.append_nil] at single
    rw [whole, readIpv6, single]
    simp [splitPairs, parts_writeGroups, readTail_of_readGroups (readGroups_writeGroup _), Ipv6.ofGroups_groups]
  · have single := splitPairs_writeGroups right []
    rw [List.append_nil] at single
    rw [cut, readIpv6, splitPairs_writeGroups, splitPairs, single]
    simp [splitPairs, parts_writeGroups, readGroups_writeGroup, readTail_of_readGroups (readGroups_writeGroup _),
      Ipv6.around_eq some' same]

/-- The canonical text determines the address. -/
theorem Ipv6.write_injective : Function.Injective Ipv6.write := fun a b same =>
  Option.some.inj (by rw [← readIpv6_write a, same, readIpv6_write])

/-! ### The characters of an address -/

/-- The characters a text of an address has. -/
def IsAddressChar (c : Char) : Prop := (hexDigit c).isSome = true ∨ c = ':' ∨ c = '.'

instance : DecidablePred IsAddressChar := fun _ => inferInstanceAs (Decidable (_ ∨ _))

theorem IsAddressChar.range (isChar : IsAddressChar c) :
    c.toNat = 46 ∨ (48 ≤ c.toNat ∧ c.toNat ≤ 58) ∨ (65 ≤ c.toNat ∧ c.toNat ≤ 70) ∨
      (97 ≤ c.toNat ∧ c.toNat ≤ 102) := by
  rcases isChar with digit | rfl | rfl
  · unfold hexDigit at digit
    dsimp only at digit
    split_ifs at digit <;> first | omega | simp at digit
  · decide
  · decide

theorem IsAddressChar.ne {d : Char} (isChar : IsAddressChar c) (other : ¬IsAddressChar d) : c ≠ d :=
  fun same => other (same ▸ isChar)

theorem isAddressChar_of_isDigit (digit : c.isDigit = true) : IsAddressChar c := by
  obtain ⟨k, small, rfl⟩ := exists_of_isDigit digit
  interval_cases k <;> decide

/-- A text is cut where its characters of one kind end. -/
theorem span_append {isInside : Char → Bool} {inside rest : List Char} (all : ∀ c ∈ inside, isInside c = true)
    (ended : rest.head?.all (!isInside ·) = true) :
    (inside ++ rest).takeWhile isInside = inside ∧ (inside ++ rest).dropWhile isInside = rest := by
  rw [List.takeWhile_append_of_pos all, List.dropWhile_append_of_pos all]
  cases rest with
  | nil => simp
  | cons c rest =>
    have outside : isInside c = false := by simpa using ended
    simp [outside]

theorem mem_of_mem_intercalate (member : c ∈ [separator].intercalate pieces) :
    c = separator ∨ ∃ piece ∈ pieces, c ∈ piece := by
  induction pieces with
  | nil => simp at member
  | cons piece pieces ih =>
    cases pieces with
    | nil => exact .inr ⟨piece, List.mem_cons_self, by simpa using member⟩
    | cons next pieces =>
      rw [List.intercalate_cons_cons, List.mem_append, List.mem_append, List.mem_singleton] at member
      rcases member with (first | same) | rest
      · exact .inr ⟨piece, List.mem_cons_self, first⟩
      · exact .inl same
      · exact (ih rest).imp_right fun ⟨found, listed, member⟩ =>
          ⟨found, List.mem_cons_of_mem _ listed, member⟩

theorem isAddressChar_of_splitOn (isSeparator : IsAddressChar separator)
    (pieces : ∀ piece ∈ text.splitOn separator, ∀ c ∈ piece, IsAddressChar c) :
    ∀ c ∈ text, IsAddressChar c := by
  intro c member
  have joined : [separator].intercalate (text.splitOn separator) = text := List.intercalate_splitOn separator
  rw [← joined] at member
  rcases mem_of_mem_intercalate member with rfl | ⟨piece, listed, member⟩
  · exact isSeparator
  · exact pieces piece listed c member

theorem Ipv4.isDigit_or_dot {address : Ipv4} (member : c ∈ address.write) : c.isDigit = true ∨ c = '.' := by
  rcases mem_of_mem_intercalate member with dot | ⟨piece, listed, member⟩
  · exact .inr dot
  · obtain ⟨byte, -, rfl⟩ := List.mem_map.mp listed
    exact .inl (Nat.isDigit_of_mem_toDigits (by decide) (by decide) member)

theorem Ipv4.colon_not_mem_write (address : Ipv4) : ':' ∉ address.write := by
  intro colon
  rcases Ipv4.isDigit_or_dot colon with digit | dot
  · exact absurd digit (by decide)
  · exact absurd dot (by decide)

theorem isAddressChar_of_readIpv4 {address : Ipv4} (read : readIpv4 text = some address) :
    ∀ c ∈ text, IsAddressChar c := by
  obtain rfl := readIpv4_eq_some_iff.mp read
  intro c member
  rcases Ipv4.isDigit_or_dot member with digit | dot
  · exact isAddressChar_of_isDigit digit
  · exact .inr (.inr dot)

theorem isAddressChar_of_readGroup (read : readGroup text = some group) : ∀ c ∈ text, IsAddressChar c := by
  unfold readGroup at read
  split at read
  case isTrue hex => exact fun c member => .inl (hex.2.2 c member)
  case isFalse => cases read

theorem isAddressChar_of_readTail {groups : List Group} (read : readTail pieces = some groups) :
    ∀ piece ∈ pieces, ∀ c ∈ piece, IsAddressChar c := by
  induction pieces generalizing groups with
  | nil => simp
  | cons piece pieces ih =>
    cases pieces with
    | nil =>
      refine List.forall_mem_cons.mpr ⟨?_, by simp⟩
      rw [readTail, Option.or_eq_some_iff] at read
      rcases read with group | ⟨-, dotted⟩
      · obtain ⟨_, group, -⟩ := Option.map_eq_some_iff.mp group
        exact isAddressChar_of_readGroup group
      · obtain ⟨_, dotted, -⟩ := Option.map_eq_some_iff.mp dotted
        exact isAddressChar_of_readIpv4 dotted
    | cons next pieces =>
      simp only [readTail, Option.bind_eq_bind, Option.pure_def, Option.bind_eq_some_iff] at read
      obtain ⟨_, first, _, rest, -⟩ := read
      exact List.forall_mem_cons.mpr ⟨isAddressChar_of_readGroup first, ih rest⟩

theorem isAddressChar_of_parts (pieces : ∀ piece ∈ parts text, ∀ c ∈ piece, IsAddressChar c) :
    ∀ c ∈ text, IsAddressChar c := by
  by_cases empty : text = []
  · simp [empty]
  · rw [parts, if_neg empty] at pieces
    exact isAddressChar_of_splitOn (by decide) pieces

theorem splitPairs_ne_nil (text : List Char) : splitPairs text ≠ [] := by
  fun_induction splitPairs text with
  | case1 | case2 => simp
  | case3 c rest _ ih =>
    obtain ⟨first, others, cut⟩ := List.exists_cons_of_ne_nil ih
    simp [cut]

theorem isAddressChar_of_splitPairs (pieces : ∀ piece ∈ splitPairs text, ∀ c ∈ piece, IsAddressChar c) :
    ∀ c ∈ text, IsAddressChar c := by
  fun_induction splitPairs text with
  | case1 => simp
  | case2 rest ih =>
    have colon : IsAddressChar ':' := by decide
    exact List.forall_mem_cons.mpr ⟨colon, List.forall_mem_cons.mpr ⟨colon,
      ih fun piece member => pieces piece (List.mem_cons_of_mem _ member)⟩⟩
  | case3 c rest _ ih =>
    obtain ⟨first, others, cut⟩ := List.exists_cons_of_ne_nil (splitPairs_ne_nil rest)
    rw [cut, List.modifyHead_cons, List.forall_mem_cons] at pieces
    rw [cut] at ih
    obtain ⟨isChar, inFirst⟩ := List.forall_mem_cons.mp pieces.1
    exact List.forall_mem_cons.mpr ⟨isChar, ih (List.forall_mem_cons.mpr ⟨inFirst, pieces.2⟩)⟩

theorem isAddressChar_of_readIpv6 (read : readIpv6 text = some address) : ∀ c ∈ text, IsAddressChar c := by
  refine isAddressChar_of_splitPairs ?_
  unfold readIpv6 at read
  split at read
  case h_1 whole cut =>
    obtain ⟨_, groups, -⟩ := Option.bind_eq_some_iff.mp read
    rw [cut]
    exact List.forall_mem_cons.mpr ⟨isAddressChar_of_parts (isAddressChar_of_readTail groups), by simp⟩
  case h_2 left right cut =>
    simp only [Option.bind_eq_bind, Option.bind_eq_some_iff] at read
    obtain ⟨_, leftGroups, _, rightGroups, -⟩ := read
    rw [cut]
    have leftGroups := readTail_of_readGroups leftGroups
    exact List.forall_mem_cons.mpr ⟨isAddressChar_of_parts (isAddressChar_of_readTail leftGroups),
      List.forall_mem_cons.mpr ⟨isAddressChar_of_parts (isAddressChar_of_readTail rightGroups), by simp⟩⟩
  case h_3 => cases read

theorem exists_of_mem_write (member : c ∈ address.write) : c = ':' ∨ ∃ k < 16, c = hexChar k := by
  have inGroups (groups : List Group) (inside : c ∈ writeGroups groups) : c = ':' ∨ ∃ k < 16, c = hexChar k := by
    rcases mem_of_mem_intercalate inside with colon | ⟨piece, listed, inside⟩
    · exact .inl colon
    · obtain ⟨group, -, rfl⟩ := List.mem_map.mp listed
      exact .inr (exists_of_mem_writeGroup inside)
  rcases address.write_cases with whole | ⟨left, right, n, -, -, cut⟩
  · exact inGroups _ (whole ▸ member)
  · rw [cut, List.mem_append, List.mem_cons, List.mem_cons] at member
    rcases member with inLeft | colon | colon | inRight
    · exact inGroups _ inLeft
    · exact .inl colon
    · exact .inl colon
    · exact inGroups _ inRight

/-- The text of an IPv6 address has a colon. -/
theorem colon_mem_of_readIpv6 (read : readIpv6 text = some address) : ':' ∈ text := by
  by_contra noColon
  have single := splitPairs_append noColon []
  rw [List.append_nil, splitPairs, List.modifyHead_cons, List.append_nil] at single
  rw [readIpv6, single] at read
  obtain ⟨groups, tail, eight⟩ := Option.bind_eq_some_iff.mp read
  have short : groups.length ≤ 2 := by
    by_cases empty : text = []
    · simp only [parts, if_pos empty, readTail, Option.some.injEq] at tail
      simp [← tail]
    · have whole : text.splitOn ':' = [text] := by
        have joined : ([':'].intercalate [text]).splitOn ':' = [text] :=
          List.splitOn_intercalate ':' (by simpa using noColon) (by simp)
        simpa using joined
      rw [parts, if_neg empty, whole, readTail, Option.or_eq_some_iff] at tail
      rcases tail with group | ⟨-, dotted⟩
      · obtain ⟨_, -, rfl⟩ := Option.map_eq_some_iff.mp group
        simp
      · obtain ⟨_, -, rfl⟩ := Option.map_eq_some_iff.mp dotted
        simp [Ipv4.groups]
  unfold Ipv6.ofGroups at eight
  split_ifs at eight with length
  omega

end Net
