import Mathlib.Tactic.Ring
import PrintGateway.Model.Agent.Destination
import PrintGateway.Model.Gateway.Destination

/-!
# The destination policy

The Gateway and the Agent test an address in different forms: the Gateway the canonical text and a number
it reads from it, the Agent sixteen bytes and the text they print as.  Both tests are compared with one
set of networks.  Every spelling of an address is rewritten to the same canonical text, so that what the
Gateway reads is the address the spelling denotes.
-/

namespace PrintGateway

open Text Net

variable {address ip : Ipv6}

/-- A text of an address, in brackets or not, with white space around it. -/
inductive Spells : Text → Address → Prop
  | bare {before core after : Text} {address : Address} (read : readAddress core = some address)
    (blankBefore : ∀ c ∈ before, isTrimmed c = true) (blankAfter : ∀ c ∈ after, isTrimmed c = true) :
    Spells (before ++ core ++ after) address
  | bracketed {before core after : Text} {address : Address} (read : readAddress core = some address)
    (blankBefore : ∀ c ∈ before, isTrimmed c = true) (blankAfter : ∀ c ∈ after, isTrimmed c = true) :
    Spells (before ++ ('[' :: (core ++ [']'])) ++ after) address

/-- 10/8, 172.16/12, 192.168/16, 169.254/16, fc00::/7 and fe80::/10 without the addresses of metadata
services. -/
def PrinterNetwork (address : Address) : Prop :=
  match address.unmapped with
  | .v4 address =>
    (address.number / 2 ^ 24 = 10 ∨ address.number / 2 ^ 20 = 172 * 16 + 1 ∨
        address.number / 2 ^ 16 = 192 * 256 + 168 ∨ address.number / 2 ^ 16 = 169 * 256 + 254) ∧
      address ≠ ⟨169, 254, 169, 254⟩ ∧ address ≠ ⟨169, 254, 170, 2⟩
  | .v6 address =>
    (address.number / 2 ^ 121 = 0x7e ∨ address.number / 2 ^ 118 = 0x3fa) ∧
      address.number ≠ 0xfd000ec2000000000000000000000254

/-! ### The networks in bytes and groups -/

/-- The networks by the first two bytes. -/
def PrivateBytes (a b : ℕ) : Prop := a = 10 ∨ (a = 172 ∧ b / 16 = 1) ∨ (a = 192 ∧ b = 168) ∨ (a = 169 ∧ b = 254)

theorem printerNetwork_v4 (address : Ipv4) : PrinterNetwork (.v4 address) ↔ PrivateBytes address.a.val address.b.val ∧
      address ≠ ⟨169, 254, 169, 254⟩ ∧ address ≠ ⟨169, 254, 170, 2⟩ := by
  have a := address.a.isLt
  have b := address.b.isLt
  have c := address.c.isLt
  have d := address.d.isLt
  have leading : address.number / 2 ^ 24 = address.a.val := by
    unfold Ipv4.number
    omega
  have twelve : address.number / 2 ^ 20 = address.a.val * 16 + address.b.val / 16 := by
    unfold Ipv4.number
    omega
  have sixteen : address.number / 2 ^ 16 = address.a.val * 256 + address.b.val := by
    unfold Ipv4.number
    omega
  simp only [PrinterNetwork, Address.unmapped, leading, twelve, sixteen, PrivateBytes]
  refine and_congr (or_congr Iff.rfl (or_congr ?_ (or_congr ?_ ?_))) Iff.rfl
  all_goals omega

/-- The networks by the first group. -/
def PrivateGroup (first : ℕ) : Prop := first / 512 = 0x7e ∨ first / 64 = 0x3fa

/-- The IPv6 address of metadata services. -/
def metadataIpv6 : Ipv6 := ⟨[0xfd00, 0xec2, 0, 0, 0, 0, 0, 0x254], rfl⟩

theorem metadata_of_number (same : address.number = 0xfd000ec2000000000000000000000254) : address = metadataIpv6 := by
  obtain ⟨a, b, c, d, e, f, g, h, groups⟩ := address.exists_groups
  have value := number_eight a b c d e f g h
  rw [← groups, ← Ipv6.number, same] at value
  have sameGroups : address.groups = metadataIpv6.groups := by
    rw [groups]
    simp only [metadataIpv6, List.cons.injEq, Fin.ext_iff, and_true]
    change a.val = 0xfd00 ∧ b.val = 0xec2 ∧ c.val = 0 ∧ d.val = 0 ∧ e.val = 0 ∧ f.val = 0 ∧ g.val = 0 ∧ h.val = 0x254
    omega
  cases address
  exact (Ipv6.mk.injEq ..).mpr sameGroups

theorem number_ne_iff : address.number ≠ 0xfd000ec2000000000000000000000254 ↔ address ≠ metadataIpv6 := by
  refine not_congr ⟨metadata_of_number, ?_⟩
  rintro rfl
  decide +kernel

theorem privateGroup_iff (address : Ipv6) : (address.number / 2 ^ 121 = 0x7e ∨ address.number / 2 ^ 118 = 0x3fa) ↔
      PrivateGroup (address.groups.headD 0).val := by
  have first := address.number_div
  unfold PrivateGroup
  omega

/-! ### The Agent -/

/-- The text of an IPv4 address is no text of an IPv6 address, in any case. -/
theorem equalFold_write_v4 (address : Ipv4) : equalFold address.write "fd00:ec2::254" = false := by
  rw [equalFold, beq_eq_false_iff_ne]
  intro same
  have colon : foldChar ':' ∈ address.write.map foldChar := by
    rw [same]
    decide
  obtain ⟨c, member, folded⟩ := List.mem_map.mp colon
  rcases Ipv4.isDigit_or_dot member with digit | rfl
  · obtain ⟨k, small, rfl⟩ := exists_of_isDigit digit
    interval_cases k <;> exact absurd folded (by decide)
  · exact absurd folded (by decide)

/-- A canonical text is in lower case. -/
theorem foldChar_write (address : Ipv6) : address.write.map foldChar = address.write := by
  refine (List.map_congr_left fun c member => ?_).trans (List.map_id _)
  rcases exists_of_mem_write member with rfl | ⟨k, small, rfl⟩
  · decide
  · interval_cases k <;> decide

theorem equalFold_write_v6 (address : Ipv6) :
    equalFold address.write "fd00:ec2::254" = true ↔ address = metadataIpv6 := by
  have canonical : "fd00:ec2::254" = metadataIpv6.write := by decide
  rw [equalFold, beq_iff_eq, foldChar_write, canonical, foldChar_write]
  exact Ipv6.write_injective.eq_iff

/-- The masks of the networks, byte by byte. -/
theorem land_masks : ∀ b : Fin 256, (b.val &&& 0xf0 = 16 ↔ b.val / 16 = 1) ∧
    (b.val &&& 0xfe = 0xfc ↔ b.val / 2 = 0x7e) ∧ (b.val &&& 0xc0 = 0x80 ↔ b.val / 64 = 2) ∧
    (b.val ∈ [10, 172, 192, 169] → b ≠ 0 ∧ b ≠ 127 ∧ b.val &&& 0xf0 ≠ 0xe0) := by
  decide +kernel

/-- The exclusions before the networks matter for the metadata addresses only. -/
theorem isAllowedPrinterIP_some_iff (Inside : Prop)
    (inNetworks : (Go.isPrivate ip || Go.isLinkLocalUnicast ip) = true ↔ Inside)
    (notExcluded : Inside → (Go.isUnspecified ip || Go.isLoopback ip || Go.isMulticast ip) = false) :
    Agent.isAllowedPrinterIP (some ip) = true ↔ Inside ∧
      (Go.to4 ip ≠ some ⟨169, 254, 169, 254⟩ ∧ Go.to4 ip ≠ some ⟨169, 254, 170, 2⟩) ∧
      equalFold (Go.string ip) "fd00:ec2::254" = false := by
  rw [Agent.isAllowedPrinterIP]
  split_ifs with excluded metadata text
  · refine iff_of_false not_false fun all => ?_
    rw [notExcluded all.1] at excluded
    exact Bool.false_ne_true excluded
  · exact iff_of_false not_false fun all => not_or.mpr all.2.1 metadata
  · refine iff_of_false not_false fun all => ?_
    rw [all.2.2] at text
    exact Bool.false_ne_true text
  · rw [inNetworks]
    exact (and_iff_left ⟨not_or.mp metadata, Bool.eq_false_iff.mpr text⟩).symm

theorem isAllowedPrinterIP_v4 {bytes : Ipv4} (four : Go.to4 ip = some bytes) :
    Agent.isAllowedPrinterIP (some ip) = true ↔ PrivateBytes bytes.a.val bytes.b.val ∧
      bytes ≠ ⟨169, 254, 169, 254⟩ ∧ bytes ≠ ⟨169, 254, 170, 2⟩ := by
  have text : equalFold (Go.string ip) "fd00:ec2::254" = false := by
    rw [Go.string, four]
    exact equalFold_write_v4 bytes
  rw [isAllowedPrinterIP_some_iff (PrivateBytes bytes.a.val bytes.b.val), four, text]
  · simp only [ne_eq, Option.some.injEq, and_true]
  · simp only [Go.isPrivate, Go.isLinkLocalUnicast, Go.byFamily, four, PrivateBytes, Bool.or_eq_true,
      Bool.and_eq_true, decide_eq_true_eq, (land_masks bytes.b).1, Fin.ext_iff, or_assoc]
    rfl
  · intro inside
    obtain ⟨notZero, notLoopback, notMulticast⟩ := (land_masks bytes.a).2.2.2 (by
      rcases inside with first | ⟨first, -⟩ | ⟨first, -⟩ | ⟨first, -⟩ <;> simp [first])
    simp only [Go.isUnspecified, Go.isLoopback, Go.isMulticast, Go.byFamily, four, Bool.or_eq_false_iff,
      decide_eq_false_iff_not]
    exact ⟨⟨fun zero => notZero (zero ▸ rfl), notLoopback⟩, notMulticast⟩

theorem isAllowedPrinterIP_v6 (four : Go.to4 ip = none) :
    Agent.isAllowedPrinterIP (some ip) = true ↔ PrivateGroup (ip.groups.headD 0).val ∧ ip ≠ metadataIpv6 := by
  have first := (ip.groups.headD 0).isLt
  have text : equalFold (Go.string ip) "fd00:ec2::254" = false ↔ ip ≠ metadataIpv6 := by
    rw [Go.string, four, Bool.eq_false_iff]
    exact not_congr (equalFold_write_v6 ip)
  rw [isAllowedPrinterIP_some_iff (PrivateGroup (ip.groups.headD 0).val), four, text]
  · simp
  · obtain ⟨-, high, -⟩ := land_masks ⟨Go.byte0 ip, by unfold Go.byte0; omega⟩
    obtain ⟨-, -, low, -⟩ := land_masks ⟨Go.byte1 ip, by unfold Go.byte1; omega⟩
    simp only [Go.isPrivate, Go.isLinkLocalUnicast, Go.byFamily, four, Bool.or_eq_true, Bool.and_eq_true,
      decide_eq_true_eq, high, low]
    unfold Go.byte0 Go.byte1 PrivateGroup
    omega
  · intro inside
    obtain ⟨a, b, c, d, e, f, g, h, groups⟩ := ip.exists_groups
    rw [PrivateGroup, groups, List.headD_cons] at inside
    have notZero : a ≠ 0 := by
      rintro rfl
      simp at inside
    have notMulticast : Go.byte0 ip ≠ 0xff := by
      rw [Go.byte0, groups, List.headD_cons]
      omega
    simp only [Go.isUnspecified, Go.isLoopback, Go.isMulticast, Go.byFamily, four, groups,
      Bool.or_eq_false_iff, decide_eq_false_iff_not]
    exact ⟨⟨by simp [notZero], by simp [notZero]⟩, notMulticast⟩

/-- The Agent allows exactly the printer networks. -/
theorem isAllowedPrinterIP_iff (address : Address) :
    Agent.isAllowedPrinterIP (some (Go.ofAddress address)) = true ↔ PrinterNetwork address := by
  have unmapped := Go.unmapped_eq address
  cases four : Go.to4 (Go.ofAddress address) with
  | some bytes =>
    rw [four] at unmapped
    rw [isAllowedPrinterIP_v4 four, ← printerNetwork_v4, PrinterNetwork, PrinterNetwork, unmapped]
    rfl
  | none =>
    cases address with
    | v4 address =>
      rw [Go.ofAddress, Go.to4_mapped] at four
      exact absurd four (Option.some_ne_none _)
    | v6 address =>
      rw [four] at unmapped
      rw [isAllowedPrinterIP_v6 four, PrinterNetwork, unmapped]
      exact and_congr (privateGroup_iff address).symm number_ne_iff.symm

/-! ### The Gateway -/

namespace Gateway

variable {core : Text}

theorem decimalNumber_toDigits (n : ℕ) : decimalNumber (Nat.toDigits 10 n) = some n := by
  rw [decimalNumber, if_pos, Nat.ofDigitChars_ten_toDigits]
  exact ⟨Nat.toDigits_ne_nil, List.all_eq_true.mpr fun c => Nat.isDigit_of_mem_toDigits (by decide) (by decide)⟩

theorem isPrivateIPv4_write (address : Ipv4) (allowed : isPrivateIPv4 address.write = true) :
    PrivateBytes address.a.val address.b.val := by
  rw [isPrivateIPv4, Ipv4.splitOn_write] at allowed
  simp only [List.map_cons, List.map_nil, decimalNumber_toDigits, Bool.and_eq_true, Bool.or_eq_true,
    decide_eq_true_eq, beq_iff_eq] at allowed
  unfold PrivateBytes
  omega

theorem isIP_write_v4 (address : Ipv4) : isIP address.write = 4 := by
  have read : readIpv4 address.write = some address := readIpv4_eq_some_iff.mpr rfl
  simp [isIP, read]

theorem printerNetwork_of_host_v4 (address : Ipv4) (allowed : isAllowedHost address.write = true) :
    PrinterNetwork (.v4 address) := by
  rw [isAllowedHost] at allowed
  split at allowed
  · exact absurd allowed Bool.false_ne_true
  rename_i metadata
  rw [isPrivateNetworkAddress, if_pos (isIP_write_v4 address),
    if_neg fun either => metadata (either.imp_right .inl)] at allowed
  refine (printerNetwork_v4 address).mpr ⟨isPrivateIPv4_write address allowed, ?_, ?_⟩
  · rintro rfl
    exact metadata (.inl (by decide))
  · rintro rfl
    exact metadata (.inr (.inl (by decide)))

/-- Shifting written groups together gives their number. -/
theorem foldl_shift_writeGroup (groups : List Group) (value : ℕ) :
    (groups.map writeGroup).foldl (fun value part => value <<< 16 ||| hexValue part) value =
      value * 65536 ^ groups.length + number groups := by
  induction groups generalizing value with
  | nil => simp [number]
  | cons group groups ih =>
    have shifted : value <<< 16 ||| group.val = value * 65536 + group.val := by
      rw [← Nat.shiftLeft_add_eq_or_of_lt group.isLt, Nat.shiftLeft_eq]
    rw [List.map_cons, List.foldl_cons, hexValue_writeGroup, shifted, ih, number, List.length_cons, Nat.pow_succ]
    ring

theorem shiftGroups_writeGroup (groups : List Group) :
    shiftGroups (groups.map writeGroup) = some (number groups) := by
  rw [shiftGroups, if_pos, foldl_shift_writeGroup, Nat.zero_mul, Nat.zero_add]
  simp only [List.mem_map]
  rintro _ ⟨group, -, rfl⟩
  exact isHexGroup_writeGroup group

/-- The Gateway reads a canonical text back. -/
theorem parseIPv6_write (address : Ipv6) : parseIPv6 address.write = some address.number := by
  have noPercent : '%' ∉ address.write := by
    intro member
    rcases exists_of_mem_write member with percent | ⟨k, small, percent⟩
    · exact absurd percent (by decide)
    · interval_cases k <;> exact absurd percent (by decide)
  rw [parseIPv6, if_neg noPercent]
  rcases address.write_cases with whole | ⟨left, right, n, some', same, cut⟩
  · have single := splitPairs_writeGroups address.groups []
    rw [List.append_nil] at single
    rw [whole, single]
    simp [splitPairs, parts_writeGroups, shiftGroups_writeGroup, address.length, Ipv6.number]
  · have single := splitPairs_writeGroups right []
    rw [List.append_nil] at single
    have length := address.length
    rw [same] at length
    simp only [List.length_append, List.length_replicate] at length
    have zero : (['0'] : Text) = writeGroup 0 := by decide
    rw [cut, splitPairs_writeGroups, splitPairs, single]
    simp only [splitPairs, List.modifyHead_cons, List.append_nil, parts_writeGroups, List.length_map]
    rw [if_neg (by omega), show 8 - (left.length + right.length) = n by omega, zero, ← List.map_replicate,
      ← List.map_append, ← List.map_append, List.append_assoc, ← same, shiftGroups_writeGroup]
    rfl

theorem isIP_write_v6 (address : Ipv6) : isIP address.write ≠ 4 := by
  have colon := colon_mem_of_readIpv6 (readIpv6_write address)
  have noFour : readIpv4 address.write = none := by
    rw [Option.eq_none_iff_forall_ne_some]
    intro four read
    rw [readIpv4_eq_some_iff.mp read] at colon
    exact Ipv4.colon_not_mem_write four colon
  simp only [isIP, noFour, Option.isSome_none, Bool.false_eq_true, if_false]
  split <;> decide

theorem printerNetwork_of_host_v6 (address : Ipv6) (allowed : isAllowedHost address.write = true) :
    PrinterNetwork (.v6 address) := by
  rw [isAllowedHost] at allowed
  split at allowed
  · exact absurd allowed Bool.false_ne_true
  rw [isPrivateNetworkAddress, if_neg (isIP_write_v6 address)] at allowed
  split at allowed
  case isFalse => exact absurd allowed Bool.false_ne_true
  rw [parseIPv6_write] at allowed
  have metadata : parseIPv6 "fd00:ec2::254" = some 0xfd000ec2000000000000000000000254 := by decide +kernel
  simp only [metadata, Option.some.injEq] at allowed
  split at allowed
  · exact absurd allowed Bool.false_ne_true
  rename_i isMetadata
  rw [isPrivateIPv6Value] at allowed
  split at allowed
  · exact absurd allowed Bool.false_ne_true
  simp only [Nat.shiftRight_eq_div_pow, Bool.or_eq_true, beq_iff_eq] at allowed
  have unmapped : (Address.v6 address).unmapped = .v6 address := if_neg (by omega)
  rw [PrinterNetwork, unmapped]
  exact ⟨allowed, isMetadata⟩

/-- The URL parser writes the host in brackets in its canonical form. -/
theorem host_parse_literal (mapping : Text → Option Text) {core : Text} {address : Ipv6}
    (read : readIpv6 core = some address) :
    (Url.parse mapping ("http://[" ++ core ++ "]/")).map Url.host = some ('[' :: (address.write ++ [']'])) := by
  have chars := isAddressChar_of_readIpv6 read
  have brackets (c : Char) (member : c ∈ core) : c ≠ '[' ∧ c ≠ ']' :=
    ⟨(chars c member).ne (by decide), (chars c member).ne (by decide)⟩
  have cut : Url.cutPort false ('[' :: (core ++ [']'])) = ('[' :: (core ++ [']']), none) := by
    rw [Url.cutPort, if_neg (by decide), if_pos rfl, Url.cutPort_brackets brackets]
    rfl
  have plain : ∀ c ∈ '[' :: (core ++ [']']), Url.isTerminator (Url.isSpecial "http") c = false ∧ c ≠ '@' := by
    intro c member
    rw [List.mem_cons, List.mem_append, List.mem_singleton] at member
    rcases member with rfl | inside | rfl
    · decide
    · have isChar := chars c inside
      have slash : c ≠ '/' := isChar.ne (by decide)
      have backslash : c ≠ '\\' := isChar.ne (by decide)
      have question : c ≠ '?' := isChar.ne (by decide)
      have hash : c ≠ '#' := isChar.ne (by decide)
      exact ⟨by simp [Url.isTerminator, Url.isSlash, slash, backslash, question, hash], isChar.ne (by decide)⟩
    · decide
  have printable : ∀ c ∈ "http" ++ ('[' :: (core ++ [']']) ++ ['/']), 32 < c.toNat := by
    intro c member
    simp only [List.mem_append, List.mem_cons, List.not_mem_nil, or_false] at member
    rcases member with inScheme | (rfl | inside | rfl) | rfl
    · exact (by decide : ∀ c ∈ "http".toList, 32 < c.toNat) c inScheme
    · decide
    · have range := (chars c inside).range
      omega
    · decide
    · decide
  have split : "http://[" ++ core ++ "]/" = "http" ++ "://" ++ ('[' :: (core ++ [']']) ++ ['/']) := by simp
  have lower : "http".toList.map Char.toLower = "http" := by decide
  rw [split, Url.parse_eq_readAuthority mapping (by decide) printable (by simp [Url.isSlash]), lower,
    Url.readAuthority_append mapping plain (by decide) cut (by simp)]
  simp [Url.readHost, read, Url.readOptionalPort, Url.withTail]

/-- Brackets are taken off an address. -/
theorem unbracket_brackets (nonempty : core ≠ []) (noBracket : ']' ∉ core) :
    unbracket ('[' :: (core ++ [']'])) = core := by
  simp [unbracket, nonempty, noBracket]

theorem unbracket_of_isAddressChar (chars : ∀ c ∈ core, IsAddressChar c) : unbracket core = core := by
  unfold unbracket
  split
  · exact absurd (chars '[' List.mem_cons_self) (by decide)
  · rfl

/-- The final form of a text that denotes an address is the canonical text. -/
theorem finalHost_of_read (mapping : Text → Option Text) {ip core : Text} {address : Address}
    (read : readAddress core = some address) (host : unbracket (trim ip) = core) :
    finalHost mapping ip = some address.write := by
  rw [finalHost, host]
  rw [readAddress, Option.or_eq_some_iff] at read
  rcases read with isFour | ⟨-, isSix⟩
  · obtain ⟨four, isRead, rfl⟩ := Option.map_eq_some_iff.mp isFour
    obtain rfl := readIpv4_eq_some_iff.mp isRead
    exact if_neg (Ipv4.colon_not_mem_write four)
  · obtain ⟨six, isRead, rfl⟩ := Option.map_eq_some_iff.mp isSix
    rw [if_pos (colon_mem_of_readIpv6 isRead)]
    obtain ⟨url, parsed, isHost⟩ := Option.map_eq_some_iff.mp (host_parse_literal mapping isRead)
    have chars := isAddressChar_of_readIpv6 (readIpv6_write six)
    have nonempty : six.write ≠ [] := fun empty => by
      have colon := colon_mem_of_readIpv6 (readIpv6_write six)
      simp [empty] at colon
    rw [parsed, Option.map_some, isHost,
      unbracket_brackets nonempty fun bracket => absurd (chars _ bracket) (by decide)]
    rfl

/-- An address the Gateway allows is in the printer networks. -/
theorem printerNetwork_of_allowed (mapping : Text → Option Text) {ip core : Text} {address : Address}
    (read : readAddress core = some address) (host : unbracket (trim ip) = core)
    (allowed : isAllowedPrinterDestination mapping ip = true) : PrinterNetwork address := by
  rw [isAllowedPrinterDestination, finalHost_of_read mapping read host, Option.any_some] at allowed
  cases address with
  | v4 four => exact printerNetwork_of_host_v4 four allowed
  | v6 six => exact printerNetwork_of_host_v6 six allowed

end Gateway

variable {core : Text} {address : Address}

/-- White space around a text that has none at its ends is trimmed. -/
theorem trim_surrounded {before after : Text} (blankBefore : ∀ c ∈ before, isTrimmed c = true)
    (blankAfter : ∀ c ∈ after, isTrimmed c = true) (solid : ∀ c ∈ core, isTrimmed c = false)
    (nonempty : core ≠ []) : trim (before ++ core ++ after) = core :=
  Go.dropWhile_surrounded blankBefore blankAfter solid nonempty

theorem isTrimmed_of_isAddressChar {c : Char} (isChar : IsAddressChar c) : isTrimmed c = false := by
  have range := isChar.range
  simp only [isTrimmed, Bool.or_eq_false_iff, Bool.and_eq_false_iff, decide_eq_false_iff_not, beq_eq_false_iff_ne]
  omega

theorem isAddressChar_of_readAddress (read : readAddress core = some address) : ∀ c ∈ core, IsAddressChar c := by
  rw [readAddress, Option.or_eq_some_iff] at read
  rcases read with four | ⟨-, six⟩
  · obtain ⟨_, isRead, -⟩ := Option.map_eq_some_iff.mp four
    exact isAddressChar_of_readIpv4 isRead
  · obtain ⟨_, isRead, -⟩ := Option.map_eq_some_iff.mp six
    exact isAddressChar_of_readIpv6 isRead

theorem ne_nil_of_readAddress (read : readAddress core = some address) : core ≠ [] := by
  have nil : readAddress [] = none := by decide
  rintro rfl
  exact absurd (nil.symm.trans read) (Option.some_ne_none _).symm

/-- The host of a spelling is the text of the address. -/
theorem Spells.exists_core {s : Text} {a : Address} (spelled : Spells s a) :
    ∃ core, readAddress core = some a ∧ Gateway.unbracket (trim s) = core := by
  cases spelled with
  | @bare before core after _ read blankBefore blankAfter =>
    have chars := isAddressChar_of_readAddress read
    have nonempty := ne_nil_of_readAddress read
    refine ⟨core, read, ?_⟩
    rw [trim_surrounded blankBefore blankAfter (fun c member => isTrimmed_of_isAddressChar (chars c member)) nonempty]
    exact Gateway.unbracket_of_isAddressChar chars
  | @bracketed before core after _ read blankBefore blankAfter =>
    have chars := isAddressChar_of_readAddress read
    have nonempty := ne_nil_of_readAddress read
    have solid : ∀ c ∈ '[' :: (core ++ [']']), isTrimmed c = false := by
      intro c member
      rw [List.mem_cons, List.mem_append, List.mem_singleton] at member
      rcases member with rfl | inside | rfl
      · decide
      · exact isTrimmed_of_isAddressChar (chars c inside)
      · decide
    refine ⟨core, read, ?_⟩
    rw [trim_surrounded blankBefore blankAfter solid (by simp)]
    exact Gateway.unbracket_brackets nonempty fun bracket => absurd (chars _ bracket) (by decide)

/-- The Gateway allows no destination that the Agent refuses, and whatever one of them allows is in the
networks of printers, in every spelling. -/
theorem destination_policy_sound (mapping : Text → Option Text) {s : Text} {a : Address} (spelled : Spells s a) :
    (Gateway.isAllowedPrinterDestination mapping s = true → Agent.isAllowedPrinterIP (some (Go.ofAddress a)) = true) ∧
    (Gateway.isAllowedPrinterDestination mapping s = true ∨
      Agent.isAllowedPrinterIP (some (Go.ofAddress a)) = true → PrinterNetwork a) := by
  obtain ⟨core, read, host⟩ := spelled.exists_core
  have sound : Gateway.isAllowedPrinterDestination mapping s = true → PrinterNetwork a :=
    Gateway.printerNetwork_of_allowed mapping read host
  refine ⟨fun allowed => (isAllowedPrinterIP_iff a).mpr (sound allowed), ?_⟩
  rintro (allowed | allowed)
  · exact sound allowed
  · exact (isAllowedPrinterIP_iff a).mp allowed

theorem destination_policy_sound_bracketed : Gateway.isAllowedPrinterDestination some " [FD12:0::00aB] " = true ∧
      (Gateway.isAllowedPrinterDestination some " [FD12:0::00aB] " = true →
        Agent.isAllowedPrinterIP (some (Go.ofAddress (.v6 ⟨[0xfd12, 0, 0, 0, 0, 0, 0, 0xab], rfl⟩))) = true) ∧
      (Gateway.isAllowedPrinterDestination some " [FD12:0::00aB] " = true ∨
        Agent.isAllowedPrinterIP (some (Go.ofAddress (.v6 ⟨[0xfd12, 0, 0, 0, 0, 0, 0, 0xab], rfl⟩))) = true →
        PrinterNetwork (.v6 ⟨[0xfd12, 0, 0, 0, 0, 0, 0, 0xab], rfl⟩)) :=
  ⟨by decide +kernel, destination_policy_sound some
    (@Spells.bracketed " " "FD12:0::00aB" " " _ (by decide) (by decide) (by decide))⟩

end PrintGateway
