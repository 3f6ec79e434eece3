import Mathlib.Data.List.DropRight
import PrintGateway.Net.Address

/-!
# Go's `net` and `net/url`

A `net.IP` that was parsed has sixteen bytes; an IPv4 address is kept as the IPv6 address it maps to, and
every test looks at its four bytes first.  `url.Parse` changes nothing in a text: it refuses control
characters, wrong escapes and hosts with characters that would have to be escaped.
-/

namespace Net

/-- The IPv6 address an IPv4 address maps to. -/
def Ipv4.mapped (address : Ipv4) : Ipv6 := ⟨[0, 0, 0, 0, 0, 65535] ++ address.groups, rfl⟩

/-- The bytes of two groups. -/
def Ipv4.ofGroups (high low : Group) : Ipv4 :=
  ⟨⟨high.val / 256, by omega⟩, ⟨high.val % 256, by omega⟩, ⟨low.val / 256, by omega⟩, ⟨low.val % 256, by omega⟩⟩

theorem Ipv4.ofGroups_groups {address : Ipv4} {high low : Group} (pair : address.groups = [high, low]) :
    Ipv4.ofGroups high low = address := by
  obtain ⟨a, b, c, d⟩ := address
  simp only [Ipv4.groups, List.cons.injEq, and_true] at pair
  obtain ⟨rfl, rfl⟩ := pair
  simp only [Ipv4.ofGroups, Ipv4.mk.injEq, Fin.ext_iff]
  omega

namespace Go

/-- The sixteen bytes of an address. -/
def ofAddress : Address → Ipv6
  | .v4 address => address.mapped
  | .v6 address => address

/-- `net.ParseIP`. -/
def parseIP (text : List Char) : Option Ipv6 := (readAddress text).map ofAddress

/-- `To4`. -/
def to4 (ip : Ipv6) : Option Ipv4 :=
  match ip.groups with
  | [0, 0, 0, 0, 0, 65535, high, low] => some (Ipv4.ofGroups high low)
  | _ => none

theorem to4_mapped (address : Ipv4) : to4 address.mapped = some address := by
  simp only [to4, Ipv4.mapped, Ipv4.groups, List.cons_append, List.nil_append]
  exact congrArg some (Ipv4.ofGroups_groups rfl)

/-- The four bytes are those of the unmapped address. -/
theorem unmapped_eq (address : Address) : address.unmapped = match to4 (ofAddress address) with
      | some four => .v4 four
      | none => address := by
  cases address with
  | v4 address =>
    rw [ofAddress, to4_mapped]
    rfl
  | v6 address =>
    obtain ⟨a, b, c, d, e, f, g, h, same⟩ := address.exists_groups
    have value := number_eight a b c d e f g h
    rw [← same, ← Ipv6.number] at value
    rw [ofAddress]
    by_cases isMapped : a = 0 ∧ b = 0 ∧ c = 0 ∧ d = 0 ∧ e = 0 ∧ f = 65535
    · -- The leading zeros leave the number of the two last groups.
      obtain ⟨rfl, rfl, rfl, rfl, rfl, rfl⟩ := isMapped
      have four : to4 address = some (Ipv4.ofGroups g h) := by
        rw [to4, same]
        rfl
      have small : address.number = 65535 * 2 ^ 32 + g.val * 2 ^ 16 + h.val := by
        have ones : (65535 : Group).val = 65535 := rfl
        simpa [ones] using value
      rw [four, Address.unmapped, if_pos (by omega), small]
      simp only [Ipv4.ofNumber, Ipv4.ofGroups, Address.v4.injEq, Ipv4.mk.injEq, Fin.ext_iff, Fin.val_ofNat]
      omega
    · have four : to4 address = none := by
        rw [to4, same]
        split
        case h_1 high low eight =>
          simp only [List.cons.injEq] at eight
          exact absurd ⟨eight.1, eight.2.1, eight.2.2.1, eight.2.2.2.1, eight.2.2.2.2.1, eight.2.2.2.2.2.1⟩
            isMapped
        case h_2 => rfl
      rw [four]
      refine if_neg fun leading => isMapped ?_
      simp only [Fin.ext_iff]
      change a.val = 0 ∧ b.val = 0 ∧ c.val = 0 ∧ d.val = 0 ∧ e.val = 0 ∧ f.val = 65535
      omega

/-- The first two bytes. -/
def byte0 (ip : Ipv6) : ℕ := (ip.groups.headD 0).val / 256

def byte1 (ip : Ipv6) : ℕ := (ip.groups.headD 0).val % 256

/-- A test of the four bytes of an IPv4 address, or else of the sixteen. -/
def byFamily (ip : Ipv6) (four : Ipv4 → Bool) (sixteen : Bool) : Bool :=
  match to4 ip with
  | some address => four address
  | none => sixteen

/-- `IsUnspecified`. -/
def isUnspecified (ip : Ipv6) : Bool := byFamily ip (fun address => address = ⟨0, 0, 0, 0⟩) (ip.groups.all (· = 0))

/-- `IsLoopback`. -/
def isLoopback (ip : Ipv6) : Bool := byFamily ip (fun address => address.a = 127) (ip.groups = [0, 0, 0, 0, 0, 0, 0, 1])

/-- `IsMulticast`. -/
def isMulticast (ip : Ipv6) : Bool :=
  byFamily ip (fun address => address.a.val &&& 0xf0 = 0xe0) (byte0 ip = 0xff)

/-- `IsPrivate`. -/
def isPrivate (ip : Ipv6) : Bool :=
  byFamily ip
    (fun address => address.a = 10 || (address.a = 172 && address.b.val &&& 0xf0 = 16) ||
      (address.a = 192 && address.b = 168))
    (byte0 ip &&& 0xfe = 0xfc)

/-- `IsLinkLocalUnicast`. -/
def isLinkLocalUnicast (ip : Ipv6) : Bool :=
  byFamily ip (fun address => address.a = 169 && address.b = 254) (byte0 ip = 0xfe && byte1 ip &&& 0xc0 = 0x80)

/-- `String`. -/
def string (ip : Ipv6) : List Char :=
  match to4 ip with
  | some address => address.write
  | none => ip.write

/-! ### Hosts and ports -/

/-- Cutting off characters at both ends leaves a text that has none of them. -/
theorem dropWhile_surrounded {isCut : Char → Bool} {before core after : List Char}
    (cutBefore : ∀ c ∈ before, isCut c = true) (cutAfter : ∀ c ∈ after, isCut c = true)
    (solid : ∀ c ∈ core, isCut c = false) (nonempty : core ≠ []) :
    ((before ++ core ++ after).dropWhile isCut).rdropWhile isCut = core := by
  have left : (before ++ core ++ after).dropWhile isCut = core ++ after := by
    rw [List.append_assoc, List.dropWhile_append_of_pos cutBefore]
    obtain ⟨c, rest, rfl⟩ := List.exists_cons_of_ne_nil nonempty
    rw [List.cons_append, List.dropWhile_cons_of_neg (by simp [solid c])]
  have right : (core ++ after).reverse.dropWhile isCut = core.reverse := by
    rw [List.reverse_append, List.dropWhile_append_of_pos (by simpa using cutAfter)]
    obtain ⟨c, rest, reversed⟩ := List.exists_cons_of_ne_nil (List.reverse_ne_nil_iff.mpr nonempty)
    have member : c ∈ core := List.mem_reverse.mp (reversed ▸ List.mem_cons_self)
    rw [reversed, List.dropWhile_cons_of_neg (by simp [solid c member])]
  rw [left, List.rdropWhile, right, List.reverse_reverse]

/-- `strings.Trim(text, "[]")`. -/
def trimBrackets (text : List Char) : List Char :=
  (text.dropWhile fun c => c == '[' || c == ']').rdropWhile fun c => c == '[' || c == ']'

/-- `net.SplitHostPort`. -/
def splitHostPort (text : List Char) : Option (List Char × List Char) :=
  match text with
  | '[' :: rest =>
    let inner := rest.takeWhile (· ≠ ']')
    match rest.dropWhile (· ≠ ']') with
    | ']' :: ':' :: port =>
      if '[' ∈ inner ∨ port.any fun c => c == ':' || c == '[' || c == ']' then none else some (inner, port)
    | _ => none
  | _ =>
    match text.dropWhile (· ≠ ':') with
    | ':' :: port =>
      if ':' ∈ port ∨ text.any fun c => c == '[' || c == ']' then none
      else some (text.takeWhile (· ≠ ':'), port)
    | _ => none

theorem takeWhile_ne {mark : Char} {before after : List Char} (noMark : mark ∉ before) :
    (before ++ mark :: after).takeWhile (· ≠ mark) = before := by
  refine (span_append (fun c member => decide_eq_true ?_) (by simp)).1
  rintro rfl
  exact noMark member

/-- `net.JoinHostPort`. -/
def joinHostPort (host port : List Char) : List Char :=
  if ':' ∈ host then '[' :: (host ++ ']' :: ':' :: port) else host ++ ':' :: port

/-- `strconv.Atoi`. -/
def atoi (text : List Char) : Option ℤ :=
  let digits := match text with
    | '-' :: rest | '+' :: rest => rest
    | _ => text
  if digits = [] ∨ ¬digits.all Char.isDigit then none
  else
    let n : ℤ := Nat.ofDigitChars 10 digits 0
    let value := if text.head? = some '-' then -n else n
    if -2 ^ 63 ≤ value ∧ value < 2 ^ 63 then some value else none

/-! ### URLs -/

structure Url where
  scheme : List Char
  user : Bool
  host : List Char
  path : List Char
  rawQuery : List Char
  fragment : List Char
  deriving DecidableEq, Repr

namespace Url

def isControl (c : Char) : Bool := c.toNat < 32 || c.toNat == 127

/-- Every percent sign is followed by two hexadecimal digits. -/
def validEscapes : List Char → Bool
  | [] => true
  | '%' :: a :: b :: rest => (Json.hexDigit a).isSome && (Json.hexDigit b).isSome && validEscapes rest
  | '%' :: _ => false
  | _ :: rest => validEscapes rest

/-- Letters, digits and the marks that no part of a URL escapes. -/
def isUnreserved (c : Char) : Bool := c.isAlphanum || "-_.~".toList.contains c

/-- The characters a host may have; what is not ASCII is let through. -/
def isHostChar (c : Char) : Bool :=
  128 ≤ c.toNat || isUnreserved c || "!$&'()*+,;=:[]<>\"".toList.contains c

/-- `unescape` of a host, which may escape bytes beyond ASCII and the percent sign only.  The escapes
are left in place. -/
def validHost : List Char → Bool
  | [] => true
  | '%' :: a :: b :: rest =>
    (match Json.hexDigit a, Json.hexDigit b with
      | some high, some _ => 8 ≤ high || (a == '2' && b == '5')
      | _, _ => false) && validHost rest
  | '%' :: _ => false
  | c :: rest => isHostChar c && validHost rest

/-- `validOptionalPort`. -/
def validOptionalPort (text : List Char) : Bool :=
  match text with
  | [] => true
  | c :: digits => c == ':' && digits.all Char.isDigit

/-- `validUserinfo`. -/
def validUserinfo (text : List Char) : Bool :=
  text.all fun c => c.isAlphanum || "-._:~!$&'()*+,;=%@".toList.contains c

/-- `parseHost`: only an IPv6 address may stand in brackets. -/
def parseHost (host : List Char) : Option (List Char) :=
  if '[' ∈ host.tail then none
  else
    match host with
    | '[' :: rest =>
      if ']' ∉ rest then none
      else
        let port := rest.rtakeWhile (· ≠ ']')
        let inner := (rest.rdropWhile (· ≠ ']')).dropLast
        if validOptionalPort port ∧ validHost inner ∧ (readIpv6 inner).isSome then some host else none
    | _ =>
      if validOptionalPort (host.dropWhile (· ≠ ':')) ∧ validHost host then some host else none

/-- `getScheme`: the scheme and the rest, or an error when nothing is before a colon. -/
def getScheme (text : List Char) : Option (List Char × List Char) :=
  let isSchemeChar := fun c : Char => c.isAlphanum || c == '+' || c == '-' || c == '.'
  match text.dropWhile isSchemeChar with
  | ':' :: rest =>
    let scheme := text.takeWhile isSchemeChar
    if scheme = [] then none
    else if scheme.head?.any Char.isAlpha then some (scheme, rest)
    else some ([], text)
  | _ => some ([], text)

/-- The authority: whether it has user information, and its host with port. -/
def parseAuthority (authority : List Char) : Option (Bool × List Char) :=
  if '@' ∈ authority then
    let userinfo := (authority.rdropWhile (· ≠ '@')).dropLast
    (parseHost (authority.rtakeWhile (· ≠ '@'))).bind fun host =>
      if validUserinfo userinfo ∧ validEscapes userinfo then some (true, host) else none
  else (parseHost authority).map fun host => (false, host)

/-- The text without scheme, query and fragment. -/
def parseHierarchy (scheme rest rawQuery fragment : List Char) : Option Url :=
  let noHost : Url := ⟨scheme, false, [], rest, rawQuery, fragment⟩
  if rest.head? ≠ some '/' then
    if scheme ≠ [] then some noHost
    else if ':' ∈ rest.takeWhile (· ≠ '/') then none
    else if validEscapes rest then some noHost else none
  else
    match rest with
    | '/' :: '/' :: text =>
      if scheme = [] ∧ text.head? = some '/' then if validEscapes rest then some noHost else none
      else
        let path := text.dropWhile (· ≠ '/')
        (parseAuthority (text.takeWhile (· ≠ '/'))).bind fun authority =>
          if validEscapes path then some ⟨scheme, authority.1, authority.2, path, rawQuery, fragment⟩ else none
    | _ => if validEscapes rest then some noHost else none

/-- `url.Parse`. -/
def parse (text : List Char) : Option Url :=
  let beforeFragment := text.takeWhile (· ≠ '#')
  let fragment := (text.dropWhile (· ≠ '#')).drop 1
  if beforeFragment.any isControl then none
  else
    (getScheme beforeFragment).bind fun cut =>
      let rest := cut.2.takeWhile (· ≠ '?')
      let rawQuery := (cut.2.dropWhile (· ≠ '?')).drop 1
      if validEscapes fragment then parseHierarchy (cut.1.map Char.toLower) rest rawQuery fragment else none

/-- The characters an encoded path may have. -/
def isEncodedPathChar (c : Char) : Bool := isUnreserved c || "!$&'()*+,;=:@[]%/".toList.contains c

/-- The bytes of a text with its escapes resolved. -/
def unescape : List Char → List UInt8
  | [] => []
  | '%' :: a :: b :: rest =>
    UInt8.ofNat ((Json.hexDigit a).getD 0 * 16 + (Json.hexDigit b).getD 0) :: unescape rest
  | c :: rest => String.utf8EncodeChar c ++ unescape rest

def escapeByte (byte : UInt8) : List Char :=
  let c := Char.ofNat byte.toNat
  if byte.toNat < 128 ∧ (isUnreserved c ∨ "$&+,/:;=@".toList.contains c) then [c]
  else ['%', (Json.hexChar (byte.toNat / 16)).toUpper, (Json.hexChar (byte.toNat % 16)).toUpper]

/-- `EscapedPath`. -/
def escapedPath (url : Url) : List Char :=
  if url.path.all isEncodedPathChar then url.path else (unescape url.path).flatMap escapeByte

/-- `splitHostPort` of a host: the port is behind the last colon. -/
def portText (host : List Char) : Option (List Char) :=
  let digits := host.rtakeWhile (· ≠ ':')
  if ':' ∈ host ∧ digits.all Char.isDigit then some digits else none

/-- `Hostname`. -/
def hostname (url : Url) : List Char :=
  let host := match portText url.host with
    | some _ => (url.host.rdropWhile (· ≠ ':')).dropLast
    | none => url.host
  match host with
  | '[' :: rest => if rest.getLast? = some ']' then rest.dropLast else host
  | _ => host

/-- `Port`. -/
def port (url : Url) : List Char := (portText url.host).getD []

example : (parse "HTTP://[FE80::1]:631/ipp/print?#".toList).map
    (fun url => (url.scheme, url.hostname, url.port, url.path, url.rawQuery)) =
      some ("http".toList, "FE80::1".toList, "631".toList, "/ipp/print".toList, []) := by decide +kernel

end Url

/-! ### Behind a mark -/

/-- What is before and behind the first mark of a text is determined by it. -/
theorem append_mark_inj {mark : Char} {before before' after after' : List Char} (noMark : mark ∉ before)
    (noMark' : mark ∉ before') (same : before ++ mark :: after = before' ++ mark :: after') :
    before = before' ∧ after = after' := by
  have first := congrArg (List.takeWhile (· ≠ mark)) same
  rw [takeWhile_ne noMark, takeWhile_ne noMark'] at first
  rw [first] at same
  exact ⟨first, (List.cons.inj (List.append_cancel_left same)).2⟩

theorem rtakeWhile_ne {mark : Char} {before after : List Char} (noMark : mark ∉ after) :
    (before ++ mark :: after).rtakeWhile (· ≠ mark) = after := by
  rw [List.rtakeWhile, List.reverse_append, List.reverse_cons, List.append_assoc, List.singleton_append,
    takeWhile_ne (List.mem_reverse.not.mpr noMark), List.reverse_reverse]

end Go

end Net
