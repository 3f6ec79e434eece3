import Mathlib.Data.List.DropRight
import PrintGateway.Net.Address

/-!
# The URL Standard

Reading an absolute URL as browsers do: tabs and line breaks vanish, special schemes take any number of
slashes of either kind, and their hosts become canonical IPv4 addresses when they end in a number.  What
a host with percent signs, punycode labels or non-ASCII characters maps to is a parameter.
-/

namespace Net

structure Url where
  scheme : List Char
  username : List Char
  password : List Char
  host : List Char
  port : Option ℕ
  path : List Char
  query : List Char
  fragment : List Char
  deriving DecidableEq, Repr

namespace Url

/-- The default ports of the special schemes. -/
def specialPort (scheme : List Char) : Option ℕ :=
  if scheme = "http".toList ∨ scheme = "ws".toList then some 80
  else if scheme = "https".toList ∨ scheme = "wss".toList then some 443
  else if scheme = "ftp".toList then some 21
  else none

def isSpecial (scheme : List Char) : Bool := (specialPort scheme).isSome

/-- Controls and spaces, which are removed at both ends. -/
def isStripped (c : Char) : Bool := c.toNat ≤ 32

def isTabOrNewline (c : Char) : Bool := c.toNat == 9 || c.toNat == 10 || c.toNat == 13

def clean (input : List Char) : List Char :=
  ((input.dropWhile isStripped).rdropWhile isStripped).filter fun c => !isTabOrNewline c

def isSchemeChar (c : Char) : Bool := c.isAlphanum || c == '+' || c == '-' || c == '.'

/-- The scheme, in lower case, and what follows its colon. -/
def cutScheme (text : List Char) : Option (List Char × List Char) :=
  match text.dropWhile isSchemeChar with
  | ':' :: rest =>
    if (text.head?.any Char.isAlpha) then some ((text.takeWhile isSchemeChar).map Char.toLower, rest) else none
  | _ => none

def isSlash (special : Bool) (c : Char) : Bool := c == '/' || (special && c == '\\')

/-- The characters that end an authority. -/
def isTerminator (special : Bool) (c : Char) : Bool := isSlash special c || c == '?' || c == '#'

/-! ### Hosts -/

def isForbiddenHostChar (c : Char) : Bool :=
  c.toNat == 0 || isTabOrNewline c || (" #/:<>?@[\\]^|".toList.contains c)

def isForbiddenDomainChar (c : Char) : Bool :=
  isForbiddenHostChar c || c.toNat < 32 || c == '%' || c.toNat == 127

def percentEncodeByte (byte : UInt8) : List Char :=
  ['%', (Json.hexChar (byte.toNat / 16)).toUpper, (Json.hexChar (byte.toNat % 16)).toUpper]

def percentEncode (encoded : Char → Bool) (text : List Char) : List Char :=
  text.flatMap fun c => if encoded c then (String.utf8EncodeChar c).flatMap percentEncodeByte else [c]

def isC0Encoded (c : Char) : Bool := c.toNat < 32 || 126 < c.toNat

/-- A number of an IPv4 host: hexadecimal after `0x`, octal after `0`. -/
def readIpv4Number (text : List Char) : Option ℕ :=
  match text with
  | [] => none
  | '0' :: 'x' :: hex | '0' :: 'X' :: hex =>
    if hex.all fun c => (Json.hexDigit c).isSome then some (hexValue hex) else none
  | '0' :: octal@(_ :: _) =>
    if octal.all fun c => '0' ≤ c && c ≤ '7' then some (Nat.ofDigitChars 8 octal 0) else none
  | decimal => if decimal.all Char.isDigit then some (Nat.ofDigitChars 10 decimal 0) else none

/-- The parts of a host, without an empty one at the end. -/
def hostParts (host : List Char) : List (List Char) :=
  let parts := host.splitOn '.'
  if 1 < parts.length ∧ parts.getLast? = some [] then parts.dropLast else parts

def endsInNumber (host : List Char) : Bool :=
  match (hostParts host).getLast? with
  | some last => (last ≠ [] && last.all Char.isDigit) || (readIpv4Number last).isSome
  | none => false

/-- The numbers of all parts. -/
def readIpv4Numbers : List (List Char) → Option (List ℕ)
  | [] => some []
  | part :: parts => do return (← readIpv4Number part) :: (← readIpv4Numbers parts)

/-- The parts of an IPv4 host; the last one fills the bytes that are left. -/
def ipv4OfNumbers (numbers : List ℕ) : Option Ipv4 :=
  match numbers.reverse with
  | [] => none
  | last :: reversed =>
    let leading := reversed.reverse
    if 4 < numbers.length ∨ (∃ n ∈ leading, 255 < n) ∨ 256 ^ (5 - numbers.length) ≤ last then none
    else some (Ipv4.ofNumber (last + leading.foldl (fun n byte => n * 256 + byte) 0 * 256 ^ (4 - leading.length)))

def readIpv4Host (host : List Char) : Option Ipv4 := (readIpv4Numbers (hostParts host)).bind ipv4OfNumbers

/-- Hosts that map to themselves, in lower case. -/
def isPlainDomain (host : List Char) : Bool :=
  host.all (fun c => c.toNat < 128 && c != '%') &&
    (host.splitOn '.').all fun label => !("xn--".toList.isPrefixOf (label.map Char.toLower))

/-- The host of a special scheme. -/
def domainHost (mapping : List Char → Option (List Char)) (host : List Char) : Option (List Char) := do
  let domain ← if isPlainDomain host then some (host.map Char.toLower) else mapping host
  if domain = [] ∨ domain.any isForbiddenDomainChar then none
  else if endsInNumber domain then (readIpv4Host domain).map Ipv4.write
  else some domain

/-- The host as it is written back. -/
def readHost (mapping : List Char → Option (List Char)) (special : Bool) (host : List Char) : Option (List Char) :=
  match host with
  | '[' :: rest =>
    if rest.getLast? = some ']' then (readIpv6 rest.dropLast).map fun address => '[' :: (address.write ++ [']'])
    else none
  | _ =>
    if special then domainHost mapping host
    else if host.any isForbiddenHostChar then none
    else some (percentEncode isC0Encoded host)

/-! ### Authorities -/

/-- What is before and after the first colon outside brackets. -/
def cutPort : Bool → List Char → List Char × Option (List Char)
  | _, [] => ([], none)
  | inside, c :: rest =>
    if c = ':' ∧ inside = false then ([], some rest)
    else
      let cut := cutPort (if c = '[' then true else if c = ']' then false else inside) rest
      (c :: cut.1, cut.2)

/-- The port after a colon; the default port of the scheme is left out. -/
def readPort (scheme text : List Char) : Option (Option ℕ) :=
  let n := Nat.ofDigitChars 10 text 0
  if ¬text.all Char.isDigit ∨ 65535 < n then none
  else if text = [] ∨ specialPort scheme = some n then some none
  else some (some n)

/-- The port an authority has. -/
def readOptionalPort (scheme : List Char) : Option (List Char) → Option (Option ℕ)
  | none => some none
  | some digits => readPort scheme digits

/-! ### Paths -/

def isPathEncoded (c : Char) : Bool := isC0Encoded c || " \"#<>?^`\x7b\x7d".toList.contains c

/-- A dot, also in its encoded form. -/
def isSingleDot (segment : List Char) : Bool :=
  segment = ".".toList || segment.map Char.toLower = "%2e".toList

def isDoubleDot (segment : List Char) : Bool :=
  ["..", ".%2e", "%2e.", "%2e%2e"].any fun dots => segment.map Char.toLower == dots.toList

/-- The segments that are left after dots went up or stayed. -/
def resolveDots (resolved : List (List Char)) : List (List Char) → List (List Char)
  | [] => resolved
  | [last] =>
    if isDoubleDot last then resolved.dropLast ++ [[]]
    else if isSingleDot last then resolved ++ [[]]
    else resolved ++ [percentEncode isPathEncoded last]
  | segment :: segments =>
    if isDoubleDot segment then resolveDots resolved.dropLast segments
    else if isSingleDot segment then resolveDots resolved segments
    else resolveDots (resolved ++ [percentEncode isPathEncoded segment]) segments

/-- `pathname` of the text behind an authority. -/
def readPath (special : Bool) (text : List Char) : List Char :=
  match text with
  | [] => if special then ['/'] else []
  | _ :: rest => (resolveDots [] (rest.splitOnP (isSlash special))).flatMap fun segment => '/' :: segment

/-! ### URLs -/

/-- The text behind the scheme and its slashes. -/
def readAuthority (mapping : List Char → Option (List Char)) (scheme text : List Char) : Option Url :=
  let special := isSpecial scheme
  let authority := text.takeWhile fun c => !isTerminator special c
  let tail := text.dropWhile fun c => !isTerminator special c
  let credentials := if '@' ∈ authority then (authority.rdropWhile (· ≠ '@')).dropLast else []
  let cut := cutPort false (authority.rtakeWhile (· ≠ '@'))
  if cut.1 = [] ∧ (special ∨ '@' ∈ authority ∨ cut.2.isSome) then none
  else do
    let host ← readHost mapping special cut.1
    let port ← readOptionalPort scheme cut.2
    let beforeFragment := tail.takeWhile (· ≠ '#')
    return {
      scheme := scheme
      username := credentials.takeWhile (· ≠ ':')
      password := (credentials.dropWhile (· ≠ ':')).drop 1
      host := host
      port := port
      path := readPath special (beforeFragment.takeWhile (· ≠ '?'))
      query := (beforeFragment.dropWhile (· ≠ '?')).drop 1
      fragment := (tail.dropWhile (· ≠ '#')).drop 1
    }

/-- An absolute URL; without an authority it has no host. -/
def parse (mapping : List Char → Option (List Char)) (input : List Char) : Option Url := do
  let (scheme, rest) ← cutScheme (clean input)
  if isSpecial scheme then readAuthority mapping scheme (rest.dropWhile (isSlash true))
  else
    match rest with
    | '/' :: '/' :: text => readAuthority mapping scheme text
    | _ =>
      let beforeFragment := rest.takeWhile (· ≠ '#')
      return {
        scheme := scheme
        username := []
        password := []
        host := []
        port := none
        path := beforeFragment.takeWhile (· ≠ '?')
        query := (beforeFragment.dropWhile (· ≠ '?')).drop 1
        fragment := (rest.dropWhile (· ≠ '#')).drop 1
      }

example : (parse some " HTTP:\\\\0xA.1:80/a/../b ".toList).map (fun url => (url.host, url.port, url.path)) =
    some ("10.0.0.1".toList, none, "/b".toList) := by decide +kernel

example : (parse some "ipp://[FE80:0::1]:631/ipp/print".toList).map (fun url => (url.host, url.port, url.path)) =
    some ("[fe80::1]".toList, some 631, "/ipp/print".toList) := by decide +kernel

/-! ### Plain texts -/

theorem clean_of_printable {text : List Char} (printable : ∀ c ∈ text, 32 < c.toNat) : clean text = text := by
  have kept (c : Char) (member : c ∈ text) : isStripped c = false := by
    have := printable c member
    simp only [isStripped, decide_eq_false_iff_not]
    omega
  have left : text.dropWhile isStripped = text :=
    List.dropWhile_eq_self_iff.mpr fun _ => by simp [kept _ (List.getElem_mem _)]
  have right : text.rdropWhile isStripped = text :=
    List.rdropWhile_eq_self_iff.mpr fun _ => by simp [kept _ (List.getLast_mem _)]
  rw [clean, left, right, List.filter_eq_self]
  intro c member
  have := printable c member
  simp only [isTabOrNewline, Bool.not_eq_true', Bool.or_eq_false_iff, beq_eq_false_iff_ne]
  omega

/-- A scheme: a letter and characters of schemes. -/
def IsScheme (scheme : List Char) : Prop :=
  scheme.head?.any Char.isAlpha = true ∧ ∀ c ∈ scheme, isSchemeChar c = true

instance (scheme : List Char) : Decidable (IsScheme scheme) := inferInstanceAs (Decidable (_ ∧ _))

theorem cutScheme_append {scheme : List Char} (isScheme : IsScheme scheme) (rest : List Char) :
    cutScheme (scheme ++ ':' :: rest) = some (scheme.map Char.toLower, rest) := by
  have first : (scheme ++ ':' :: rest).head?.any Char.isAlpha = true := by
    rw [List.head?_append]
    cases scheme with
    | nil => exact absurd isScheme.1 (by simp)
    | cons c scheme => exact isScheme.1
  obtain ⟨before, after⟩ := @span_append _ _ (':' :: rest) isScheme.2 rfl
  rw [cutScheme, after, before]
  simp only [first, if_true]

/-- A printable URL is read from its authority on. -/
theorem parse_eq_readAuthority (mapping : List Char → Option (List Char)) {scheme text : List Char}
    (isScheme : IsScheme scheme) (printable : ∀ c ∈ scheme ++ text, 32 < c.toNat)
    (started : (text.head?.any (isSlash true)) = false) :
    parse mapping (scheme ++ "://".toList ++ text) = readAuthority mapping (scheme.map Char.toLower) text := by
  have all : ∀ c ∈ scheme ++ "://".toList ++ text, 32 < c.toNat := by
    have slashes : ∀ c ∈ "://".toList, 32 < c.toNat := by decide
    intro c member
    simp only [List.mem_append] at member
    rcases member with (inScheme | inSlashes) | inText
    · exact printable c (List.mem_append_left _ inScheme)
    · exact slashes c inSlashes
    · exact printable c (List.mem_append_right _ inText)
  have cut : cutScheme (scheme ++ "://".toList ++ text) = some (scheme.map Char.toLower, '/' :: '/' :: text) := by
    rw [List.append_assoc]
    exact cutScheme_append isScheme ('/' :: '/' :: text)
  have slashes : ('/' :: '/' :: text).dropWhile (isSlash true) = text := by
    have isOne : isSlash true '/' = true := by decide
    rw [List.dropWhile_cons_of_pos isOne, List.dropWhile_cons_of_pos isOne]
    cases text with
    | nil => rfl
    | cons c text => rw [List.dropWhile_cons_of_neg (by simpa using started)]
  rw [parse, clean_of_printable all, cut]
  simp only [Option.bind_eq_bind, Option.bind_some, slashes, ite_self]

theorem cutPort_brackets {inner : List Char} {rest : List Char} (plain : ∀ c ∈ inner, c ≠ '[' ∧ c ≠ ']') :
    cutPort true (inner ++ ']' :: rest) = (inner ++ ']' :: (cutPort false rest).1, (cutPort false rest).2) := by
  induction inner with
  | nil => simp [cutPort]
  | cons c inner ih =>
    obtain ⟨first, others⟩ := List.forall_mem_cons.mp plain
    simp [cutPort, first, ih others]

/-- The path, query and fragment of the text behind an authority. -/
def withTail (scheme host : List Char) (port : Option ℕ) (tail : List Char) : Url where
  scheme := scheme
  username := []
  password := []
  host := host
  port := port
  path := readPath (isSpecial scheme) ((tail.takeWhile (· ≠ '#')).takeWhile (· ≠ '?'))
  query := ((tail.takeWhile (· ≠ '#')).dropWhile (· ≠ '?')).drop 1
  fragment := (tail.dropWhile (· ≠ '#')).drop 1

/-- An authority without credentials. -/
theorem readAuthority_append (mapping : List Char → Option (List Char))
    {scheme authority name tail : List Char} {port : Option (List Char)}
    (plain : ∀ c ∈ authority, isTerminator (isSpecial scheme) c = false ∧ c ≠ '@')
    (ended : tail.head?.all (isTerminator (isSpecial scheme)) = true)
    (cut : cutPort false authority = (name, port)) (named : name ≠ []) :
    readAuthority mapping scheme (authority ++ tail) = (readHost mapping (isSpecial scheme) name).bind fun host =>
        (readOptionalPort scheme port).map fun port => withTail scheme host port tail := by
  have inside : ∀ c ∈ authority, (!isTerminator (isSpecial scheme) c) = true :=
    fun c member => by rw [(plain c member).1]; rfl
  obtain ⟨before, after⟩ := span_append inside (by simpa using ended)
  have noAt : '@' ∉ authority := fun member => (plain _ member).2 rfl
  have whole : authority.rtakeWhile (fun c => decide (c ≠ '@')) = authority := by
    rw [List.rtakeWhile_eq_self_iff]
    intro c member
    simpa using (plain c member).2
  unfold readAuthority
  simp only [before, after, whole, cut, noAt, named, if_false, false_and]
  cases readHost mapping (isSpecial scheme) name with
  | none => rfl
  | some host => cases readOptionalPort scheme port <;> rfl

end Url

end Net
