import PrintGateway.Model.Text
import PrintGateway.Net.Url

/-!
# Printer destinations of the Gateway

Which texts the Gateway takes as the address of a printer.  A text with a colon goes through the URL
parser first, which rewrites it into canonical form; the Gateway then reads the groups itself.
-/

namespace PrintGateway.Gateway

open Text Net

/-- `node:net` `isIP`; an IPv6 address may have a zone. -/
def isIP (text : Text) : ℕ :=
  let address := text.takeWhile (· ≠ '%')
  let zone := text.dropWhile (· ≠ '%')
  if (readIpv4 text).isSome then 4
  else if (readIpv6 address).isSome ∧ (zone = [] ∨ zone.tail ≠ [] ∧
      zone.tail.all fun c => c.isAlphanum || c == '-' || c == '.' || c == ':') then 6
  else 0

/-- `Number` of a part of a dotted address. -/
def decimalNumber (part : Text) : Option ℕ :=
  if part ≠ [] ∧ part.all Char.isDigit then some (Nat.ofDigitChars 10 part 0) else none

def isPrivateIPv4 (ip : Text) : Bool :=
  match (ip.splitOn '.').map decimalNumber with
  | [some a, some b, some c, some d] =>
    decide (a ≤ 255 ∧ b ≤ 255 ∧ c ≤ 255 ∧ d ≤ 255) &&
      (a == 10 || (a == 172 && 16 ≤ b && b ≤ 31) || (a == 192 && b == 168) || (a == 169 && b == 254))
  | _ => false

/-- The groups of an IPv6 text shifted into one number. -/
def shiftGroups (groups : List Text) : Option ℕ :=
  if ∀ part ∈ groups, IsHexGroup part then
    some (groups.foldl (fun value part => value <<< 16 ||| hexValue part) 0)
  else none

def parseIPv6 (ip : Text) : Option ℕ :=
  if '%' ∈ ip then none
  else
    match splitPairs ip with
    | [whole] => if (parts whole).length ≠ 8 then none else shiftGroups (parts whole)
    | [left, right] =>
      let total := (parts left).length + (parts right).length
      if 8 ≤ total then none
      else shiftGroups (parts left ++ List.replicate (8 - total) ['0'] ++ parts right)
    | _ => none

def isPrivateIPv6Value (value : ℕ) : Bool :=
  if value = 0 ∨ value = 1 then false
  else value >>> 121 == 0x7e || value >>> 118 == 0x3fa

def isPrivateNetworkAddress (ip : Text) : Bool :=
  if isIP ip = 4 then
    if ip = "169.254.169.254" ∨ ip = "169.254.170.2" then false else isPrivateIPv4 ip
  else if isIP ip = 6 then
    match parseIPv6 ip with
    | none => false
    | some numeric => if some numeric = parseIPv6 "fd00:ec2::254" then false else isPrivateIPv6Value numeric
  else false

/-- The text inside a pair of brackets, `replace(/^\[([^\]]+)\]$/, "$1")`. -/
def unbracket (text : Text) : Text :=
  match text with
  | '[' :: rest =>
    if rest.getLast? = some ']' ∧ rest.dropLast ≠ [] ∧ ']' ∉ rest.dropLast then rest.dropLast else text
  | _ => text

/-- The checks on a host in its final form. -/
def isAllowedHost (host : Text) : Bool :=
  if host = "169.254.169.254" ∨ host = "169.254.170.2" ∨ toLowerCase host = "fd00:ec2::254" then false
  else isPrivateNetworkAddress host

/-- The host of an address in its final form; a text with a colon is rewritten by the URL parser. -/
def finalHost (mapping : Text → Option Text) (ip : Text) : Option Text :=
  let host := unbracket (trim ip)
  if ':' ∈ host then
    (Url.parse mapping ("http://[" ++ host ++ "]/")).map fun url => unbracket url.host
  else some host

def isAllowedPrinterDestination (mapping : Text → Option Text) (ip : Text) : Bool :=
  (finalHost mapping ip).any isAllowedHost

end PrintGateway.Gateway
