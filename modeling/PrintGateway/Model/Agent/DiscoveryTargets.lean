import PrintGateway.Machine.RoundRobin
import PrintGateway.Model.Text
import PrintGateway.Net.Go

/-!
# Targets of automatic discovery

`discovery_targets.go`: the hosts that a scan probes, taken in turn from the subnets of the interfaces under
one budget.  Addresses and masks are the byte slices of Go's `net` package, of any length.
-/

namespace PrintGateway.Agent

open Machine Text Net

/-- A subnet of an interface: its own address and the mask. -/
structure IPNet where
  ip : List (Fin 256)
  mask : List (Fin 256)
  deriving DecidableEq, Repr

/-- `IP.To4`. -/
def to4 (ip : List (Fin 256)) : Option Ipv4 :=
  let four := if ip.length = 16 ∧ ip.take 12 = List.replicate 10 0 ++ [255, 255] then ip.drop 12 else ip
  match four with
  | [a, b, c, d] => some ⟨a, b, c, d⟩
  | _ => none

/-- The leading ones of a byte and what is left of it. -/
def leadingOnes : ℕ → ℕ → ℕ → ℕ × ℕ
  | 0, n, v => (n, v)
  | fuel + 1, n, v => if v &&& 0x80 ≠ 0 then leadingOnes fuel (n + 1) (v * 2 % 256) else (n, v)

/-- The length of a mask that is ones and then zeros. -/
def simpleMaskLength : List (Fin 256) → Option ℕ
  | [] => some 0
  | v :: rest =>
    if v = 255 then (simpleMaskLength rest).map (8 + ·)
    else if (leadingOnes 8 0 v.val).2 ≠ 0 ∨ rest.any (· ≠ 0) then none
    else some (leadingOnes 8 0 v.val).1

/-- `IPMask.Size`: the ones and the bits, which are zero for another mask. -/
def maskSize (mask : List (Fin 256)) : ℕ × ℕ :=
  match simpleMaskLength mask with
  | some ones => (ones, mask.length * 8)
  | none => (0, 0)

/-- `IP.Mask` with a mask of four bytes. -/
def maskIP (ip : Ipv4) (mask : List (Fin 256)) : Ipv4 :=
  ⟨ip.a &&& mask.getD 0 0, ip.b &&& mask.getD 1 0, ip.c &&& mask.getD 2 0, ip.d &&& mask.getD 3 0⟩

def generateHosts (ip : Ipv4) (mask : List (Fin 256)) : List Ipv4 :=
  if (maskSize mask).2 ≠ 32 then []
  else
    let total := min (2 ^ (32 - (maskSize mask).1)) 1024
    let base := (maskIP ip mask).number
    ((List.range' 1 (total - 2)).take 254).map fun i => Ipv4.ofNumber ((base + i) % 2 ^ 32)

/-- The subnets seen so far as `IPNet.String` writes them, and a group of hosts for each. -/
structure SubnetGroups where
  seenSubnets : List Text
  groups : List (List Text)

/-- The mask as four bytes where it has sixteen. -/
def shortMask (mask : List (Fin 256)) : List (Fin 256) := if mask.length = 16 then mask.drop 12 else mask

/-- The text of a subnet. -/
def subnetKey (network : Ipv4) (ones : ℕ) : Text := network.write ++ '/' :: digits ones

def SubnetGroups.add (state : SubnetGroups) (subnet : IPNet) : SubnetGroups :=
  match to4 subnet.ip with
  | none => state
  | some ip =>
    if ¬Go.isPrivate ip.mapped ∨ Go.isLoopback ip.mapped then state
    else
      let mask := shortMask subnet.mask
      if (maskSize mask).2 ≠ 32 then state
      else
        -- `net.CIDRMask(24, 32)`
        let mask := if (maskSize mask).1 < 24 then [255, 255, 255, 0] else mask
        let key := subnetKey (maskIP ip mask) (maskSize mask).1
        if key ∈ state.seenSubnets then state
        else
          ⟨key :: state.seenSubnets, state.groups ++ [((generateHosts ip mask).filter (· ≠ ip)).map Ipv4.write]⟩

/-- The targets, and whether the budget left some out. -/
def privateDiscoveryTargetsWithBudget (subnets : List IPNet) (budget : ℤ) : List Text × Bool :=
  RoundRobin.select (max budget 0).toNat (subnets.foldl SubnetGroups.add ⟨[], []⟩).groups 0 []

end PrintGateway.Agent
