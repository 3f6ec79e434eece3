import PrintGateway.Model.Text
import PrintGateway.Net.Go

/-!
# Printer destinations of the Agent
-/

namespace PrintGateway.Agent

open Text Net

/-- `IsAllowedPrinterIP`; a text that is no address parses to nil. -/
def isAllowedPrinterIP (ip : Option Ipv6) : Bool :=
  match ip with
  | none => false
  | some ip =>
    if Go.isUnspecified ip || Go.isLoopback ip || Go.isMulticast ip then false
    else if Go.to4 ip = some ⟨169, 254, 169, 254⟩ ∨ Go.to4 ip = some ⟨169, 254, 170, 2⟩ then false
    else if equalFold (Go.string ip) "fd00:ec2::254" then false
    else Go.isPrivate ip || Go.isLinkLocalUnicast ip

end PrintGateway.Agent
