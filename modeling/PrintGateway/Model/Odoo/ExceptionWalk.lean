import PrintGateway.Machine.DepthFirst
import PrintGateway.Model.Odoo.Submission

/-!
# The walk over an exception

`_is_pre_dispatch_error` on the graph of exception objects: causes, contexts and exceptions among the
arguments, in any shape.  Two references to one object are one node.
-/

namespace PrintGateway.Odoo

open Machine

/-- Exception objects with the names of their types. -/
structure ExceptionGraph (Node : Type) where
  name : Node → Text
  cause : Node → Option Node
  context : Node → Option Node
  args : Node → List Node

/-- The types of a failure to connect. -/
def connectPhase : List Text :=
  ["ConnectionRefusedError", "ConnectTimeout", "gaierror", "NewConnectionError",
    "ConnectTimeoutError", "NameResolutionError"]

/-- The types that may occur after the body was sent. -/
def afterSend : List Text :=
  ["ProtocolError", "ReadTimeoutError", "RemoteDisconnected", "ConnectionResetError",
    "BrokenPipeError", "TimeoutError", "SSLError", "CertificateError"]

/-- What the name of a type decides. -/
def classifyName (name : Text) : Option Bool :=
  if name ∈ connectPhase then some true else if name ∈ afterSend then some false else none

namespace ExceptionGraph

variable {Node : Type} (g : ExceptionGraph Node)

/-- What the loop pushes, the last pushed first.  A missing cause or context is popped without effect. -/
def pushed (node : Node) : List Node :=
  (g.args node).reverse ++ ((g.context node).toList ++ (g.cause node).toList)

/-- `_is_pre_dispatch_error`. -/
def isPreDispatchError [Fintype Node] [DecidableEq Node] (exc : Node) : Bool :=
  (DepthFirst.search g.pushed (fun node => classifyName (g.name node)) ∅ [exc]).getD false

/-- The exceptions that belong to one. -/
def Reachable (exc node : Node) : Prop :=
  Relation.ReflTransGen (fun node other => g.cause node = some other ∨ g.context node = some other ∨
    other ∈ g.args node) exc node

end ExceptionGraph

end PrintGateway.Odoo
