import PrintGateway.Model.Odoo.ExceptionWalk

/-!
# When the walk proves that nothing was sent

The walk ends on every graph and decides by the first exception it meets whose type it knows.  A graph with
both kinds of exceptions is taken for a failure to connect when one of those comes first.
-/

namespace PrintGateway.Odoo

open Machine

namespace ExceptionGraph

variable {Node : Type} (g : ExceptionGraph Node)

theorem mem_pushed {node other : Node} : other ∈ g.pushed node ↔
    g.cause node = some other ∨ g.context node = some other ∨ other ∈ g.args node := by
  simp only [pushed, List.mem_append, List.mem_reverse, Option.mem_toList]
  tauto

variable [Fintype Node] [DecidableEq Node]

/-- The exceptions in the order of the walk: depth first, the last argument before the others, the
arguments before the context and the context before the cause. -/
def order (exc : Node) : List Node := DepthFirst.visits g.pushed ∅ [exc]

theorem mem_order_iff {exc node : Node} : node ∈ g.order exc ↔ g.Reachable exc node := by
  rw [order, DepthFirst.mem_visits_iff, DepthFirst.Reachable, Reachable]
  simp only [mem_pushed]

/-- The submission loop sees the names on the walk. -/
theorem isPreDispatchError_eq (exc : Node) :
    g.isPreDispatchError exc = Odoo.isPreDispatchError ((g.order exc).map g.name) := by
  rw [isPreDispatchError, DepthFirst.search_eq, ← order]
  induction g.order exc with
  | nil => rfl
  | cons node rest ih =>
    have step : Odoo.isPreDispatchError ((node :: rest).map g.name) =
        if g.name node ∈ connectPhase then true else if g.name node ∈ afterSend then false
        else Odoo.isPreDispatchError (rest.map g.name) := rfl
    rw [List.findSome?_cons, step, ← ih, classifyName]
    split_ifs <;> rfl

/-- The walk answers yes when it meets a failure to connect before any other type that it knows. -/
theorem isPreDispatchError_iff (exc : Node) : g.isPreDispatchError exc = true ↔
    ∃ before node after, g.order exc = before ++ node :: after ∧ g.name node ∈ connectPhase ∧
      ∀ other ∈ before, g.name other ∉ connectPhase ∧ g.name other ∉ afterSend := by
  have found : g.isPreDispatchError exc = true ↔
      (g.order exc).findSome? (fun node => classifyName (g.name node)) = some true := by
    rw [isPreDispatchError, DepthFirst.search_eq, ← order]
    cases (g.order exc).findSome? fun node => classifyName (g.name node) with
    | none | some answer => simp
  have unknown (node : Node) : classifyName (g.name node) = none ↔
      g.name node ∉ connectPhase ∧ g.name node ∉ afterSend := by
    unfold classifyName
    split_ifs <;> simp_all
  have connect (node : Node) : classifyName (g.name node) = some true ↔ g.name node ∈ connectPhase := by
    unfold classifyName
    split_ifs <;> simp_all
  rw [found, List.findSome?_eq_some_iff]
  simp only [unknown, connect]

/-- In the order of the walk, an exception after sending stands before each failure to connect. -/
def SentFirst (exc : Node) : Prop :=
  ∀ before node after, g.order exc = before ++ node :: after → g.name node ∈ connectPhase →
    ∃ other ∈ before, g.name other ∈ afterSend

/-- A yes of the walk excludes exceptions after sending exactly when the graph has none, or the walk meets
one of them first. -/
theorem isPreDispatchError_sound_iff (exc : Node) :
    (g.isPreDispatchError exc = true → ∀ node, g.Reachable exc node → g.name node ∉ afterSend) ↔
      (∀ node, g.Reachable exc node → g.name node ∉ afterSend) ∨ g.SentFirst exc := by
  rw [isPreDispatchError_iff]
  constructor
  · intro sound
    by_contra neither
    obtain ⟨mixed, late⟩ := not_or.mp neither
    refine mixed (sound ?_)
    -- Of the failures to connect that no exception after sending precedes, take the first one.
    have some : ∃ length before node after, before.length = length ∧ g.order exc = before ++ node :: after ∧
        g.name node ∈ connectPhase ∧ ∀ other ∈ before, g.name other ∉ afterSend := by
      unfold SentFirst at late
      push Not at late
      obtain ⟨before, node, after, split, connect, unsent⟩ := late
      exact ⟨_, before, node, after, rfl, split, connect, unsent⟩
    classical
    obtain ⟨before, node, after, length, split, connect, unsent⟩ := Nat.find_spec some
    refine ⟨before, node, after, split, connect, fun other member => ⟨fun earlier => ?_, unsent other member⟩⟩
    obtain ⟨front, back, rfl⟩ := List.append_of_mem member
    refine Nat.find_min some (m := front.length) ?_ ⟨front, other, back ++ node :: after, rfl, ?_, earlier, ?_⟩
    · rw [← length]
      simp
    · simpa using split
    · exact fun first inFront => unsent first (List.mem_append_left _ inFront)
  · rintro (clean | first) ⟨before, node, after, split, connect, unknown⟩
    · exact clean
    · obtain ⟨other, member, sent⟩ := first before node after split connect
      exact absurd sent (unknown other member).2

/-- A refused connection inside what gave up on it, which refers back to what it was raised for. -/
def nestedGraph : ExceptionGraph (Fin 3) where
  name
    | 0 => "ConnectionError"
    | 1 => "MaxRetryError"
    | 2 => "NewConnectionError"
  cause node := if node = 1 then some 2 else none
  context node := if node = 2 then some 0 else if node = 1 then some 0 else none
  args node := if node = 0 then [1] else []

theorem order_nestedGraph : nestedGraph.order 0 = [0, 1, 2] := by
  simp [order, DepthFirst.visits, pushed, nestedGraph]

theorem isPreDispatchError_sound_iff_nested : nestedGraph.isPreDispatchError 0 = true ∧
    ∀ node, nestedGraph.Reachable 0 node → nestedGraph.name node ∉ afterSend := by
  have yes : nestedGraph.isPreDispatchError 0 = true :=
    (nestedGraph.isPreDispatchError_iff 0).mpr ⟨[0, 1], 2, [], order_nestedGraph, by decide, by decide⟩
  have unsent : ∀ node, nestedGraph.name node ∉ afterSend := by decide
  exact ⟨yes, (nestedGraph.isPreDispatchError_sound_iff 0).mpr (.inl fun node _ => unsent node) yes⟩

/-- Where nothing was sent, the walk answers yes exactly when some exception of the graph is a failure to
connect. -/
theorem isPreDispatchError_iff_of_unsent {exc : Node}
    (unsent : ∀ node, g.Reachable exc node → g.name node ∉ afterSend) :
    g.isPreDispatchError exc = true ↔ ∃ node, g.Reachable exc node ∧ g.name node ∈ connectPhase := by
  rw [isPreDispatchError_iff]
  constructor
  · rintro ⟨before, node, after, split, connect, -⟩
    exact ⟨node, g.mem_order_iff.mp (by simp [split]), connect⟩
  · rintro ⟨node, path, connect⟩
    have some : ((g.order exc).find? fun node => g.name node ∈ connectPhase).isSome = true :=
      List.find?_isSome.mpr ⟨node, g.mem_order_iff.mpr path, decide_eq_true connect⟩
    obtain ⟨first, found⟩ := Option.isSome_iff_exists.mp some
    obtain ⟨isFirst, before, after, split, earlier⟩ := List.find?_eq_some_iff_append.mp found
    refine ⟨before, first, after, split, of_decide_eq_true isFirst, fun other member => ?_⟩
    exact ⟨by simpa using earlier other member, unsent other (g.mem_order_iff.mp (by simp [split, member]))⟩

theorem isPreDispatchError_iff_of_unsent_nested :
    (∀ node, nestedGraph.Reachable 0 node → nestedGraph.name node ∉ afterSend) ∧
      nestedGraph.isPreDispatchError 0 = true := by
  have unsent : ∀ node, nestedGraph.name node ∉ afterSend := by decide
  have path : nestedGraph.Reachable 0 2 :=
    .tail (b := 1) (.single (.inr (.inr (by decide)))) (.inl rfl)
  exact ⟨fun node _ => unsent node,
    (nestedGraph.isPreDispatchError_iff_of_unsent fun node _ => unsent node).mpr ⟨2, path, by decide⟩⟩

/-- A connection that broke, and a new one that was refused while the first failure was handled. -/
def mixedGraph : ExceptionGraph (Fin 3) where
  name
    | 0 => "ConnectionError"
    | 1 => "NewConnectionError"
    | 2 => "ProtocolError"
  cause _ := none
  context node := if node = 0 then some 2 else none
  args node := if node = 0 then [1] else []

theorem order_mixedGraph : mixedGraph.order 0 = [0, 1, 2] := by
  simp [order, DepthFirst.visits, pushed, mixedGraph]

theorem exists_sent_taken_for_unsent : ∃ g : ExceptionGraph (Fin 3), g.isPreDispatchError 0 = true ∧
    ∃ node, g.Reachable 0 node ∧ g.name node ∈ afterSend := by
  refine ⟨mixedGraph, (mixedGraph.isPreDispatchError_iff 0).mpr ⟨[0], 1, [2], order_mixedGraph, ?_, ?_⟩, 2, ?_, ?_⟩
  · decide
  · decide
  · exact .single (.inr (.inl rfl))
  · decide

end ExceptionGraph

end PrintGateway.Odoo
