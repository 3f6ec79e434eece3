import Mathlib.Data.Fintype.Card

/-!
# Depth-first search

A search of a finite graph with a stack and a set of seen nodes, which stops at the first node that has an
answer.  It ends on every graph, cycles included.  The answer is that of the first node in the order of the
walk that has one, and the walk meets exactly the nodes that can be reached.
-/

namespace Machine.DepthFirst

variable {Node Answer : Type*} [DecidableEq Node] (next : Node → List Node)

/-- A new node leaves fewer unseen ones. -/
theorem card_unseen_lt [Fintype Node] {seen : Finset Node} {node : Node} (new : node ∉ seen) :
    (insert node seen)ᶜ.card < seenᶜ.card :=
  Finset.card_lt_card (Finset.compl_ssubset_compl.mpr (Finset.ssubset_insert new))

/-- The answer of the first node on the walk that has one.  The top of the stack is its head. -/
def search [Fintype Node] (answer : Node → Option Answer) (seen : Finset Node) : List Node → Option Answer
  | [] => none
  | node :: stack =>
    if node ∈ seen then search answer seen stack
    else
      match answer node with
      | some found => some found
      | none => search answer (insert node seen) (next node ++ stack)
termination_by stack => (seenᶜ.card, stack.length)
decreasing_by
  · exact .right _ (by simp)
  · exact .left _ _ (card_unseen_lt ‹_›)

/-- The nodes in the order of the walk. -/
def visits [Fintype Node] (seen : Finset Node) : List Node → List Node
  | [] => []
  | node :: stack =>
    if node ∈ seen then visits seen stack else node :: visits (insert node seen) (next node ++ stack)
termination_by stack => (seenᶜ.card, stack.length)
decreasing_by
  · exact .right _ (by simp)
  · exact .left _ _ (card_unseen_lt ‹_›)

variable [Fintype Node]

theorem search_eq (answer : Node → Option Answer) (seen : Finset Node) (stack : List Node) :
    search next answer seen stack = (visits next seen stack).findSome? answer := by
  fun_induction search next answer seen stack with
  | case1 => simp [visits]
  | case2 seen node stack known ih => rw [visits, if_pos known, ih]
  | case3 seen node stack new found has => rw [visits, if_neg new, List.findSome?_cons, has]
  | case4 seen node stack new none ih => rw [visits, if_neg new, List.findSome?_cons, none, ih]

/-- One node leads to another. -/
def Reachable {Node : Type*} (next : Node → List Node) : Node → Node → Prop :=
  Relation.ReflTransGen fun node other => other ∈ next node

theorem reachable_of_mem_visits {seen : Finset Node} {stack : List Node} {node : Node}
    (visited : node ∈ visits next seen stack) : ∃ start ∈ stack, Reachable next start node := by
  fun_induction visits next seen stack with
  | case1 => cases visited
  | case2 seen top stack known ih =>
    obtain ⟨start, member, path⟩ := ih visited
    exact ⟨start, List.mem_cons_of_mem _ member, path⟩
  | case3 seen top stack new ih =>
    rcases List.mem_cons.mp visited with rfl | later
    · exact ⟨node, List.mem_cons_self, .refl⟩
    · obtain ⟨start, member, path⟩ := ih later
      rcases List.mem_append.mp member with inside | below
      · exact ⟨top, List.mem_cons_self, .head inside path⟩
      · exact ⟨start, List.mem_cons_of_mem _ below, path⟩

/-- The walk meets the stack and whatever follows on a node that it meets, apart from the seen nodes. -/
theorem visits_closed (seen : Finset Node) (stack : List Node) :
    (∀ node ∈ stack, node ∈ seen ∨ node ∈ visits next seen stack) ∧
      ∀ node ∈ visits next seen stack, ∀ other ∈ next node, other ∈ seen ∨ other ∈ visits next seen stack := by
  fun_induction visits next seen stack with
  | case1 => simp
  | case2 seen top stack known ih =>
    refine ⟨fun node member => ?_, ih.2⟩
    rcases List.mem_cons.mp member with rfl | below
    · exact .inl known
    · exact ih.1 node below
  | case3 seen top stack new ih =>
    have lift {node : Node} (met : node ∈ insert top seen ∨ node ∈ visits next (insert top seen) (next top ++ stack)) :
        node ∈ seen ∨ node ∈ top :: visits next (insert top seen) (next top ++ stack) := by
      rcases met with known | later
      · rcases Finset.mem_insert.mp known with rfl | before
        · exact .inr List.mem_cons_self
        · exact .inl before
      · exact .inr (List.mem_cons_of_mem _ later)
    refine ⟨fun node member => ?_, fun node visited other follows => ?_⟩
    · rcases List.mem_cons.mp member with rfl | below
      · exact .inr List.mem_cons_self
      · exact lift (ih.1 node (List.mem_append_right _ below))
    · rcases List.mem_cons.mp visited with rfl | later
      · exact lift (ih.1 other (List.mem_append_left _ follows))
      · exact lift (ih.2 node later other follows)

/-- From one node the walk meets exactly the nodes that can be reached. -/
theorem mem_visits_iff {root node : Node} : node ∈ visits next ∅ [root] ↔ Reachable next root node := by
  constructor
  · intro visited
    obtain ⟨start, member, path⟩ := reachable_of_mem_visits next visited
    rwa [List.mem_singleton.mp member] at path
  · intro path
    obtain ⟨starts, closed⟩ := visits_closed next ∅ [root]
    induction path with
    | refl => exact (starts root List.mem_cons_self).resolve_left (by simp)
    | tail _ follows ih => exact (closed _ ih _ follows).resolve_left (by simp)

end Machine.DepthFirst
