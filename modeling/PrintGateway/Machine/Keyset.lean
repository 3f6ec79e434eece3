import Mathlib.Data.List.Sort

/-!
# Paging by key

Rows in the order of a key, read page by page: a page holds rows behind the last key of the page before
it.  The key order is whatever the database uses, so it is a parameter.  When the rows do not change
and no two share a key, the rows behind the last one read are exactly those not yet read.
-/

namespace Machine

/-- A total order of keys, such as the collation of a text column. -/
structure Collation (Key : Type*) where
  le : Key → Key → Bool
  total : ∀ a b, le a b = true ∨ le b a = true
  trans : ∀ {a b c}, le a b = true → le b c = true → le a c = true
  antisymm : ∀ {a b}, le a b = true → le b a = true → a = b

namespace Collation

variable {Key Row : Type*} (collation : Collation Key) (key : Row → Key)

/-- `ORDER BY key`. -/
def ordered (rows : List Row) : List Row :=
  rows.insertionSort fun a b => collation.le (key a) (key b) = true

/-- `key > cursor`, where a cursor is given. -/
def isAfter (cursor : Option Key) (row : Row) : Bool := cursor.all fun last => !collation.le (key row) last

/-- `WHERE key > cursor ORDER BY key LIMIT limit`. -/
def readAfter (cursor : Option Key) (limit : ℕ) (rows : List Row) : List Row :=
  (collation.ordered key (rows.filter (collation.isAfter key cursor))).take limit

variable {collation key} {rows front rest : List Row}

theorem ordered_perm (rows : List Row) : (collation.ordered key rows).Perm rows :=
  List.perm_insertionSort _ rows

theorem ordered_pairwise (rows : List Row) :
    (collation.ordered key rows).Pairwise fun a b => collation.le (key a) (key b) = true := by
  have total : Std.Total fun a b : Row => collation.le (key a) (key b) = true :=
    ⟨fun a b => collation.total (key a) (key b)⟩
  have trans : IsTrans Row fun a b => collation.le (key a) (key b) = true :=
    ⟨fun _ _ _ => collation.trans⟩
  exact List.pairwise_insertionSort _ rows

/-- Under distinct keys the order is determined, so selecting rows and ordering them commute. -/
theorem ordered_filter (distinct : (rows.map key).Nodup) (p : Row → Bool) :
    collation.ordered key (rows.filter p) = (collation.ordered key rows).filter p := by
  refine List.Perm.eq_of_pairwise ?_ (ordered_pairwise _) ((ordered_pairwise rows).filter p)
    ((ordered_perm _).trans ((ordered_perm rows).filter p).symm)
  intro a b left right below above
  have left := List.mem_of_mem_filter ((ordered_perm _).mem_iff.mp left)
  have right := (ordered_perm rows).mem_iff.mp (List.mem_of_mem_filter right)
  exact List.inj_on_of_nodup_map distinct left right (collation.antisymm below above)

/-- The rows behind the last one of `front` are the ones `front` has left. -/
theorem ordered_after (distinct : (rows.map key).Nodup) {last : Row}
    (split : collation.ordered key rows = front ++ last :: rest) :
    collation.ordered key (rows.filter (collation.isAfter key (some (key last)))) = rest := by
  have sorted := @ordered_pairwise _ _ collation key rows
  have keys : ((front ++ last :: rest).map key).Nodup := by
    rw [← split]
    exact ((ordered_perm rows).map key).nodup_iff.mpr distinct
  rw [split] at sorted
  obtain ⟨-, sorted, before⟩ := List.pairwise_append.mp sorted
  have behind := (List.pairwise_cons.mp sorted).1
  rw [List.map_append, List.map_cons] at keys
  have fresh := (List.nodup_cons.mp (List.nodup_append.mp keys).2.1).1
  rw [ordered_filter distinct, split, List.filter_append]
  have none : front.filter (collation.isAfter key (some (key last))) = [] := by
    rw [List.filter_eq_nil_iff]
    intro row member
    simp [isAfter, before row member last List.mem_cons_self]
  have all : rest.filter (collation.isAfter key (some (key last))) = rest := by
    rw [List.filter_eq_self]
    intro row member
    suffices collation.le (key row) (key last) = false by simp [isAfter, this]
    refine Bool.eq_false_iff.mpr fun above => fresh ?_
    exact collation.antisymm (behind row member) above ▸ List.mem_map_of_mem member
  have self : collation.isAfter key (some (key last)) last = false := by
    have equal := (collation.total (key last) (key last)).elim id id
    simp [isAfter, equal]
  rw [none, List.nil_append, List.filter_cons_of_neg (by simp [self]), all]

end Collation

end Machine
