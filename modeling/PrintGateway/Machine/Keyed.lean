import Mathlib.Data.List.Nodup
import Mathlib.Data.List.Perm.Subperm

/-!
# Keyed tables

A database table as a list of rows under distinct keys.  An update maps every row and cannot move a
key; an insert leaves a taken key alone, as `ON CONFLICT DO NOTHING` does.  Both are characterised by
what a lookup returns afterwards.  The rules for folds and for computations that may fail follow the
loops that write such tables.
-/

namespace Machine

/-- Rows under distinct keys. -/
@[ext]
structure Keyed (Key Row : Type*) where
  entries : List (Key × Row)
  distinct : (entries.map Prod.fst).Nodup
  deriving DecidableEq

namespace Keyed

variable {Key Row : Type*} {table : Keyed Key Row} {key other : Key} {row : Row} {entry : Key × Row}
  {rows : List (Key × Row)}

/-- The table without rows. -/
def empty : Keyed Key Row := ⟨[], List.nodup_nil⟩

/-- Rewrite every row in place. -/
def update (f : Key → Row → Row) (table : Keyed Key Row) : Keyed Key Row where
  entries := table.entries.map fun entry => (entry.1, f entry.1 entry.2)
  distinct := by
    rw [List.map_map]
    exact table.distinct

/-- How many rows satisfy a condition. -/
def count (p : Row → Bool) (table : Keyed Key Row) : ℕ := table.entries.countP fun entry => p entry.2

variable [DecidableEq Key]

/-- The row under a key. -/
def find? (table : Keyed Key Row) (key : Key) : Option Row :=
  (table.entries.find? fun entry => entry.1 = key).map Prod.snd

@[simp]
theorem find?_update (table : Keyed Key Row) (f : Key → Row → Row) (key : Key) :
    (table.update f).find? key = (table.find? key).map (f key) := by
  simp only [find?, update]
  induction table.entries with
  | nil => rfl
  | cons entry entries ih =>
    by_cases same : entry.1 = key
    · simp [same]
    · simpa [List.find?_cons, same] using ih

theorem mem_of_find?_eq_some (found : table.find? key = some row) : (key, row) ∈ table.entries := by
  obtain ⟨entry, listed, rfl⟩ := Option.map_eq_some_iff.mp found
  have same : entry.1 = key := by simpa using List.find?_some listed
  exact same ▸ List.mem_of_find?_eq_some listed

theorem not_mem_of_find?_eq_none (absent : table.find? key = none) : key ∉ table.entries.map Prod.fst := by
  intro member
  obtain ⟨entry, listed, rfl⟩ := List.mem_map.mp member
  simp only [find?, Option.map_eq_none_iff, List.find?_eq_none, decide_eq_true_eq] at absent
  exact absent entry listed rfl

/-- Keys are distinct, so a lookup returns the row stored under the key. -/
theorem find?_eq_some_iff : table.find? key = some row ↔ (key, row) ∈ table.entries := by
  refine ⟨mem_of_find?_eq_some, fun member => ?_⟩
  cases found : table.find? key with
  | none => exact absurd (List.mem_map_of_mem member) (not_mem_of_find?_eq_none found)
  | some stored =>
    have other := mem_of_find?_eq_some found
    have same := List.inj_on_of_nodup_map table.distinct member other rfl
    exact congrArg (fun entry => some entry.2) same.symm

/-- A table counts no more than another one, up to the keys that are listed. -/
theorem count_le_add_length {other : Keyed Key Row} {p : Row → Bool} {listed : List Key}
    (covered : ∀ key row, table.find? key = some row → p row = true →
      (∃ row', other.find? key = some row' ∧ p row' = true) ∨ key ∈ listed) :
    table.count p ≤ other.count p + listed.length := by
  let counted (table : Keyed Key Row) := table.entries.filter fun entry => p entry.2
  have length (table : Keyed Key Row) : table.count p = ((counted table).map Prod.fst).length := by
    rw [count, List.countP_eq_length_filter, List.length_map]
  have distinct : ((counted table).map Prod.fst).Nodup :=
    table.distinct.sublist (List.filter_sublist.map _)
  rw [length, length, ← List.length_append]
  refine (List.subperm_of_subset distinct fun key member => ?_).length_le
  obtain ⟨⟨key, row⟩, selected, rfl⟩ := List.mem_map.mp member
  obtain ⟨stored, holds⟩ := List.mem_filter.mp selected
  rcases covered key row (find?_eq_some_iff.mpr stored) holds with ⟨row', found, holds⟩ | new
  · refine List.mem_append_left _ (List.mem_map.mpr ⟨(key, row'), ?_, rfl⟩)
    exact List.mem_filter.mpr ⟨mem_of_find?_eq_some found, holds⟩
  · exact List.mem_append_right _ new

/-- Insert a row unless its key is taken. -/
def insert (key : Key) (row : Row) (table : Keyed Key Row) : Keyed Key Row :=
  if absent : table.find? key = none then
    { entries := table.entries ++ [(key, row)]
      distinct := by
        rw [List.map_append, List.nodup_append]
        refine ⟨table.distinct, by simp, ?_⟩
        intro a listed b single
        obtain rfl : b = key := by simpa using single
        rintro rfl
        exact not_mem_of_find?_eq_none absent listed }
  else table

theorem find?_insert_of_ne (table : Keyed Key Row) {key : Key} (row : Row) (different : other ≠ key) :
    (table.insert key row).find? other = table.find? other := by
  unfold insert
  split
  · simp only [find?, List.find?_append]
    cases table.entries.find? fun entry => entry.1 = other <;> simp [different.symm]
  · rfl

theorem find?_insert_self (row : Row) (absent : table.find? key = none) :
    (table.insert key row).find? key = some row := by
  unfold insert
  rw [dif_pos absent]
  simp only [find?, Option.map_eq_none_iff] at absent
  simp [find?, List.find?_append, absent]

theorem insert_of_taken (row : Row) {stored : Row} (taken : table.find? key = some stored) :
    table.insert key row = table := by
  unfold insert
  rw [dif_neg (by simp [taken])]

theorem entries_insert (row : Row) (absent : table.find? key = none) :
    (table.insert key row).entries = table.entries ++ [(key, row)] := by
  rw [insert, dif_pos absent]

theorem mem_insert (member : entry ∈ (table.insert key row).entries) :
    entry ∈ table.entries ∨ entry = (key, row) := by
  unfold insert at member
  split at member
  · exact (List.mem_append.mp member).imp_right List.mem_singleton.mp
  · exact .inl member

theorem find?_eq_none_of_not_mem (absent : key ∉ table.entries.map Prod.fst) : table.find? key = none := by
  cases found : table.find? key with
  | none => rfl
  | some row => exact absurd (List.mem_map_of_mem (mem_of_find?_eq_some found)) absent

/-- Inserting rows under fresh keys, one after the other. -/
theorem entries_foldl_insert (table : Keyed Key Row)
    (distinct : ((table.entries ++ rows).map Prod.fst).Nodup) :
    (rows.foldl (fun table row => table.insert row.1 row.2) table).entries = table.entries ++ rows := by
  induction rows generalizing table with
  | nil => exact (List.append_nil _).symm
  | cons row rows ih =>
    have fresh : row.1 ∉ table.entries.map Prod.fst := by
      rw [List.map_append, List.map_cons, List.nodup_middle, List.nodup_cons] at distinct
      exact fun member => distinct.1 (List.mem_append_left _ member)
    have inserted := entries_insert row.2 (find?_eq_none_of_not_mem fresh)
    have shifted : (table.insert row.1 row.2).entries ++ rows = table.entries ++ row :: rows := by
      rw [inserted, List.append_assoc, List.singleton_append]
    rw [List.foldl_cons, ih _ (by rw [shifted]; exact distinct), shifted]

/-- Store a row under a key, over the one that was there. -/
def put (key : Key) (row : Row) (table : Keyed Key Row) : Keyed Key Row :=
  (table.update fun other stored => if other = key then row else stored).insert key row

theorem find?_put_self (table : Keyed Key Row) (key : Key) (row : Row) :
    (table.put key row).find? key = some row := by
  unfold put
  cases stored : table.find? key with
  | none => exact find?_insert_self row (by rw [find?_update, stored]; rfl)
  | some old =>
    have taken : (table.update fun other stored => if other = key then row else stored).find? key = some row := by
      rw [find?_update, stored, Option.map_some, if_pos rfl]
    rw [insert_of_taken row taken, taken]

theorem find?_put_of_ne (table : Keyed Key Row) {key : Key} (row : Row) (different : other ≠ key) :
    (table.put key row).find? other = table.find? other := by
  rw [put, find?_insert_of_ne _ row different, find?_update]
  simp [different]

theorem find?_put (table : Keyed Key Row) (key other : Key) (row : Row) :
    (table.put key row).find? other = if other = key then some row else table.find? other := by
  split
  · next same => rw [same, find?_put_self]
  · next different => exact find?_put_of_ne _ _ different

/-- Rows under distinct keys stored one after the other. -/
theorem find?_foldl_put (table : Keyed Key Row) (distinct : (rows.map Prod.fst).Nodup) (key : Key) :
    (rows.foldl (fun table row => table.put row.1 row.2) table).find? key =
      ((rows.find? fun row => row.1 = key).map Prod.snd).or (table.find? key) := by
  induction rows generalizing table with
  | nil => rfl
  | cons row rows ih =>
    obtain ⟨fresh, distinct⟩ := List.nodup_cons.mp distinct
    rw [List.foldl_cons, ih _ distinct]
    by_cases same : row.1 = key
    · have absent : rows.find? (fun row => decide (row.1 = key)) = none :=
        List.find?_eq_none.mpr fun other member equal =>
          fresh (List.mem_map.mpr ⟨other, member, (of_decide_eq_true equal).trans same.symm⟩)
      rw [absent, List.find?_cons_of_pos (by simpa using same), ← same, find?_put_self]
      rfl
    · rw [List.find?_cons_of_neg (by simpa using same), find?_put_of_ne _ _ (Ne.symm same)]

theorem mem_put (member : entry ∈ (table.put key row).entries) : entry = (key, row) ∨ entry ∈ table.entries := by
  have found : (table.put key row).find? entry.1 = some entry.2 := find?_eq_some_iff.mpr member
  by_cases same : entry.1 = key
  · rw [same, find?_put_self] at found
    exact .inl (Prod.ext same (Option.some.inj found).symm)
  · rw [find?_put_of_ne _ _ same] at found
    exact .inr (find?_eq_some_iff.mp found)

/-- Keep the rows that satisfy a condition. -/
def filter (keep : Key → Row → Bool) (table : Keyed Key Row) : Keyed Key Row where
  entries := table.entries.filter fun entry => keep entry.1 entry.2
  distinct := table.distinct.sublist (List.filter_sublist.map _)

theorem find?_filter_eq_some_iff {keep : Key → Row → Bool} :
    (table.filter keep).find? key = some row ↔ table.find? key = some row ∧ keep key row = true := by
  rw [find?_eq_some_iff, find?_eq_some_iff]
  exact List.mem_filter

end Keyed

section Steps

universe u

variable {Error : Type*} {First Second : Type u} {first : Except Error First} {result : Second}

/-- The steps of a computation that succeeded. -/
theorem exists_of_bind_eq_ok {next : First → Except Error Second}
    (succeeded : (first >>= next) = .ok result) :
    ∃ value, first = .ok value ∧ next value = .ok result := by
  cases first with
  | error error => cases succeeded
  | ok value => exact ⟨value, rfl, succeeded⟩

theorem exists_of_map_eq_ok {f : First → Second} (succeeded : first.map f = .ok result) :
    ∃ value, first = .ok value ∧ f value = result := by
  cases first with
  | error error => cases succeeded
  | ok value => exact ⟨value, rfl, Except.ok.inj succeeded⟩

theorem of_mapM_eq_ok {f : First → Except Error Second} {items : List First} {results : List Second}
    (finished : items.mapM f = .ok results) :
    results.length = items.length ∧ ∀ result ∈ results, ∃ item, f item = .ok result := by
  induction items generalizing results with
  | nil =>
    cases finished
    exact ⟨rfl, nofun⟩
  | cons item items ih =>
    rw [List.mapM_cons] at finished
    obtain ⟨first, read, finished⟩ := exists_of_bind_eq_ok finished
    obtain ⟨rest, later, finished⟩ := exists_of_bind_eq_ok finished
    cases finished
    obtain ⟨size, each⟩ := ih later
    refine ⟨by rw [List.length_cons, size, List.length_cons], fun result member => ?_⟩
    rcases List.mem_cons.mp member with rfl | member
    · exact ⟨item, read⟩
    · exact each result member

end Steps

section Folds

variable {State Item : Type*} {f : State → Item → State} {items : List Item} {s : State}

/-- What every step of a fold keeps holds at its end. -/
theorem foldl_keeps (Inv : State → Prop) (start : Inv s)
    (keep : ∀ s, ∀ item ∈ items, Inv s → Inv (f s item)) : Inv (items.foldl f s) :=
  List.foldlRecOn items f start fun s held item member => keep s item member held

/-- What some step of a fold establishes and every step keeps holds at its end. -/
theorem foldl_establishes (Inv Goal : State → Prop) {item : Item} (start : Inv s)
    (keep : ∀ s, ∀ item ∈ items, Inv s → Inv (f s item)) (member : item ∈ items)
    (establish : ∀ s, Inv s → Goal (f s item))
    (stay : ∀ s, ∀ item ∈ items, Inv s → Goal s → Goal (f s item)) : Goal (items.foldl f s) := by
  obtain ⟨before, after, rfl⟩ := List.append_of_mem member
  rw [List.foldl_append, List.foldl_cons]
  have reached : Inv (before.foldl f s) :=
    foldl_keeps Inv start fun s item listed => keep s item (List.mem_append_left _ listed)
  have both : Inv (f (before.foldl f s) item) ∧ Goal (f (before.foldl f s) item) :=
    ⟨keep _ item (by simp) reached, establish _ reached⟩
  refine (foldl_keeps (fun s => Inv s ∧ Goal s) both ?_).2
  intro s other listed held
  have listed : other ∈ before ++ item :: after := by simp [listed]
  exact ⟨keep s other listed held.1, stay s other listed held.1 held.2⟩

/-- What every step of a fold that may fail keeps holds at its end. -/
theorem foldlM_keeps {Error : Type*} {f : State → Item → Except Error State} (Inv : State → Prop)
    {s' : State} (start : Inv s) (keep : ∀ s, ∀ item ∈ items, ∀ s', Inv s → f s item = .ok s' → Inv s')
    (finished : items.foldlM f s = .ok s') : Inv s' := by
  induction items generalizing s with
  | nil =>
    cases finished
    exact start
  | cons item items ih =>
    rw [List.foldlM_cons] at finished
    obtain ⟨next, first, finished⟩ := exists_of_bind_eq_ok finished
    exact ih (keep s item List.mem_cons_self next start first)
      (fun s item member => keep s item (List.mem_cons_of_mem _ member)) finished

end Folds

end Machine
