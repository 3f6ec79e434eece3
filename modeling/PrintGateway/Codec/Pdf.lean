import Mathlib.Algebra.Group.Nat.Defs
import Mathlib.Data.List.Infix

/-!
# The structure of a PDF file

A header, indirect objects, a cross-reference table with an entry of twenty bytes for every object, a trailer
and the offset of the table.  A reader starts at the end: it finds the table there, and the objects in the
table.
-/

namespace Codec.Pdf

/-! ### Numbers -/

def ascii (text : String) : List UInt8 := text.toList.map fun c => .ofNat c.toNat

/-- A number in decimal. -/
def digits (n : ℕ) : List UInt8 := (Nat.toDigits 10 n).map fun c => .ofNat c.toNat

/-- A number with leading zeros. -/
def padded (width n : ℕ) : List UInt8 := List.replicate (width - (digits n).length) 48 ++ digits n

/-- The number some digits stand for. -/
def number (text : List UInt8) : ℕ := text.foldl (fun value c => 10 * value + (c.toNat - 48)) 0

theorem isDigit_of_mem_digits {n : ℕ} {byte : UInt8} (member : byte ∈ digits n) :
    48 ≤ byte.toNat ∧ byte.toNat ≤ 57 := by
  obtain ⟨c, listed, rfl⟩ := List.mem_map.mp member
  have digit : 48 ≤ c.toNat ∧ c.toNat ≤ 57 :=
    Char.isDigit_iff_toNat.mp (Nat.isDigit_of_mem_toDigits (by decide) (by decide) listed)
  rw [UInt8.toNat_ofNat', Nat.mod_eq_of_lt (by omega)]
  exact digit

theorem number_digits (n : ℕ) : number (digits n) = n := by
  have value : ∀ value : ℕ, ∀ c ∈ Nat.toDigits 10 n,
      10 * value + ((UInt8.ofNat c.toNat).toNat - 48) = 10 * value + (c.toNat - '0'.toNat) := by
    intro value c listed
    have digit : 48 ≤ c.toNat ∧ c.toNat ≤ 57 :=
      Char.isDigit_iff_toNat.mp (Nat.isDigit_of_mem_toDigits (by decide) (by decide) listed)
    rw [UInt8.toNat_ofNat', Nat.mod_eq_of_lt (by omega)]
    rfl
  rw [number, digits, List.foldl_map, List.foldl_ext _ _ _ value, ← Nat.ofDigitChars_eq_foldl,
    Nat.ofDigitChars_ten_toDigits]

theorem number_padded (width n : ℕ) : number (padded width n) = n := by
  have zeros (k : ℕ) : number (List.replicate k 48) = 0 :=
    List.foldlRecOn (motive := (· = 0)) _ _ rfl fun value zero c member => by
      rw [zero, List.eq_of_mem_replicate member]
      rfl
  rw [number, padded, List.foldl_append, ← number, zeros]
  exact number_digits n

theorem length_padded {width n : ℕ} (positive : 0 < width) (small : n < 10 ^ width) :
    (padded width n).length = width := by
  have short : (digits n).length ≤ width := by
    rw [digits, List.length_map]
    exact (Nat.length_toDigits_le_iff (by decide) positive).mpr small
  rw [padded, List.length_append, List.length_replicate]
  omega

/-! ### Files -/

/-- A text stands at an offset of a file. -/
def StartsAt (file : List UInt8) (offset : ℕ) (text : List UInt8) : Prop := text <+: file.drop offset

/-- The entry of an object in use. -/
def entry (offset : ℕ) : List UInt8 := padded 10 offset ++ ascii " 00000 n\r\n"

def freeEntry : List UInt8 := ascii "0000000000 65535 f\r\n"

def tableHead (count : ℕ) : List UInt8 := ascii "xref\r\n0 " ++ digits count ++ ascii "\r\n"

/-- The offsets of consecutive objects. -/
def offsets (start : ℕ) : List (List UInt8) → List ℕ
  | [] => []
  | object :: objects => start :: offsets (start + object.length) objects

def entries (start : ℕ) (objects : List (List UInt8)) : List (List UInt8) :=
  freeEntry :: (offsets start objects).map entry

/-- The end of a file, after which nothing follows. -/
def startxref (xref : ℕ) : List UInt8 := ascii "\nstartxref\n" ++ digits xref ++ ascii "\n%%EOF\n"

def body (header : List UInt8) (objects : List (List UInt8)) : List UInt8 := header ++ objects.flatten

def file (header : List UInt8) (objects : List (List UInt8)) (trailer : List UInt8) : List UInt8 :=
  body header objects ++ (tableHead (objects.length + 1) ++ ((entries header.length objects).flatten ++
    (ascii "trailer\n" ++ (trailer ++ startxref (body header objects).length))))

/-- Entry `n` of the table at an offset. -/
def entryAt (file : List UInt8) (xref count n : ℕ) : List UInt8 :=
  (file.drop (xref + (tableHead count).length + 20 * n)).take 20

section Files

variable {header trailer before after text : List UInt8} {objects : List (List UInt8)} {n start offset : ℕ}
  {object : List UInt8}

theorem startsAt_append (before text after : List UInt8) :
    StartsAt (before ++ (text ++ after)) before.length text := by
  rw [StartsAt, List.drop_left]
  exact List.prefix_append _ _

theorem StartsAt.of_isPrefix {long : List UInt8} (starts : StartsAt before offset long) (short : text <+: long) :
    StartsAt before offset text := short.trans starts

theorem take_drop_flatten {rows : List (List UInt8)} {k : ℕ} {row : List UInt8}
    (each : ∀ row ∈ rows, row.length = k) (here : rows[n]? = some row) (rest : List UInt8) :
    ((rows.flatten ++ rest).drop (k * n)).take k = row := by
  induction rows generalizing n with
  | nil => cases here
  | cons first rows ih =>
    have size := each first List.mem_cons_self
    cases n with
    | zero =>
      cases here
      rw [Nat.mul_zero, List.drop_zero, List.flatten_cons, List.append_assoc, ← size, List.take_left]
    | succ n =>
      have later := ih (fun other member => each other (List.mem_cons_of_mem _ member)) here
      rw [List.flatten_cons, List.append_assoc, Nat.mul_succ, Nat.add_comm, ← List.drop_drop, ← size, List.drop_left,
        size]
      exact later

theorem length_offsets (start : ℕ) (objects : List (List UInt8)) :
    (offsets start objects).length = objects.length := by
  induction objects generalizing start with
  | nil => rfl
  | cons object objects ih => rw [offsets, List.length_cons, ih, List.length_cons]

theorem startsAt_of_offsets (header rest : List UInt8) (here : objects[n]? = some object)
    (placed : (offsets header.length objects)[n]? = some offset) :
    StartsAt (header ++ objects.flatten ++ rest) offset object := by
  induction objects generalizing header n with
  | nil => cases here
  | cons first objects ih =>
    rw [List.flatten_cons, ← List.append_assoc]
    cases n with
    | zero =>
      cases here
      cases placed
      rw [List.append_assoc, List.append_assoc]
      exact startsAt_append header object _
    | succ n =>
      rw [offsets, List.getElem?_cons_succ, ← List.length_append] at placed
      exact ih (header ++ first) here placed

theorem offsets_le (member : offset ∈ offsets start objects) : offset ≤ start + objects.flatten.length := by
  induction objects generalizing start with
  | nil => cases member
  | cons object objects ih =>
    rw [List.flatten_cons, List.length_append]
    rcases List.mem_cons.mp member with rfl | later
    · omega
    · have := ih later
      omega

end Files

/-- A file in which a reader finds a table with an entry for every object. -/
structure Reads (file : List UInt8) (objects : List (List UInt8)) (xref : ℕ) (offset : ℕ → ℕ) : Prop where
  /-- the end of the file gives the offset of the table -/
  finish : startxref xref <:+ file
  table : StartsAt file xref (tableHead (objects.length + 1))
  size : ∀ n ≤ objects.length, (entryAt file xref (objects.length + 1) n).length = 20
  trailer : StartsAt file (xref + (tableHead (objects.length + 1)).length + 20 * (objects.length + 1)) (ascii "trailer\n")
  inUse : ∀ n object, objects[n]? = some object →
    entryAt file xref (objects.length + 1) (n + 1) = entry (offset n) ∧ StartsAt file (offset n) object

/-- An object whose data stand behind the line `stream`, as many bytes as its dictionary says, and before
`endstream`. -/
def IsStream (object : List UInt8) (n : ℕ) (data : List UInt8) : Prop :=
  ∃ dictionary gap, 10 ∉ dictionary ∧ ascii "/Length " ++ digits data.length ++ ascii " >>" <:+ dictionary ∧
    (gap = [] ∨ gap = [10]) ∧
    digits n ++ ascii " 0 obj\n" ++ dictionary ++ ascii "\nstream\n" ++ data ++ gap ++ ascii "endstream" <+: object

theorem IsStream.of_isPrefix {object file data : List UInt8} {n : ℕ} (stream : IsStream object n data)
    (inside : object <+: file) : IsStream file n data := by
  obtain ⟨dictionary, gap, line, length, close, text⟩ := stream
  exact ⟨dictionary, gap, line, length, close, text.trans inside⟩

section Reading

variable {header trailer : List UInt8} {objects : List (List UInt8)}

/-- The offset an entry of twenty bytes holds. -/
theorem number_entry {offset : ℕ} (size : (entry offset).length = 20) : number ((entry offset).take 10) = offset := by
  have width : (padded 10 offset).length = 10 := by
    rw [entry, List.length_append] at size
    exact Nat.add_right_cancel (m := 10) size
  rw [entry, List.take_left' width, number_padded]

theorem length_entries (start : ℕ) (objects : List (List UInt8)) :
    (entries start objects).length = objects.length + 1 := by
  rw [entries, List.length_cons, List.length_map, length_offsets]

theorem length_of_mem_entries {row : List UInt8} (small : (body header objects).length < 10 ^ 10)
    (member : row ∈ entries header.length objects) : row.length = 20 := by
  rcases List.mem_cons.mp member with rfl | used
  · rfl
  · obtain ⟨offset, placed, rfl⟩ := List.mem_map.mp used
    have bound := offsets_le placed
    rw [body, List.length_append] at small
    rw [entry, List.length_append, length_padded (by decide) (by omega)]
    rfl

theorem entryAt_file {n : ℕ} {row : List UInt8} (small : (body header objects).length < 10 ^ 10)
    (here : (entries header.length objects)[n]? = some row) :
    entryAt (file header objects trailer) (body header objects).length (objects.length + 1) n = row := by
  have each : ∀ row ∈ entries header.length objects, row.length = 20 := fun _ => length_of_mem_entries small
  rw [entryAt, file, ← List.length_append, ← List.drop_drop, ← List.append_assoc, List.drop_left]
  exact take_drop_flatten each here _

/-- A reader finds the table of a file of less than ten billion bytes, and in it the objects. -/
theorem reads_file (header trailer : List UInt8) (objects : List (List UInt8))
    (small : (body header objects).length < 10 ^ 10) :
    Reads (file header objects trailer) objects (body header objects).length
      fun n => (offsets header.length objects).getD n 0 where
  finish := by
    rw [file]
    iterate 4 refine List.IsSuffix.trans ?_ (List.suffix_append _ _)
    exact List.suffix_append _ _
  table := startsAt_append _ _ _
  size := by
    intro n inside
    have some : n < (entries header.length objects).length := by
      rw [length_entries]
      omega
    rw [entryAt_file small (List.getElem?_eq_getElem some)]
    exact length_of_mem_entries small (List.getElem_mem some)
  trailer := by
    have rows : (entries header.length objects).flatten.length = 20 * (objects.length + 1) := by
      rw [List.length_flatten, List.map_congr_left fun _ => length_of_mem_entries small, List.map_const',
        List.sum_replicate_nat, length_entries, Nat.mul_comm]
    rw [file, ← rows, ← List.length_append, ← List.length_append, ← List.append_assoc, ← List.append_assoc]
    exact startsAt_append _ _ _
  inUse := by
    intro n object here
    have inside : n < (offsets header.length objects).length := by
      rw [length_offsets]
      exact (List.getElem?_eq_some_iff.mp here).1
    have placed := List.getElem?_eq_getElem inside
    have row : (entries header.length objects)[n + 1]? = some (entry (offsets header.length objects)[n]) := by
      rw [entries, List.getElem?_cons_succ, List.getElem?_map, placed, Option.map_some]
    rw [entryAt_file small row, List.getD_eq_getElem?_getD, placed]
    exact ⟨rfl, startsAt_of_offsets header _ here placed⟩

end Reading

end Codec.Pdf
