import Mathlib.Data.UInt

/-!
# IPP messages

The framing of RFC 8010 behind the eight bytes of the header: tags up to 15 open a group, and the end tag
is one of them; any other tag comes with a name and a value, each after its length.  An attribute keeps
its name for the values that follow without one.  Members of a collection stand between its begin and
end tags.  A message ends with its end tag, so that no message is the beginning of another.
-/

namespace Codec.Ipp

variable {bytes rest field : List UInt8} {tag : UInt8}

inductive Item
  | group (tag : UInt8)
  | value (tag : UInt8) (name value : List UInt8)
  deriving DecidableEq, Repr

variable {item : Item} {items : List Item}

def endTag : UInt8 := 0x03

def beginCollection : UInt8 := 0x34

def endCollection : UInt8 := 0x37

/-- Tags that open a group. -/
def isDelimiter (tag : UInt8) : Bool := tag ≤ 0x0f

/-- A text after its length in two bytes. -/
def readField : List UInt8 → Option (List UInt8 × List UInt8)
  | high :: low :: bytes =>
    let length := high.toNat * 256 + low.toNat
    if bytes.length < length then none else some (bytes.take length, bytes.drop length)
  | _ => none

/-- What follows a tag. -/
def readItem (tag : UInt8) (bytes : List UInt8) : Option (Item × List UInt8) :=
  if isDelimiter tag then some (.group tag, bytes)
  else
    match readField bytes with
    | none => none
    | some (name, bytes) =>
      match readField bytes with
      | none => none
      | some (value, bytes) => some (.value tag name value, bytes)

theorem length_le_of_readField (read : readField bytes = some (field, rest)) : rest.length ≤ bytes.length := by
  match bytes, read with
  | high :: low :: bytes, read =>
    simp only [readField] at read
    split at read
    · cases read
    · cases read
      simp only [List.length_drop, List.length_cons]
      omega

theorem length_le_of_readItem (read : readItem tag bytes = some (item, rest)) : rest.length ≤ bytes.length := by
  unfold readItem at read
  split at read
  · cases read
    exact le_rfl
  · split at read
    · cases read
    rename_i name afterName isName
    split at read
    · cases read
    rename_i value afterValue isValue
    cases read
    exact (length_le_of_readField isValue).trans (length_le_of_readField isName)

/-- The items up to the end tag, and what follows it. -/
def readItems (bytes : List UInt8) : Option (List Item × List UInt8) :=
  match bytes with
  | [] => none
  | tag :: bytes =>
    if tag = endTag then some ([], bytes)
    else
      match _read : readItem tag bytes with
      | none => none
      | some (item, rest) => (readItems rest).map fun read => (item :: read.1, read.2)
termination_by bytes.length
decreasing_by
  exact Nat.lt_succ_of_le (length_le_of_readItem _read)

theorem readItems_end (bytes : List UInt8) : readItems (endTag :: bytes) = some ([], bytes) := by
  rw [readItems, if_pos rfl]

theorem readItems_cons (notEnd : tag ≠ endTag) (read : readItem tag bytes = some (item, rest)) :
    readItems (tag :: bytes) = (readItems rest).map fun read => (item :: read.1, read.2) := by
  rw [readItems, if_neg notEnd]
  split
  case h_1 missing => cases missing.symm.trans read
  case h_2 item' rest' found =>
    cases found.symm.trans read
    rfl

/-! ### Messages that go on -/

theorem readField_append (read : readField bytes = some (field, rest)) (more : List UInt8) :
    readField (bytes ++ more) = some (field, rest ++ more) := by
  match bytes, read with
  | high :: low :: bytes, read =>
    simp only [readField, List.cons_append] at read ⊢
    split at read
    · cases read
    rename_i enough
    cases read
    have within : high.toNat * 256 + low.toNat ≤ bytes.length := Nat.le_of_not_lt enough
    rw [if_neg (by rw [List.length_append]; omega), List.take_append_of_le_length within,
      List.drop_append_of_le_length within]

theorem readItem_append (read : readItem tag bytes = some (item, rest)) (more : List UInt8) :
    readItem tag (bytes ++ more) = some (item, rest ++ more) := by
  unfold readItem at read ⊢
  split at read
  · cases read
    exact if_pos ‹_›
  · rename_i notDelimiter
    rw [if_neg notDelimiter]
    split at read
    · cases read
    rename_i name afterName isName
    split at read
    · cases read
    rename_i value afterValue isValue
    cases read
    rw [readField_append isName more]
    simp only
    rw [readField_append isValue more]

/-- What follows a message does not change its items. -/
theorem readItems_append (read : readItems bytes = some (items, rest)) (more : List UInt8) :
    readItems (bytes ++ more) = some (items, rest ++ more) := by
  induction bytes using readItems.induct generalizing items with
  | case1 => simp [readItems] at read
  | case2 bytes =>
    rw [readItems_end] at read
    cases read
    exact readItems_end _
  | case3 tag bytes notEnd missing =>
    rw [readItems, if_neg notEnd] at read
    split at read
    · cases read
    · rename_i found
      cases missing.symm.trans found
  | case4 tag bytes notEnd item after found ih =>
    rw [readItems_cons notEnd found] at read
    obtain ⟨⟨others, left⟩, others_read, same⟩ := Option.map_eq_some_iff.mp read
    cases same
    rw [List.cons_append, readItems_cons notEnd (readItem_append found more), ih others_read]
    rfl

/-- No message is the beginning of another. -/
theorem eq_nil_of_readItems_append {more : List UInt8} {others : List Item}
    (read : readItems bytes = some (items, [])) (longer : readItems (bytes ++ more) = some (others, [])) :
    more = [] := by
  rw [readItems_append read more, Option.some.injEq, Prod.mk.injEq] at longer
  exact longer.2

/-! ### Attributes -/

/-- A value with the group and the attribute it belongs to. -/
structure Entry where
  group : UInt8
  name : List UInt8
  tag : UInt8
  value : List UInt8
  deriving DecidableEq, Repr

/-- Every value, also of members of collections, in the order of the message. -/
def entries (group : UInt8) (name : List UInt8) : List Item → List Entry
  | [] => []
  | .group tag :: items => entries tag [] items
  | .value tag given value :: items =>
    let owner := if given = [] then name else given
    ⟨group, owner, tag, value⟩ :: entries group owner items

/-- Where a reader is: the group, the attribute whose values go on, and how many collections are open. -/
structure Place where
  group : UInt8
  name : List UInt8
  depth : ℕ
  deriving DecidableEq, Repr

def Place.start : Place := ⟨0, [], 0⟩

/-- The name a value belongs to. -/
def Place.attribute (place : Place) (name : List UInt8) : List UInt8 := if name = [] then place.name else name

/-- The place behind an item. -/
def Place.after (place : Place) : Item → Place
  | .group tag => ⟨tag, [], 0⟩
  | .value tag name _ =>
    if place.depth = 0 then ⟨place.group, place.attribute name, if tag = beginCollection then 1 else 0⟩
    else if tag = beginCollection then { place with depth := place.depth + 1 }
    else if tag = endCollection then { place with depth := place.depth - 1 }
    else place

/-- The value of an item that is in no collection. -/
def Place.entry? (place : Place) : Item → Option Entry
  | .group _ => none
  | .value tag name value =>
    if place.depth = 0 then some ⟨place.group, place.attribute name, tag, value⟩ else none

/-- The values that are in no collection. -/
def topLevel (place : Place) : List Item → List Entry
  | [] => []
  | item :: items => (place.entry? item).toList ++ topLevel (place.after item) items

end Codec.Ipp
