import PrintGateway.Model.Agent.IppFormats
import PrintGateway.Soundness.IppReading

/-!
# The evidence for a document format

The loop of `parseIPPPrinterAttributes` is followed item by item next to the place in the message.  Every
format of the flattened list is then a top-level value of the printer group, and a printer that answered
that it takes no jobs is not asked to print.
-/

namespace PrintGateway.Agent

open Codec
open Machine (Keyed exists_of_bind_eq_ok)

variable {wellFormed : Text → Bool} {mediaType : Text → Option Text} {scan scan' : AttributeScan}
  {tag : UInt8} {value name : Bytes} {named : Bool}

def formatSupported : Bytes := ascii "document-format-supported"

def acceptingJobs : Bytes := ascii "printer-is-accepting-jobs"

/-- Where the loop is in the message. -/
def AttributeScan.place (scan : AttributeScan) : Ipp.Place := ⟨scan.group, scan.currentName, scan.collectionDepth⟩

/-! ### The parts of the loop -/

theorem closed_attributesReader (scan : AttributeScan) (bytes : Bytes) (attrs : Keyed Bytes Bytes)
    (finished : (attributesReader wellFormed mediaType).finish scan bytes = .ok attrs) : bytes = [] := by
  obtain ⟨-, finished⟩ := ite_ippFail_eq_ok.mp finished
  obtain ⟨complete, -⟩ := ite_ippFail_eq_ok.mp finished
  exact not_not.mp (not_or.mp complete).1

theorem finishAttributes_eq {attrs : Keyed Bytes Bytes} (finished : finishAttributes scan [] = .ok attrs) :
    attrs = scan.out := by
  obtain ⟨-, finished⟩ := ite_ippFail_eq_ok.mp finished
  obtain ⟨-, finished⟩ := ite_ippFail_eq_ok.mp finished
  obtain ⟨-, finished⟩ := ite_ippFail_eq_ok.mp finished
  exact (Except.ok.inj finished).symm

/-- A group is opened outside of collections, and none after a printer group. -/
theorem openAttributeGroup_eq (opened : openAttributeGroup scan tag = .ok scan') :
    scan.collectionDepth = 0 ∧ scan.group ≠ 0x04 ∧
      scan' = { scan with group := tag, currentName := [], seen := [] } := by
  unfold openAttributeGroup at opened
  dsimp only at opened
  obtain ⟨outside, opened⟩ := ite_ippFail_eq_ok.mp opened
  refine ⟨not_not.mp outside, ?_⟩
  split at opened
  case isTrue =>
    obtain ⟨first, opened⟩ := ite_ippFail_eq_ok.mp opened
    rw [not_not.mp first]
    exact ⟨by decide, (Except.ok.inj opened).symm⟩
  split at opened
  case isTrue =>
    obtain ⟨placed, opened⟩ := ite_ippFail_eq_ok.mp opened
    rw [not_not.mp (not_or.mp placed).1]
    exact ⟨by decide, (Except.ok.inj opened).symm⟩
  split at opened
  case isTrue =>
    obtain ⟨placed, opened⟩ := ite_ippFail_eq_ok.mp opened
    refine ⟨fun printer => (not_or.mp placed).1 ?_, (Except.ok.inj opened).symm⟩
    rw [printer]
    decide
  case isFalse => cases opened

/-- A member of a collection changes its depth only. -/
theorem collectionMember_eq (inside : scan.collectionDepth ≠ 0)
    (taken : collectionMember scan tag name value = .ok scan') :
    scan'.place = scan.place.after (.value tag name value) ∧ scan'.out = scan.out ∧ scan'.seen = scan.seen ∧
      scan'.group = scan.group ∧ scan'.currentName = scan.currentName := by
  unfold collectionMember at taken
  obtain ⟨-, taken⟩ := ite_ippFail_eq_ok.mp taken
  simp only [AttributeScan.place, Ipp.Place.after, inside, if_false]
  split at taken
  case isTrue isBegin =>
    obtain ⟨-, taken⟩ := ite_ippFail_eq_ok.mp taken
    rw [if_pos isBegin, ← Except.ok.inj taken]
    exact ⟨rfl, rfl, rfl, rfl, rfl⟩
  case isFalse notBegin =>
  rw [if_neg notBegin]
  split at taken
  case isTrue isEnd =>
    obtain ⟨-, taken⟩ := ite_ippFail_eq_ok.mp taken
    rw [if_pos isEnd, ← Except.ok.inj taken]
    exact ⟨rfl, rfl, rfl, rfl, rfl⟩
  case isFalse notEnd =>
  rw [if_neg notEnd]
  split at taken
  · obtain ⟨-, taken⟩ := ite_ippFail_eq_ok.mp taken
    rw [← Except.ok.inj taken]
    exact ⟨rfl, rfl, rfl, rfl, rfl⟩
  · rw [← Except.ok.inj taken]
    exact ⟨rfl, rfl, rfl, rfl, rfl⟩

/-- A name is new in its group, or the value belongs to the attribute before it. -/
theorem currentAttribute_eq (named : currentAttribute scan tag name = .ok scan') : (name ≠ [] ∧ name ∉ scan.seen ∧
      scan' = { scan with currentName := name, currentTag := tag, seen := name :: scan.seen }) ∨
    (name = [] ∧ scan.currentName ≠ [] ∧ scan' = scan) := by
  unfold currentAttribute at named
  split at named
  case isTrue given =>
    obtain ⟨fresh, named⟩ := ite_ippFail_eq_ok.mp named
    exact .inl ⟨given, (not_or.mp fresh).2, (Except.ok.inj named).symm⟩
  case isFalse missing =>
    obtain ⟨present, named⟩ := ite_ippFail_eq_ok.mp named
    exact .inr ⟨not_not.mp missing, present, (Except.ok.inj named).symm⟩

theorem operationValue_eq (taken : operationValue wellFormed scan tag named value = .ok scan') :
    ∃ count, scan' = { scan with operationValues := count } := by
  unfold operationValue at taken
  split at taken
  · exact ⟨scan.operationValues, (Except.ok.inj taken).symm⟩
  obtain ⟨-, taken⟩ := ite_ippFail_eq_ok.mp taken
  obtain ⟨-, taken⟩ := ite_ippFail_eq_ok.mp taken
  obtain ⟨-, taken⟩ := ite_ippFail_eq_ok.mp taken
  exact ⟨_, (Except.ok.inj taken).symm⟩

/-- The cases of a value of a known attribute in the printer group. -/
theorem printerValue_cases (taken : printerValue mediaType scan tag named value = .ok scan') :
    ((scan.group ≠ 0x04 ∨ ippPrinterAttributeType scan.currentName = none) ∧ scan' = scan) ∨
    ∃ known single, scan.group = 0x04 ∧ ippPrinterAttributeType scan.currentName = some (known, single) ∧
      (named = false → single = false) ∧
      ((value = [] ∧ scan' = { scan with out := scan.out.put scan.currentName [] }) ∨
        ∃ decoded, decodeIPPPrinterAttribute mediaType scan.currentName tag known value = .ok decoded ∧
          scan' = if decoded = [] then scan else { scan with out := appendValue scan.out scan.currentName decoded }) := by
  unfold printerValue at taken
  split at taken
  case isTrue other => exact .inl ⟨.inl other, (Except.ok.inj taken).symm⟩
  case isFalse printer =>
  split at taken
  case h_1 unknown => exact .inl ⟨.inr unknown, (Except.ok.inj taken).symm⟩
  case h_2 known single isKnown =>
  split at taken
  · cases taken
  rename_i valid
  obtain ⟨repeated, sized⟩ := not_or.mp valid
  refine .inr ⟨known, single, not_not.mp printer, isKnown, ?_, ?_⟩
  · rintro rfl
    by_contra isSingle
    exact repeated ⟨rfl, .inl (by simpa using isSingle)⟩
  · split at taken
    case isTrue outOfBand =>
      have empty : value = [] := List.eq_nil_of_length_eq_zero (by_contra fun some => sized ⟨outOfBand, some⟩)
      exact .inl ⟨empty, (Except.ok.inj taken).symm⟩
    case isFalse =>
      obtain ⟨decoded, isDecoded, taken⟩ := exists_of_bind_eq_ok taken
      exact .inr ⟨decoded, isDecoded, (Except.ok.inj taken).symm⟩

theorem printerValue_frame (taken : printerValue mediaType scan tag named value = .ok scan') :
    scan'.group = scan.group ∧ scan'.currentName = scan.currentName ∧
      scan'.collectionDepth = scan.collectionDepth ∧ scan'.seen = scan.seen ∧
      ∀ name, name ≠ scan.currentName ∨ scan.group ≠ 0x04 → scan'.out.find? name = scan.out.find? name := by
  rcases printerValue_cases taken with ⟨-, rfl⟩ | ⟨known, single, printer, -, -, cases⟩
  · exact ⟨rfl, rfl, rfl, rfl, fun _ _ => rfl⟩
  · have other {name : Bytes} (different : name ≠ scan.currentName ∨ scan.group ≠ 0x04) : name ≠ scan.currentName :=
      different.resolve_right fun notPrinter => notPrinter printer
    rcases cases with ⟨-, rfl⟩ | ⟨decoded, -, rfl⟩
    · exact ⟨rfl, rfl, rfl, rfl, fun _ different => Keyed.find?_put_of_ne _ _ (other different)⟩
    · split
      · exact ⟨rfl, rfl, rfl, rfl, fun _ _ => rfl⟩
      · exact ⟨rfl, rfl, rfl, rfl, fun _ different => Keyed.find?_put_of_ne _ _ (other different)⟩

theorem openCollection_eq (opened : openCollection scan tag value = .ok scan') :
    scan' = if tag = Ipp.beginCollection then { scan with collectionDepth := 1 } else scan := by
  unfold openCollection at opened
  split at opened
  case isTrue isBegin =>
    obtain ⟨-, opened⟩ := ite_ippFail_eq_ok.mp opened
    rw [if_pos isBegin, Except.ok.inj opened]
  case isFalse other => rw [if_neg other, Except.ok.inj opened]

/-- Only attributes seen in the printer group have a value. -/
structure Fresh (scan : AttributeScan) : Prop where
  printer : scan.group ≠ 0x04 → ∀ name, scan.out.find? name = none
  seen : ∀ name, scan.out.find? name ≠ none → name ∈ scan.seen
  current : scan.currentName ≠ [] → scan.currentName ∈ scan.seen

theorem fresh_start : Fresh .start := ⟨fun _ _ => rfl, fun _ found => absurd rfl found, fun named => absurd rfl named⟩

/-! ### A value outside of collections -/

/-- The scan after the name of a value, and what the value then does. -/
structure TopValue (mediaType : Text → Option Text) (scan scan' : AttributeScan) (tag : UInt8) (name value : Bytes)
    (middle after : AttributeScan) : Prop where
  named : (name ≠ [] ∧ name ∉ scan.seen ∧ middle.seen = name :: scan.seen ∧ middle.currentName = name) ∨
    (name = [] ∧ scan.currentName ≠ [] ∧ middle.seen = scan.seen ∧ middle.currentName = scan.currentName)
  sameOut : middle.out = scan.out
  sameGroup : middle.group = scan.group
  sameDepth : middle.collectionDepth = scan.collectionDepth
  taken : printerValue mediaType middle tag (name ≠ []) value = .ok after
  opened : scan' = if tag = Ipp.beginCollection then { after with collectionDepth := 1 } else after

theorem topValue_of_attributeValue (outside : scan.collectionDepth = 0)
    (taken : attributeValue wellFormed mediaType scan tag name value = .ok scan') :
    ∃ middle after, TopValue mediaType scan scan' tag name value middle after := by
  unfold attributeValue at taken
  rw [if_neg (not_not.mpr outside)] at taken
  obtain ⟨renamed, isNamed, taken⟩ := exists_of_bind_eq_ok taken
  obtain ⟨-, taken⟩ := ite_ippFail_eq_ok.mp taken
  obtain ⟨counted, isCounted, taken⟩ := exists_of_bind_eq_ok taken
  obtain ⟨after, isTaken, isOpened⟩ := exists_of_bind_eq_ok taken
  obtain ⟨count, rfl⟩ := operationValue_eq isCounted
  refine ⟨_, after, ?_, ?_, ?_, ?_, isTaken, openCollection_eq isOpened⟩ <;>
    rcases currentAttribute_eq isNamed with ⟨given, fresh, rfl⟩ | ⟨missing, present, rfl⟩
  · exact .inl ⟨given, fresh, rfl, rfl⟩
  · exact .inr ⟨missing, present, rfl, rfl⟩
  all_goals rfl

namespace TopValue

variable {scan scan' middle after : AttributeScan} {tag : UInt8} {name value : Bytes}

section

variable (top : TopValue mediaType scan scan' tag name value middle after)

include top

theorem attribute_eq : middle.currentName = scan.place.attribute name := by
  rcases top.named with ⟨given, -, -, same⟩ | ⟨missing, -, -, same⟩
  · rw [same, Ipp.Place.attribute, if_neg given]
  · rw [same, Ipp.Place.attribute, if_pos missing]
    rfl

theorem out_eq : scan'.out = after.out := by
  rw [top.opened]
  split <;> rfl

theorem seen_eq : scan'.seen = middle.seen := by
  rw [← (printerValue_frame top.taken).2.2.2.1, top.opened]
  split <;> rfl

theorem place_eq (outside : scan.collectionDepth = 0) : scan'.place = scan.place.after (.value tag name value) := by
  obtain ⟨sameGroup, sameName, sameDepth, -, -⟩ := printerValue_frame top.taken
  have attributeName := top.attribute_eq
  rw [Ipp.Place.after, if_pos (show scan.place.depth = 0 from outside), ← attributeName, top.opened]
  split
  · simp only [AttributeScan.place, sameGroup, sameName, top.sameGroup]
  · simp only [AttributeScan.place, sameGroup, sameName, sameDepth, top.sameGroup, top.sameDepth, outside]

theorem current_mem (fresh : Fresh scan) : middle.currentName ∈ middle.seen := by
  rcases top.named with ⟨-, -, seen, same⟩ | ⟨-, present, seen, same⟩
  · rw [seen, same]
    exact List.mem_cons_self
  · rw [seen, same]
    exact fresh.current present

theorem seen_mono {other : Bytes} (member : other ∈ scan.seen) : other ∈ middle.seen := by
  rcases top.named with ⟨-, -, seen, -⟩ | ⟨-, -, seen, -⟩
  · rw [seen]
    exact List.mem_cons_of_mem _ member
  · rwa [seen]

theorem find?_eq {other : Bytes} (elsewhere : ¬(other = middle.currentName ∧ scan.group = 0x04)) :
    scan'.out.find? other = scan.out.find? other := by
  rw [← top.sameGroup, not_and_or] at elsewhere
  rw [top.out_eq, (printerValue_frame top.taken).2.2.2.2 other elsewhere, top.sameOut]

/-- What a value of a known attribute of the printer does. -/
theorem known {key : Bytes} {kind : UInt8} {single : Bool}
    (type : ippPrinterAttributeType key = some (kind, single))
    (here : key = middle.currentName ∧ scan.group = 0x04) :
    (name = [] → single = false) ∧ ((value = [] ∧ scan'.out = scan.out.put key []) ∨
      ∃ decoded, decodeIPPPrinterAttribute mediaType key tag kind value = .ok decoded ∧
        scan'.out = if decoded = [] then scan.out else appendValue scan.out key decoded) := by
  obtain ⟨rfl, isPrinter⟩ := here
  rw [top.out_eq, ← top.sameOut]
  rcases printerValue_cases top.taken with ⟨other | unknown, -⟩ | ⟨known, several, -, isKnown, repeated, cases⟩
  · exact absurd (top.sameGroup.trans isPrinter) other
  · cases type.symm.trans unknown
  obtain ⟨rfl, rfl⟩ := Prod.mk.inj (Option.some.inj (type.symm.trans isKnown))
  refine ⟨fun missing => repeated (by simp [missing]), cases.imp (fun ⟨empty, same⟩ => ⟨empty, by rw [same]⟩) ?_⟩
  rintro ⟨decoded, isDecoded, rfl⟩
  exact ⟨decoded, isDecoded, by split <;> rfl⟩

/-- An attribute with one value has none before it is named. -/
theorem unset {key : Bytes} {kind : UInt8} (fresh : Fresh scan)
    (type : ippPrinterAttributeType key = some (kind, true))
    (here : key = middle.currentName ∧ scan.group = 0x04) : scan.out.find? key = none := by
  rcases top.named with ⟨-, new, -, same⟩ | ⟨missing, -⟩
  · by_contra found
    exact new (same ▸ here.1 ▸ fresh.seen _ found)
  · cases (top.known type here).1 missing

theorem fresh (fresh : Fresh scan) : Fresh scan' := by
  obtain ⟨sameGroup, sameName, -, -, -⟩ := printerValue_frame top.taken
  have group : scan'.group = scan.group := by
    rw [← top.sameGroup, ← sameGroup, top.opened]
    split <;> rfl
  have current : scan'.currentName = middle.currentName := by
    rw [← sameName, top.opened]
    split <;> rfl
  refine ⟨?_, ?_, ?_⟩
  · intro notPrinter other
    rw [group] at notPrinter
    rw [top.find?_eq fun here => notPrinter here.2]
    exact fresh.printer notPrinter other
  · intro other found
    rw [top.seen_eq]
    by_cases same : other = middle.currentName
    · rw [same]
      exact top.current_mem fresh
    · rw [top.find?_eq fun here => same here.1] at found
      exact top.seen_mono (fresh.seen other found)
  · intro _
    rw [current, top.seen_eq]
    exact top.current_mem fresh

end

end TopValue

/-! ### Items -/

/-- What an item does: it opens a group, is a member of a collection, or is a value of its own. -/
theorem takeItem_cases {scan scan' : AttributeScan} {item : Ipp.Item}
    (taken : (attributesReader wellFormed mediaType).takeItem scan item = .ok scan') :
    scan'.place = scan.place.after item ∧
      ((scan.group ≠ 0x04 ∧ scan.place.entry? item = none ∧ scan'.out = scan.out ∧ scan'.currentName = []) ∨
        (scan.place.entry? item = none ∧ scan'.out = scan.out ∧ scan'.seen = scan.seen ∧ scan'.group = scan.group ∧
          scan'.currentName = scan.currentName) ∨
        ∃ tag name value middle after, item = .value tag name value ∧ scan.collectionDepth = 0 ∧
          TopValue mediaType scan scan' tag name value middle after) := by
  cases item with
  | group tag =>
    obtain ⟨-, notPrinter, rfl⟩ := openAttributeGroup_eq taken
    refine ⟨?_, .inl ⟨notPrinter, rfl, rfl, rfl⟩⟩
    obtain ⟨outside, -⟩ := openAttributeGroup_eq taken
    simp only [AttributeScan.place, Ipp.Place.after, outside]
  | value tag name value =>
    rw [IppReader.takeItem] at taken
    obtain ⟨-, taken⟩ := ite_ippFail_eq_ok.mp taken
    have taken : attributeValue wellFormed mediaType scan tag name value = .ok scan' := taken
    by_cases outside : scan.collectionDepth = 0
    · obtain ⟨middle, after, top⟩ := topValue_of_attributeValue outside taken
      exact ⟨top.place_eq outside, .inr (.inr ⟨tag, name, value, middle, after, rfl, outside, top⟩)⟩
    · rw [attributeValue, if_pos outside] at taken
      obtain ⟨place, unchanged⟩ := collectionMember_eq outside taken
      exact ⟨place, .inr (.inl ⟨if_neg outside, unchanged⟩)⟩

variable {item : Ipp.Item} {read : List Ipp.Entry} {decoded data : Bytes} {items : List Ipp.Item}
  {last : AttributeScan} {attrs : Keyed Bytes Bytes} {requestID : ℕ} {format : Text}

theorem Fresh.step {scan scan' : AttributeScan} (fresh : Fresh scan)
    (taken : (attributesReader wellFormed mediaType).takeItem scan item = .ok scan') : Fresh scan' := by
  obtain ⟨-, ⟨notPrinter, -, out, unnamed⟩ | ⟨-, out, seen, group, current⟩ |
    ⟨tag, name, value, middle, after, -, -, top⟩⟩ := takeItem_cases taken
  · have nothing (name : Bytes) : scan'.out.find? name = none := by
      rw [out]
      exact fresh.printer notPrinter name
    exact ⟨fun _ => nothing, fun name found => absurd (nothing name) found, fun named => absurd unnamed named⟩
  · refine ⟨?_, ?_, ?_⟩
    · rw [group, out]
      exact fresh.printer
    · rw [out, seen]
      exact fresh.seen
    · rw [current, seen]
      exact fresh.current
  · exact top.fresh fresh

/-! ### The list of formats -/

/-- Every entry of the flattened list is a value that has been read. -/
def Listed (read : List Ipp.Entry) (scan : AttributeScan) : Prop :=
  ∀ token ∈ ((scan.out.find? formatSupported).getD []).splitOn 44,
    token = [] ∨ 44 ∉ token ∧ ∃ entry ∈ read, entry.group = 0x04 ∧ entry.name = formatSupported ∧ entry.value = token

theorem Listed.mono {more : List Ipp.Entry} {scan scan' : AttributeScan} (listed : Listed read scan)
    (same : scan'.out.find? formatSupported = scan.out.find? formatSupported) (subset : read ⊆ more) :
    Listed more scan' := by
  intro token member
  rw [same] at member
  refine (listed token member).imp id fun ⟨plain, entry, inside, facts⟩ => ⟨plain, entry, subset inside, facts⟩

theorem decode_format {tag : UInt8} {name value : Bytes}
    (isDecoded : decodeIPPPrinterAttribute mediaType name tag 0x49 value = .ok decoded) :
    decoded = [] ∨ decoded = value ∧ 44 ∉ value := by
  unfold decodeIPPPrinterAttribute at isDecoded
  split at isDecoded
  · cases isDecoded
  rename_i wanted
  obtain rfl : tag = 0x49 := not_not.mp wanted
  rw [if_neg (by decide), if_neg (by decide), if_neg (by decide), if_pos rfl] at isDecoded
  split at isDecoded
  · cases isDecoded
  split at isDecoded
  · cases isDecoded
  split at isDecoded
  · exact .inl (Except.ok.inj isDecoded).symm
  · rename_i noComma
    exact .inr ⟨(Except.ok.inj isDecoded).symm, by simpa using noComma⟩

/-- A value at the end of a list is one more entry. -/
theorem splitOn_appendValue (out : Keyed Bytes Bytes) (name : Bytes) {value : Bytes} (plain : 44 ∉ value) :
    ∀ token ∈ (((appendValue out name value).find? name).getD []).splitOn 44,
      token ∈ ((out.find? name).getD []).splitOn 44 ∨ token = value := by
  intro token member
  rw [appendValue, Keyed.find?_put_self, Option.getD_some] at member
  split at member
  · rw [List.append_assoc, show ascii "," ++ value = 44 :: value from rfl, List.splitOn_append_cons_self,
      List.splitOn_eq_singleton plain, List.mem_append, List.mem_singleton] at member
    exact member
  · rw [List.splitOn_eq_singleton plain, List.mem_singleton] at member
    exact .inr member

theorem type_formatSupported : ippPrinterAttributeType formatSupported = some (0x49, false) := by decide

theorem Listed.step {scan scan' : AttributeScan} (listed : Listed read scan)
    (taken : (attributesReader wellFormed mediaType).takeItem scan item = .ok scan') :
    Listed (read ++ (scan.place.entry? item).toList) scan' := by
  obtain ⟨-, ⟨-, -, out, -⟩ | ⟨-, out, -⟩ | ⟨tag, name, value, middle, after, rfl, outside, top⟩⟩ := takeItem_cases taken
  · exact listed.mono (by rw [out]) (List.subset_append_left _ _)
  · exact listed.mono (by rw [out]) (List.subset_append_left _ _)
  by_cases here : formatSupported = middle.currentName ∧ scan.group = 0x04
  case neg => exact listed.mono (top.find?_eq here) (List.subset_append_left _ _)
  -- The value belongs to the list of formats.
  have entry : scan.place.entry? (.value tag name value) = some ⟨0x04, formatSupported, tag, value⟩ := by
    rw [Ipp.Place.entry?, if_pos (show scan.place.depth = 0 from outside), ← top.attribute_eq, ← here.1]
    exact congrArg (fun group => some (Ipp.Entry.mk group _ _ _)) here.2
  rw [entry]
  intro token member
  obtain ⟨-, ⟨-, cleared⟩ | ⟨decoded, isDecoded, appended⟩⟩ := top.known type_formatSupported here
  · rw [cleared, Keyed.find?_put_self] at member
    exact .inl (by simpa using member)
  rw [appended] at member
  split at member
  · exact (listed.mono rfl (List.subset_append_left _ _)) token member
  rename_i nonempty
  obtain ⟨rfl, plain⟩ := (decode_format isDecoded).resolve_left nonempty
  rcases splitOn_appendValue scan.out formatSupported plain token member with before | rfl
  · exact (listed.mono rfl (List.subset_append_left _ _)) token before
  · exact .inr ⟨plain, _, List.mem_append_right _ (List.mem_singleton_self _), rfl, rfl, rfl⟩

theorem Listed.run {scan : AttributeScan} (listed : Listed read scan)
    (taken : items.foldlM (attributesReader wellFormed mediaType).takeItem scan = .ok last) :
    Listed (read ++ Ipp.topLevel scan.place items) last := by
  induction items generalizing read scan with
  | nil =>
    cases taken
    rwa [Ipp.topLevel, List.append_nil]
  | cons item items ih =>
    rw [List.foldlM_cons] at taken
    obtain ⟨next, first, onward⟩ := exists_of_bind_eq_ok taken
    have rest := ih (listed.step first) onward
    rwa [(takeItem_cases first).1, List.append_assoc] at rest

/-! ### The refusal of jobs -/

theorem type_acceptingJobs : ippPrinterAttributeType acceptingJobs = some (0x22, true) := by decide

/-- The only value the attribute gets in its group is not changed any more. -/
theorem acceptingJobs_kept {scan scan' : AttributeScan} {stored : Bytes} (fresh : Fresh scan)
    (taken : (attributesReader wellFormed mediaType).takeItem scan item = .ok scan')
    (found : scan.out.find? acceptingJobs = some stored) : scan'.out.find? acceptingJobs = some stored := by
  obtain ⟨-, ⟨-, -, out, -⟩ | ⟨-, out, -⟩ | ⟨tag, name, value, middle, after, rfl, outside, top⟩⟩ := takeItem_cases taken
  · rw [out, found]
  · rw [out, found]
  by_cases here : acceptingJobs = middle.currentName ∧ scan.group = 0x04
  case neg => rw [top.find?_eq here, found]
  -- A second value would need its name again, or a name that has one value only.
  cases (top.unset fresh type_acceptingJobs here).symm.trans found

theorem decode_false {tag : UInt8} {name : Bytes}
    (isDecoded : decodeIPPPrinterAttribute mediaType name tag 0x22 [0] = .ok decoded) :
    decoded = ascii "false" := by
  unfold decodeIPPPrinterAttribute at isDecoded
  split at isDecoded
  · cases isDecoded
  rename_i wanted
  obtain rfl : tag = 0x22 := not_not.mp wanted
  rw [if_neg (by decide), if_pos rfl, if_neg (by decide)] at isDecoded
  exact (Except.ok.inj isDecoded).symm

/-- A printer that takes no jobs is stored as such. -/
theorem acceptingJobs_stored {scan scan' : AttributeScan} {entry : Ipp.Entry} (fresh : Fresh scan)
    (taken : (attributesReader wellFormed mediaType).takeItem scan item = .ok scan')
    (isEntry : scan.place.entry? item = some entry) (printer : entry.group = 0x04)
    (named : entry.name = acceptingJobs) (refuses : entry.value = [0]) :
    scan'.out.find? acceptingJobs = some (ascii "false") := by
  obtain ⟨-, ⟨-, nothing, -⟩ | ⟨nothing, -⟩ | ⟨tag, name, value, middle, after, rfl, outside, top⟩⟩ := takeItem_cases taken
  · exact absurd (nothing.symm.trans isEntry) (by simp)
  · exact absurd (nothing.symm.trans isEntry) (by simp)
  rw [Ipp.Place.entry?, if_pos (show scan.place.depth = 0 from outside), ← top.attribute_eq] at isEntry
  cases isEntry
  dsimp only [AttributeScan.place] at printer named refuses
  subst refuses
  obtain ⟨-, ⟨empty, -⟩ | ⟨decoded, isDecoded, appended⟩⟩ := top.known type_acceptingJobs ⟨named.symm, printer⟩
  · cases empty
  obtain rfl := decode_false isDecoded
  rw [appended, if_neg (by decide), appendValue, Keyed.find?_put_self,
    top.unset fresh type_acceptingJobs ⟨named.symm, printer⟩]
  rfl

theorem acceptingJobs_run {scan : AttributeScan} (fresh : Fresh scan)
    (taken : items.foldlM (attributesReader wellFormed mediaType).takeItem scan = .ok last) :
    (∀ stored, scan.out.find? acceptingJobs = some stored → last.out.find? acceptingJobs = some stored) ∧
      ∀ entry ∈ Ipp.topLevel scan.place items, entry.group = 0x04 → entry.name = acceptingJobs →
        entry.value = [0] → last.out.find? acceptingJobs = some (ascii "false") := by
  induction items generalizing scan with
  | nil =>
    cases taken
    exact ⟨fun _ => id, by simp [Ipp.topLevel]⟩
  | cons item items ih =>
    rw [List.foldlM_cons] at taken
    obtain ⟨next, first, onward⟩ := exists_of_bind_eq_ok taken
    obtain ⟨kept, later⟩ := ih (fresh.step first) onward
    refine ⟨fun stored found => kept stored (acceptingJobs_kept fresh first found), ?_⟩
    intro entry member printer named refuses
    rw [Ipp.topLevel, List.mem_append] at member
    rcases member with here | there
    · exact kept _ (acceptingJobs_stored fresh first (Option.mem_toList.mp here) printer named refuses)
    · rw [← (takeItem_cases first).1] at there
      exact later entry there printer named refuses

/-! ### The whole response -/

theorem scan_of_parseIPPPrinterAttributes
    (accepted : parseIPPPrinterAttributes wellFormed mediaType data requestID = .ok attrs) :
    (attributesReader wellFormed mediaType).scan .start (data.drop 8) = .ok attrs := by
  unfold parseIPPPrinterAttributes at accepted
  obtain ⟨-, accepted⟩ := ite_ippFail_eq_ok.mp accepted
  obtain ⟨major, -, accepted⟩ := exists_of_bind_eq_ok accepted
  obtain ⟨minor, -, accepted⟩ := exists_of_bind_eq_ok accepted
  obtain ⟨-, accepted⟩ := ite_ippFail_eq_ok.mp accepted
  obtain ⟨idBytes, -, accepted⟩ := exists_of_bind_eq_ok accepted
  obtain ⟨-, accepted⟩ := ite_ippFail_eq_ok.mp accepted
  obtain ⟨statusBytes, -, accepted⟩ := exists_of_bind_eq_ok accepted
  dsimp only at accepted
  split at accepted
  · cases accepted
  · exact accepted

/-- What the attributes of an accepted response rest on. -/
theorem attributes_of_accepted
    (accepted : parseIPPPrinterAttributes wellFormed mediaType data requestID = .ok attrs) :
    ∃ items, Ipp.readItems (data.drop 8) = some (items, []) ∧
      (∀ token ∈ ((attrs.find? formatSupported).getD []).splitOn 44, token = [] ∨ 44 ∉ token ∧
        ∃ entry ∈ Ipp.topLevel .start items,
          entry.group = 0x04 ∧ entry.name = formatSupported ∧ entry.value = token) ∧
      ∀ entry ∈ Ipp.topLevel .start items, entry.group = 0x04 → entry.name = acceptingJobs → entry.value = [0] →
        attrs.find? acceptingJobs = some (ascii "false") := by
  obtain ⟨items, last, read, taken, finished⟩ :=
    items_of_scan closed_attributesReader (scan_of_parseIPPPrinterAttributes accepted)
  obtain rfl := finishAttributes_eq finished
  have nothing : Listed [] .start := by
    intro token member
    exact .inl (List.mem_singleton.mp member)
  exact ⟨items, read, nothing.run taken, (acceptingJobs_run fresh_start taken).2⟩

theorem exists_of_mem_formats (member : format ∈ parseIPPSupportedFormats attrs) :
    format ≠ [] ∧ ∃ token ∈ ((attrs.find? formatSupported).getD []).splitOn 44, formatOf token = format := by
  rw [parseIPPSupportedFormats, List.mem_eraseDups, List.mem_filter] at member
  obtain ⟨listed, known⟩ := member
  obtain ⟨token, inside, same⟩ := List.mem_map.mp listed
  have nonempty : ∀ format ∈ ippFormats, format ≠ [] := by decide
  exact ⟨nonempty format (of_decide_eq_true known), token, inside, same⟩

/-- A document is submitted in a format of the list, to a printer that does not refuse jobs. -/
theorem chooseFormat_submit {negotiation : Negotiation} {url document : Bytes}
    (submitted : chooseFormat negotiation url data attrs = .submit format document) :
    format ∈ parseIPPSupportedFormats attrs ∧ attrs.find? acceptingJobs ≠ some (ascii "false") := by
  unfold chooseFormat at submitted
  dsimp only at submitted
  split at submitted
  · cases submitted
  rename_i accepting
  have notFalse : attrs.find? acceptingJobs ≠ some (ascii "false") := by
    intro isFalse
    rw [show ascii "printer-is-accepting-jobs" = acceptingJobs from rfl, isFalse] at accepting
    exact accepting (by decide)
  refine ⟨?_, notFalse⟩
  split at submitted
  · cases submitted
  split at submitted
  case isTrue pdf =>
    obtain ⟨rfl, -⟩ := FormatDecision.submit.inj submitted
    exact pdf
  split at submitted
  case isTrue pwg =>
    split at submitted
    · cases submitted
    · obtain ⟨rfl, -⟩ := FormatDecision.submit.inj submitted
      exact pwg
  split at submitted
  case isTrue jpeg =>
    split at submitted
    · cases submitted
    · obtain ⟨rfl, -⟩ := FormatDecision.submit.inj submitted
      exact jpeg
  case isFalse => cases submitted

theorem answer_of_getPrinterAttributes {probe : IppProbe}
    (answered : getPrinterAttributes wellFormed mediaType probe = .ok attrs) :
    ∃ answer, probe = .answered answer ∧ parseIPPPrinterAttributes wellFormed mediaType
      (answer.read maxIPPAttributesBytes).1 ippRequestID = .ok attrs := by
  cases probe with
  | failed error preDispatch => cases answered
  | answered answer =>
    refine ⟨answer, rfl, ?_⟩
    simp only [getPrinterAttributes, IppProbe.fail] at answered
    split at answered
    · cases answered
    split at answered
    · cases answered
    split at answered
    · cases answered
    split at answered
    · cases answered
    split at answered
    · cases answered
    split at answered
    · cases answered
    · rename_i parsed
      rw [parsed, Except.ok.inj answered]

/-- A document goes to the printer only in a format that its answer lists among the attributes of the
printer itself, and only if the answer does not say that the printer takes no jobs. -/
theorem ipp_format_evidence {negotiation : Negotiation} {url data document : Bytes} {format : Text}
    (submitted : printPDFWithFormatNegotiation wellFormed mediaType negotiation url data = .submit format document) :
    ∃ answer items, negotiation.probe = .answered answer ∧
      Ipp.readItems ((answer.read maxIPPAttributesBytes).1.drop 8) = some (items, []) ∧
      (∃ entry ∈ Ipp.topLevel .start items, entry.group = 0x04 ∧ entry.name = ascii "document-format-supported" ∧
        44 ∉ entry.value ∧ Text.toLower (Text.trimSpace (ofAscii entry.value)) = format) ∧
      ∀ entry ∈ Ipp.topLevel .start items, entry.group = 0x04 → entry.name = ascii "printer-is-accepting-jobs" →
        entry.value ≠ [0] := by
  unfold printPDFWithFormatNegotiation at submitted
  split at submitted
  · exact absurd submitted (by simp)
  split at submitted
  · exact absurd submitted (by simp)
  split at submitted
  · exact absurd submitted (by simp)
  split at submitted
  · split at submitted <;> exact absurd submitted (by simp)
  rename_i attrs answered
  obtain ⟨answer, isAnswer, parsed⟩ := answer_of_getPrinterAttributes answered
  obtain ⟨items, read, listed, refused⟩ := attributes_of_accepted parsed
  obtain ⟨member, notFalse⟩ := chooseFormat_submit submitted
  obtain ⟨nonempty, token, inside, same⟩ := exists_of_mem_formats member
  have present : token ≠ [] := by
    rintro rfl
    exact nonempty same.symm
  obtain ⟨plain, entry, top, printer, named, rfl⟩ := (listed token inside).resolve_left present
  refine ⟨answer, items, isAnswer, read, ⟨entry, top, printer, named, plain, same⟩, ?_⟩
  intro other isTop inPrinter isName refuses
  exact notFalse (refused other isTop inPrinter isName refuses)

/-- An answer that lists PDF and JPEG. -/
def pdfAnswer : IppAnswer where
  statusCode := 200
  contentType := "application/ipp"
  body := [2, 0, 0, 0, 0, 0, 0, 1, 0x01] ++ [0x47, 0, 18] ++ ascii "attributes-charset" ++ [0, 5] ++ ascii "utf-8" ++
    [0x48, 0, 27] ++ ascii "attributes-natural-language" ++ [0, 2] ++ ascii "en" ++ [0x04] ++
    [0x22, 0, 25] ++ ascii "printer-is-accepting-jobs" ++ [0, 1, 1] ++
    [0x49, 0, 25] ++ ascii "document-format-supported" ++ [0, 10] ++ ascii "image/jpeg" ++
    [0x49, 0, 0, 0, 15] ++ ascii "Application/PDF" ++ [0x03]
  readError := none

def pdfNegotiation : Negotiation where
  cancelled := none
  admissionError := none
  probe := .answered pdfAnswer
  cancelledAfter := none
  renderPWG _ _ := .error []
  renderJPEG _ := .error []

theorem ipp_format_evidence_pdf :
    printPDFWithFormatNegotiation (fun _ => true) some pdfNegotiation [] [] = .submit ippFormatPDF [] ∧
      ∃ answer items, pdfNegotiation.probe = .answered answer ∧
        Ipp.readItems ((answer.read maxIPPAttributesBytes).1.drop 8) = some (items, []) ∧
        (∃ entry ∈ Ipp.topLevel .start items, entry.group = 0x04 ∧ entry.name = ascii "document-format-supported" ∧
          44 ∉ entry.value ∧ Text.toLower (Text.trimSpace (ofAscii entry.value)) = ippFormatPDF) ∧
        ∀ entry ∈ Ipp.topLevel .start items, entry.group = 0x04 →
          entry.name = ascii "printer-is-accepting-jobs" → entry.value ≠ [0] := by
  have submitted : printPDFWithFormatNegotiation (fun _ => true) some pdfNegotiation [] [] =
      .submit ippFormatPDF [] := by decide +kernel
  exact ⟨submitted, ipp_format_evidence submitted⟩

end PrintGateway.Agent
