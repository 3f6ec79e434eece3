import PrintGateway.Model.Agent.IppPrint

/-!
# Reading a Print-Job response

No read of `parseIPPPrintResponse` is out of range.  A response it accepts is one message of the format,
taken item by item, and `completeIPPResponse` finds it complete.
-/

namespace PrintGateway.Agent

open Codec
open Machine (exists_of_bind_eq_ok)

variable {wellFormed : Text → Bool} {requireJob : Bool}

/-! ### No read is out of range -/

variable {Value : Type}

/-- The computation did not panic. -/
def InRange {Value : Type} (result : Except IppError Value) : Prop := result ≠ .error .outOfRange

theorem inRange_ippFail (text : String) : InRange (ippFail text : Except IppError Value) := by
  simp [InRange, ippFail]

theorem inRange_ok (value : Value) : InRange (.ok value) := by simp [InRange]

theorem inRange_readBounded (limit : ℕ) (truncated invalid : String) (bytes : List UInt8) :
    InRange (readBounded limit truncated invalid bytes) := by
  rw [readBounded_eq]
  split
  · split
    · exact inRange_ippFail _
    · exact inRange_ok _
  · split <;> exact inRange_ippFail _

/-- A step that follows one in range. -/
theorem InRange.bind {First Second : Type} {first : Except IppError First}
    {next : First → Except IppError Second} (start : InRange first)
    (continues : ∀ value, InRange (next value)) : InRange (first >>= next) := by
  cases first with
  | error error => exact fun same => start (congrArg _ (Except.error.inj same))
  | ok value => exact continues value

theorem inRange_byteAt {data : List UInt8} {i : ℕ} (inside : i < data.length) : InRange (byteAt data i) := by
  rw [byteAt, List.getElem?_eq_getElem inside]
  exact inRange_ok _

theorem inRange_slice {n : ℕ} {bytes : List UInt8} (enough : n ≤ bytes.length) : InRange (slice n bytes) := by
  rw [slice, if_neg (Nat.not_lt.mpr enough)]
  exact inRange_ok _

/-- A check that was passed. -/
theorem ite_ippFail_eq_ok {c : Prop} [Decidable c] {text : String} {next : Except IppError Value}
    {value : Value} : (if c then ippFail text else next) = .ok value ↔ ¬c ∧ next = .ok value := by
  split
  case isTrue refused => simp [ippFail, refused]
  case isFalse passed => simp [passed]

section Reader

variable {State Result : Type} {reader : IppReader State Result}

/-- No handler of a reader panics. -/
structure InRangeReader (reader : IppReader State Result) : Prop where
  finish : ∀ state bytes, InRange (reader.finish state bytes)
  openGroup : ∀ state tag, InRange (reader.openGroup state tag)
  name : ∀ state name, InRange (reader.name state name)
  value : ∀ state tag name value, InRange (reader.value state tag name value)

theorem InRangeReader.readAttribute (inRange : InRangeReader reader) (state : State) (tag : UInt8)
    (bytes : List UInt8) : InRange (reader.readAttribute state tag bytes) := by
  unfold IppReader.readAttribute
  split
  · exact inRange_ippFail _
  refine InRange.bind (inRange_readBounded _ _ _ _) fun ⟨name, bytes⟩ => ?_
  refine InRange.bind (inRange.name _ _) fun state => ?_
  refine InRange.bind (inRange_readBounded _ _ _ _) fun ⟨value, bytes⟩ => ?_
  refine InRange.bind (inRange.value _ _ _ _) fun state => ?_
  exact inRange_ok _

theorem InRangeReader.scan (inRange : InRangeReader reader) (state : State) (bytes : List UInt8) :
    InRange (reader.scan state bytes) := by
  induction state, bytes using IppReader.scan.induct reader with
  | case1 state =>
    rw [IppReader.scan]
    exact inRange_ippFail _
  | case2 state bytes =>
    rw [IppReader.scan, if_pos rfl]
    exact inRange.finish state bytes
  | case3 state tag bytes notEnd delimiter error opened =>
    rw [IppReader.scan, if_neg notEnd, if_pos delimiter, opened]
    exact fun panic => inRange.openGroup state tag (opened.trans (congrArg _ (Except.error.inj panic)))
  | case4 state tag bytes notEnd delimiter next opened ih =>
    rw [IppReader.scan, if_neg notEnd, if_pos delimiter, opened]
    exact ih
  | case5 state tag bytes notEnd delimiter error failed =>
    rw [IppReader.scan, if_neg notEnd, if_neg delimiter]
    split
    · rename_i same
      exact fun panic =>
        inRange.readAttribute state tag bytes (same.trans (congrArg _ (Except.error.inj panic)))
    · rename_i read
      exact absurd (failed.symm.trans read) (by simp)
  | case6 state tag bytes notEnd delimiter next rest read ih =>
    rw [IppReader.scan, if_neg notEnd, if_neg delimiter]
    split
    · rename_i failed
      exact absurd (read.symm.trans failed) (by simp)
    · rename_i found
      obtain ⟨rfl, rfl⟩ := Prod.mk.inj (Except.ok.inj (read.symm.trans found))
      exact ih

/-! ### Item by item -/

/-- What an item of a message does. -/
def IppReader.takeItem (reader : IppReader State Result) (state : State) : Ipp.Item → Except IppError State
  | .group tag => reader.openGroup state tag
  | .value tag name value =>
    if reader.inGroup state = false then ippFail reader.truncatedName
    else do
      let state ← reader.name state name
      reader.value state tag name value

theorem takeItem_of_readAttribute {state state' : State} {tag : UInt8} {bytes rest : List UInt8}
    (notDelimiter : ¬Ipp.isDelimiter tag = true)
    (read : reader.readAttribute state tag bytes = .ok (state', rest)) :
    ∃ name value, Ipp.readItem tag bytes = some (.value tag name value, rest) ∧
      reader.takeItem state (.value tag name value) = .ok state' := by
  unfold IppReader.readAttribute at read
  split at read
  · cases read
  rename_i inGroup
  obtain ⟨⟨name, afterName⟩, isName, read⟩ := exists_of_bind_eq_ok read
  obtain ⟨named, renamed, read⟩ := exists_of_bind_eq_ok read
  obtain ⟨⟨value, afterValue⟩, isValue, read⟩ := exists_of_bind_eq_ok read
  obtain ⟨taken, isTaken, read⟩ := exists_of_bind_eq_ok read
  obtain ⟨rfl, rfl⟩ := Prod.mk.inj (Except.ok.inj read)
  refine ⟨name, value, ?_, ?_⟩
  · rw [Ipp.readItem, if_neg notDelimiter, readField_of_readBounded isName]
    simp only
    rw [readField_of_readBounded isValue]
  · rw [IppReader.takeItem, if_neg inGroup, renamed]
    exact isTaken

/-- An accepted response is one message, all of whose items were taken, if nothing may follow its end. -/
theorem items_of_scan (closed : ∀ state bytes result, reader.finish state bytes = .ok result → bytes = [])
    {state : State} {bytes : List UInt8} {result : Result} (accepted : reader.scan state bytes = .ok result) :
    ∃ items last, Ipp.readItems bytes = some (items, []) ∧ items.foldlM reader.takeItem state = .ok last ∧
      reader.finish last [] = .ok result := by
  induction state, bytes using IppReader.scan.induct reader with
  | case1 state =>
    rw [IppReader.scan] at accepted
    cases accepted
  | case2 state bytes =>
    rw [IppReader.scan, if_pos rfl] at accepted
    obtain rfl := closed state bytes result accepted
    exact ⟨[], state, Ipp.readItems_end [], rfl, accepted⟩
  | case3 state tag bytes notEnd delimiter error opened =>
    rw [IppReader.scan, if_neg notEnd, if_pos delimiter, opened] at accepted
    cases accepted
  | case4 state tag bytes notEnd delimiter next opened ih =>
    rw [IppReader.scan, if_neg notEnd, if_pos delimiter, opened] at accepted
    obtain ⟨items, last, read, taken, finished⟩ := ih accepted
    have isGroup : Ipp.readItem tag bytes = some (.group tag, bytes) := if_pos delimiter
    refine ⟨.group tag :: items, last, ?_, ?_, finished⟩
    · rw [Ipp.readItems_cons notEnd isGroup, read]
      rfl
    · rw [List.foldlM_cons, IppReader.takeItem, opened]
      exact taken
  | case5 state tag bytes notEnd delimiter error failed =>
    rw [IppReader.scan, if_neg notEnd, if_neg delimiter] at accepted
    split at accepted
    · cases accepted
    · rename_i read
      exact absurd (failed.symm.trans read) (by simp)
  | case6 state tag bytes notEnd delimiter next rest read ih =>
    rw [IppReader.scan, if_neg notEnd, if_neg delimiter] at accepted
    split at accepted
    · cases accepted
    rename_i found
    obtain ⟨rfl, rfl⟩ := Prod.mk.inj (Except.ok.inj (read.symm.trans found))
    obtain ⟨items, last, others, taken, finished⟩ := ih accepted
    obtain ⟨name, value, isItem, first⟩ := takeItem_of_readAttribute delimiter read
    refine ⟨.value tag name value :: items, last, ?_, ?_, finished⟩
    · rw [Ipp.readItems_cons notEnd isItem, others]
      rfl
    · rw [List.foldlM_cons, first]
      exact taken

end Reader

/-! ### The Print-Job reader -/

variable {job : IppJobEvidence} {data value : List UInt8} {scan scan' : ResponseScan} {tag : UInt8}
  {named : Bool}

theorem inRange_nameAttribute (scan : ResponseScan) (name : List UInt8) : InRange (nameAttribute scan name) := by
  unfold nameAttribute
  split_ifs <;> first | exact inRange_ippFail _ | exact inRange_ok _

theorem inRange_operationAttribute (scan : ResponseScan) (tag : UInt8) (named : Bool) (value : List UInt8) :
    InRange (operationAttribute wellFormed scan tag named value) := by
  unfold operationAttribute
  dsimp only
  split_ifs <;> first | exact inRange_ippFail _ | exact inRange_ok _

theorem inRange_jobAttribute (scan : ResponseScan) (tag : UInt8) (named : Bool) (value : List UInt8) :
    InRange (jobAttribute scan tag named value) := by
  unfold jobAttribute
  split_ifs <;> first | exact inRange_ippFail _ | exact inRange_ok _

theorem inRange_takeValue (scan : ResponseScan) (tag : UInt8) (named : Bool) (value : List UInt8) :
    InRange (takeValue wellFormed requireJob scan tag named value) := by
  unfold takeValue
  split
  · exact inRange_operationAttribute scan tag named value
  split
  · exact inRange_ok _
  · exact inRange_jobAttribute scan tag named value

theorem inRange_finishResponse (scan : ResponseScan) (rest : List UInt8) :
    InRange (finishResponse requireJob scan rest) := by
  unfold finishResponse
  split_ifs <;> first | exact inRange_ippFail _ | exact inRange_ok _ | simp [InRange]

theorem inRange_openGroup (scan : ResponseScan) (tag : UInt8) : InRange (openGroup scan tag) := by
  unfold openGroup
  dsimp only
  split_ifs <;> first | exact inRange_ippFail _ | exact inRange_ok _

theorem inRange_responseReader : InRangeReader (responseReader wellFormed requireJob) where
  finish := inRange_finishResponse
  openGroup := inRange_openGroup
  name := inRange_nameAttribute
  value scan tag name value := inRange_takeValue scan tag (name ≠ []) value

theorem inRange_parseIPPPrintResponse (data : List UInt8) (requestID : ℕ) :
    InRange (parseIPPPrintResponse wellFormed data requestID requireJob) := by
  unfold parseIPPPrintResponse
  split
  · exact inRange_ippFail _
  rename_i sized
  have long : 9 ≤ data.length := by omega
  refine InRange.bind (inRange_byteAt (by omega)) fun major => ?_
  refine InRange.bind (inRange_byteAt (by omega)) fun minor => ?_
  split
  · exact inRange_ippFail _
  refine InRange.bind (inRange_slice (by rw [List.length_drop]; omega)) fun idBytes => ?_
  dsimp only
  split
  · exact inRange_ippFail _
  refine InRange.bind (inRange_slice (by rw [List.length_drop]; omega)) fun statusBytes => ?_
  split
  · exact inRange_ippFail _
  · exact inRange_responseReader.scan _ _

theorem closed_responseReader (scan : ResponseScan) (bytes : List UInt8) (job : IppJobEvidence)
    (finished : (responseReader wellFormed requireJob).finish scan bytes = .ok job) : bytes = [] :=
  not_not.mp (ite_ippFail_eq_ok.mp finished).1

theorem scan_of_parseIPPPrintResponse {requestID : ℕ}
    (accepted : parseIPPPrintResponse wellFormed data requestID requireJob = .ok job) :
    9 ≤ data.length ∧ (∃ major, data[0]? = some major ∧ (major = 1 ∨ major = 2)) ∧
      bigEndian ((data.drop 4).take 4) = requestID ∧
      (responseReader wellFormed requireJob).scan .start (data.drop 8) = .ok job := by
  unfold parseIPPPrintResponse at accepted
  split at accepted
  · cases accepted
  rename_i sized
  obtain ⟨major, isMajor, accepted⟩ := exists_of_bind_eq_ok accepted
  obtain ⟨minor, -, accepted⟩ := exists_of_bind_eq_ok accepted
  split at accepted
  · cases accepted
  rename_i version
  obtain ⟨idBytes, isId, accepted⟩ := exists_of_bind_eq_ok accepted
  dsimp only at accepted
  split at accepted
  · cases accepted
  rename_i id
  obtain ⟨statusBytes, -, accepted⟩ := exists_of_bind_eq_ok accepted
  split at accepted
  · cases accepted
  refine ⟨by omega, ⟨major, ?_, ?_⟩, ?_, accepted⟩
  · unfold byteAt at isMajor
    split at isMajor
    · rename_i found
      rw [found, Except.ok.inj isMajor]
    · cases isMajor
  · by_contra neither
    exact version (.inl (not_or.mp neither))
  · unfold slice at isId
    split at isId
    · cases isId
    · rw [Except.ok.inj isId]
      exact not_not.mp (not_or.mp (not_or.mp id).2).2

/-! ### The second reader -/

theorem openGroup_eq (opened : openGroup scan tag = .ok scan') : tag ≠ 0 ∧ (tag = 0x02 → scan.seenJobGroup = false) ∧
      scan' = { scan with
        group := tag
        currentName := []
        seenJobGroup := scan.seenJobGroup || tag == 0x02 } := by
  unfold openGroup at opened
  dsimp only at opened
  split at opened
  case isTrue operation =>
    obtain ⟨-, opened⟩ := ite_ippFail_eq_ok.mp opened
    rw [← Except.ok.inj opened, operation]
    simp
  split at opened
  case isTrue unsupported =>
    obtain ⟨-, opened⟩ := ite_ippFail_eq_ok.mp opened
    rw [← Except.ok.inj opened, unsupported]
    simp
  split at opened
  case isTrue job =>
    obtain ⟨placed, opened⟩ := ite_ippFail_eq_ok.mp opened
    simp only [not_or, Bool.not_eq_true] at placed
    rw [← Except.ok.inj opened, job]
    simp [placed.2.2.2]
  case isFalse => cases opened

theorem nameAttribute_eq {name : List UInt8} (named : nameAttribute scan name = .ok scan') :
    scan'.currentName ≠ [] ∧ scan' = { scan with currentName := if name = [] then scan.currentName else name } := by
  unfold nameAttribute at named
  split at named
  case isTrue given =>
    obtain ⟨-, named⟩ := ite_ippFail_eq_ok.mp named
    rw [← Except.ok.inj named, if_neg given]
    exact ⟨given, rfl⟩
  case isFalse missing =>
    obtain ⟨present, named⟩ := ite_ippFail_eq_ok.mp named
    rw [← Except.ok.inj named, if_pos (not_not.mp missing)]
    exact ⟨present, rfl⟩

/-- Values of the operation group leave what is known about the job. -/
theorem operationAttribute_eq (taken : operationAttribute wellFormed scan tag named value = .ok scan') :
    ∃ count charset language, scan' = { scan with
      operationValues := count
      seenCharset := charset
      seenLanguage := language } := by
  unfold operationAttribute at taken
  obtain ⟨-, taken⟩ := ite_ippFail_eq_ok.mp taken
  dsimp only at taken
  split at taken
  · obtain ⟨-, taken⟩ := ite_ippFail_eq_ok.mp taken
    exact ⟨_, _, _, (Except.ok.inj taken).symm⟩
  split at taken
  · obtain ⟨-, taken⟩ := ite_ippFail_eq_ok.mp taken
    exact ⟨_, _, _, (Except.ok.inj taken).symm⟩
  · exact ⟨_, _, _, (Except.ok.inj taken).symm⟩

/-- The cases of a value of the job group. -/
theorem jobAttribute_cases (taken : jobAttribute scan tag named value = .ok scan') :
    (scan.currentName = ascii "job-id" ∧ scan.seenID = false ∧ value.length = 4 ∧ 0 < int32 value ∧
      scan' = { scan with job := { scan.job with id := int32 value }, seenID := true }) ∨
    (scan.currentName = ascii "job-state" ∧ scan.seenState = false ∧ value.length = 4 ∧
      (3 ≤ int32 value ∧ int32 value ≤ 9) ∧
      scan' = { scan with job := { scan.job with state := int32 value }, seenState := true }) ∨
    (scan.currentName ≠ ascii "job-id" ∧ scan.currentName ≠ ascii "job-state" ∧
      ∃ uri reasons count none, scan' = { scan with
        seenURI := uri
        seenReasons := reasons
        reasonCount := count
        hasNone := none }) := by
  unfold jobAttribute at taken
  split at taken
  case isTrue isId =>
    obtain ⟨valid, taken⟩ := ite_ippFail_eq_ok.mp taken
    obtain ⟨positive, taken⟩ := ite_ippFail_eq_ok.mp taken
    simp only [not_or, Bool.not_eq_true, not_not] at valid
    exact .inl ⟨isId, valid.2.1, valid.2.2.2, by omega, (Except.ok.inj taken).symm⟩
  case isFalse notId =>
  split at taken
  case isTrue isUri =>
    obtain ⟨-, taken⟩ := ite_ippFail_eq_ok.mp taken
    refine .inr (.inr ⟨notId, ?_, _, _, _, _, (Except.ok.inj taken).symm⟩)
    rw [isUri]
    decide
  case isFalse =>
  split at taken
  case isTrue isState =>
    obtain ⟨valid, taken⟩ := ite_ippFail_eq_ok.mp taken
    obtain ⟨inside, taken⟩ := ite_ippFail_eq_ok.mp taken
    simp only [not_or, Bool.not_eq_true, not_not] at valid
    exact .inr (.inl ⟨isState, valid.2.1, valid.2.2.2, by omega, (Except.ok.inj taken).symm⟩)
  case isFalse notState =>
  split at taken
  · obtain ⟨-, taken⟩ := ite_ippFail_eq_ok.mp taken
    exact .inr (.inr ⟨notId, notState, _, _, _, _, (Except.ok.inj taken).symm⟩)
  · exact .inr (.inr ⟨notId, notState, _, _, _, _, (Except.ok.inj taken).symm⟩)

theorem takeValue_place (taken : takeValue wellFormed requireJob scan tag named value = .ok scan') :
    scan'.group = scan.group ∧ scan'.currentName = scan.currentName ∧ scan'.seenJobGroup = scan.seenJobGroup := by
  unfold takeValue at taken
  split at taken
  · obtain ⟨_, _, _, rfl⟩ := operationAttribute_eq taken
    exact ⟨rfl, rfl, rfl⟩
  split at taken
  · rw [← Except.ok.inj taken]
    exact ⟨rfl, rfl, rfl⟩
  · rcases jobAttribute_cases taken with ⟨-, -, -, -, rfl⟩ | ⟨-, -, -, -, rfl⟩ | ⟨-, -, _, _, _, _, rfl⟩ <;>
      exact ⟨rfl, rfl, rfl⟩

/-- A value is taken in a group and under a name: its own, or that of the attribute before it. -/
theorem takeItem_value {given : List UInt8}
    (taken : (responseReader wellFormed requireJob).takeItem scan (.value tag given value) = .ok scan') :
    ∃ owner, owner = (if given = [] then scan.currentName else given) ∧ scan.group ≠ 0 ∧ owner ≠ [] ∧
      takeValue wellFormed requireJob { scan with currentName := owner } tag (given ≠ []) value = .ok scan' := by
  obtain ⟨inside, taken⟩ := ite_ippFail_eq_ok.mp taken
  obtain ⟨renamed, isName, taken⟩ := exists_of_bind_eq_ok taken
  obtain ⟨present, rfl⟩ := nameAttribute_eq isName
  exact ⟨_, rfl, by simpa [responseReader] using inside, present, taken⟩

/-- The second reader follows the first. -/
theorem completeFrom_of_items {last : ResponseScan} {bytes : List UInt8} {items : List Ipp.Item}
    (read : Ipp.readItems bytes = some (items, []))
    (taken : items.foldlM (responseReader wellFormed requireJob).takeItem scan = .ok last)
    {inGroup hasName : Bool} (grouped : scan.group ≠ 0 → inGroup = true)
    (named : scan.currentName ≠ [] → hasName = true) : completeFrom inGroup hasName bytes = true := by
  induction bytes using Ipp.readItems.induct generalizing items scan inGroup hasName with
  | case1 => simp [Ipp.readItems] at read
  | case2 bytes =>
    rw [Ipp.readItems_end] at read
    rw [completeFrom, if_pos rfl, (Prod.mk.inj (Option.some.inj read)).2]
    rfl
  | case3 tag bytes notEnd missing =>
    rw [Ipp.readItems, if_neg notEnd] at read
    split at read
    · cases read
    · rename_i found
      exact absurd (missing.symm.trans found) (by simp)
  | case4 tag bytes notEnd item rest found ih =>
    rw [Ipp.readItems_cons notEnd found] at read
    obtain ⟨⟨others, left⟩, others_read, same⟩ := Option.map_eq_some_iff.mp read
    obtain ⟨rfl, rfl⟩ := Prod.mk.inj same
    rw [List.foldlM_cons] at taken
    obtain ⟨next, first, onward⟩ := exists_of_bind_eq_ok taken
    rw [completeFrom, if_neg notEnd]
    by_cases delimiter : Ipp.isDelimiter tag = true
    · rw [Ipp.readItem, if_pos delimiter] at found
      obtain ⟨rfl, rfl⟩ := Prod.mk.inj (Option.some.inj found)
      obtain ⟨notZero, -, rfl⟩ := openGroup_eq first
      rw [if_pos delimiter, if_neg notZero]
      exact ih others_read onward (fun _ => rfl) (fun given => absurd rfl given)
    · rw [if_neg delimiter]
      cases item with
      | group opened =>
        rw [Ipp.readItem, if_neg delimiter] at found
        split at found
        · cases found
        · split at found <;> cases found
      | value opened name value =>
        obtain ⟨owner, isOwner, inside, present, -⟩ := takeItem_value first
        have continues : ¬(name = [] ∧ (!hasName) = true) := by
          rintro ⟨rfl, missing⟩
          rw [isOwner, if_pos rfl] at present
          rw [named present] at missing
          cases missing
        rw [grouped inside]
        simp only [Bool.not_true, Bool.false_eq_true, if_false]
        split
        case h_1 found' =>
          obtain ⟨sameItem, rfl⟩ := Prod.mk.inj (Option.some.inj (found.symm.trans found'))
          obtain ⟨-, rfl, -⟩ := Ipp.Item.value.inj sameItem
          rw [if_neg continues]
          exact ih others_read onward (fun _ => rfl) (fun _ => rfl)
        case h_2 other => exact absurd found (other _ _ _ _)

theorem completeIPPResponse_of_accepted
    (accepted : parseIPPPrintResponse wellFormed data 1 requireJob = .ok job) :
    completeIPPResponse data = true := by
  obtain ⟨long, ⟨major, isMajor, version⟩, id, scanned⟩ := scan_of_parseIPPPrintResponse accepted
  obtain ⟨items, last, read, taken, -⟩ := items_of_scan closed_responseReader scanned
  have framed : completeFrom false false (data.drop 8) = true :=
    completeFrom_of_items read taken (fun group => absurd rfl group) (fun name => absurd rfl name)
  rw [completeIPPResponse, if_neg (by omega), isMajor, id, framed]
  rcases version with rfl | rfl <;> rfl

end PrintGateway.Agent
