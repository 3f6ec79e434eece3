import PrintGateway.Soundness.IppReading

/-!
# What a Print-Job response proves

The job group of an accepted response, and the three results of `printDocument`: success with the evidence
of a job, a refusal of the printer that can be taken at its word, and otherwise an error whose marker
says that paper may have come out.
-/

namespace PrintGateway.Agent

open Codec
open Machine (exists_of_bind_eq_ok)

variable {wellFormed : Text → Bool}

/-! ### The job group -/

/-- The values of an attribute in job groups. -/
def jobValues (name : List UInt8) (entries : List Ipp.Entry) : List (List UInt8) :=
  (entries.filter fun entry => entry.group = 0x02 ∧ entry.name = name).map Ipp.Entry.value

/-- What has been found of an attribute of the job. -/
def ResponseScan.id? (scan : ResponseScan) : Option ℤ := if scan.seenID then some scan.job.id else none

def ResponseScan.state? (scan : ResponseScan) : Option ℤ := if scan.seenState then some scan.job.state else none

/-- The attribute `name` is read into `found`, once and with a valid value. -/
structure Collects (name : List UInt8) (found : ResponseScan → Option ℤ) (Valid : List UInt8 → Prop) : Prop where
  keeps : ∀ scan scan' : ResponseScan, scan'.seenID = scan.seenID → scan'.seenState = scan.seenState →
    scan'.job = scan.job → found scan' = found scan
  collects : ∀ scan scan' tag named value, jobAttribute scan tag named value = .ok scan' →
    scan.currentName = name → found scan = none ∧ found scan' = some (int32 value) ∧ Valid value
  skips : ∀ scan scan' tag named value, jobAttribute scan tag named value = .ok scan' →
    scan.currentName ≠ name → found scan' = found scan

theorem collects_id : Collects (ascii "job-id") ResponseScan.id? fun value => value.length = 4 ∧ 0 < int32 value where
  keeps scan scan' sameID _ sameJob := by rw [ResponseScan.id?, ResponseScan.id?, sameID, sameJob]
  collects scan scan' tag named value taken isId := by
    rcases jobAttribute_cases taken with ⟨-, first, length, positive, rfl⟩ | ⟨isState, -⟩ | ⟨notId, -⟩
    · exact ⟨by rw [ResponseScan.id?, first]; rfl, rfl, length, positive⟩
    · exact absurd (isId.symm.trans isState) (by decide)
    · exact absurd isId notId
  skips scan scan' tag named value taken notId := by
    rcases jobAttribute_cases taken with ⟨isId, -⟩ | ⟨-, -, -, -, rfl⟩ | ⟨-, -, _, _, _, _, rfl⟩
    · exact absurd isId notId
    · rfl
    · rfl

theorem collects_state :
    Collects (ascii "job-state") ResponseScan.state? fun value => value.length = 4 ∧ 3 ≤ int32 value ∧ int32 value ≤ 9 where
  keeps scan scan' _ sameState sameJob := by rw [ResponseScan.state?, ResponseScan.state?, sameState, sameJob]
  collects scan scan' tag named value taken isState := by
    rcases jobAttribute_cases taken with ⟨isId, -⟩ | ⟨-, first, length, inside, rfl⟩ | ⟨-, notState, -⟩
    · exact absurd (isId.symm.trans isState) (by decide)
    · exact ⟨by rw [ResponseScan.state?, first]; rfl, rfl, length, inside⟩
    · exact absurd isState notState
  skips scan scan' tag named value taken notState := by
    rcases jobAttribute_cases taken with ⟨-, -, -, -, rfl⟩ | ⟨isState, -⟩ | ⟨-, -, _, _, _, _, rfl⟩
    · rfl
    · exact absurd isState notState
    · rfl

section Collects

variable {name : List UInt8} {found : ResponseScan → Option ℤ} {Valid : List UInt8 → Prop}

/-- One value: it is counted exactly when it belongs to the attribute in a job group. -/
theorem Collects.takeValue (collects : Collects name found Valid) {scan scan' : ResponseScan} {tag : UInt8}
    {named : Bool} {value : List UInt8} (taken : takeValue wellFormed true scan tag named value = .ok scan') :
    if scan.group = 0x02 ∧ scan.currentName = name then
      found scan = none ∧ found scan' = some (int32 value) ∧ Valid value
    else found scan' = found scan := by
  unfold Agent.takeValue at taken
  split at taken
  case isTrue operation =>
    obtain ⟨_, _, _, rfl⟩ := operationAttribute_eq taken
    rw [if_neg (by rw [operation]; exact fun both => absurd both.1 (by decide))]
    exact collects.keeps _ _ rfl rfl rfl
  case isFalse =>
  split at taken
  case isTrue other =>
    have notJob : scan.group ≠ 0x02 := other.resolve_right (by simp)
    rw [if_neg fun both => notJob both.1, ← Except.ok.inj taken]
  case isFalse job =>
    have isJob : scan.group = 0x02 := not_not.mp (not_or.mp job).1
    by_cases same : scan.currentName = name
    · rw [if_pos ⟨isJob, same⟩]
      exact collects.collects _ _ _ _ _ taken same
    · rw [if_neg fun both => same both.2]
      exact collects.skips _ _ _ _ _ taken same

/-- Over a whole message, the values of the attribute are what has been found in addition. -/
theorem Collects.items (collects : Collects name found Valid) {items : List Ipp.Item} {scan last : ResponseScan}
    (taken : items.foldlM (responseReader wellFormed true).takeItem scan = .ok last) :
    (found scan).toList ++ (jobValues name (Ipp.entries scan.group scan.currentName items)).map int32 =
        (found last).toList ∧
      ∀ value ∈ jobValues name (Ipp.entries scan.group scan.currentName items), Valid value := by
  induction items generalizing scan with
  | nil =>
    obtain rfl := Except.ok.inj taken
    simp [Ipp.entries, jobValues]
  | cons item items ih =>
    rw [List.foldlM_cons] at taken
    obtain ⟨next, first, onward⟩ := exists_of_bind_eq_ok taken
    have rest := ih onward
    cases item with
    | group tag =>
      obtain ⟨-, -, rfl⟩ := openGroup_eq first
      have kept := collects.keeps scan
        { scan with group := tag, currentName := [], seenJobGroup := scan.seenJobGroup || tag == 0x02 } rfl rfl rfl
      rw [Ipp.entries]
      rwa [kept] at rest
    | value tag given value =>
      obtain ⟨owner, isOwner, -, -, first⟩ := takeItem_value first
      obtain ⟨sameGroup, sameName, -⟩ := takeValue_place first
      have step := collects.takeValue first
      rw [sameGroup, sameName] at rest
      rw [Ipp.entries, ← isOwner]
      dsimp only at step rest ⊢
      rw [collects.keeps scan { scan with currentName := owner } rfl rfl rfl] at step
      by_cases counted : scan.group = 0x02 ∧ owner = name
      · rw [if_pos counted] at step
        obtain ⟨nothing, isFound, valid⟩ := step
        have values : jobValues name (⟨scan.group, owner, tag, value⟩ :: Ipp.entries scan.group owner items) =
            value :: jobValues name (Ipp.entries scan.group owner items) := by
          simp [jobValues, counted]
        rw [isFound] at rest
        rw [values, nothing]
        exact ⟨rest.1, List.forall_mem_cons.mpr ⟨valid, rest.2⟩⟩
      · rw [if_neg counted] at step
        have values : jobValues name (⟨scan.group, owner, tag, value⟩ :: Ipp.entries scan.group owner items) =
            jobValues name (Ipp.entries scan.group owner items) := by
          simp [jobValues, counted]
        rw [step] at rest
        rw [values]
        exact rest

end Collects

/-- The job groups of a message. -/
theorem jobGroups_items {items : List Ipp.Item} {scan last : ResponseScan}
    (taken : items.foldlM (responseReader wellFormed true).takeItem scan = .ok last) :
    scan.seenJobGroup.toNat + items.count (.group 0x02) = last.seenJobGroup.toNat := by
  induction items generalizing scan with
  | nil =>
    obtain rfl := Except.ok.inj taken
    rfl
  | cons item items ih =>
    rw [List.foldlM_cons] at taken
    obtain ⟨next, first, onward⟩ := exists_of_bind_eq_ok taken
    have rest := ih onward
    cases item with
    | group tag =>
      obtain ⟨-, single, rfl⟩ := openGroup_eq first
      by_cases job : tag = 0x02
      · rw [job, List.count_cons_self, ← rest, single job, job]
        simp
        omega
      · have other : (tag == 0x02) = false := beq_eq_false_iff_ne.mpr job
        rw [List.count_cons_of_ne (by simpa using job), ← rest, other, Bool.or_false]
    | value tag given value =>
      obtain ⟨owner, -, -, -, first⟩ := takeItem_value first
      obtain ⟨-, -, sameJob⟩ := takeValue_place first
      rw [List.count_cons_of_ne (by simp), ← rest, sameJob]

theorem finishResponse_job {scan : ResponseScan} {job : IppJobEvidence}
    (finished : finishResponse true scan [] = .ok job) :
    job = scan.job ∧ scan.seenJobGroup = true ∧ scan.seenID = true ∧ scan.seenState = true ∧
      job.state ≠ 7 ∧ job.state ≠ 8 := by
  unfold finishResponse at finished
  obtain ⟨-, finished⟩ := ite_ippFail_eq_ok.mp finished
  obtain ⟨-, finished⟩ := ite_ippFail_eq_ok.mp finished
  rw [if_neg (by decide)] at finished
  obtain ⟨complete, finished⟩ := ite_ippFail_eq_ok.mp finished
  obtain ⟨-, finished⟩ := ite_ippFail_eq_ok.mp finished
  split at finished
  · cases finished
  rename_i alive
  simp only [not_or, Bool.not_eq_true, Bool.not_eq_false'] at complete
  obtain ⟨-, group, id, -, state, -⟩ := complete
  rw [← Except.ok.inj finished]
  exact ⟨rfl, by simpa using group, by simpa using id, by simpa using state, not_or.mp alive⟩

/-- The evidence in an accepted response. -/
structure OneJob (data : List UInt8) (job : IppJobEvidence) : Prop where
  message : ∃ items, Ipp.readItems (data.drop 8) = some (items, []) ∧ items.count (.group 0x02) = 1 ∧
    (∃ id, jobValues (ascii "job-id") (Ipp.entries 0 [] items) = [id] ∧ id.length = 4 ∧ int32 id = job.id) ∧
    ∃ state, jobValues (ascii "job-state") (Ipp.entries 0 [] items) = [state] ∧ state.length = 4 ∧
      int32 state = job.state
  positive : 0 < job.id
  alive : job.state ∈ [3, 4, 5, 6, 9]

/-- A list of one number. -/
theorem exists_of_map_eq_singleton {values : List (List UInt8)} {n : ℤ} (single : values.map int32 = [n]) :
    ∃ value, values = [value] ∧ int32 value = n := by
  obtain ⟨value, rest, rfl, rfl, nothing⟩ := List.map_eq_cons_iff.mp single
  exact ⟨value, by rw [List.map_eq_nil_iff.mp nothing], rfl⟩

theorem oneJob_of_accepted {data : List UInt8} {requestID : ℕ} {job : IppJobEvidence}
    (accepted : parseIPPPrintResponse wellFormed data requestID true = .ok job) : OneJob data job := by
  obtain ⟨-, -, -, scanned⟩ := scan_of_parseIPPPrintResponse accepted
  obtain ⟨items, last, read, taken, finished⟩ := items_of_scan closed_responseReader scanned
  obtain ⟨rfl, seenGroup, seenID, seenState, notSeven, notEight⟩ := finishResponse_job finished
  have groups := jobGroups_items taken
  obtain ⟨ids, validIDs⟩ := collects_id.items taken
  obtain ⟨states, validStates⟩ := collects_state.items taken
  have idFound : last.id? = some last.job.id := by rw [ResponseScan.id?, seenID]; rfl
  have stateFound : last.state? = some last.job.state := by rw [ResponseScan.state?, seenState]; rfl
  rw [idFound] at ids
  rw [stateFound] at states
  rw [seenGroup] at groups
  obtain ⟨id, isId, idValue⟩ := exists_of_map_eq_singleton (show _ = [last.job.id] from ids)
  obtain ⟨state, isState, stateValue⟩ := exists_of_map_eq_singleton (show _ = [last.job.state] from states)
  obtain ⟨idLength, positive⟩ := validIDs id (by rw [isId]; exact List.mem_singleton_self _)
  obtain ⟨stateLength, low, high⟩ := validStates state (by rw [isState]; exact List.mem_singleton_self _)
  refine ⟨⟨items, read, ?_, ⟨id, isId, idLength, idValue⟩, state, isState, stateLength, stateValue⟩,
    idValue ▸ positive, ?_⟩
  · simpa [ResponseScan.start] using groups
  · simp only [List.mem_cons, List.not_mem_nil, or_false]
    omega

/-! ### Prefixes -/

/-- No accepted response is the beginning of another, for whatever request and evidence. -/
theorem accepted_prefix_free {data more : List UInt8} {requestID requestID' : ℕ} {requireJob requireJob' : Bool}
    {job job' : IppJobEvidence} (accepted : parseIPPPrintResponse wellFormed data requestID requireJob = .ok job)
    (longer : parseIPPPrintResponse wellFormed (data ++ more) requestID' requireJob' = .ok job') : more = [] := by
  obtain ⟨long, -, -, scanned⟩ := scan_of_parseIPPPrintResponse accepted
  obtain ⟨-, -, -, scanned'⟩ := scan_of_parseIPPPrintResponse longer
  obtain ⟨items, _, read, -⟩ := items_of_scan closed_responseReader scanned
  obtain ⟨items', _, read', -⟩ := items_of_scan closed_responseReader scanned'
  rw [List.drop_append_of_le_length (by omega)] at read'
  exact Ipp.eq_nil_of_readItems_append read read'

/-! ### `printDocument` -/

theorem marked_wrapUnknown (message : Bytes) : Printer.hasUnknownOutcomeMarker (wrapUnknown message) = true := by
  have isPrefix : errOutcomeUnknown.isPrefixOf (wrapUnknown message) = true := by
    rw [List.isPrefixOf_iff_prefix, wrapUnknown, List.append_assoc]
    exact List.prefix_append _ _
  exact List.any_eq_true.mpr ⟨errOutcomeUnknown, by decide, isPrefix⟩

theorem marked_markUnknown (message : Bytes) : Printer.hasUnknownOutcomeMarker (markUnknown message) = true := by
  rw [markUnknown]
  split
  case isTrue marked => exact marked
  case isFalse => exact marked_wrapUnknown message

/-- What a result may mean, given the body that was read. -/
def Justified (wellFormed : Text → Bool) (body : Bytes) : PrintResult → Prop
  | .success => ∃ job, parseIPPPrintResponse wellFormed body ippRequestID true = .ok job
  | .error message => Printer.hasUnknownOutcomeMarker message = true ∨
      (0x0400 ≤ bigEndian ((body.drop 2).take 2) ∧ bigEndian ((body.drop 2).take 2) ≤ 0x04ff ∧
        ∃ job, parseIPPPrintResponse wellFormed body ippRequestID false = .ok job)
  | .panicked => False

theorem justified_wrapUnknown (body message : Bytes) :
    Justified wellFormed body (.error (wrapUnknown message)) := .inl (marked_wrapUnknown message)

theorem justified_markUnknown (body message : Bytes) :
    Justified wellFormed body (.error (markUnknown message)) := .inl (marked_markUnknown message)

theorem judgeResponse_justified (url documentFormat body : Bytes) :
    Justified wellFormed body (judgeResponse wellFormed url documentFormat body) := by
  cases complete : completeIPPResponse body with
  | false =>
    simp only [judgeResponse, parseIPPStatus, complete, if_true]
    exact justified_wrapUnknown _ _
  | true =>
    simp only [judgeResponse, parseIPPStatus, complete, Bool.true_eq_false, if_false]
    split
    · exact justified_wrapUnknown _ _
    split
    · exact justified_wrapUnknown _ _
    split
    case isTrue refused =>
      split
      case h_1 panic => exact absurd panic (inRange_parseIPPPrintResponse body ippRequestID)
      case h_2 => exact justified_markUnknown _ _
      case h_3 job accepted =>
        split <;> exact .inr ⟨refused.1, refused.2, job, accepted⟩
    split
    · exact justified_wrapUnknown _ _
    split
    case h_1 panic => exact absurd panic (inRange_parseIPPPrintResponse body ippRequestID)
    case h_2 => exact justified_markUnknown _ _
    case h_3 job accepted => exact ⟨job, accepted⟩

theorem judgeAnswer_justified (mediaType : Text → Option Text) (url documentFormat : Bytes) (answer : IppAnswer) :
    Justified wellFormed (answer.read maxIPPPrintResponseBytes).1
      (judgeAnswer wellFormed mediaType url documentFormat answer) := by
  unfold judgeAnswer
  dsimp only
  split
  · split <;> exact justified_markUnknown _ _
  split
  · exact justified_markUnknown _ _
  split
  · exact justified_wrapUnknown _ _
  split
  · exact justified_markUnknown _ _
  · exact judgeResponse_justified url documentFormat _

/-- The body `printDocument` reads; without an answer there is none. -/
def IppDelivery.body : IppDelivery → Bytes
  | .answered answer => (answer.read maxIPPPrintResponseBytes).1
  | _ => []

theorem printDocument_justified (mediaType : Text → Option Text) (url documentFormat : Bytes) {delivery : IppDelivery}
    (sent : ∀ error, delivery ≠ .notSent error) :
    Justified wellFormed delivery.body
      (printDocument wellFormed mediaType url documentFormat ⟨none, none, none, delivery⟩) := by
  cases delivery with
  | notSent error => exact absurd rfl (sent error)
  | failed error => exact justified_wrapUnknown _ _
  | answered answer => exact judgeAnswer_justified mediaType url documentFormat answer

/-- Reading a response to Print-Job is safe, an accepted response is no part of a longer one, is complete
for the other reader and shows one live job, and every result of `printDocument` after the request was
handed over is justified by the response. -/
theorem ipp_acceptance_unambiguous (wellFormed : Text → Bool) (mediaType : Text → Option Text) :
    (∀ data requestID requireJob, parseIPPPrintResponse wellFormed data requestID requireJob ≠ .error .outOfRange) ∧
    (∀ data more requestID requireJob job job', parseIPPPrintResponse wellFormed data requestID requireJob = .ok job →
      parseIPPPrintResponse wellFormed (data ++ more) requestID requireJob = .ok job' → more = []) ∧
    (∀ data requireJob job, parseIPPPrintResponse wellFormed data 1 requireJob = .ok job →
      completeIPPResponse data = true) ∧
    (∀ data requestID job, parseIPPPrintResponse wellFormed data requestID true = .ok job → OneJob data job) ∧
    ∀ url documentFormat delivery, (∀ error, delivery ≠ .notSent error) → Justified wellFormed delivery.body
        (printDocument wellFormed mediaType url documentFormat ⟨none, none, none, delivery⟩) :=
  ⟨fun data requestID _ => inRange_parseIPPPrintResponse data requestID,
    fun _ _ _ _ _ _ accepted longer => accepted_prefix_free accepted longer,
    fun _ _ _ accepted => completeIPPResponse_of_accepted accepted,
    fun _ _ _ accepted => oneJob_of_accepted accepted,
    fun url documentFormat _ sent => printDocument_justified mediaType url documentFormat sent⟩

/-- An attribute as a printer writes it. -/
def writeAttribute (tag : UInt8) (name value : Bytes) : Bytes :=
  tag :: 0 :: UInt8.ofNat name.length :: (name ++ 0 :: UInt8.ofNat value.length :: value)

/-- A response with job 7, which is pending. -/
def pendingResponse : Bytes :=
  [2, 0, 0, 0, 0, 0, 0, 1, 0x01] ++ writeAttribute 0x47 (ascii "attributes-charset") (ascii "utf-8") ++
    writeAttribute 0x48 (ascii "attributes-natural-language") (ascii "en") ++ [0x02] ++
    writeAttribute 0x21 (ascii "job-id") [0, 0, 0, 7] ++
    writeAttribute 0x45 (ascii "job-uri") (ascii "ipp://10.0.0.9/jobs/7") ++
    writeAttribute 0x23 (ascii "job-state") [0, 0, 0, 3] ++
    writeAttribute 0x44 (ascii "job-state-reasons") (ascii "none") ++ [0x03]

theorem ipp_acceptance_unambiguous_pending :
    parseIPPPrintResponse (fun _ => true) pendingResponse 1 true = .ok ⟨7, 3⟩ ∧
      completeIPPResponse pendingResponse = true ∧ OneJob pendingResponse ⟨7, 3⟩ := by
  have accepted : parseIPPPrintResponse (fun _ => true) pendingResponse 1 true = .ok ⟨7, 3⟩ := by decide +kernel
  obtain ⟨-, -, complete, evidence, -⟩ := ipp_acceptance_unambiguous (fun _ => true) fun _ => none
  exact ⟨accepted, complete pendingResponse true ⟨7, 3⟩ accepted, evidence pendingResponse 1 ⟨7, 3⟩ accepted⟩

end PrintGateway.Agent
