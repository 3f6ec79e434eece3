import PrintGateway.Model.Odoo.Payload
import PrintGateway.Soundness.PayloadAdmission

/-!
# Which persisted jobs can be submitted

Creation and submission make the same check, so every stored payload passes it again; the data of a
stored payload are canonical.  Admission at the Gateway looks at two entries that this check lets
through: the protocol of a document, and the keys and modes of the peripherals.
-/

namespace PrintGateway.Odoo

open Machine Text Vocabulary

variable {python : PythonBase64} {row : StoredPayload} {payload body : List Json.Field}

/-! ### What the shared check establishes -/

variable {value : Option Json.Value} {ptype : PayloadType} {decoded : List UInt8}
  {protocol : Option RawProtocol} {call : OperationCall} {table next : PayloadTable}
  {created : PayloadRow}

/-- A payload that passed `_validate_persisted_payload`. -/
structure Validated (python : PythonBase64) (row : StoredPayload) (payload body : List Json.Field)
    (ptype : PayloadType) (decoded : List UInt8) : Prop where
  encoding : Json.get? payload "encoding" = some (.str "base64")
  kind : checkKind row payload = .ok ptype
  data : checkData python payload = .ok decoded
  content : checkContent row.payloadType decoded = .ok ()
  peripherals : checkPeripherals row payload ptype = .ok body

theorem isText_iff {expected : Text} : isText value expected = true ↔ value = some (.str expected) := by
  unfold isText
  split
  · simp
  next other => simpa using fun same => other expected same

theorem exists_validated (valid : validatePersistedPayload python row payload = .ok body) :
    ∃ ptype decoded, Validated python row payload body ptype decoded := by
  unfold validatePersistedPayload at valid
  split at valid
  · simp at valid
  split at valid
  · simp at valid
  next base64 =>
  obtain ⟨ptype, kind, valid⟩ := exists_of_bind_eq_ok valid
  obtain ⟨decoded, data, valid⟩ := exists_of_bind_eq_ok valid
  obtain ⟨⟨⟩, content, peripherals⟩ := exists_of_bind_eq_ok valid
  exact ⟨ptype, decoded, isText_iff.mp (by simpa using base64), kind, data, content, peripherals⟩

theorem rawProtocol?_eq_some {protocol : RawProtocol} (found : rawProtocol? value = some protocol) :
    value = some (.str (text protocol)) := by
  unfold rawProtocol? at found
  split at found
  · rw [text_of_ofText? found]
  · simp at found

/-- What the kind of a row says about the type and the protocol of its payload. -/
structure KindChecked (row : StoredPayload) (payload : List Json.Field) (ptype : PayloadType) : Prop where
  type : Json.get? payload "type" = some (.str (text ptype))
  mapped : payloadTypeMap ptype = row.payloadType
  document : row.payloadType ≠ .rawCmd → isTruthy (Json.get? payload "protocol") = false
  native : row.payloadType = .rawCmd → ∃ protocol : RawProtocol,
    Json.get? payload "protocol" = some (.str (text protocol)) ∧
      (row.protocol.isSome = true → row.protocol = some protocol) ∧ (ptype = .escpos → protocol = .escpos)

theorem kindChecked_of_checkNative {checked : PayloadType}
    (kind : checkNative row payload ptype = .ok checked)
    (type : Json.get? payload "type" = some (.str (text ptype))) (native : row.payloadType = .rawCmd)
    (mapped : payloadTypeMap ptype = .rawCmd) : KindChecked row payload checked := by
  simp only [checkNative] at kind
  split at kind
  · simp at kind
  split at kind
  · simp at kind
  next escpos =>
  split at kind
  · simp at kind
  next protocol found =>
  split at kind
  · simp at kind
  next agreed =>
  obtain rfl : ptype = checked := by simpa using kind
  have written := rawProtocol?_eq_some found
  refine ⟨type, mapped.trans native.symm, fun document => absurd native document, fun _ =>
    ⟨protocol, written, fun declared => ?_, fun isEscpos => ?_⟩⟩
  · by_contra other
    exact agreed ⟨declared, other⟩
  · by_contra other
    refine escpos ⟨isEscpos, ?_⟩
    rw [Bool.eq_false_iff, Ne, isText_iff, written, Option.some.injEq, Json.Value.str.injEq]
    exact fun same => other (text_injective same)

theorem kindChecked_of_checkKind (kind : checkKind row payload = .ok ptype) : KindChecked row payload ptype := by
  simp only [checkKind] at kind
  cases column : row.payloadType with
  | rawCmd =>
    simp only [column] at kind
    split at kind
    next raw => exact kindChecked_of_checkNative kind (isText_iff.mp raw) column rfl
    split at kind
    next escpos => exact kindChecked_of_checkNative kind (isText_iff.mp escpos) column rfl
    · simp at kind
  | pdf | rasterJpeg =>
    simp only [column] at kind
    split at kind
    · simp at kind
    next type =>
    split at kind
    · simp at kind
    next bare =>
    cases kind
    exact ⟨isText_iff.mp (by simpa using type), column ▸ rfl, fun _ => by simpa using bare,
      fun native => by simp [column] at native⟩

theorem exists_of_checkData (data : checkData python payload = .ok decoded) :
    ∃ rawData, Json.get? payload "data" = some (.str rawData) ∧ rawData ≠ [] ∧
      python.b64decode rawData = some decoded ∧ decoded ≠ [] ∧ decoded.length ≤ maxPrintContentBytes := by
  unfold checkData at data
  split at data
  next rawData found =>
    split at data
    · simp at data
    next nonempty =>
    split at data
    · simp at data
    split at data
    · simp at data
    next bytes readable =>
    split at data
    · simp at data
    next content =>
    split at data
    · simp at data
    next bounded =>
    cases data
    exact ⟨rawData, found, nonempty, readable, content, not_lt.mp bounded⟩
  · simp at data

/-! ### Rows of the outbox -/

/-- Every row passes the check again, has canonical data, and a protocol exactly when it is native. -/
structure Persisted (python : PythonBase64) (row : StoredPayload) : Prop where
  valid : ∃ body, validatePersistedPayload python row row.payload = .ok body
  canonical : ∃ bytes, Json.get? row.payload "data" = some (.str (Base64.encode bytes))
  native : row.protocol.isSome = true ↔ row.payloadType = .rawCmd

theorem isSome_effectiveProtocol {kind : PayloadKind} {declared : Text}
    (effective : effectiveProtocol kind declared payload = .ok protocol) :
    protocol.isSome = true ↔ kind = .rawCmd := by
  cases kind with
  | rawCmd =>
    simp only [effectiveProtocol] at effective
    split at effective
    · simp at effective
    split at effective
    · simp at effective
    split at effective
    · cases effective
      simp
    · simp at effective
  | pdf | rasterJpeg =>
    simp only [effectiveProtocol] at effective
    split at effective
    · simp at effective
    · cases effective
      simp

/-- Content that decodes is stored in its canonical form. -/
theorem canonical_of_canonicalizeData {call : List Json.Field}
    (canonicalized : canonicalizeData python call = .ok payload)
    (data : checkData python payload = .ok decoded) :
    ∃ bytes, Json.get? payload "data" = some (.str (Base64.encode bytes)) := by
  obtain ⟨rawData, found, nonempty, readable, -⟩ := exists_of_checkData data
  unfold canonicalizeData at canonicalized
  split at canonicalized
  next given present =>
    split at canonicalized
    next empty =>
      cases canonicalized
      obtain rfl : given = rawData := by simpa using present.symm.trans found
      exact absurd empty nonempty
    split at canonicalized
    · simp at canonicalized
    split at canonicalized
    next bytes _ =>
      cases canonicalized
      exact ⟨bytes, Json.get?_assign_self (by rw [present]; rfl)⟩
    next unreadable =>
      cases canonicalized
      obtain rfl : given = rawData := by simpa using present.symm.trans found
      rw [unreadable] at readable
      simp at readable
  next other =>
    cases canonicalized
    exact absurd found (other rawData)

theorem persisted_of_preparePayload {stored : StoredPayload}
    (prepared : preparePayload python call = .ok stored)
    (valid : validatePersistedPayload python stored stored.payload = .ok body) :
    Persisted python stored := by
  obtain ⟨ptype, decoded, validated⟩ := exists_validated valid
  simp only [preparePayload] at prepared
  split at prepared
  · simp at prepared
  split at prepared
  · simp at prepared
  split at prepared
  · simp at prepared
  obtain ⟨payload, canonicalized, prepared⟩ := exists_of_bind_eq_ok prepared
  obtain ⟨⟨⟩, -, prepared⟩ := exists_of_bind_eq_ok prepared
  obtain ⟨derived, -, prepared⟩ := exists_of_bind_eq_ok prepared
  split at prepared
  · simp at prepared
  obtain ⟨protocol, effective, prepared⟩ := exists_of_bind_eq_ok prepared
  cases prepared
  exact ⟨⟨body, valid⟩, canonical_of_canonicalizeData canonicalized validated.data,
    isSome_effectiveProtocol effective⟩

/-- A successful call returns a row of the new table, which holds nothing else that is new. -/
theorem createOperation_cases (succeeded : table.createOperation python call = .ok (next, created)) :
    (∃ key, table.find? key = some created ∧ next = table) ∨
      Persisted python created.stored ∧ ∃ key, next = table.insert key created := by
  obtain ⟨stored, prepared, succeeded⟩ := exists_of_bind_eq_ok succeeded
  simp only at succeeded
  split at succeeded
  next existing found =>
    split at succeeded
    · simp only [Except.ok.injEq, Prod.mk.injEq] at succeeded
      obtain ⟨rfl, rfl⟩ := succeeded
      exact .inl ⟨_, found, rfl⟩
    · simp at succeeded
  · obtain ⟨body, valid, succeeded⟩ := exists_of_bind_eq_ok succeeded
    obtain ⟨rfl, rfl⟩ := Prod.mk.inj (Except.ok.inj succeeded)
    exact .inr ⟨persisted_of_preparePayload prepared valid, _, rfl⟩

def AllPersisted (python : PythonBase64) (table : PayloadTable) : Prop :=
  ∀ key row, table.find? key = some row → Persisted python row.stored

theorem allPersisted_of_reachable (reached : (payloadOutbox python).Reachable table) : AllPersisted python table := by
  refine reached.invariant ?_ ?_
  · rintro table rfl key row found
    simp [Keyed.find?, Keyed.empty] at found
  · intro table event next rows _ step key row found
    cases event with
    | createOperation call =>
      simp only [payloadOutbox] at step
      split at step
      next result created succeeded =>
        cases step
        obtain ⟨-, -, rfl⟩ | ⟨persisted, taken, rfl⟩ := createOperation_cases succeeded
        · exact rows key row found
        · rcases Keyed.mem_insert (Keyed.mem_of_find?_eq_some found) with listed | added
          · exact rows key row (Keyed.find?_eq_some_iff.mpr listed)
          · obtain ⟨-, rfl⟩ := Prod.mk.inj added
            exact persisted
      · cases step
        exact rows key row found
    | redirect printerId destination =>
      cases step
      rw [Keyed.find?_update] at found
      obtain ⟨before, listed, rfl⟩ := Option.map_eq_some_iff.mp found
      exact rows key before listed
    | drop dropped =>
      cases step
      exact rows key row (Keyed.find?_filter_eq_some_iff.mp found).1

theorem persisted_of_createOperation (reached : (payloadOutbox python).Reachable table)
    (succeeded : table.createOperation python call = .ok (next, created)) :
    Persisted python created.stored := by
  obtain ⟨key, found, -⟩ | ⟨persisted, -⟩ := createOperation_cases succeeded
  · exact allPersisted_of_reachable reached key created found
  · exact persisted

/-! ### What the Gateway asks for beyond the shared check -/

/-- The entries are peripherals of the contract in their modes. -/
def InContract (fields : List Json.Field) : Prop :=
  ∃ modes : Peripherals, Json.get? fields "drawer" = modes.drawer.map Gateway.encodeWord ∧
    Json.get? fields "cutter" = modes.cutter.map Gateway.encodeWord ∧
    Json.get? fields "buzzer" = modes.buzzer.map Gateway.encodeWord ∧
    ∀ key ∈ fields.map Prod.fst, key ∈ ["drawer".toList, "cutter", "buzzer"]

theorem inContract_iff {fields : List Json.Field} :
    InContract fields ↔ ∃ modes, Gateway.peripheralsField (some (.obj fields)) = .ok modes :=
  exists_congr fun _ => Gateway.peripheralsField_eq_ok_iff.symm

/-- A document has no protocol entry, the peripherals are a dictionary whose active entries are those of the contract,
and every number of the dictionary, its inactive peripherals apart, is a JSON number. -/
structure Contractual (row : StoredPayload) : Prop where
  protocol : row.payloadType ≠ .rawCmd → Json.get? row.payload "protocol" = none
  peripherals : ∀ value, Json.get? row.payload "peripherals" = some value →
    ∃ fields, value = .obj fields ∧ InContract (activePeripherals fields)
  numbers : encodable (.obj (omitInactive row.payload)) = true

/-- The check takes the inactive peripherals out, as creation does. -/
theorem eq_of_checkPeripherals (checked : checkPeripherals row payload ptype = .ok body) :
    body = omitInactive payload := by
  unfold checkPeripherals at checked
  split at checked
  · next absent =>
    rw [omitInactive, absent]
    exact (Except.ok.inj checked).symm
  · next null =>
    rw [omitInactive, null]
    exact (Except.ok.inj checked).symm
  · next fields found =>
    rw [omitInactive, found]
    dsimp only at checked ⊢
    split at checked
    · next inactive =>
      rw [if_pos inactive]
      exact (Except.ok.inj checked).symm
    split at checked
    · cases checked
    · next active _ =>
      rw [if_neg active]
      exact (Except.ok.inj checked).symm
  · cases checked

/-- It changes no entry but the peripherals. -/
theorem get?_omitInactive {key : Text} (different : key ≠ "peripherals") :
    Json.get? (omitInactive payload) key = Json.get? payload key := by
  unfold omitInactive
  split
  · split
    · exact Json.get?_discard_of_ne different
    · exact Json.get?_assign_of_ne different
  · rfl

/-- The four entries the peripherals can leave the check with. -/
theorem peripherals_cases (checked : checkPeripherals row payload ptype = .ok body) :
    (Json.get? payload "peripherals" = none ∧ Json.get? body "peripherals" = none) ∨
    (Json.get? payload "peripherals" = some .null ∧ Json.get? body "peripherals" = some .null) ∨
    ∃ fields, Json.get? payload "peripherals" = some (.obj fields) ∧
      ((activePeripherals fields = [] ∧ Json.get? body "peripherals" = none) ∨ (ptype = .escpos ∨ ptype = .raw ∧
          (Json.get? payload "protocol" = some (.str "escpos") ∨ row.protocol = some .escpos)) ∧
        activePeripherals fields ≠ [] ∧
        Json.get? body "peripherals" = some (.obj (activePeripherals fields))) := by
  unfold checkPeripherals at checked
  split at checked
  next absent =>
    cases checked
    exact .inl ⟨absent, absent⟩
  next null =>
    cases checked
    exact .inr (.inl ⟨null, null⟩)
  next fields found =>
    refine .inr (.inr ⟨fields, found, ?_⟩)
    simp only at checked
    split at checked
    next inactive =>
      rw [← Except.ok.inj checked]
      exact .inl ⟨inactive, Json.get?_discard_self⟩
    next active =>
    split at checked
    · simp at checked
    next escpos =>
    refine .inr ⟨?_, active, ?_⟩
    · simpa only [Bool.not_eq_false, Bool.or_eq_true, Bool.and_eq_true, beq_iff_eq, isText_iff] using escpos
    · rw [← Except.ok.inj checked]
      exact Json.get?_assign_self (by rw [found]; rfl)
  · simp at checked

theorem inContract_nil : InContract [] := ⟨.none, rfl, rfl, rfl, by simp⟩

/-- The peripherals are read by the Gateway exactly when they are those of the contract, and active ones
come with the ESC/POS protocol. -/
theorem peripherals_read_iff (checked : checkPeripherals row payload ptype = .ok body)
    (escpos : ptype = .escpos ∨ ptype = .raw ∧
      (Json.get? payload "protocol" = some (.str "escpos") ∨ row.protocol = some .escpos) →
      protocol = some .escpos) :
    (∃ peripherals, Gateway.optionalField Gateway.peripheralsField (Json.get? body "peripherals") =
        .ok peripherals ∧ (peripherals.any Peripherals.isActive = true → protocol = some .escpos)) ↔
      ∀ value, Json.get? payload "peripherals" = some value →
        ∃ fields, value = .obj fields ∧ InContract (activePeripherals fields) := by
  rcases peripherals_cases checked with ⟨absent, read⟩ | ⟨null, read⟩ | ⟨fields, found, inactive | active⟩
  · rw [read, absent]
    exact ⟨fun _ value found => by simp at found, fun _ => ⟨none, rfl, by simp⟩⟩
  · rw [read, null]
    constructor
    · rintro ⟨peripherals, refused, -⟩
      simp [Gateway.optionalField, Gateway.peripheralsField, Except.map] at refused
    · intro contract
      obtain ⟨fields, other, -⟩ := contract .null rfl
      simp at other
  · obtain ⟨none, read⟩ := inactive
    rw [read, found]
    refine ⟨fun _ value same => ⟨fields, (Option.some.inj same).symm, ?_⟩, fun _ => ⟨.none, rfl, by simp⟩⟩
    rw [none]
    exact inContract_nil
  · obtain ⟨driven, -, read⟩ := active
    rw [read, found]
    constructor
    · rintro ⟨peripherals, accepted, -⟩ value same
      obtain ⟨modes, accepted, -⟩ := exists_of_map_eq_ok accepted
      exact ⟨fields, (Option.some.inj same).symm, inContract_iff.mpr ⟨modes, accepted⟩⟩
    · intro contract
      obtain ⟨same, found, contract⟩ := contract _ rfl
      obtain rfl := Json.Value.obj.inj found
      obtain ⟨modes, accepted⟩ := inContract_iff.mp contract
      exact ⟨some modes, by rw [Gateway.optionalField, accepted]; rfl, fun _ => escpos driven⟩

/-! ### Submission -/

/-- The Gateway reads the row's own type, protocol and bytes. -/
structure SubmittedAs (python : PythonBase64) (row : StoredPayload) (w : Gateway.PrintJobPayload) : Prop where
  type : Json.get? row.payload "type" = some (.str (text w.type))
  kind : payloadTypeMap w.type = row.payloadType
  protocol : Json.get? row.payload "protocol" = w.protocol.map Gateway.encodeWord
  column : row.protocol = w.protocol
  data : Json.get? row.payload "data" = some (.str w.data)
  bytes : ∃ bytes, python.b64decode w.data = some bytes ∧ Base64.encode bytes = w.data

section Submission

variable {ptype : PayloadType} {decoded : List UInt8}

theorem escpos_of_kindChecked (persisted : Persisted python row) (kind : KindChecked row row.payload ptype)
    (driven : ptype = .escpos ∨ ptype = .raw ∧ (Json.get? row.payload "protocol" = some (.str "escpos") ∨
        row.protocol = some .escpos)) : row.protocol = some .escpos := by
  have native : row.payloadType = .rawCmd := by
    rw [← kind.mapped]
    rcases driven with rfl | ⟨rfl, -⟩ <;> rfl
  obtain ⟨protocol, written, column, escpos⟩ := kind.native native
  rw [column (persisted.native.mpr native)]
  rcases driven with isEscpos | ⟨-, named | same⟩
  · rw [escpos isEscpos]
  · rw [written, Option.some.injEq, Json.Value.str.injEq] at named
    exact congrArg some (text_injective named)
  · exact (column (persisted.native.mpr native)).symm.trans same

theorem protocol_read_iff (kind : KindChecked row row.payload ptype) :
    (∃ protocol : Option RawProtocol, Json.get? row.payload "protocol" = protocol.map Gateway.encodeWord) ↔
      (row.payloadType ≠ .rawCmd → Json.get? row.payload "protocol" = none) := by
  constructor
  · rintro ⟨protocol, written⟩ document
    cases protocol with
    | none => exact written
    | some protocol =>
      have falsy := kind.document document
      rw [written] at falsy
      cases protocol <;> simp [isTruthy, Gateway.encodeWord, truthy] at falsy <;> cases falsy
  · intro contract
    by_cases native : row.payloadType = .rawCmd
    · obtain ⟨protocol, written, -⟩ := kind.native native
      exact ⟨some protocol, written⟩
    · exact ⟨none, contract native⟩

theorem protocol_eq_column (persisted : Persisted python row) (kind : KindChecked row row.payload ptype)
    {protocol : Option RawProtocol}
    (written : Json.get? row.payload "protocol" = protocol.map Gateway.encodeWord)
    (document : row.payloadType ≠ .rawCmd → protocol = none) : row.protocol = protocol := by
  by_cases native : row.payloadType = .rawCmd
  · obtain ⟨named, found, column, -⟩ := kind.native native
    rw [column (persisted.native.mpr native)]
    rw [found] at written
    cases protocol with
    | none => simp at written
    | some protocol =>
      have same : text named = text protocol := by simpa [Gateway.encodeWord] using written
      rw [text_injective same]
  · rw [document native]
    exact Option.not_isSome_iff_eq_none.mp fun some => native (persisted.native.mp some)

/-- The bytes of a stored payload are the ones its data encode. -/
theorem encode_of_checkData (persisted : Persisted python row)
    (data : checkData python row.payload = .ok decoded) :
    Json.get? row.payload "data" = some (.str (Base64.encode decoded)) := by
  obtain ⟨bytes, stored⟩ := persisted.canonical
  obtain ⟨rawData, found, -, readable, -⟩ := exists_of_checkData data
  obtain rfl : Base64.encode bytes = rawData := by simpa using stored.symm.trans found
  rw [python.b64decode_encode, Option.some.injEq] at readable
  rw [stored, readable]

/-- The signature of each kind, as `checkContent` leaves it. -/
theorem content_cases {kind : PayloadKind} (content : checkContent kind decoded = .ok ()) :
    (kind = .pdf → pdfPrefix.isPrefixOf decoded = true ∧
      occurs pdfEof (decoded.drop (decoded.length - 4096)) = true) ∧
    (kind = .rasterJpeg → jpegPrefix.isPrefixOf decoded = true) ∧
    (kind = .rawCmd → pdfPrefix.isPrefixOf decoded = false) := by
  cases kind with
  | pdf =>
    simp only [checkContent] at content
    split at content
    · simp at content
    next header =>
    split at content
    · simp at content
    next trailer =>
    exact ⟨fun _ => ⟨by simpa using header, by simpa using trailer⟩, by simp, by simp⟩
  | rasterJpeg =>
    simp only [checkContent] at content
    split at content
    · simp at content
    next jpeg => exact ⟨by simp, fun _ => by simpa using jpeg, by simp⟩
  | rawCmd =>
    simp only [checkContent] at content
    split at content
    · simp at content
    next plain => exact ⟨by simp, by simp, fun _ => Bool.eq_false_iff.mpr plain⟩

theorem admitted_of_validated (persisted : Persisted python row)
    (validated : Validated python row row.payload body ptype decoded) {peripherals : Option Peripherals}
    (driven : peripherals.any Peripherals.isActive = true → row.protocol = some .escpos) :
    Gateway.Admitted ⟨ptype, row.protocol, peripherals, Base64.encode decoded⟩ decoded := by
  have kind := kindChecked_of_checkKind validated.kind
  obtain ⟨-, -, -, -, nonempty, bounded⟩ := exists_of_checkData validated.data
  obtain ⟨pdf, image, bytes⟩ := content_cases validated.content
  rw [← kind.mapped] at pdf image bytes
  have native : ptype = .raw ∨ ptype = .escpos → row.payloadType = .rawCmd := by
    rintro (rfl | rfl) <;> exact kind.mapped.symm
  refine ⟨rfl, nonempty, bounded, ?_, ?_, ?_, ?_, ?_, ?_, driven⟩
  · rintro rfl
    exact pdf rfl
  · rintro rfl
    exact image rfl
  · rintro (rfl | rfl) <;> exact bytes rfl
  · exact fun raw => persisted.native.mpr (native (.inl raw))
  · exact fun escpos => escpos_of_kindChecked persisted kind (.inl escpos)
  · intro document
    refine Option.not_isSome_iff_eq_none.mp fun some => ?_
    have other := kind.mapped.trans (persisted.native.mp some)
    rcases document with rfl | rfl <;> exact absurd other (by decide)

end Submission

/-- Every row that `create_operation` returns passes the check at submission, and then it can be sent and the Gateway
accepts it as what it is exactly when its payload is contractual. -/
theorem persisted_operation_submittable {call : OperationCall} {table next : PayloadTable}
    {created : PayloadRow} (reached : (payloadOutbox python).Reachable table)
    (succeeded : table.createOperation python call = .ok (next, created)) :
    ∃ body, validatePersistedPayload python created.stored created.stored.payload = .ok body ∧
      ((encodable (.obj body) = true ∧
          ∃ w, Gateway.validatePrintJobPayload (.obj body) = .ok w ∧ SubmittedAs python created.stored w) ↔
        Contractual created.stored) := by
  have persisted := persisted_of_createOperation reached succeeded
  obtain ⟨body, valid⟩ := persisted.valid
  obtain ⟨ptype, decoded, validated⟩ := exists_validated valid
  have kind := kindChecked_of_checkKind validated.kind
  have stored := encode_of_checkData persisted validated.data
  have omitted := eq_of_checkPeripherals validated.peripherals
  have kept {key : Text} (different : key ≠ "peripherals") :
      Json.get? body key = Json.get? created.stored.payload key := by rw [omitted, get?_omitInactive different]
  have read := peripherals_read_iff validated.peripherals (escpos_of_kindChecked persisted kind)
  refine ⟨body, valid, ?_, fun contract => ⟨omitted ▸ contract.numbers, ?_⟩⟩
  · rintro ⟨numbers, w, accepted, same⟩
    obtain ⟨-, -, -, peripherals, -⟩ :=
      Gateway.payloadObject_eq_ok_iff.mp (Gateway.payloadObject_of_validate accepted)
    have admitted := Gateway.admitted_of_validate accepted
    exact ⟨(protocol_read_iff kind).mp ⟨_, same.protocol⟩,
      read.mp ⟨_, peripherals, fun active => same.column.trans (admitted.peripherals active)⟩, omitted ▸ numbers⟩
  · obtain ⟨peripherals, accepted, driven⟩ := read.mpr contract.peripherals
    obtain ⟨protocol, written⟩ := (protocol_read_iff kind).mpr contract.protocol
    have column : created.stored.protocol = protocol := by
      refine protocol_eq_column persisted kind written fun document => ?_
      rw [contract.protocol document] at written
      exact Option.map_eq_none_iff.mp written.symm
    subst column
    have object : Gateway.payloadObject (.obj body) =
        .ok ⟨ptype, created.stored.protocol, peripherals, Base64.encode decoded⟩ := by
      refine Gateway.payloadObject_eq_ok_iff.mpr ⟨?_, ?_, ?_, accepted, ?_⟩
      · rw [kept (by decide), kind.type]
        rfl
      · rw [kept (by decide), validated.encoding]
      · rw [kept (by decide), written]
      · rw [kept (by decide), stored]
    refine ⟨_, Gateway.validate_eq_ok object (admitted_of_validated persisted validated driven), ?_⟩
    exact ⟨kind.type, kind.mapped, written, rfl, stored, decoded, python.b64decode_encode decoded, rfl⟩

/-- The strict decoder of Python 3.11. -/
def strictBase64 : PythonBase64 := ⟨Base64.decodeStrict, Base64.decodeStrict_encode⟩

/-- A PDF document, with what else its payload holds. -/
def samplePdfCall (rest : List Json.Field) : OperationCall where
  company := 1
  idempotencyKey := "order-7"
  printerId := "office"
  destination := "Office"
  destinationKey := []
  documentType := "invoice".toList
  payload := [("type".toList, .str "pdf".toList), ("encoding".toList, .str "base64".toList),
    ("data".toList, .str "JVBERi0lJUVPRg==")] ++ rest
  payloadType := "pdf"
  protocol := []

theorem persisted_operation_submittable_pdf : ∃ next created body,
      PayloadTable.createOperation strictBase64 (samplePdfCall []) .empty = .ok (next, created) ∧
      validatePersistedPayload strictBase64 created.stored created.stored.payload = .ok body ∧
      ((encodable (.obj body) = true ∧ ∃ w, Gateway.validatePrintJobPayload (.obj body) = .ok w ∧
          SubmittedAs strictBase64 created.stored w) ↔ Contractual created.stored) := by
  have succeeded : ∃ next created,
      PayloadTable.createOperation strictBase64 (samplePdfCall []) .empty = .ok (next, created) :=
    ⟨_, _, rfl⟩
  obtain ⟨next, created, succeeded⟩ := succeeded
  obtain ⟨body, valid, submittable⟩ :=
    persisted_operation_submittable (.init rfl) succeeded
  exact ⟨next, created, body, succeeded, valid, submittable⟩

/-- A row is created for a document whose protocol is `null`, passes the check at submission and is
refused by the Gateway. -/
theorem null_protocol_refused : ∃ next created body issues,
      PayloadTable.createOperation strictBase64 (samplePdfCall [("protocol".toList, .null)]) .empty =
        .ok (next, created) ∧
      validatePersistedPayload strictBase64 created.stored created.stored.payload = .ok body ∧
      Gateway.validatePrintJobPayload (.obj body) = .error issues :=
  ⟨_, _, _, _, rfl, rfl, rfl⟩

end PrintGateway.Odoo
