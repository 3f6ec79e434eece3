import PrintGateway.Model.Agent.Payload
import PrintGateway.Model.Gateway.Payload

/-!
# Every admitted payload is executable

What admission establishes about a payload is collected once; the Agent's checks then pass one by one
on the JSON text of the admitted value.
-/

namespace PrintGateway

open Text Vocabulary

namespace Text

variable {shown : Text}

theorem utf8Size_of_ascii {c : Char} (ascii : c.toNat < 128) : c.utf8Size = 1 := by
  have small : c.val ≤ 0x7f := by
    rw [UInt32.le_iff_toNat_le]
    change c.toNat ≤ 127
    omega
  unfold Char.utf8Size
  exact if_pos small

theorem byteSize_eq_length (ascii : ∀ c ∈ shown, c.toNat < 128) : byteSize shown = shown.length := by
  induction shown with
  | nil => rfl
  | cons c rest ih =>
    have one := utf8Size_of_ascii (ascii c List.mem_cons_self)
    have tail := ih fun d member => ascii d (List.mem_cons_of_mem c member)
    simp only [byteSize, List.map_cons, List.sum_cons, List.length_cons, one] at tail ⊢
    omega

theorem utf16Length_eq_length (ascii : ∀ c ∈ shown, c.toNat < 128) : utf16Length shown = shown.length := by
  have units : utf16 shown = shown.map Char.toNat := by
    refine (List.flatMap_congr fun c member => ?_).trans (List.flatMap_pure_eq_map Char.toNat shown)
    have small := ascii c member
    exact if_pos (by omega)
  rw [utf16Length, units, List.length_map]

end Text

namespace Gateway

variable {w : PrintJobPayload} {decoded : List UInt8} {v : Json.Value}

/-- What admission establishes. -/
structure Admitted (w : PrintJobPayload) (decoded : List UInt8) : Prop where
  encoded : Base64.encode decoded = w.data
  nonempty : decoded ≠ []
  bounded : decoded.length ≤ maxPayloadBytes
  pdf : w.type = .pdf → pdfPrefix.isPrefixOf decoded = true ∧
    occurs pdfEof (decoded.drop (decoded.length - 4096)) = true
  image : w.type = .image → jpegPrefix.isPrefixOf decoded = true
  bytes : w.type = .raw ∨ w.type = .escpos → pdfPrefix.isPrefixOf decoded = false
  raw : w.type = .raw → w.protocol.isSome = true
  escpos : w.type = .escpos → w.protocol = some .escpos
  document : w.type = .pdf ∨ w.type = .image → w.protocol = none
  peripherals : w.peripherals.any Peripherals.isActive = true → w.protocol = some .escpos

theorem requireThat_eq_nil {holds : Bool} {field message : String} :
    requireThat holds field message = [] ↔ holds = true := by
  unfold requireThat
  cases holds <;> simp

theorem admitted_of_superRefine (clean : superRefine w = []) : Admitted w (Base64.decodeLenient w.data) := by
  simp only [superRefine] at clean
  split at clean
  · simp at clean
  next passed =>
  simp only [not_or, not_lt, not_not, List.length_eq_zero_iff] at passed
  obtain ⟨nonempty, bounded, encoded⟩ := passed
  simp only [superRefineDecoded, List.append_eq_nil_iff, requireThat_eq_nil, Bool.or_eq_true,
    Bool.not_eq_true', bne_iff_ne, beq_iff_eq, Option.isNone_iff_eq_none, Bool.or_eq_false_iff,
    beq_eq_false_iff_ne] at clean
  obtain ⟨⟨⟨⟨⟨⟨⟨header, trailer⟩, image⟩, bytes⟩, raw⟩, escpos⟩, document⟩, peripherals⟩ := clean
  refine ⟨encoded, nonempty, bounded, ?_, ?_, ?_, ?_, ?_, ?_, ?_⟩
  · intro pdf
    have looks := header.resolve_left (not_not.mpr pdf)
    refine ⟨looks, (trailer.resolve_left ?_)⟩
    simp [pdf, looks]
  · exact fun type => image.resolve_left (not_not.mpr type)
  · exact fun type => bytes.resolve_left fun other => type.elim other.1 other.2
  · exact fun type => raw.resolve_left (not_not.mpr type)
  · exact fun type => escpos.resolve_left (not_not.mpr type)
  · exact fun type => document.resolve_left fun other => type.elim other.1 other.2
  · exact fun active => peripherals.resolve_left (by simp [active])

theorem decodeLenient_eq (admitted : Admitted w decoded) : Base64.decodeLenient w.data = decoded := by
  rw [← admitted.encoded, Base64.decodeLenient_encode]

theorem sizeIssues_eq_nil (admitted : Admitted w decoded) : sizeIssues w.data = [] := by
  have size : utf16Length w.data = 4 * ((decoded.length + 2) / 3) := by
    rw [← admitted.encoded, utf16Length_eq_length fun c => Base64.encode_ascii, Base64.length_encode]
  have bounded := admitted.bounded
  have positive := List.length_pos_of_ne_nil admitted.nonempty
  unfold maxPayloadBytes at bounded
  unfold sizeIssues maxPayloadBytes
  rw [if_neg (by omega), if_neg (by omega)]
  rfl

theorem superRefine_eq_nil (admitted : Admitted w decoded) : superRefine w = [] := by
  have passed : ¬(decoded.length = 0 ∨ maxPayloadBytes < decoded.length ∨ Base64.encode decoded ≠ w.data) := by
    simp [admitted.nonempty, admitted.bounded, admitted.encoded]
  simp only [superRefine, decodeLenient_eq admitted, if_neg passed, superRefineDecoded,
    List.append_eq_nil_iff, requireThat_eq_nil]
  refine ⟨⟨⟨⟨⟨⟨⟨?_, ?_⟩, ?_⟩, ?_⟩, ?_⟩, ?_⟩, ?_⟩, ?_⟩
  · by_cases pdf : w.type = .pdf
    · simp [(admitted.pdf pdf).1]
    · simp [pdf]
  · by_cases pdf : w.type = .pdf
    · simp [(admitted.pdf pdf).2]
    · simp [pdf]
  · by_cases image : w.type = .image
    · simp [admitted.image image]
    · simp [image]
  · by_cases bytes : w.type = .raw ∨ w.type = .escpos
    · simp [admitted.bytes bytes]
    · simp [not_or.mp bytes]
  · by_cases raw : w.type = .raw
    · simp [admitted.raw raw]
    · simp [raw]
  · by_cases escpos : w.type = .escpos
    · simp [admitted.escpos escpos]
    · simp [escpos]
  · by_cases document : w.type = .pdf ∨ w.type = .image
    · simp [admitted.document document]
    · simp [not_or.mp document]
  · cases active : w.peripherals.any Peripherals.isActive with
    | false => rfl
    | true => simp [admitted.peripherals active]

/-- A payload is admitted when its object is well formed and its bytes are as they should be. -/
theorem validate_eq_ok (object : payloadObject v = .ok w) (admitted : Admitted w decoded) :
    validatePrintJobPayload v = .ok w := by
  simp only [validatePrintJobPayload, object, sizeIssues_eq_nil admitted, superRefine_eq_nil admitted,
    List.append_nil]

theorem payloadObject_of_validate (valid : validatePrintJobPayload v = .ok w) : payloadObject v = .ok w := by
  unfold validatePrintJobPayload at valid
  split at valid
  · simp at valid
  next payload object =>
  split at valid
  · exact object.trans valid
  · simp at valid

theorem admitted_of_validate (valid : validatePrintJobPayload v = .ok w) :
    Admitted w (Base64.decodeLenient w.data) := by
  unfold validatePrintJobPayload at valid
  split at valid
  · simp at valid
  next payload _ =>
  split at valid
  next clean =>
    obtain rfl : payload = w := by simpa using valid
    exact admitted_of_superRefine (List.append_eq_nil_iff.mp clean).2
  · simp at valid

end Gateway

namespace Agent

open Gateway (PrintJobPayload Admitted encodeWord peripheralFields)

variable {w : PrintJobPayload} {decoded : List UInt8} {Mode : Type}

section

variable (w : PrintJobPayload)

theorem get?_type : Json.get? w.fields "type" = some (encodeWord w.type) := by
  rcases w with ⟨type, _ | protocol, _ | peripherals, data⟩ <;> rfl

theorem get?_encoding : Json.get? w.fields "encoding" = some (.str "base64") := by
  rcases w with ⟨type, _ | protocol, _ | peripherals, data⟩ <;> rfl

theorem get?_protocol : Json.get? w.fields "protocol" = w.protocol.map encodeWord := by
  rcases w with ⟨type, _ | protocol, _ | peripherals, data⟩ <;> rfl

theorem get?_peripherals :
    Json.get? w.fields "peripherals" = w.peripherals.map fun modes => .obj (peripheralFields modes) := by
  rcases w with ⟨type, _ | protocol, _ | peripherals, data⟩ <;> rfl

theorem get?_data : Json.get? w.fields "data" = some (.str w.data) := by
  rcases w with ⟨type, _ | protocol, _ | peripherals, data⟩ <;> rfl

end

variable {periphMap : List Json.Field} {mode : Option Mode} {key : Text}

/-- The protocol as the Agent reads it. -/
def protocolText (protocol : Option RawProtocol) : Text := protocol.elim [] text

theorem optionalStringField_protocol (w : PrintJobPayload) :
    optionalStringField w.fields "protocol" = .ok (protocolText w.protocol) := by
  unfold optionalStringField
  rw [get?_protocol]
  cases w.protocol <;> rfl

theorem text_ne_nil (protocol : RawProtocol) : text protocol ≠ [] := by
  cases protocol <;> decide

theorem checkProtocol_ok (admitted : Admitted w decoded) :
    checkProtocol w.type (protocolText w.protocol) = .ok () := by
  unfold checkProtocol
  cases type : w.type with
  | raw =>
    obtain ⟨protocol, declared⟩ := Option.isSome_iff_exists.mp (admitted.raw type)
    rw [declared]
    change (if text protocol = [] then _ else if (ofText? (text protocol)).isNone = true then _ else _) = _
    rw [if_neg (text_ne_nil protocol), ofText?_text]
    rfl
  | escpos =>
    rw [admitted.escpos type]
    rfl
  | pdf =>
    rw [admitted.document (.inl type)]
    rfl
  | image =>
    rw [admitted.document (.inr type)]
    rfl

theorem checkSignature_ok (admitted : Admitted w decoded) : checkSignature w.type decoded = .ok () := by
  unfold checkSignature
  cases type : w.type with
  | raw => simp [admitted.bytes (.inl type)]
  | escpos => simp [admitted.bytes (.inr type)]
  | pdf => simp [(admitted.pdf type).1]
  | image => simp [admitted.image type]

theorem decodeData_ok (admitted : Admitted w decoded) : decodeData w.data = .ok decoded := by
  have size : byteSize w.data = 4 * ((decoded.length + 2) / 3) := by
    rw [← admitted.encoded, byteSize_eq_length fun c => Base64.encode_ascii, Base64.length_encode]
  have bounded := admitted.bounded
  have positive := List.length_pos_of_ne_nil admitted.nonempty
  unfold maxPayloadBytes at bounded
  unfold decodeData maxPayloadBytes
  rw [if_neg, if_neg, ← admitted.encoded, Base64.decodePadded_encode]
  · exact if_neg (by omega)
  · omega
  · intro empty
    rw [empty] at size
    simp only [byteSize, List.map_nil, List.sum_nil] at size
    omega

theorem peripheralMode_encodeWord [Vocabulary Mode] (found : Json.get? periphMap key = mode.map encodeWord) :
    peripheralMode Mode periphMap key = .ok mode := by
  unfold peripheralMode
  rw [found]
  cases mode with
  | none => rfl
  | some mode =>
    simp only [Option.map_some, encodeWord]
    rw [ofText?_text]

theorem isMistyped_encodeWord [Vocabulary Mode] (found : Json.get? periphMap key = mode.map encodeWord) :
    isMistyped periphMap key = false := by
  unfold isMistyped
  rw [found]
  cases mode <;> rfl

section Written

variable (modes : Peripherals)

theorem get?_drawer : Json.get? (peripheralFields modes) "drawer" = modes.drawer.map encodeWord := by
  rcases modes with ⟨_ | _, _ | _, _ | _⟩ <;> rfl

theorem get?_cutter : Json.get? (peripheralFields modes) "cutter" = modes.cutter.map encodeWord := by
  rcases modes with ⟨_ | _, _ | _, _ | _⟩ <;> rfl

theorem get?_buzzer : Json.get? (peripheralFields modes) "buzzer" = modes.buzzer.map encodeWord := by
  rcases modes with ⟨_ | _, _ | _, _ | _⟩ <;> rfl

theorem unknown_peripheralFields :
    ((peripheralFields modes).map Prod.fst).filter (fun key => !peripheralNames.contains key) = [] := by
  rcases modes with ⟨_ | _, _ | _, _ | _⟩ <;> rfl

theorem typed_peripheralFields : peripheralNames.find? (isMistyped (peripheralFields modes)) = none := by
  rw [List.find?_eq_none]
  intro key member
  simp only [peripheralNames, List.mem_cons, List.not_mem_nil, or_false] at member
  rcases member with rfl | rfl | rfl
  · rw [isMistyped_encodeWord (get?_drawer modes)]
    decide
  · rw [isMistyped_encodeWord (get?_cutter modes)]
    decide
  · rw [isMistyped_encodeWord (get?_buzzer modes)]
    decide

theorem readPeripherals_ok : readPeripherals (peripheralFields modes) = .ok modes := by
  simp only [readPeripherals, typed_peripheralFields, unknown_peripheralFields,
    peripheralMode_encodeWord (get?_drawer modes), peripheralMode_encodeWord (get?_cutter modes),
    peripheralMode_encodeWord (get?_buzzer modes)]
  rfl

end Written

theorem parsePeripherals_ok (w : PrintJobPayload) : parsePeripherals w.fields = .ok (w.peripherals.getD .none) := by
  unfold parsePeripherals
  rw [get?_peripherals]
  cases w.peripherals with
  | none => rfl
  | some modes => exact readPeripherals_ok modes

theorem validatePdf_ok (admitted : Admitted w decoded) (type : w.type = .pdf) : validatePdf decoded = .ok () := by
  obtain ⟨header, trailer⟩ := admitted.pdf type
  have bounded := admitted.bounded
  have positive := List.length_pos_of_ne_nil admitted.nonempty
  unfold maxPayloadBytes at bounded
  have tail : (if pdfEofSearchWindow < decoded.length then
      decoded.drop (decoded.length - pdfEofSearchWindow) else decoded) =
      decoded.drop (decoded.length - 4096) := by
    unfold pdfEofSearchWindow
    split
    · rfl
    · rw [Nat.sub_eq_zero_of_le (by omega), List.drop_zero]
  unfold validatePdf maxPrintBytes
  rw [if_neg (by omega), if_neg (by omega), if_neg (by simp [header])]
  simp only [tail, trailer, Bool.true_eq_false, if_false]

/-- `Parse` on the JSON text of an admitted payload. -/
theorem parse_toJson (admitted : Admitted w decoded) : parse w.toJson = .ok ⟨w.type, protocolText w.protocol, decoded,
      if (w.peripherals.getD .none).isActive then w.peripherals.getD .none else .none⟩ := by
  have type : requiredStringField w.fields "type" = .ok (text w.type) := by
    rw [requiredStringField, get?_type]
    rfl
  have encoding : requiredStringField w.fields "encoding" = .ok "base64" := by
    rw [requiredStringField, get?_encoding]
  have data : requiredStringField w.fields "data" = .ok w.data := by
    rw [requiredStringField, get?_data]
  have driven : ¬((w.peripherals.getD .none).isActive = true ∧ protocolText w.protocol ≠ "escpos") := by
    rintro ⟨active, other⟩
    have some : w.peripherals.any Peripherals.isActive = true := by
      cases given : w.peripherals with
      | none => simp [given, Peripherals.isActive, Peripherals.none] at active
      | some peripherals => simpa [given] using active
    rw [admitted.peripherals some] at other
    exact other rfl
  unfold PrintJobPayload.toJson
  simp only [parse, type, encoding, data, bind, Except.bind, ofText?_text, optionalStringField_protocol,
    checkProtocol_ok admitted, decodeData_ok admitted, checkSignature_ok admitted, parsePeripherals_ok,
    ne_eq, not_true_eq_false, if_false]
  rw [if_neg driven]
  rfl

end Agent

/-- Every payload the Gateway admits is accepted by the Agent with the same type, protocol, bytes and
active peripherals, and an admitted PDF passes the check before printing. -/
theorem admitted_payload_executable {v : Json.Value} {w : Gateway.PrintJobPayload}
    (valid : Gateway.validatePrintJobPayload v = .ok w) :
    ∃ payload, Agent.parse w.toJson = .ok payload ∧ payload.type = w.type ∧
      payload.protocol = Agent.protocolText w.protocol ∧ Base64.encode payload.data = w.data ∧
      payload.peripherals.active = (w.peripherals.getD .none).active ∧
      (w.type = .pdf → Agent.validatePdf payload.data = .ok ()) := by
  have admitted := Gateway.admitted_of_validate valid
  refine ⟨_, Agent.parse_toJson admitted, rfl, rfl, admitted.encoded, ?_, Agent.validatePdf_ok admitted⟩
  change (if _ then _ else _ : Peripherals).active = _
  split
  · rfl
  next inactive =>
    exact (Peripherals.active_of_not_isActive (by simpa using inactive)).symm

/-- The shortest PDF document that is admitted. -/
def samplePdf : Json.Value :=
  .obj [("type", .str "pdf"), ("encoding", .str "base64"), ("data", .str "JVBERi0lJUVPRg==")]

theorem admitted_payload_executable_pdf :
    Gateway.validatePrintJobPayload samplePdf = .ok ⟨.pdf, none, none, "JVBERi0lJUVPRg=="⟩ ∧
      ∃ payload, Agent.parse (Gateway.PrintJobPayload.toJson ⟨.pdf, none, none, "JVBERi0lJUVPRg=="⟩) =
          .ok payload ∧ payload.type = .pdf ∧ payload.protocol = Agent.protocolText none ∧
        Base64.encode payload.data = "JVBERi0lJUVPRg==" ∧
        payload.peripherals.active = Peripherals.none.active ∧
        (PayloadType.pdf = .pdf → Agent.validatePdf payload.data = .ok ()) := by
  have valid : Gateway.validatePrintJobPayload samplePdf =
      .ok ⟨.pdf, none, none, "JVBERi0lJUVPRg=="⟩ := by decide +kernel
  exact ⟨valid, admitted_payload_executable valid⟩

end PrintGateway
