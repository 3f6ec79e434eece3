import PrintGateway.Model.Agent.Capability
import PrintGateway.Model.Gateway.Capability

/-!
# Gateway and Agent decide printability identically

The two tables are compared after normalisation, where both read the same facts: the transport, and
which names the explicit list holds.
-/

namespace PrintGateway

open Text

namespace Text

variable {text : Text} {p q : Char → Bool}

theorem toLower_char_of_not_isUpper {c : Char} (lower : c.isUpper = false) : c.toLower = c :=
  dif_neg (of_decide_eq_false lower)

theorem IsToken.toLower_eq (token : IsToken text) : toLower text = text := by
  refine (List.map_congr_left fun c member => ?_).trans (List.map_id text)
  obtain ⟨ascii, lower⟩ := token.1 c member
  rw [if_neg (by omega), if_neg (by omega)]
  exact toLower_char_of_not_isUpper lower

theorem IsToken.toLowerCase_eq (token : IsToken text) : toLowerCase text = text := by
  refine (List.flatMap_congr fun c member => ?_).trans (List.flatMap_singleton' text)
  obtain ⟨ascii, lower⟩ := token.1 c member
  rw [if_neg (by omega), if_neg (by omega), toLower_char_of_not_isUpper lower]

/-- The two languages trim the same ASCII characters. -/
theorem isTrimmed_eq_of_ascii {c : Char} (ascii : c.toNat < 128) : isTrimmed c = isUnicodeSpace c := by
  simp only [isTrimmed, isUnicodeSpace]
  have high : ∀ n, 128 ≤ n → (c.toNat == n) = false := fun n large => by
    rw [beq_eq_false_iff_ne]
    omega
  have range : (8192 ≤ c.toNat && c.toNat ≤ 8202) = false := by
    simp only [Bool.and_eq_false_iff, decide_eq_false_iff_not]
    omega
  rw [high 133 (by omega), high 160 (by omega), high 5760 (by omega), range, high 8232 (by omega),
    high 8233 (by omega), high 8239 (by omega), high 8287 (by omega), high 12288 (by omega),
    high 65279 (by omega)]

theorem dropWhile_congr (agree : ∀ c ∈ text, p c = q c) : text.dropWhile p = text.dropWhile q := by
  induction text with
  | nil => rfl
  | cons c rest ih =>
    rw [List.dropWhile_cons, List.dropWhile_cons, agree c List.mem_cons_self,
      ih fun d member => agree d (List.mem_cons_of_mem c member)]

theorem stripBy_congr (agree : ∀ c ∈ text, p c = q c) : stripBy p text = stripBy q text := by
  unfold stripBy
  rw [dropWhile_congr agree, dropWhile_congr]
  intro c member
  exact agree c (List.dropWhile_subset q (List.mem_reverse.mp member))

theorem IsToken.trim_eq (token : IsToken text) : trim text = text := by
  rw [trim, stripBy_congr fun c member => isTrimmed_eq_of_ascii (token.1 c member).1]
  exact token.2

theorem IsToken.map_foldChar (token : IsToken text) : text.map foldChar = text := by
  refine (List.map_congr_left fun c member => ?_).trans (List.map_id text)
  obtain ⟨ascii, lower⟩ := token.1 c member
  unfold foldChar
  rw [if_neg (by omega), if_neg (by omega)]
  exact toLower_char_of_not_isUpper lower

theorem IsToken.equalFold_eq {name : Text} (token : IsToken text) (known : IsToken name) :
    equalFold text name = (text == name) := by
  rw [equalFold, token.map_foldChar, known.map_foldChar]

end Text

namespace Agent.TransportFacts

open Gateway (PayloadSpec PrinterSpec Transport)

/-- Gateway and Agent look at the same payload and the same printer; a list of supported protocols is
missing on both sides or the same on both. -/
structure SameQuestion (payload : PayloadSpec) (printer : PrinterSpec) (plType plProtocol : Text)
    (d : TransportFacts) : Prop where
  type : plType = payload.type
  protocol : plProtocol = payload.protocol.getD []
  connection : d.connection = printer.connectionType.getD []
  language : d.protocol = printer.protocol.getD []
  supported : (Json.get? (printer.capabilities.getD []) "supported_protocols" = none ∧ d.hasCaps = false) ∨
    Json.get? (printer.capabilities.getD []) "supported_protocols" =
        some (.arr ((d.supportedProtocol.getD []).map .str)) ∧ d.hasCaps = true

/-- Every text of the question is a token. -/
structure Tokens (plType plProtocol : Text) (d : TransportFacts) : Prop where
  type : IsToken plType
  protocol : IsToken plProtocol
  connection : IsToken d.connection
  language : IsToken d.protocol
  supported : ∀ name ∈ d.supportedProtocol.getD [], IsToken name

variable {payload : PayloadSpec} {printer : PrinterSpec} {plType plProtocol : Text} {d : TransportFacts}

/-- The list both sides work with. -/
def list (d : TransportFacts) : Option (List Text) :=
  if d.hasCaps then some (d.supportedProtocol.getD []) else none

theorem transport_eq (same : SameQuestion payload printer plType plProtocol d)
    (tokens : Tokens plType plProtocol d) : Transport.ofPrinter printer = ⟨d.conn, d.proto⟩ := by
  unfold Transport.ofPrinter proto conn
  rw [← same.connection, ← same.language, tokens.connection.toLowerCase_eq, tokens.connection.2,
    tokens.connection.toLower_eq, tokens.language.toLowerCase_eq, tokens.language.2,
    tokens.language.toLower_eq]

theorem supportedProtocols_eq (same : SameQuestion payload printer plType plProtocol d)
    (tokens : Tokens plType plProtocol d) :
    Gateway.supportedProtocols printer.capabilities = .ok d.list := by
  unfold Gateway.supportedProtocols list
  rcases same.supported with ⟨absent, undeclared⟩ | ⟨present, declared⟩
  · rw [absent, undeclared]
    rfl
  · rw [present, declared]
    have kept : ∀ name ∈ d.supportedProtocol.getD [], some (trim (toLowerCase name)) = some name := by
      intro name member
      have token := tokens.supported name member
      rw [token.toLowerCase_eq, token.trim_eq]
    have mapped : (d.supportedProtocol.getD []).filterMap (fun name => some (trim (toLowerCase name))) =
        d.supportedProtocol.getD [] :=
      (List.filterMap_congr kept).trans List.filterMap_some
    simp only [List.filterMap_map, Function.comp_def, mapped, if_true]

theorem capabilityListed_eq (tokens : Tokens plType plProtocol d) {names : List Text}
    (known : ∀ name ∈ names, IsToken name) :
    d.capabilityListed names = names.any (d.supportedProtocol.getD []).contains := by
  unfold capabilityListed
  rw [Bool.eq_iff_iff]
  simp only [List.any_eq_true, List.contains_iff_mem]
  refine exists_congr fun name => and_congr_right fun member => ?_
  constructor
  · rintro ⟨listed, found, folded⟩
    have token := tokens.supported listed found
    rw [token.2, token.equalFold_eq (known name member), beq_iff_eq] at folded
    exact folded ▸ found
  · intro found
    refine ⟨name, found, ?_⟩
    rw [(known name member).2, (known name member).equalFold_eq (known name member), beq_self_eq_true]

theorem anyCap_eq (tokens : Tokens plType plProtocol d) (names : List Text)
    (known : ∀ name ∈ names, IsToken name) :
    Gateway.anyCap d.list names = (d.hasCaps && d.capabilityListed names) := by
  rw [capabilityListed_eq tokens known]
  unfold Gateway.anyCap list
  cases d.hasCaps <;> rfl

theorem isNone_list (d : TransportFacts) : d.list.isNone = !d.hasCaps := by
  unfold list
  cases d.hasCaps <;> rfl

theorem contains_byteProtocols (protocol : Text) :
    Gateway.byteProtocols.contains protocol = isByteLanguage protocol := by
  rw [Bool.eq_iff_iff]
  simp [Gateway.byteProtocols, isByteLanguage, or_assoc]

theorem physicalByteProtocol_eq (d : TransportFacts) (protocol : Text) :
    Transport.physicalByteProtocol ⟨d.conn, d.proto⟩ protocol = d.physicalByteProtocol protocol := by
  have spooler : Transport.physicalSpooler ⟨d.conn, d.proto⟩ = d.physicalSpooler := rfl
  unfold Transport.physicalByteProtocol physicalByteProtocol
  rw [spooler, contains_byteProtocols]
  generalize "network" = network, "usb" = usb
  cases d.physicalSpooler with
  | true => rfl
  | false =>
    by_cases pipe : d.conn ≠ network ∧ d.conn ≠ usb
    · simp [pipe]
    · by_cases language : d.proto = protocol
      · rw [not_and_or, not_not, not_not] at pipe
        simp only [Bool.false_eq_true, if_false]
        rw [if_neg (by tauto), if_neg (not_not.mpr language)]
        simp [pipe, language]
      · simp [language]

/-- What a byte pipe needs: the language of the device, and the explicit list if there is one. -/
theorem declared_eq (tokens : Tokens plType plProtocol d) (name : Text) (known : IsToken name) :
    (Transport.physicalByteProtocol ⟨d.conn, d.proto⟩ name &&
      (d.list.isNone || Gateway.anyCap d.list [name])) = d.declared name := by
  rw [physicalByteProtocol_eq, isNone_list, anyCap_eq tokens [name] (by simpa using known)]
  unfold declared
  cases d.hasCaps <;> simp [Bool.and_comm]

/-- Of the languages a spooler passes through, the payload's must be listed. -/
theorem passthrough_iff (tokens : Tokens plType plProtocol d) :
    ((plProtocol = "escpos" ∧ Gateway.anyCap d.list ["escpos"] = true) ∨
      plProtocol = "raw" ∧ Gateway.anyCap d.list ["raw"] = true) ↔
    ((plProtocol == "raw" || plProtocol == "escpos") && d.hasCaps && d.capabilityListed [plProtocol]) = true := by
  have listed : Gateway.anyCap d.list [plProtocol] = (d.hasCaps && d.capabilityListed [plProtocol]) :=
    anyCap_eq tokens [plProtocol] (by simpa using tokens.protocol)
  rw [Bool.and_assoc, ← listed, Bool.and_eq_true, Bool.or_eq_true, beq_iff_eq, beq_iff_eq]
  constructor
  · rintro (⟨rfl, found⟩ | ⟨rfl, found⟩)
    · exact ⟨.inr rfl, found⟩
    · exact ⟨.inl rfl, found⟩
  · rintro ⟨rfl | rfl, found⟩
    · exact .inr ⟨rfl, found⟩
    · exact .inl ⟨rfl, found⟩

theorem isOk_capabilityMismatch (reason : Text) : (Gateway.capabilityMismatch reason).isOk = false := rfl

theorem isOk_notDeclared (label : Text) : (Gateway.notDeclared label).isOk = false := rfl

theorem isOk_error (reason : Text) : (Except.error reason : Except Text Unit).isOk = false := rfl

theorem isOk_ok : (Except.ok () : Except Text Unit).isOk = true := rfl

/-- The two tables agree once both read the same facts. -/
theorem capabilityCheck_isOk (tokens : Tokens plType plProtocol d) :
    (Gateway.capabilityCheck plType plProtocol ⟨d.conn, d.proto⟩ d.list).isOk =
      (payloadCompatibleForDevice plType plProtocol d).isOk := by
  have spooler : Transport.physicalSpooler ⟨d.conn, d.proto⟩ = d.physicalSpooler := rfl
  have pdf : Transport.physicalPdf ⟨d.conn, d.proto⟩ = d.physicalPdf := rfl
  have image : Transport.physicalImage ⟨d.conn, d.proto⟩ = d.physicalImage := rfl
  have rendered := anyCap_eq tokens ["image", "jpeg", "escpos"] (by decide)
  have escpos := anyCap_eq tokens ["escpos"] (by decide)
  unfold Gateway.capabilityCheck payloadCompatibleForDevice
  -- Only the answers are compared, so every reason goes first.
  simp only [tokens.type.2, tokens.type.toLower_eq, tokens.protocol.2, tokens.protocol.toLower_eq,
    spooler, pdf, image, rendered, escpos, contains_byteProtocols, isNone_list, apply_ite Except.isOk,
    isOk_capabilityMismatch, isOk_notDeclared, isOk_error, isOk_ok]
  by_cases isPdf : plType = "pdf"
  · rw [if_pos isPdf, if_pos isPdf]
  rw [if_neg isPdf, if_neg isPdf]
  by_cases isImage : plType = "image"
  · rw [if_pos isImage, if_pos isImage]
    by_cases bare : plProtocol ≠ []
    · rw [if_pos bare, if_pos bare]
    rw [if_neg bare, if_neg bare]
    cases d.physicalImage <;> cases d.physicalSpooler <;> cases d.hasCaps <;>
      cases d.capabilityListed _ <;> rfl
  rw [if_neg isImage, if_neg isImage]
  by_cases isEscpos : plType = "escpos"
  · rw [if_pos isEscpos, if_pos isEscpos]
    have pipe := declared_eq tokens "escpos" (by decide)
    rw [isNone_list, escpos] at pipe
    rw [pipe]
  rw [if_neg isEscpos, if_neg isEscpos]
  by_cases isRaw : plType = "raw"
  · rw [if_pos isRaw, if_pos isRaw]
    have pipe := declared_eq tokens plProtocol tokens.protocol
    have through := passthrough_iff tokens
    rw [isNone_list] at pipe
    rw [escpos] at through
    rw [pipe]
    by_cases bare : plProtocol = []
    · rw [if_pos bare, if_pos bare]
    rw [if_neg bare, if_neg bare, ← ite_or, if_congr through rfl rfl]
  rw [if_neg isRaw, if_neg isRaw]

end Agent.TransportFacts

/-- For tokens, the Gateway accepts a payload for a printer exactly when the Agent does. -/
theorem printability_agrees {payload : Gateway.PayloadSpec} {printer : Gateway.PrinterSpec}
    {plType plProtocol : Text} {d : Agent.TransportFacts}
    (same : Agent.TransportFacts.SameQuestion payload printer plType plProtocol d)
    (tokens : Agent.TransportFacts.Tokens plType plProtocol d) :
    (Gateway.validatePayloadForPrinter (some payload) printer).isOk =
      (Agent.TransportFacts.payloadCompatibleForDevice plType plProtocol d).isOk := by
  have type : toLowerCase payload.type = plType := by rw [← same.type, tokens.type.toLowerCase_eq]
  have protocol : toLowerCase (payload.protocol.getD []) = plProtocol := by
    rw [← same.protocol, tokens.protocol.toLowerCase_eq]
  unfold Gateway.validatePayloadForPrinter
  simp only [Agent.TransportFacts.supportedProtocols_eq same tokens, type, protocol,
    Agent.TransportFacts.transport_eq same tokens]
  exact Agent.TransportFacts.capabilityCheck_isOk tokens

/-- A byte pipe that lists its language, and a payload in that language. -/
theorem printability_agrees_listed : (Gateway.validatePayloadForPrinter (some ⟨"raw", some "zpl"⟩)
        ⟨some "zpl", some "network", some [("supported_protocols", .arr [.str "zpl", .str "raw"])]⟩).isOk = true ∧
      (Gateway.validatePayloadForPrinter (some ⟨"raw", some "zpl"⟩)
        ⟨some "zpl", some "network", some [("supported_protocols", .arr [.str "zpl", .str "raw"])]⟩).isOk =
      (Agent.TransportFacts.payloadCompatibleForDevice "raw" "zpl"
        ⟨"zpl", "network", some ["zpl", "raw"], true⟩).isOk :=
  ⟨by decide, printability_agrees ⟨rfl, rfl, rfl, rfl, .inr ⟨rfl, rfl⟩⟩
    ⟨by decide, by decide, by decide, by decide, by decide⟩⟩

end PrintGateway
