import PrintGateway.Model.Agent.DiscoveryReport

/-!
# Bounds of discovery reports

The loop over the devices keeps every page within its count and its bytes and loses nothing it takes.
A rune costs at most six bytes in a literal and counts for at least one unit of a bounded text, so the
diagnostics of the last page leave room for a full page of devices under the limit of a body.
-/

namespace PrintGateway.Agent

open Text
open Json (separated utf8Length)

/-! ### Bytes of texts -/

/-- The bytes of items with a comma each. -/
def commaBytes {Item : Type} (size : Item → ℕ) (items : List Item) : ℕ := (items.map (size · + 1)).sum

theorem separated_eq {Item : Type} (size : Item → ℕ) (items : List Item) :
    separated (items.map size) = commaBytes size items - 1 := by
  have total : commaBytes size items = (items.map size).sum + items.length := by
    induction items with
    | nil => rfl
    | cons item items ih =>
      simp only [commaBytes, List.map_cons, List.sum_cons, List.length_cons] at ih ⊢
      omega
  rw [separated, total, List.length_map]
  cases items with
  | nil => rfl
  | cons item items =>
    rw [List.length_cons]
    omega

theorem utf8Length_le (text : Text) : utf8Length text ≤ 4 * text.length := by
  induction text with
  | nil => exact le_rfl
  | cons c text ih =>
    have four := c.utf8Size_le_four
    rw [Json.utf8Length_cons, List.length_cons]
    omega

theorem length_digits_le {n k : ℕ} (bound : n < 10 ^ (k + 1)) : (digits n).length ≤ k + 1 :=
  (Nat.length_toDigits_le_iff (by decide) (Nat.succ_pos k)).mpr bound

theorem commaBytes_append {Item : Type} (size : Item → ℕ) (first second : List Item) :
    commaBytes size (first ++ second) = commaBytes size first + commaBytes size second := by
  simp [commaBytes]

theorem commaBytes_singleton {Item : Type} (size : Item → ℕ) (item : Item) :
    commaBytes size [item] = size item + 1 := by
  simp [commaBytes]

/-! ### Cutting the devices into pages -/

/-- A page within the limits on devices; a single device may reach the budget without its comma. -/
structure ReportFits (page : List Text) : Prop where
  count : page.length ≤ discoveryReportMaxDevices
  bytes : commaBytes utf8Length page ≤ discoveryReportDeviceBudget + 1

namespace ReportSplit

/-- What every turn of the loop keeps; `items` is what it has taken so far. -/
structure Sound (split : ReportSplit) (items : List Text) : Prop where
  pages : ∀ page ∈ split.pages, ReportFits page
  page : ReportFits split.page
  pageBytes : split.pageBytes = commaBytes utf8Length split.page
  whole : split.pages.flatten ++ split.page = items

variable {split : ReportSplit} {items : List Text}

theorem Sound.add (sound : split.Sound items) {item : Text}
    (short : utf8Length item ≤ discoveryReportDeviceBudget) : (split.add item).Sound (items ++ [item]) := by
  unfold ReportSplit.add
  dsimp only
  split
  case isTrue full =>
    refine ⟨fun page member => ?_, ⟨by simp [discoveryReportMaxDevices], ?_⟩, ?_, ?_⟩
    · rcases List.mem_append.mp member with earlier | last
      · exact sound.pages page earlier
      · obtain rfl := List.mem_singleton.mp last
        exact sound.page
    · rw [commaBytes_singleton]
      omega
    · rw [commaBytes_singleton]
    · rw [← sound.whole, List.flatten_append, List.flatten_singleton]
  case isFalse room =>
    obtain ⟨few, light⟩ := not_or.mp room
    have bytes : split.pageBytes + (utf8Length item + 1) = commaBytes utf8Length (split.page ++ [item]) := by
      rw [commaBytes_append, commaBytes_singleton, sound.pageBytes]
    refine ⟨sound.pages, ⟨?_, ?_⟩, bytes, ?_⟩
    · rw [List.length_append, List.length_singleton]
      omega
    · by_cases first : split.page = []
      · rw [first, List.nil_append, commaBytes_singleton]
        omega
      · have fits := not_and.mp light first
        rw [← bytes]
        omega
    · rw [← sound.whole, List.append_assoc]

theorem encodable_short {Device : Type} {marshal : Device → Option Text} {device : Device} {item : Text}
    (taken : encodable marshal device = some item) : utf8Length item ≤ discoveryReportDeviceBudget := by
  have kept := (Option.filter_eq_some_iff.mp taken).2
  exact of_decide_eq_true kept

/-- The whole loop: it takes the encodable devices in order and counts the others. -/
theorem Sound.foldl {Device : Type} (marshal : Device → Option Text) (devices : List Device)
    (sound : split.Sound items) :
    (devices.foldl (.next marshal) split).Sound (items ++ devices.filterMap (encodable marshal)) ∧
      (devices.foldl (.next marshal) split).skipped + (devices.filterMap (encodable marshal)).length =
        split.skipped + devices.length := by
  induction devices generalizing split items with
  | nil => simpa using sound
  | cons device devices ih =>
    rw [List.foldl_cons]
    cases taken : encodable marshal device with
    | none =>
      have stepped : split.next marshal device = { split with skipped := split.skipped + 1 } := by
        simp only [ReportSplit.next, taken]
      rw [stepped, List.filterMap_cons_none taken]
      have passed : ({ split with skipped := split.skipped + 1 } : ReportSplit).Sound items :=
        ⟨sound.pages, sound.page, sound.pageBytes, sound.whole⟩
      obtain ⟨kept, counted⟩ := ih passed
      refine ⟨kept, counted.trans ?_⟩
      rw [List.length_cons]
      exact Nat.add_right_comm split.skipped 1 devices.length
    | some item =>
      have stepped : split.next marshal device = split.add item := by
        simp only [ReportSplit.next, taken]
      have same : (split.add item).skipped = split.skipped := by
        unfold ReportSplit.add
        dsimp only
        split <;> rfl
      rw [stepped, List.filterMap_cons_some taken]
      obtain ⟨kept, counted⟩ := ih (sound.add (encodable_short taken))
      rw [List.append_assoc] at kept
      refine ⟨kept, ?_⟩
      rw [List.length_cons, List.length_cons]
      omega

theorem Sound.close (sound : split.Sound items) :
    (∀ page ∈ split.close, ReportFits page) ∧ split.close.flatten = items ∧ split.close ≠ [] := by
  unfold ReportSplit.close
  split
  case isTrue =>
    refine ⟨fun page member => ?_, ?_, by simp⟩
    · rcases List.mem_append.mp member with earlier | last
      · exact sound.pages page earlier
      · obtain rfl := List.mem_singleton.mp last
        exact sound.page
    · rw [← sound.whole, List.flatten_append, List.flatten_singleton]
  case isFalse closed =>
    obtain ⟨blank, started⟩ := not_or.mp closed
    rw [not_not] at blank
    refine ⟨sound.pages, ?_, started⟩
    rw [← sound.whole, blank, List.append_nil]

end ReportSplit

/-! ### The bytes of a body -/

theorem utf8Length_escape_rune_le (rune : Rune) : utf8Length rune.escape ≤ 6 := by
  cases rune with
  | char c => exact Json.utf8Length_escapeChar_le c
  | invalid byte =>
    rw [Rune.escape]
    decide

/-- A literal is at most six bytes a rune. -/
theorem utf8Length_quote_rune_le (value : GoString) : utf8Length value.quote ≤ 2 + 6 * value.length := by
  have mark : Json.quoteMark.utf8Size = 1 := by decide
  have runes : utf8Length (value.flatMap Rune.escape) ≤ 6 * value.length := by
    induction value with
    | nil => exact le_rfl
    | cons rune value ih =>
      have first := utf8Length_escape_rune_le rune
      rw [List.flatMap_cons, Json.utf8Length_append, List.length_cons]
      omega
  simp only [GoString.quote, Json.utf8Length_cons, Json.utf8Length_append, Json.utf8Length_nil, mark]
  omega

/-- A list of diagnostics as the last page takes it. -/
structure ErrorsFit (errors : List GoString) : Prop where
  count : errors.length ≤ maxDiagnostics
  short : ∀ error ∈ errors, error.length ≤ 2048

theorem utf8Length_intercalate_le (texts : List Text) :
    utf8Length (",".toList.intercalate texts) ≤ commaBytes utf8Length texts := by
  rw [Json.utf8Length_intercalate, separated_eq]
  exact Nat.sub_le _ 1

theorem commaBytes_errors_le {errors : List GoString} (fit : ErrorsFit errors) :
    commaBytes utf8Length (errors.map GoString.quote) ≤ 64 * 12291 := by
  have count := fit.count
  have bound : commaBytes utf8Length (errors.map GoString.quote) ≤ errors.length * 12291 := by
    have sum := List.sum_le_card_nsmul ((errors.map GoString.quote).map (utf8Length · + 1)) 12291 ?_
    · simpa [commaBytes] using sum
    · intro bytes member
      obtain ⟨_, quoted, rfl⟩ := List.mem_map.mp member
      obtain ⟨error, listed, rfl⟩ := List.mem_map.mp quoted
      have short := fit.short error listed
      have literal := utf8Length_quote_rune_le error
      omega
  calc commaBytes utf8Length (errors.map GoString.quote)
      ≤ errors.length * 12291 := bound
    _ ≤ 64 * 12291 := Nat.mul_le_mul_right _ count

/-- A page as the report builds them. -/
structure ReportPage.Bounded (page : ReportPage) : Prop where
  discoveryId : page.discoveryId.length ≤ 128
  devices : ReportFits page.devices
  errors : ErrorsFit page.errors
  chunkIndex : page.chunkIndex < 10 ^ 20
  chunkCount : page.chunkCount < 10 ^ 20
  totalCandidates : page.totalCandidates < 10 ^ 20

theorem utf8Length_digits_le {n : ℕ} (bound : n < 10 ^ 20) : utf8Length (digits n) ≤ 80 := by
  have length : (digits n).length ≤ 20 := length_digits_le bound
  have bytes := utf8Length_le (digits n)
  omega

theorem utf8Length_status_le (status : DiscoveryStatus) : utf8Length (GoString.quote (.ofText status.text)) ≤ 56 := by
  have literal := utf8Length_quote_rune_le (.ofText status.text)
  have short : status.text.length ≤ 9 := by cases status <;> decide
  rw [GoString.ofText, List.length_map] at literal
  exact literal.trans (by omega)

/-- The parts of a body. -/
theorem utf8Length_body (page : ReportPage) : utf8Length page.body = 15 + utf8Length page.discoveryId.quote +
      10 + utf8Length (GoString.quote (.ofText page.status.text)) +
      12 + utf8Length (",".toList.intercalate page.devices) +
      12 + utf8Length (",".toList.intercalate (page.errors.map GoString.quote)) +
      15 + utf8Length (digits page.chunkIndex) + 14 + utf8Length (digits page.chunkCount) +
      19 + utf8Length (digits page.totalCandidates) + 1 := by
  have discoveryId : utf8Length "\x7b\"discoveryId\":" = 15 := by decide +kernel
  have status : utf8Length ",\"status\":" = 10 := by decide +kernel
  have devices : utf8Length ",\"devices\":[" = 12 := by decide +kernel
  have errors : utf8Length "],\"errors\":[" = 12 := by decide +kernel
  have chunkIndex : utf8Length "],\"chunkIndex\":" = 15 := by decide +kernel
  have chunkCount : utf8Length ",\"chunkCount\":" = 14 := by decide +kernel
  have totalCandidates : utf8Length ",\"totalCandidates\":" = 19 := by decide +kernel
  have closed : utf8Length "\x7d" = 1 := by decide +kernel
  unfold ReportPage.body
  repeat rw [Json.utf8Length_append]
  rw [discoveryId, status, devices, errors, chunkIndex, chunkCount, totalCandidates, closed]

/-- The diagnostics and a full page of devices leave room under the limit. -/
theorem ReportPage.Bounded.body {page : ReportPage} (bounded : page.Bounded) :
    utf8Length page.body ≤ discoveryReportBodyLimit := by
  have id : utf8Length page.discoveryId.quote ≤ 770 := by
    have literal := utf8Length_quote_rune_le page.discoveryId
    have short := bounded.discoveryId
    omega
  have status := utf8Length_status_le page.status
  have devices := (utf8Length_intercalate_le page.devices).trans bounded.devices.bytes
  have errors := (utf8Length_intercalate_le (page.errors.map GoString.quote)).trans
    (commaBytes_errors_le bounded.errors)
  have index := utf8Length_digits_le bounded.chunkIndex
  have count := utf8Length_digits_le bounded.chunkCount
  have total := utf8Length_digits_le bounded.totalCandidates
  calc utf8Length page.body
      ≤ 15 + 770 + 10 + 56 + 12 + (discoveryReportDeviceBudget + 1) + 12 + 64 * 12291 + 15 + 80 + 14 + 80 +
          19 + 80 + 1 := by
        rw [utf8Length_body]
        gcongr
    _ ≤ discoveryReportBodyLimit := by decide

/-! ### The report -/

section Build

variable {Device : Type} (marshal : Device → Option Text) (discoveryId : GoString)
  (status : DiscoveryStatus) (devices : List Device) (sourceErrors : List GoString)

end Build

end PrintGateway.Agent
