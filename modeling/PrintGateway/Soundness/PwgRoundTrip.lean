import PrintGateway.Model.Agent.PwgRaster

/-!
# PWG pages read back

`pwgPackRow` writes packets with a code, so that a reader of the format finds the row again; the rows of
a page are written in groups of at most 256 equal ones.
-/

namespace PrintGateway.Agent

open Codec.PackBits

/-! ### Rows -/

variable {size : ℕ} {pixel : Pixel} {row : List Pixel} {mode : PwgRasterColor} {img : RGBA}

theorem equalPixels_le (pixel : Pixel) (limit : ℕ) (rest : List Pixel) : equalPixels pixel limit rest ≤ limit := by
  induction limit generalizing rest with
  | zero => simp [equalPixels]
  | succ limit ih =>
    cases rest with
    | nil => simp [equalPixels]
    | cons next rest =>
      rw [equalPixels]
      split
      · exact Nat.succ_le_succ (ih rest)
      · exact Nat.zero_le _

theorem take_equalPixels (pixel : Pixel) (limit : ℕ) (rest : List Pixel) :
    rest.take (equalPixels pixel limit rest) = List.replicate (equalPixels pixel limit rest) pixel := by
  induction limit generalizing rest with
  | zero => simp [equalPixels]
  | succ limit ih =>
    cases rest with
    | nil => simp [equalPixels]
    | cons next rest =>
      rw [equalPixels]
      split
      case isTrue same => rw [List.take_succ_cons, ih, List.replicate_succ, same]
      case isFalse => rfl

theorem literalPixels_le (limit : ℕ) (rest : List Pixel) :
    literalPixels limit rest ≤ limit ∧ literalPixels limit rest ≤ rest.length := by
  induction limit generalizing rest with
  | zero => simp [literalPixels]
  | succ limit ih =>
    cases rest with
    | nil => simp [literalPixels]
    | cons next rest =>
      rw [literalPixels]
      split
      · simp
      · exact ⟨Nat.succ_le_succ (ih rest).1, Nat.succ_le_succ (ih rest).2⟩

/-- The packet of pixels of which no two neighbours are equal; a single pixel is repeated once. -/
def literalPacket (pixel : Pixel) (others : List Pixel) : Packet :=
  if others = [] then .fill 1 pixel else .literal (pixel :: others)

theorem pixels_literalPacket (pixel : Pixel) (others : List Pixel) :
    (literalPacket pixel others).pixels = pixel :: others := by
  rw [literalPacket]
  split
  case isTrue empty =>
    rw [empty]
    rfl
  case isFalse => rfl

theorem bytes_literalPacket (pixel : Pixel) {others : List Pixel} (short : others.length ≤ 127) :
    (literalPacket pixel others).bytes = UInt8.ofInt (1 - (others.length + 1 : ℕ)) :: (pixel :: others).flatten := by
  have code : ∀ n : Fin 128, n.val ≠ 0 → UInt8.ofNat (257 - (n.val + 1)) = UInt8.ofInt (1 - (n.val + 1 : ℕ)) := by
    decide +kernel
  rw [literalPacket]
  split
  case isTrue empty =>
    rw [empty]
    simp only [Packet.bytes, List.flatten_cons, List.flatten_nil, List.append_nil]
    rfl
  case isFalse several =>
    rw [Packet.bytes, List.length_cons,
      code ⟨others.length, by omega⟩ (fun empty => several (List.eq_nil_of_length_eq_zero empty))]

theorem valid_literalPacket {others : List Pixel} (short : others.length ≤ 127)
    (sized : ∀ p ∈ pixel :: others, p.length = size) : (literalPacket pixel others).Valid size := by
  rw [literalPacket]
  split
  case isTrue => exact ⟨le_rfl, by decide, sized pixel List.mem_cons_self⟩
  case isFalse several =>
    have positive := List.length_pos_iff.mpr several
    refine ⟨?_, ?_, sized⟩ <;> rw [List.length_cons] <;> omega

/-- A packed row is a sequence of packets of its pixels. -/
theorem exists_packets (sized : ∀ pixel ∈ row, pixel.length = size) :
    ∃ packets : List Packet, (∀ packet ∈ packets, packet.Valid size) ∧
      packets.flatMap Packet.pixels = row ∧ packets.flatMap Packet.bytes = pwgPackRow row := by
  induction row using pwgPackRow.induct with
  | case1 => exact ⟨[], by simp, rfl, by simp [pwgPackRow]⟩
  | case2 pixel rest run repeated ih =>
    have limited : run ≤ 128 := Nat.succ_le_succ (equalPixels_le pixel 127 rest)
    obtain ⟨packets, valid, pixels, bytes⟩ := ih fun p member =>
      sized p (List.mem_cons_of_mem _ (List.mem_of_mem_drop member))
    refine ⟨.fill run pixel :: packets, ?_, ?_, ?_⟩
    · exact List.forall_mem_cons.mpr ⟨⟨by omega, limited, sized pixel List.mem_cons_self⟩, valid⟩
    · rw [List.flatMap_cons, pixels, Packet.pixels, List.replicate_succ, List.cons_append,
        ← take_equalPixels pixel 127 rest]
      exact congrArg _ (List.take_append_drop _ _)
    · rw [List.flatMap_cons, bytes, pwgPackRow, if_pos repeated]
      rfl
  | case3 pixel rest run n single ih =>
    obtain ⟨limited, present⟩ := literalPixels_le 127 rest
    have length : (rest.take (n - 1)).length = literalPixels 127 rest := by
      rw [List.length_take]
      exact Nat.min_eq_left present
    obtain ⟨packets, valid, pixels, bytes⟩ := ih fun p member =>
      sized p (List.mem_cons_of_mem _ (List.mem_of_mem_drop member))
    refine ⟨literalPacket pixel (rest.take (n - 1)) :: packets, ?_, ?_, ?_⟩
    · refine List.forall_mem_cons.mpr ⟨valid_literalPacket (by omega) ?_, valid⟩
      intro p member
      rcases List.mem_cons.mp member with rfl | taken
      · exact sized _ List.mem_cons_self
      · exact sized p (List.mem_cons_of_mem _ (List.mem_of_mem_take taken))
    · rw [List.flatMap_cons, pixels, pixels_literalPacket, List.cons_append, List.take_append_drop]
    · rw [List.flatMap_cons, bytes, bytes_literalPacket _ (by omega), length, pwgPackRow, if_neg single]
      rfl

theorem readRow_pwgPackRow (sized : ∀ pixel ∈ row, pixel.length = size) (rest : List UInt8) :
    readRow size row.length (pwgPackRow row ++ rest) = some (row, rest) := by
  obtain ⟨packets, valid, pixels, bytes⟩ := exists_packets sized
  have read := readRow_packets valid rest
  rwa [pixels, bytes] at read

/-! ### Pages -/

theorem length_pwgPixel {p : ℤ} (computed : pwgPixel img mode p = .ok pixel) : pixel.length = mode.channels := by
  unfold pwgPixel at computed
  cases a : img.byte (p + 3) <;> cases r : img.byte p <;> cases g : img.byte (p + 1) <;>
    cases b : img.byte (p + 2) <;> cases mode <;> simp [a, r, g, b, bind, Except.bind, pure, Except.pure] at computed <;>
    · rw [← computed]
      rfl

theorem pwgPixels_shape {count : ℕ} {p : ℤ} (computed : pwgPixels img mode count p = .ok row) :
    row.length = count ∧ ∀ pixel ∈ row, pixel.length = mode.channels := by
  induction count generalizing p row with
  | zero =>
    cases computed
    exact ⟨rfl, by simp⟩
  | succ count ih =>
    cases first : pwgPixel img mode p with
    | error error => simp [pwgPixels, first, bind, Except.bind] at computed
    | ok pixel =>
      cases others : pwgPixels img mode count (p + 4) with
      | error error => simp [pwgPixels, first, others, bind, Except.bind] at computed
      | ok pixels =>
        have whole : pixel :: pixels = row := by
          simpa [pwgPixels, first, others, bind, Except.bind, pure, Except.pure] using computed
        obtain ⟨length, sized⟩ := ih others
        rw [← whole]
        exact ⟨by rw [List.length_cons, length], List.forall_mem_cons.mpr ⟨length_pwgPixel first, sized⟩⟩

section Rows

variable {row : ℕ → Except PwgError (List Pixel)} {h more : ℕ} {current : List Pixel}

/-- The rows counted are the current one. -/
theorem equalRows_spec {limit y : ℕ} (counted : equalRows row h current limit y = .ok more) :
    more ≤ limit ∧ (y < h → y + more < h) ∧ ∀ k, k < more → row (y + 1 + k) = .ok current := by
  induction limit generalizing y more with
  | zero =>
    cases counted
    exact ⟨le_rfl, id, fun k small => absurd small (Nat.not_lt_zero k)⟩
  | succ limit ih =>
    rw [equalRows] at counted
    split at counted
    case isFalse =>
      cases counted
      exact ⟨Nat.zero_le _, id, fun k small => absurd small (Nat.not_lt_zero k)⟩
    case isTrue inside =>
      cases scratch : row (y + 1) with
      | error error => simp [scratch, bind, Except.bind] at counted
      | ok computed =>
        simp only [scratch, bind, Except.bind] at counted
        split at counted
        case isFalse =>
          cases counted
          exact ⟨Nat.zero_le _, id, fun k small => absurd small (Nat.not_lt_zero k)⟩
        case isTrue same =>
          cases further : equalRows row h current limit (y + 1) with
          | error error => simp [further] at counted
          | ok others =>
            simp only [further] at counted
            cases counted
            obtain ⟨limited, within, equal⟩ := ih further
            refine ⟨by omega, fun _ => by have := within inside; omega, ?_⟩
            intro k small
            cases k with
            | zero => rw [Nat.add_zero, scratch, same]
            | succ k =>
              have next := equal k (by omega)
              rwa [show y + 1 + 1 + k = y + 1 + (k + 1) by omega] at next

/-- Rows `y` to `h`. -/
def RowsFrom (row : ℕ → Except PwgError (List Pixel)) (h y : ℕ) (rows : List (List Pixel)) : Prop :=
  rows.length = h - y ∧ ∀ k computed, rows[k]? = some computed → row (y + k) = .ok computed

/-- A group of equal rows before the others. -/
theorem RowsFrom.group {y : ℕ} {rows : List (List Pixel)} (others : RowsFrom row h (y + (more + 1)) rows)
    (first : row y = .ok current) (within : y + more < h)
    (equal : ∀ k, k < more → row (y + 1 + k) = .ok current) :
    RowsFrom row h y (List.replicate (more + 1) current ++ rows) := by
  obtain ⟨length, computed⟩ := others
  refine ⟨by rw [List.length_append, List.length_replicate, length]; omega, ?_⟩
  intro k found isRow
  by_cases inGroup : k < more + 1
  · rw [List.getElem?_append_left (by simpa using inGroup), List.getElem?_replicate, if_pos inGroup] at isRow
    cases isRow
    cases k with
    | zero => exact first
    | succ k =>
      have next := equal k (by omega)
      rwa [Nat.add_right_comm] at next
  · rw [List.getElem?_append_right (by simpa using inGroup), List.length_replicate] at isRow
    have next := computed _ _ isRow
    rwa [show y + (more + 1) + (k - (more + 1)) = y + k by omega] at next

/-- What the loop appends is read as the rows that are left. -/
theorem encodeRows_spec {size width : ℕ}
    (shaped : ∀ y computed, row y = .ok computed → computed.length = width ∧ ∀ pixel ∈ computed, pixel.length = size)
    {y : ℕ} {current : List Pixel} {out out' : List UInt8} (first : row y = .ok current)
    (encoded : encodeRows row h y current out = .ok out') :
    ∃ body rows, out' = out ++ body ∧ RowsFrom row h y rows ∧ readRows size width (h - y) body = some (rows, []) := by
  induction y, current, out using encodeRows.induct row h with
  | case1 y current out _ error counted =>
    rw [encodeRows, if_pos ‹y < h›, counted] at encoded
    cases encoded
  | case2 y current out inside more counted written overBudget =>
    rw [encodeRows, if_pos inside, counted] at encoded
    simp only at encoded
    rw [if_pos overBudget] at encoded
    cases encoded
  | case3 y current out inside more counted written budget further error failed =>
    rw [encodeRows, if_pos inside, counted] at encoded
    simp only at encoded
    rw [if_neg budget, if_pos further, failed] at encoded
    cases encoded
  | case4 y current out inside more counted written budget further next computed ih =>
    rw [encodeRows, if_pos inside, counted] at encoded
    simp only at encoded
    rw [if_neg budget, if_pos further, computed] at encoded
    obtain ⟨body, rows, rfl, others, read⟩ := ih computed encoded
    obtain ⟨limited, within, equal⟩ := equalRows_spec counted
    have more_toNat : (UInt8.ofNat more).toNat = more := UInt8.toNat_ofNat_of_lt (show more < 256 by omega)
    obtain ⟨length, sized⟩ := shaped y current first
    have packed : readRow size width (pwgPackRow current ++ body) = some (current, body) :=
      length ▸ readRow_pwgPackRow sized body
    refine ⟨UInt8.ofNat more :: (pwgPackRow current ++ body), List.replicate (more + 1) current ++ rows, ?_,
      others.group first (within inside) equal, ?_⟩
    · simp [written]
    · have page := readRows_cons packed (show (UInt8.ofNat more).toNat + 1 ≤ h - y by omega)
        (by rw [more_toNat, Nat.sub_sub]; exact read)
      rwa [more_toNat] at page
  | case5 y current out inside more counted written budget last =>
    rw [encodeRows, if_pos inside, counted] at encoded
    simp only at encoded
    rw [if_neg budget, if_neg last] at encoded
    cases encoded
    obtain ⟨limited, within, equal⟩ := equalRows_spec counted
    have more_toNat : (UInt8.ofNat more).toNat = more := UInt8.toNat_ofNat_of_lt (show more < 256 by omega)
    obtain ⟨length, sized⟩ := shaped y current first
    have packed : readRow size width (pwgPackRow current ++ []) = some (current, []) :=
      length ▸ readRow_pwgPackRow sized []
    have none_left : h - y - (more + 1) = 0 := by omega
    have empty : RowsFrom row h (y + (more + 1)) [] := ⟨by simp; omega, by simp⟩
    refine ⟨UInt8.ofNat more :: (pwgPackRow current ++ []), List.replicate (more + 1) current ++ [], ?_,
      empty.group first (within inside) equal, ?_⟩
    · simp
    · have page := readRows_cons packed (show (UInt8.ofNat more).toNat + 1 ≤ h - y by
        have := within inside; omega) (by rw [more_toNat, none_left, readRows]; rfl)
      rwa [more_toNat] at page
  | case6 y current out outside =>
    rw [encodeRows, if_neg outside] at encoded
    cases encoded
    have none_left : h - y = 0 := by omega
    refine ⟨[], [], by simp, ⟨by simp [none_left], by simp⟩, ?_⟩
    rw [none_left, readRows]
    rfl

end Rows

theorem length_put (header : List UInt8) (place value : ℕ) : (put header place value).length = header.length := by
  simp [put]

theorem length_pwgHeader (w h dpi totalPages : ℤ) (pageWidthPts pageHeightPts : ℚ) (mode : PwgRasterColor) :
    (pwgHeader w h dpi totalPages pageWidthPts pageHeightPts mode).length = 1796 := by
  simp only [pwgHeader, List.foldl_cons, List.foldl_nil, length_put, List.length_append, List.length_replicate]
  rfl

/-- The bytes a page has after its header are read, to the last one, as the rows of the image. -/
theorem pwg_page_reads_back {out out' : List UInt8} {img : RGBA} {dpi totalPages : ℤ}
    {pageWidthPts pageHeightPts : Option ℚ} {mode : PwgRasterColor}
    (encoded : encodePWGPage out img dpi totalPages pageWidthPts pageHeightPts mode = .ok out') :
    ∃ header body rows, out' = out ++ header ++ body ∧ header.length = 1796 ∧
      readRows mode.channels img.dx.toNat img.dy.toNat body = some (rows, []) ∧
      rows.length = img.dy.toNat ∧ ∀ y row, rows[y]? = some row → pwgRasterRow img mode y = .ok row := by
  unfold encodePWGPage at encoded
  split at encoded
  case h_2 => exact absurd encoded (by simp)
  case h_1 width height =>
    simp only at encoded
    split at encoded
    · exact absurd encoded (by simp)
    split at encoded
    · exact absurd encoded (by simp)
    split at encoded
    · exact absurd encoded (by simp)
    rename_i current first
    have shaped (y : ℕ) (row : List Pixel) (computed : pwgRasterRow img mode y = .ok row) :
        row.length = img.dx.toNat ∧ ∀ pixel ∈ row, pixel.length = mode.channels := pwgPixels_shape computed
    obtain ⟨body, rows, appended, ⟨length, computed⟩, read⟩ := encodeRows_spec shaped first encoded
    refine ⟨_, body, rows, appended, length_pwgHeader .., by simpa using read, by simpa using length, ?_⟩
    intro y row isRow
    simpa using computed y row isRow

/-- Two rows of three pixels each, of which the last two are half transparent black. -/
def smallPage : RGBA where
  pix := [255, 0, 0, 255, 0, 0, 0, 128, 0, 0, 0, 128, 255, 0, 0, 255, 0, 0, 0, 128, 0, 0, 0, 128]
  stride := 12
  minX := 0
  minY := 0
  maxX := 3
  maxY := 2

theorem pwg_page_reads_back_small : ∃ out', encodePWGPage [] smallPage 300 1 (some 72) (some 72) .gray8 = .ok out' ∧
    ∃ header body rows, out' = [] ++ header ++ body ∧ header.length = 1796 ∧ readRows 1 3 2 body = some (rows, []) ∧
      rows.length = 2 ∧ ∀ y row, rows[y]? = some row → pwgRasterRow smallPage .gray8 y = .ok row := by
  have succeeds : (encodePWGPage [] smallPage 300 1 (some 72) (some 72) .gray8).isOk = true := by decide +kernel
  cases encoded : encodePWGPage [] smallPage 300 1 (some 72) (some 72) .gray8 with
  | error error =>
    rw [encoded] at succeeds
    exact absurd succeeds Bool.false_ne_true
  | ok out' => exact ⟨out', rfl, pwg_page_reads_back encoded⟩

end PrintGateway.Agent
