import PrintGateway.Codec.Bits
import PrintGateway.Machine.Keyed
import PrintGateway.Model.Agent.Image

/-!
# Raster bands read back

`jpegToESCPOS` writes the rows of an image in bands of at most `sliceHeight` rows.  The rows of the bands are
the rows of the image, one bit a pixel, and there are as many bytes as the header of the JPEG announced.
-/

namespace PrintGateway.Agent

open Codec Codec.Bits Machine

/-! ### Pixels -/

/-- The luma of a pixel is below the threshold. -/
def Image.isDark (img : Image) (x y : ℕ) : Bool :=
  match img.color x y with
  | .ok c => decide (grayscale c < 180)
  | .error _ => false

section Pixels

variable {img : Image} {width height : ℤ} {x y : ℕ}

theorem RGBA.exists_sample {img : RGBA} {p : ℤ} (nonneg : 0 ≤ p) (inside : p < img.pix.length) :
    ∃ byte, img.sample p = .ok byte := by
  have place : p.toNat < img.pix.length := by omega
  refine ⟨img.pix[p.toNat], ?_⟩
  simp [RGBA.sample, RGBA.byte, not_lt.mpr nonneg, List.getElem?_eq_getElem place, Except.mapError]

/-- Both ways to compute the luma of an opaque color agree. -/
theorem grayscale_widen (r g b a : UInt8) : grayscale ⟨widen r, widen g, widen b, widen a⟩ =
      UInt8.ofNat ((299 * r.toNat + 587 * g.toNat + 114 * b.toNat) / 1000) := by
  have wide : ∀ channel : UInt8, (widen channel).toNat = channel.toNat * 257 := fun channel => by
    have small : channel.toNat * 257 < 2 ^ 16 := by
      have := channel.toNat_lt
      omega
    rw [widen, UInt16.toNat_mul, UInt8.toNat_toUInt16]
    exact Nat.mod_eq_of_lt small
  simp only [grayscale, wide]
  congr 1
  omega

/-- The loop reads the color of every pixel of an image. -/
theorem exists_rasterLuma (allocated : img.Allocated width height) (left : x < width) (above : y < height) :
    ∃ luma, rasterLuma img x y = .ok luma ∧ decide (luma < 180) = img.isDark x y := by
  cases img with
  | other minX minY maxX maxY pixel =>
    obtain ⟨rfl, rfl, -, -⟩ := allocated
    exact ⟨grayscale (pixel x y), by simp [rasterLuma, Image.color, bind, Except.bind, pure, Except.pure],
      by simp [Image.isDark, Image.color]⟩
  | rgba img =>
    obtain ⟨noX, noY, right, bottom, stride, size⟩ := allocated
    have offset : img.pixOffset x y = y * (4 * width) + x * 4 := by
      simp [RGBA.pixOffset, noX, noY, stride]
    have last : (y : ℤ) * (4 * width) + x * 4 + 4 ≤ img.pix.length := by
      have rows : ((y : ℤ) + 1) * (4 * width) ≤ height * (4 * width) :=
        mul_le_mul_of_nonneg_right (by omega) (by omega)
      linarith
    have start : 0 ≤ (y : ℤ) * (4 * width) + x * 4 := by
      have : 0 ≤ (y : ℤ) * (4 * width) := mul_nonneg (by omega) (by omega)
      omega
    have sampled : ∀ p, (y : ℤ) * (4 * width) + x * 4 ≤ p → p < (y : ℤ) * (4 * width) + x * 4 + 4 →
        ∃ byte, img.sample p = .ok byte := fun p low high =>
      RGBA.exists_sample (start.trans low) (high.trans_le last)
    obtain ⟨r, hr⟩ := sampled _ le_rfl (by omega)
    obtain ⟨g, hg⟩ := sampled ((y : ℤ) * (4 * width) + x * 4 + 1) (by omega) (by omega)
    obtain ⟨b, hb⟩ := sampled ((y : ℤ) * (4 * width) + x * 4 + 2) (by omega) (by omega)
    obtain ⟨a, ha⟩ := sampled ((y : ℤ) * (4 * width) + x * 4 + 3) (by omega) (by omega)
    have colored : (Image.rgba img).color x y = .ok ⟨widen r, widen g, widen b, widen a⟩ := by
      have inside : img.minX ≤ (x : ℤ) ∧ (x : ℤ) < img.maxX ∧ img.minY ≤ (y : ℤ) ∧ (y : ℤ) < img.maxY := by
        omega
      simp only [Image.color, inside, and_self, if_true, offset, hr, hg, hb, ha, bind, Except.bind, pure, Except.pure]
    refine ⟨UInt8.ofNat ((299 * r.toNat + 587 * g.toNat + 114 * b.toNat) / 1000), ?_, ?_⟩
    · simp only [rasterLuma, noX, noY, stride, sub_zero, add_zero, hr, hg, hb, bind, Except.bind, pure, Except.pure]
    · rw [Image.isDark, colored, ← grayscale_widen r g b a]

end Pixels

/-! ### Bands -/

section Bands

variable {img : Image} {width height : ℤ} {w h rowBytes yStart bandHeight : ℕ}

theorem foldlM_of_ok {State Item Error : Type} {f : State → Item → Except Error State} {g : State → Item → State}
    {items : List Item} {s : State} (steps : ∀ s, ∀ item ∈ items, f s item = .ok (g s item)) :
    items.foldlM f s = .ok (items.foldl g s) := by
  induction items generalizing s with
  | nil => rfl
  | cons item items ih =>
    rw [List.foldlM_cons, steps s item List.mem_cons_self, List.foldl_cons]
    exact ih fun s item member => steps s item (List.mem_cons_of_mem _ member)

/-- The bits of the dark pixels of a row. -/
def darkPlaces (img : Image) (w rowBytes yStart row : ℕ) : List ℕ :=
  ((List.range w).filter (img.isDark · (yStart + row))).map (8 * (row * rowBytes) + ·)

theorem bandRaster_eq (allocated : img.Allocated w h) (inside : yStart + bandHeight ≤ h) :
    bandRaster img w rowBytes yStart bandHeight = .ok (setBits (List.replicate (rowBytes * bandHeight) 0)
        ((List.range bandHeight).flatMap (darkPlaces img w rowBytes yStart))) := by
  rw [setBits, List.foldl_flatMap]
  refine foldlM_of_ok fun raster row listed => ?_
  rw [darkPlaces, List.foldl_map, List.foldl_filter]
  refine foldlM_of_ok fun raster x member => ?_
  have above : yStart + row < h := by
    have := List.mem_range.mp listed
    omega
  obtain ⟨luma, read, dark⟩ := exists_rasterLuma allocated (y := yStart + row)
    (by exact_mod_cast List.mem_range.mp member) (by exact_mod_cast above)
  have place : setBit raster (8 * (row * rowBytes) + x) =
      raster.modify (row * rowBytes + x / 8) (· ||| 0x80 >>> UInt8.ofNat (x % 8)) := by
    have byte : (8 * (row * rowBytes) + x) / 8 = row * rowBytes + x / 8 := by omega
    have offset : (8 * (row * rowBytes) + x) % 8 = x % 8 := by omega
    rw [setBit, mask, byte, offset]
  simp only [read, ← dark, place, bind, Except.bind, pure, Except.pure, decide_eq_true_eq]

/-- A row of bits: the dark pixels of a row of the image, and zeros behind them. -/
def IsRow (img : Image) (w rowBytes y : ℕ) (row : List UInt8) : Prop :=
  row.length = rowBytes ∧ ∀ x < 8 * rowBytes, bit row x = (decide (x < w) && img.isDark x y)

theorem mem_darkPlaces {row j : ℕ} : j ∈ darkPlaces img w rowBytes yStart row ↔
      ∃ x < w, img.isDark x (yStart + row) = true ∧ 8 * (row * rowBytes) + x = j := by
  simp [darkPlaces, and_assoc]

/-- The bits of a band. -/
theorem bit_band {row x : ℕ} (wide : w ≤ 8 * rowBytes) (inside : row < bandHeight) (here : x < 8 * rowBytes) :
    bit (setBits (List.replicate (rowBytes * bandHeight) 0)
        ((List.range bandHeight).flatMap (darkPlaces img w rowBytes yStart))) (8 * (row * rowBytes) + x) =
      (decide (x < w) && img.isDark x (yStart + row)) := by
  have bounds : ∀ i ∈ (List.range bandHeight).flatMap (darkPlaces img w rowBytes yStart),
      i / 8 < (List.replicate (rowBytes * bandHeight) (0 : UInt8)).length := by
    intro i listed
    obtain ⟨other, member, place⟩ := List.mem_flatMap.mp listed
    obtain ⟨z, left, -, rfl⟩ := mem_darkPlaces.mp place
    have rows : (other + 1) * rowBytes ≤ bandHeight * rowBytes :=
      Nat.mul_le_mul_right _ (List.mem_range.mp member)
    rw [List.length_replicate, mul_comm rowBytes]
    rw [Nat.add_mul] at rows
    omega
  -- the place of a bit tells its row, because no pixel lies behind the bytes of its row
  have same : ∀ other z, z < 8 * rowBytes → 8 * (other * rowBytes) + z = 8 * (row * rowBytes) + x →
      other = row ∧ z = x := by
    intro other z left place
    rw [← Nat.mul_assoc, ← Nat.mul_assoc, Nat.mul_right_comm, Nat.mul_right_comm 8 row] at place
    have quotient := congrArg (· / (8 * rowBytes)) place
    have remainder := congrArg (· % (8 * rowBytes)) place
    have positive : 0 < 8 * rowBytes := by omega
    simp only [Nat.mul_add_div positive, Nat.div_eq_of_lt left, Nat.div_eq_of_lt here, Nat.mul_add_mod,
      Nat.mod_eq_of_lt left, Nat.mod_eq_of_lt here] at quotient remainder
    exact ⟨by omega, remainder⟩
  rw [bit_setBits bounds, bit_replicate_zero, Bool.or_false, Bool.eq_iff_iff]
  simp only [decide_eq_true_eq, List.mem_flatMap, List.mem_range, mem_darkPlaces, Bool.and_eq_true]
  constructor
  · rintro ⟨other, -, z, left, dark, place⟩
    obtain ⟨rfl, rfl⟩ := same other z (by omega) place
    exact ⟨left, dark⟩
  · rintro ⟨left, dark⟩
    exact ⟨row, inside, x, left, dark, rfl⟩

/-- A band as a printer reads it. -/
structure Band where
  rowBytes : ℕ
  height : ℕ
  raster : List UInt8
  deriving DecidableEq, Repr

namespace Band

def bytes (band : Band) : List UInt8 := bandHeader band.rowBytes band.height ++ band.raster

def rows (band : Band) : List (List UInt8) :=
  (List.range band.height).map fun row => (band.raster.drop (row * band.rowBytes)).take band.rowBytes

/-- A band whose size the header can tell. -/
structure Valid (band : Band) : Prop where
  rowBytes : band.rowBytes < 65536
  height : band.height < 65536
  raster : band.raster.length = band.rowBytes * band.height

end Band

/-- The bands a printer reads. -/
def readBands (bytes : List UInt8) : Option (List Band) :=
  match bytes with
  | [] => some []
  | a :: b :: c :: d :: wl :: wh :: hl :: hh :: rest =>
    let rowBytes := wl.toNat + 256 * wh.toNat
    let height := hl.toNat + 256 * hh.toNat
    if [a, b, c, d] = [0x1d, 0x76, 0x30, 0x00] ∧ rowBytes * height ≤ rest.length then
      (readBands (rest.drop (rowBytes * height))).map (⟨rowBytes, height, rest.take (rowBytes * height)⟩ :: ·)
    else none
  | _ => none
termination_by bytes.length
decreasing_by
  simp only [List.length_drop, List.length_cons]
  omega

/-- A number of 16 bits from its two bytes. -/
theorem two_bytes {n : ℕ} (small : n < 65536) : (UInt8.ofNat n).toNat + 256 * (UInt8.ofNat (n >>> 8)).toNat = n := by
  simp only [UInt8.toNat_ofNat', Nat.shiftRight_eq_div_pow]
  omega

theorem readBands_flatMap_bytes {bands : List Band} (valid : ∀ band ∈ bands, band.Valid) :
    readBands (bands.flatMap Band.bytes) = some bands := by
  induction bands with
  | nil => simp [readBands]
  | cons band bands ih =>
    obtain ⟨narrow, short, size⟩ := valid band List.mem_cons_self
    have rest := ih fun other member => valid other (List.mem_cons_of_mem _ member)
    simp only [List.flatMap_cons, Band.bytes, bandHeader, List.cons_append, List.nil_append]
    rw [readBands]
    simp only [two_bytes narrow, two_bytes short, ← size, List.length_append, Nat.le_add_right, and_self, if_true,
      List.drop_left, List.take_left, rest, Option.map_some]

/-- The bands from a row on. -/
def bandsFrom (img : Image) (w h rowBytes : ℕ) (sliceHeight : {n : ℕ // 0 < n}) (yStart : ℕ) : List Band :=
  if yStart < h then
    let bandHeight := if h < yStart + sliceHeight then h - yStart else sliceHeight
    ⟨rowBytes, bandHeight, setBits (List.replicate (rowBytes * bandHeight) 0)
        ((List.range bandHeight).flatMap (darkPlaces img w rowBytes yStart))⟩ ::
      bandsFrom img w h rowBytes sliceHeight (yStart + sliceHeight)
  else []
termination_by h - yStart
decreasing_by
  have := sliceHeight.property
  omega

variable {sliceHeight : {n : ℕ // 0 < n}}

theorem writeBands_eq (allocated : img.Allocated w h) (out : List UInt8) :
    writeBands img w h rowBytes sliceHeight yStart out =
      .ok (out ++ (bandsFrom img w h rowBytes sliceHeight yStart).flatMap Band.bytes) := by
  fun_induction bandsFrom img w h rowBytes sliceHeight yStart generalizing out with
  | case1 yStart more bandHeight ih =>
    have inside : yStart + bandHeight ≤ h := by
      simp only [bandHeight]
      split <;> omega
    rw [writeBands, if_pos more]
    change (bandRaster img w rowBytes yStart bandHeight >>= _) = _
    rw [bandRaster_eq allocated inside, List.flatMap_cons, Band.bytes, ← List.append_assoc, ← List.append_assoc]
    exact ih _
  | case2 yStart done => rw [writeBands, if_neg done, List.flatMap_nil, List.append_nil]

theorem mem_bandsFrom {band : Band} (member : band ∈ bandsFrom img w h rowBytes sliceHeight yStart) :
    band.rowBytes = rowBytes ∧ 0 < band.height ∧ band.height ≤ sliceHeight ∧
      band.raster.length = rowBytes * band.height := by
  fun_induction bandsFrom img w h rowBytes sliceHeight yStart with
  | case1 yStart more bandHeight ih =>
    rcases List.mem_cons.mp member with rfl | later
    · have := sliceHeight.property
      refine ⟨rfl, ?_, ?_, by simp⟩
      · dsimp only [bandHeight]
        split <;> omega
      · dsimp only [bandHeight]
        split <;> omega
    · exact ih later
  | case2 yStart done => cases member

/-- The rows of the bands are the rows of the image. -/
theorem rows_bandsFrom (wide : w ≤ 8 * rowBytes) :
    List.Forall₂ (IsRow img w rowBytes) (List.range' yStart (h - yStart))
      ((bandsFrom img w h rowBytes sliceHeight yStart).flatMap Band.rows) := by
  fun_induction bandsFrom img w h rowBytes sliceHeight yStart with
  | case1 yStart more bandHeight ih =>
    have count : h - yStart = bandHeight + (h - (yStart + sliceHeight)) := by
      simp only [bandHeight]
      split <;> omega
    have next : List.range' (yStart + bandHeight) (h - (yStart + sliceHeight)) =
        List.range' (yStart + sliceHeight) (h - (yStart + sliceHeight)) := by
      simp only [bandHeight]
      split
      · rw [show h - (yStart + sliceHeight) = 0 by omega]
        rfl
      · rfl
    rw [count, ← List.range'_append_1, next, List.flatMap_cons]
    refine List.rel_append ?_ ih
    rw [List.range'_eq_map_range, Band.rows, List.forall₂_map_left_iff, List.forall₂_map_right_iff, List.forall₂_same]
    intro row member
    have inside := List.mem_range.mp member
    have room : (row + 1) * rowBytes ≤ rowBytes * bandHeight := by
      rw [mul_comm rowBytes]
      exact Nat.mul_le_mul_right _ inside
    refine ⟨?_, fun x here => ?_⟩
    · simp only [List.length_take, List.length_drop, length_setBits, List.length_replicate]
      rw [Nat.add_mul] at room
      omega
    · rw [bit_take_drop here, bit_band wide inside here]
  | case2 yStart done =>
    rw [Nat.sub_eq_zero_of_le (by omega)]
    exact .nil

theorem length_bandsFrom : ((bandsFrom img w h rowBytes sliceHeight yStart).flatMap Band.bytes).length =
      rowBytes * (h - yStart) + (h - yStart + sliceHeight - 1) / sliceHeight * 8 := by
  have positive := sliceHeight.property
  fun_induction bandsFrom img w h rowBytes sliceHeight yStart with
  | case1 yStart more bandHeight ih =>
    have count : h - yStart = bandHeight + (h - (yStart + sliceHeight)) := by
      simp only [bandHeight]
      split <;> omega
    have bands : (h - yStart + sliceHeight - 1) / sliceHeight =
        (h - (yStart + sliceHeight) + sliceHeight - 1) / sliceHeight + 1 := by
      by_cases full : yStart + sliceHeight ≤ h
      · rw [← Nat.add_div_right _ positive]
        congr 1
        omega
      · have one : (h - yStart + sliceHeight - 1) / sliceHeight = 1 := Nat.div_eq_of_lt_le (by omega) (by omega)
        have none : (h - (yStart + sliceHeight) + sliceHeight - 1) / sliceHeight = 0 :=
          Nat.div_eq_of_lt (by omega)
        rw [one, none]
    rw [List.flatMap_cons, List.length_append, ih, bands, count, Nat.mul_add]
    simp only [Band.bytes, bandHeader, List.length_append, List.length_cons, List.length_nil, length_setBits,
      List.length_replicate]
    omega
  | case2 yStart done =>
    rw [Nat.sub_eq_zero_of_le (by omega), Nat.div_eq_of_lt (by omega)]
    rfl

end Bands

/-! ### Sizes -/

section Sizes

variable {img shown : Image} {width height maxWidth : ℤ} {cfg : JpegConfig} {jpeg : JpegDecoder} {data : List UInt8}

theorem Image.Allocated.dx_eq (allocated : img.Allocated width height) : img.dx = width := by
  cases img with
  | rgba img =>
    obtain ⟨noX, -, right, -, -, -⟩ := allocated
    rw [Image.dx, RGBA.dx, noX, right, sub_zero]
  | other minX minY maxX maxY pixel =>
    obtain ⟨noX, -, right, -⟩ := allocated
    rw [Image.dx, noX, right, sub_zero]

theorem Image.Allocated.dy_eq (allocated : img.Allocated width height) : img.dy = height := by
  cases img with
  | rgba img =>
    obtain ⟨-, noY, -, bottom, -, -⟩ := allocated
    rw [Image.dy, RGBA.dy, noY, bottom, sub_zero]
  | other minX minY maxX maxY pixel =>
    obtain ⟨-, noY, -, bottom⟩ := allocated
    rw [Image.dy, noY, bottom, sub_zero]

theorem length_flatten_stored (colors : List Color) :
    (colors.map Color.stored).flatten.length = 4 * colors.length := by
  induction colors with
  | nil => rfl
  | cons c colors ih =>
    rw [List.map_cons, List.flatten_cons, List.length_append, ih, List.length_cons]
    simp only [Color.stored, List.map_cons, List.map_nil, List.length_cons, List.length_nil]
    omega

theorem scaledHeight_pos (height maxWidth width : ℤ) : 0 < scaledHeight height maxWidth width :=
  lt_of_lt_of_le (by decide) (le_max_left 1 _)

/-- A resized image has the maximum width, and the height that was computed from the header. -/
theorem resizeNearest_allocated (allocated : img.Allocated width height) (positive : 0 < maxWidth)
    (wide : maxWidth < width) (resized : resizeNearest img maxWidth = .ok shown) :
    shown.Allocated maxWidth (scaledHeight height maxWidth width) := by
  have fits : ¬(maxWidth ≤ 0 ∨ img.dx ≤ maxWidth) := by
    rw [allocated.dx_eq]
    omega
  rw [resizeNearest, if_neg fits, allocated.dx_eq, allocated.dy_eq] at resized
  obtain ⟨rows, read, resized⟩ := exists_of_bind_eq_ok resized
  cases resized
  obtain ⟨count, outer⟩ := of_mapM_eq_ok read
  have each : ∀ row ∈ rows, row.length = maxWidth.toNat := by
    intro row member
    obtain ⟨y, read⟩ := outer row member
    rw [(of_mapM_eq_ok read).1, List.length_range]
  have total : rows.flatten.length = (scaledHeight height maxWidth width).toNat * maxWidth.toNat := by
    rw [List.length_flatten, List.map_congr_left each, List.map_const', List.sum_replicate_nat, count, List.length_range]
  have tall := scaledHeight_pos height maxWidth width
  refine ⟨rfl, rfl, rfl, rfl, rfl, ?_⟩
  rw [length_flatten_stored, total]
  push_cast
  rw [Int.toNat_of_nonneg tall.le, Int.toNat_of_nonneg positive.le]
  ring

theorem decodeJPEGConfig_eq_ok (decoded : decodeJPEGConfig jpeg data = .ok cfg) :
    jpeg.decodeConfig data = .ok cfg ∧ 0 < cfg.width ∧ 0 < cfg.height ∧ cfg.width ≤ maxJPEGDimension := by
  unfold decodeJPEGConfig at decoded
  split at decoded
  · cases decoded
  · split_ifs at decoded with empty large
    cases decoded
    exact ⟨‹_›, by omega, by omega, by omega⟩

theorem fitWidth_allocated (allocated : img.Allocated width height) (positive : 0 < maxWidth)
    (fitted : fitWidth img maxWidth = .ok shown) :
    shown.Allocated (if maxWidth < width then maxWidth else width)
      (if maxWidth < width then scaledHeight height maxWidth width else height) := by
  rw [fitWidth, allocated.dx_eq] at fitted
  by_cases wide : maxWidth < width
  · rw [if_pos wide] at fitted ⊢
    rw [if_pos wide]
    exact resizeNearest_allocated allocated positive wide fitted
  · rw [if_neg wide] at fitted ⊢
    rw [if_neg wide]
    cases fitted
    exact allocated

end Sizes

/-- The steps of a conversion that succeeded. -/
theorem jpegToESCPOS_eq_ok {jpeg : JpegDecoder} {data out : List UInt8} {sliceHeight maxWidth : ℤ}
    (accepted : jpegToESCPOS jpeg data sliceHeight maxWidth = .ok out) :
    ∃ cfg img shown, decodeJPEGConfig jpeg data = .ok cfg ∧
      rasterBytes cfg (rasterSlice sliceHeight).val (rasterWidth maxWidth) ≤ maxRasterOutputBytes ∧
      jpeg.decode data = .ok img ∧ fitWidth img (rasterWidth maxWidth) = .ok shown ∧
      writeBands shown shown.dx.toNat shown.dy.toNat ((shown.dx.toNat + 7) / 8) (rasterSlice sliceHeight) 0
        [0x1b, 0x40] = .ok out := by
  obtain ⟨cfg, header, accepted⟩ := exists_of_bind_eq_ok accepted
  split_ifs at accepted with empty large
  obtain ⟨img, decoded, accepted⟩ := exists_of_bind_eq_ok accepted
  obtain ⟨shown, fitted, accepted⟩ := exists_of_bind_eq_ok accepted
  have read : jpeg.decode data = .ok img := by
    cases result : jpeg.decode data with
    | error reason =>
      rw [result] at decoded
      cases decoded
    | ok value =>
      rw [result] at decoded
      cases decoded
      rfl
  exact ⟨cfg, img, shown, header, not_lt.mp large, read, fitted, accepted⟩

theorem rasterWidth_pos (maxWidth : ℤ) : 0 < rasterWidth maxWidth := by
  rw [rasterWidth]
  split
  · decide
  · omega

/-- An accepted JPEG becomes the initialisation and bands.  A printer that reads the bands finds the rows of
the resized image, with a bit for every pixel, and as many bytes as were computed from the header. -/
theorem jpegToESCPOS_reads_back (jpeg : JpegDecoder) (data : List UInt8) (sliceHeight maxWidth : ℤ)
    (positive : 1 ≤ sliceHeight) (small : sliceHeight ≤ 65535) (out : List UInt8)
    (accepted : jpegToESCPOS jpeg data sliceHeight maxWidth = .ok out) :
    ∃ cfg img shown bands, jpeg.decodeConfig data = .ok cfg ∧ jpeg.decode data = .ok img ∧
      fitWidth img (rasterWidth maxWidth) = .ok shown ∧
      out = [0x1b, 0x40] ++ bands.flatMap Band.bytes ∧ readBands (out.drop 2) = some bands ∧
      (∀ band ∈ bands, (band.rowBytes : ℤ) = (shown.dx + 7) / 8 ∧ 0 < band.height ∧ band.height ≤ sliceHeight) ∧
      List.Forall₂ (IsRow shown shown.dx.toNat ((shown.dx.toNat + 7) / 8)) (List.range shown.dy.toNat)
        (bands.flatMap Band.rows) ∧
      (out.length : ℤ) = rasterBytes cfg sliceHeight (rasterWidth maxWidth) ∧ out.length ≤ maxRasterOutputBytes := by
  have slice : ((rasterSlice sliceHeight).val : ℤ) = sliceHeight := by
    rw [rasterSlice, dif_neg (by omega)]
    exact Int.toNat_of_nonneg (by omega)
  obtain ⟨cfg, img, shown, header, limited, decoded, fitted, written⟩ := jpegToESCPOS_eq_ok accepted
  obtain ⟨declared, wide, tall, narrow⟩ := decodeJPEGConfig_eq_ok header
  have allocated := fitWidth_allocated (jpeg.sized declared decoded) (rasterWidth_pos maxWidth) fitted
  obtain ⟨w, hw⟩ : ∃ w : ℕ, (w : ℤ) = if rasterWidth maxWidth < cfg.width then rasterWidth maxWidth else cfg.width := by
    refine ⟨_, Int.toNat_of_nonneg ?_⟩
    have := rasterWidth_pos maxWidth
    split <;> omega
  obtain ⟨h, hh⟩ : ∃ h : ℕ, (h : ℤ) = if rasterWidth maxWidth < cfg.width then
      scaledHeight cfg.height (rasterWidth maxWidth) cfg.width else cfg.height := by
    refine ⟨_, Int.toNat_of_nonneg ?_⟩
    have := scaledHeight_pos cfg.height (rasterWidth maxWidth) cfg.width
    split <;> omega
  have bounded : (w : ℤ) ≤ maxJPEGDimension := by
    rw [hw]
    split <;> omega
  rw [← hw, ← hh] at allocated
  rw [allocated.dx_eq, allocated.dy_eq, Int.toNat_natCast, Int.toNat_natCast, writeBands_eq allocated] at written
  cases written
  have total : (([0x1b, 0x40] ++
      (bandsFrom shown w h ((w + 7) / 8) (rasterSlice sliceHeight) 0).flatMap Band.bytes).length : ℤ) =
        rasterBytes cfg sliceHeight (rasterWidth maxWidth) := by
    have counted : ((h + (rasterSlice sliceHeight).val - 1 : ℕ) : ℤ) = h + sliceHeight - 1 := by omega
    rw [rasterBytes, ← hw, ← hh, List.length_append, length_bandsFrom, Nat.sub_zero, List.length_cons,
      List.length_cons, List.length_nil]
    push_cast [counted, slice]
    ring
  have narrowRows : (w + 7) / 8 < 65536 := by
    unfold maxJPEGDimension at bounded
    omega
  refine ⟨cfg, img, shown, bandsFrom shown w h ((w + 7) / 8) (rasterSlice sliceHeight) 0, declared, decoded, fitted,
    rfl, ?_, ?_, ?_, ?_, ?_⟩
  · refine readBands_flatMap_bytes fun band member => ?_
    obtain ⟨rowBytes, -, short, size⟩ := mem_bandsFrom member
    exact ⟨by omega, by omega, by rw [size, rowBytes]⟩
  · intro band member
    obtain ⟨rowBytes, some, short, -⟩ := mem_bandsFrom member
    rw [allocated.dx_eq]
    omega
  · rw [allocated.dx_eq, allocated.dy_eq, Int.toNat_natCast, Int.toNat_natCast, List.range_eq_range']
    exact rows_bandsFrom (by omega)
  · exact total
  · rw [total, ← slice]
    exact limited

/-- A decoder that knows one image of ten by three pixels, whose first three columns are black. -/
def sampleDecoder : JpegDecoder where
  decodeConfig data := if data = [0xff, 0xd8, 0xff] then .ok ⟨10, 3, .gray⟩ else .error []
  decode data :=
    if data = [0xff, 0xd8, 0xff] then
      .ok (.other 0 0 10 3 fun x _ => if x < 3 then ⟨0, 0, 0, 65535⟩ else ⟨65535, 65535, 65535, 65535⟩)
    else .error []
  sized := by
    intro data cfg img declared decoded
    split_ifs at declared decoded
    cases declared
    cases decoded
    exact ⟨rfl, rfl, rfl, rfl⟩

/-- Ten columns become eight, of which three are black, and two rows in two bands. -/
theorem jpegToESCPOS_reads_back_sample : jpegToESCPOS sampleDecoder [0xff, 0xd8, 0xff] 1 8 =
        .ok [0x1b, 0x40, 0x1d, 0x76, 0x30, 0, 1, 0, 1, 0, 0xe0, 0x1d, 0x76, 0x30, 0, 1, 0, 1, 0, 0xe0] ∧
      ∃ bands, readBands [0x1d, 0x76, 0x30, 0, 1, 0, 1, 0, 0xe0, 0x1d, 0x76, 0x30, 0, 1, 0, 1, 0, 0xe0] = some bands ∧
        ∀ band ∈ bands, (band.height : ℤ) ≤ 1 := by
  have accepted : jpegToESCPOS sampleDecoder [0xff, 0xd8, 0xff] 1 8 =
      .ok [0x1b, 0x40, 0x1d, 0x76, 0x30, 0, 1, 0, 1, 0, 0xe0, 0x1d, 0x76, 0x30, 0, 1, 0, 1, 0, 0xe0] := by
    decide +kernel
  obtain ⟨_, _, _, bands, _, _, _, _, read, sizes, _⟩ :=
    jpegToESCPOS_reads_back sampleDecoder [0xff, 0xd8, 0xff] 1 8 (by decide) (by decide) _ accepted
  exact ⟨accepted, bands, read, fun band member => (sizes band member).2.2⟩

end PrintGateway.Agent
