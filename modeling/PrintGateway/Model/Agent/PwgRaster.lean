import Mathlib.Data.Rat.Floor
import PrintGateway.Codec.PackBits
import PrintGateway.Model.Agent.Payload

/-!
# PWG raster pages

`encodePWGPage` of `pwg_raster.go`.  A row is kept as its pixels, of one or three bytes.  An index outside
the bitmap panics.  A size in points is a rational number, or nothing when it is no finite number.
-/

namespace PrintGateway.Agent

open Codec.PackBits (Pixel)

/-- `image.RGBA`. -/
structure RGBA where
  pix : List UInt8
  stride : ℤ
  minX : ℤ
  minY : ℤ
  maxX : ℤ
  maxY : ℤ
  deriving DecidableEq, Repr

def RGBA.dx (img : RGBA) : ℤ := img.maxX - img.minX

def RGBA.dy (img : RGBA) : ℤ := img.maxY - img.minY

/-- `PixOffset`. -/
def RGBA.pixOffset (img : RGBA) (x y : ℤ) : ℤ := (y - img.minY) * img.stride + (x - img.minX) * 4

inductive PwgRasterColor
  | gray8
  | rgb8
  deriving DecidableEq, Repr

def PwgRasterColor.channels : PwgRasterColor → ℕ
  | .gray8 => 1
  | .rgb8 => 3

def PwgRasterColor.colorSpace : PwgRasterColor → ℕ
  | .gray8 => 18
  | .rgb8 => 19

inductive PwgError
  | invalidPage
  | headerBudget
  | rasterBudget
  | panic
  deriving DecidableEq, Repr

def pwgPageHeaderBytes : ℕ := 1796

def maxPDFRasterPixels : ℤ := 16000000

/-! ### Rows -/

/-- `img.Pix[p]`. -/
def RGBA.byte (img : RGBA) (p : ℤ) : Except PwgError UInt8 :=
  if p < 0 then .error .panic
  else
    match img.pix[p.toNat]? with
    | some byte => .ok byte
    | none => .error .panic

/-- A channel over opaque white. -/
def overWhite (channel alpha : UInt8) : ℕ := (channel.toNat * alpha.toNat + 255 * (255 - alpha.toNat)) / 255

/-- The pixel at an offset. -/
def pwgPixel (img : RGBA) (mode : PwgRasterColor) (p : ℤ) : Except PwgError Pixel := do
  let a ← img.byte (p + 3)
  let r := overWhite (← img.byte p) a
  let g := overWhite (← img.byte (p + 1)) a
  let b := overWhite (← img.byte (p + 2)) a
  match mode with
  | .gray8 => return [UInt8.ofNat ((2126 * r + 7152 * g + 722 * b + 5000) / 10000)]
  | .rgb8 => return [UInt8.ofNat r, UInt8.ofNat g, UInt8.ofNat b]

/-- The pixels from an offset on. -/
def pwgPixels (img : RGBA) (mode : PwgRasterColor) : ℕ → ℤ → Except PwgError (List Pixel)
  | 0, _ => return []
  | count + 1, p => do
    let pixel ← pwgPixel img mode p
    return pixel :: (← pwgPixels img mode count (p + 4))

def pwgRasterRow (img : RGBA) (mode : PwgRasterColor) (y : ℕ) : Except PwgError (List Pixel) :=
  pwgPixels img mode img.dx.toNat (img.pixOffset img.minX (img.minY + y))

/-! ### Packing -/

/-- How many of the next pixels equal the first, up to a limit. -/
def equalPixels (pixel : Pixel) : ℕ → List Pixel → ℕ
  | limit + 1, next :: rest => if next = pixel then equalPixels pixel limit rest + 1 else 0
  | _, _ => 0

/-- How many of the next pixels come before a pair of equal ones, up to a limit. -/
def literalPixels : ℕ → List Pixel → ℕ
  | limit + 1, next :: rest => if rest.head? = some next then 0 else literalPixels limit rest + 1
  | _, _ => 0

/-- `pwgPackRow`. -/
def pwgPackRow : List Pixel → List UInt8
  | [] => []
  | pixel :: rest =>
    let run := equalPixels pixel 127 rest + 1
    let n := literalPixels 127 rest + 1
    if 2 ≤ run then UInt8.ofNat (run - 1) :: (pixel ++ pwgPackRow (rest.drop (run - 1)))
    else UInt8.ofInt (1 - n) :: ((pixel :: rest.take (n - 1)).flatten ++ pwgPackRow (rest.drop (n - 1)))
termination_by row => row.length
decreasing_by
  all_goals
    simp only [List.length_drop, List.length_cons]
    omega

/-! ### Pages -/

/-- How many of the rows after `y` equal the current one, up to a limit. -/
def equalRows (row : ℕ → Except PwgError (List Pixel)) (h : ℕ) (current : List Pixel) : ℕ → ℕ → Except PwgError ℕ
  | 0, _ => return 0
  | limit + 1, y =>
    if y + 1 < h then do
      let scratch ← row (y + 1)
      if current = scratch then return (← equalRows row h current limit (y + 1)) + 1 else return 0
    else return 0

/-- The loop over the rows. -/
def encodeRows (row : ℕ → Except PwgError (List Pixel)) (h y : ℕ) (current : List Pixel) (out : List UInt8) :
    Except PwgError (List UInt8) :=
  if y < h then
    match equalRows row h current 255 y with
    | .error error => .error error
    | .ok more =>
      let written := out ++ UInt8.ofNat more :: pwgPackRow current
      if maxPrintBytes < written.length then .error .rasterBudget
      else if y + (more + 1) < h then
        match row (y + (more + 1)) with
        | .error error => .error error
        | .ok next => encodeRows row h (y + (more + 1)) next written
      else .ok written
  else .ok out
termination_by h - y

/-- Four bytes in network order at a place of the header. -/
def put (header : List UInt8) (place value : ℕ) : List UInt8 :=
  [value / 2 ^ 24, value / 2 ^ 16, value / 2 ^ 8, value].zipIdx.foldl
    (fun header byte => header.set (place + byte.2) (UInt8.ofNat byte.1)) header

/-- `math.Round` of a positive number. -/
def round (points : ℚ) : ℕ := ⌊points + 1 / 2⌋.toNat

/-- The header of a page. -/
def pwgHeader (w h dpi totalPages : ℤ) (pageWidthPts pageHeightPts : ℚ) (mode : PwgRasterColor) : List UInt8 :=
  let channels := mode.channels
  let text := "PwgRaster".toList.map fun c => UInt8.ofNat c.toNat
  let blank := text ++ List.replicate (pwgPageHeaderBytes - text.length) 0
  [(276, dpi.toNat), (280, dpi.toNat), (352, round pageWidthPts), (356, round pageHeightPts), (372, w.toNat),
    (376, h.toNat), (384, 8), (388, channels * 8), (392, w.toNat * channels), (396, 0), (400, mode.colorSpace),
    (420, channels), (452, totalPages.toNat), (456, 1), (460, 1)].foldl
      (fun header field => put header field.1 field.2) blank

def validPoints (points : ℚ) : Bool := 0 < points && points ≤ 32767

/-- `encodePWGPage`: the buffer with one more page. -/
def encodePWGPage (out : List UInt8) (img : RGBA) (dpi totalPages : ℤ) (pageWidthPts pageHeightPts : Option ℚ)
    (mode : PwgRasterColor) : Except PwgError (List UInt8) :=
  match pageWidthPts, pageHeightPts with
  | some pageWidthPts, some pageHeightPts =>
    let w := img.dx
    let h := img.dy
    if w ≤ 0 ∨ h ≤ 0 ∨ dpi ≤ 0 ∨ 1200 < dpi ∨ totalPages ≤ 0 ∨ 32767 < w ∨ 32767 < h ∨
        maxPDFRasterPixels < w * h ∨ validPoints pageWidthPts = false ∨ validPoints pageHeightPts = false then
      .error .invalidPage
    else
      let started := out ++ pwgHeader w h dpi totalPages pageWidthPts pageHeightPts mode
      if maxPrintBytes < started.length then .error .headerBudget
      else
        match pwgRasterRow img mode 0 with
        | .error error => .error error
        | .ok current => encodeRows (pwgRasterRow img mode) h.toNat 0 current started
  | _, _ => .error .invalidPage

end PrintGateway.Agent
