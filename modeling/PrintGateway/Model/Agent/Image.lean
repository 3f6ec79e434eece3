import PrintGateway.Codec.Float64
import PrintGateway.Model.Agent.PwgRaster

/-!
# Raster images at the Agent

`image.go`: a JPEG becomes ESC/POS raster bands or a one-page PDF document.  The decoder of the standard
library is a parameter; its images start at the origin and have the size their header declares.  An index
outside a pixel buffer panics.
-/

namespace PrintGateway.Agent

open Codec

/-! ### Images -/

/-- A color as its method `RGBA` gives it, with 16 bits a channel. -/
structure Color where
  r : UInt16
  g : UInt16
  b : UInt16
  a : UInt16
  deriving DecidableEq, Repr

/-- `image.Image`: an `image.RGBA`, of which the pixels are read directly, or an image of another type. -/
inductive Image
  | rgba (img : RGBA)
  | other (minX minY maxX maxY : ℤ) (pixel : ℤ → ℤ → Color)

inductive ColorModel
  | gray
  | yCbCr
  | rgba
  | cmyk
  deriving DecidableEq, Repr

/-- `image.Config`. -/
structure JpegConfig where
  width : ℤ
  height : ℤ
  colorModel : ColorModel
  deriving DecidableEq, Repr

inductive ImageError
  | invalidJpeg (reason : Text)
  | invalidDimensions (width height : ℤ)
  | dimensionLimit (width height : ℤ)
  | pixelLimit (pixels : ℤ)
  | rasterLimit (bytes : ℤ)
  | decode (reason : Text)
  | decodeCmyk (reason : Text)
  | printableArea (contentMM : Float64)
  | receiptHeight
  | panic
  deriving DecidableEq, Repr

namespace Image

def minX : Image → ℤ
  | rgba img => img.minX
  | other minX _ _ _ _ => minX

def minY : Image → ℤ
  | rgba img => img.minY
  | other _ minY _ _ _ => minY

/-- `Bounds().Dx()`. -/
def dx : Image → ℤ
  | rgba img => img.dx
  | other minX _ maxX _ _ => maxX - minX

/-- `Bounds().Dy()`. -/
def dy : Image → ℤ
  | rgba img => img.dy
  | other _ minY _ maxY _ => maxY - minY

end Image

/-- `img.Pix[p]`. -/
def RGBA.sample (img : RGBA) (p : ℤ) : Except ImageError UInt8 := (img.byte p).mapError fun _ => .panic

/-- A channel of `color.RGBA` with 16 bits. -/
def widen (channel : UInt8) : UInt16 := channel.toUInt16 * 257

/-- `At`. -/
def Image.color (img : Image) (x y : ℤ) : Except ImageError Color :=
  match img with
  | .other _ _ _ _ pixel => .ok (pixel x y)
  | .rgba img =>
    if img.minX ≤ x ∧ x < img.maxX ∧ img.minY ≤ y ∧ y < img.maxY then do
      let p := img.pixOffset x y
      return ⟨widen (← img.sample p), widen (← img.sample (p + 1)), widen (← img.sample (p + 2)),
        widen (← img.sample (p + 3))⟩
    else .ok ⟨0, 0, 0, 0⟩

/-- The image has the bounds `image.Rect(0, 0, width, height)`, and a buffer `image.NewRGBA` allocates. -/
def Image.Allocated (img : Image) (width height : ℤ) : Prop :=
  match img with
  | .other minX minY maxX maxY _ => minX = 0 ∧ minY = 0 ∧ maxX = width ∧ maxY = height
  | .rgba img => img.minX = 0 ∧ img.minY = 0 ∧ img.maxX = width ∧ img.maxY = height ∧ img.stride = 4 * width ∧
      (img.pix.length : ℤ) = 4 * width * height

/-- `image/jpeg`. -/
structure JpegDecoder where
  decodeConfig : List UInt8 → Except Text JpegConfig
  decode : List UInt8 → Except Text Image
  sized : ∀ {data cfg img}, decodeConfig data = .ok cfg → decode data = .ok img → img.Allocated cfg.width cfg.height

/-! ### Raster bands -/

def safeRasterMaxWidth : ℤ := 384

def defaultRasterSliceHeight : ℕ := 256

def maxJPEGDimension : ℤ := 16384

def maxJPEGPixels : ℤ := 40000000

def maxRasterOutputBytes : ℤ := 32 * 1024 * 1024

def decodeJPEGConfig (jpeg : JpegDecoder) (data : List UInt8) : Except ImageError JpegConfig :=
  match jpeg.decodeConfig data with
  | .error reason => .error (.invalidJpeg reason)
  | .ok cfg =>
    if cfg.width ≤ 0 ∨ cfg.height ≤ 0 then .error (.invalidDimensions cfg.width cfg.height)
    else if maxJPEGDimension < cfg.width ∨ maxJPEGDimension < cfg.height then
      .error (.dimensionLimit cfg.width cfg.height)
    else if maxJPEGPixels < cfg.width * cfg.height then .error (.pixelLimit (cfg.width * cfg.height))
    else .ok cfg

/-- `max(1, int(math.Round(float64(height)*float64(maxWidth)/float64(width))))`. -/
def scaledHeight (height maxWidth width : ℤ) : ℤ :=
  max 1 (Float64.ofInt height * Float64.ofInt maxWidth / Float64.ofInt width).round.truncate

/-- The bytes `Set` stores in an `image.RGBA`. -/
def Color.stored (c : Color) : List UInt8 := [c.r, c.g, c.b, c.a].map fun channel => (channel / 256).toUInt8

/-- `resizeNearest`; every pixel of the result is set once, row by row. -/
def resizeNearest (src : Image) (width : ℤ) : Except ImageError Image :=
  if width ≤ 0 ∨ src.dx ≤ width then .ok src
  else do
    let sw := src.dx
    let sh := src.dy
    let h := scaledHeight sh width sw
    let rows ← (List.range h.toNat).mapM fun (y : ℕ) =>
      (List.range width.toNat).mapM fun (x : ℕ) =>
        src.color (src.minX + x * sw / width) (src.minY + y * sh / h)
    return .rgba ⟨(rows.flatten.map Color.stored).flatten, 4 * width, 0, 0, width, h⟩

def grayscale (c : Color) : UInt8 :=
  UInt8.ofNat ((299 * c.r.toNat + 587 * c.g.toNat + 114 * c.b.toNat) / (1000 * 257))

/-- The luma of a pixel as the loop over a row finds it. -/
def rasterLuma (img : Image) (x actualY : ℕ) : Except ImageError UInt8 :=
  match img with
  | .rgba img => do
    let pixRowOffset := (actualY - img.minY) * img.stride
    let pixIdx := pixRowOffset + (x + img.minX) * 4
    let r ← img.sample pixIdx
    let g ← img.sample (pixIdx + 1)
    let b ← img.sample (pixIdx + 2)
    return UInt8.ofNat ((299 * r.toNat + 587 * g.toNat + 114 * b.toNat) / 1000)
  | .other minX minY maxX maxY pixel => do
    let c ← (Image.other minX minY maxX maxY pixel).color (minX + x) (minY + actualY)
    return grayscale c

/-- The loops over the pixels of a band. -/
def bandRaster (img : Image) (w rowBytes yStart bandHeight : ℕ) : Except ImageError (List UInt8) :=
  (List.range bandHeight).foldlM
    (fun raster row =>
      let bandOffset := row * rowBytes
      (List.range w).foldlM
        (fun raster x => do
          let luma ← rasterLuma img x (yStart + row)
          return if luma < 180 then raster.modify (bandOffset + x / 8) (· ||| 0x80 >>> UInt8.ofNat (x % 8))
            else raster)
        raster)
    (List.replicate (rowBytes * bandHeight) 0)

/-- `GS v 0` with the size of a band. -/
def bandHeader (rowBytes bandHeight : ℕ) : List UInt8 :=
  [0x1d, 0x76, 0x30, 0x00, UInt8.ofNat rowBytes, UInt8.ofNat (rowBytes >>> 8), UInt8.ofNat bandHeight,
    UInt8.ofNat (bandHeight >>> 8)]

/-- The loop over the bands. -/
def writeBands (img : Image) (w h rowBytes : ℕ) (sliceHeight : {n : ℕ // 0 < n}) (yStart : ℕ) (out : List UInt8) :
    Except ImageError (List UInt8) :=
  if yStart < h then do
    let bandHeight := if h < yStart + sliceHeight then h - yStart else sliceHeight
    let raster ← bandRaster img w rowBytes yStart bandHeight
    writeBands img w h rowBytes sliceHeight (yStart + sliceHeight) (out ++ bandHeader rowBytes bandHeight ++ raster)
  else .ok out
termination_by h - yStart
decreasing_by
  have := sliceHeight.property
  omega

/-- The bytes of the bands, computed from the size the header declares. -/
def rasterBytes (cfg : JpegConfig) (sliceHeight maxWidth : ℤ) : ℤ :=
  let outputHeight := if maxWidth < cfg.width then scaledHeight cfg.height maxWidth cfg.width else cfg.height
  let outputWidth := if maxWidth < cfg.width then maxWidth else cfg.width
  let rowBytes := (outputWidth + 7) / 8
  let bands := (outputHeight + sliceHeight - 1) / sliceHeight
  rowBytes * outputHeight + bands * 8 + 2

def rasterSlice (sliceHeight : ℤ) : {n : ℕ // 0 < n} :=
  if unset : sliceHeight ≤ 0 then ⟨defaultRasterSliceHeight, by decide⟩ else ⟨sliceHeight.toNat, by omega⟩

def rasterWidth (maxWidth : ℤ) : ℤ := if maxWidth ≤ 0 then safeRasterMaxWidth else maxWidth

/-- `img`, or the image resized to the maximum width if it is wider. -/
def fitWidth (img : Image) (maxWidth : ℤ) : Except ImageError Image :=
  if maxWidth < img.dx then resizeNearest img maxWidth else .ok img

def jpegToESCPOS (jpeg : JpegDecoder) (data : List UInt8) (sliceHeight maxWidth : ℤ) :
    Except ImageError (List UInt8) := do
  let sliceHeight := rasterSlice sliceHeight
  let maxWidth := rasterWidth maxWidth
  let cfg ← decodeJPEGConfig jpeg data
  if cfg.width ≤ 0 ∨ cfg.height ≤ 0 then .error (.invalidDimensions cfg.width cfg.height)
  else if maxRasterOutputBytes < rasterBytes cfg sliceHeight.val maxWidth then
    .error (.rasterLimit (rasterBytes cfg sliceHeight.val maxWidth))
  else
    let img ← (jpeg.decode data).mapError .decode
    let img ← fitWidth img maxWidth
    let w := img.dx.toNat
    let h := img.dy.toNat
    let rowBytes := (w + 7) / 8
    writeBands img w h rowBytes sliceHeight 0 [0x1b, 0x40]

/-! ### PDF documents -/

/-- `%.2f`. -/
def fixed2 : Float64 → Text
  | .nan => "NaN"
  | .infinite negative => if negative then "-Inf" else "+Inf"
  | .finite value =>
    let hundredths := (Float64.nearestEven (|value| * 100)).toNat
    let cents := Text.digits (hundredths % 100)
    (if value < 0 then ['-'] else []) ++ Text.digits (hundredths / 100) ++ ['.'] ++
      List.replicate (2 - cents.length) '0' ++ cents

/-- The bytes of an ASCII text. -/
def textBytes (text : Text) : List UInt8 := text.map fun c => .ofNat c.toNat

/-- The page and the image on it, in points. -/
structure PageGeometry where
  pageW : Float64
  pageH : Float64
  imageW : Float64
  imageH : Float64
  imageX : Float64
  imageY : Float64
  deriving DecidableEq, Repr

/-- The geometry of a document, or of a receipt when the width of its paper is given. -/
def pageGeometry (w h paperWidthMM printableDots dpi : ℤ) : Except ImageError PageGeometry :=
  let points := Float64.ofRat 72
  let inch := Float64.ofRat (254 / 10)
  if paperWidthMM = 0 then
    let pageW := Float64.ofInt w * points / Float64.ofRat 96
    let pageH := Float64.ofInt h * points / Float64.ofRat 96
    .ok ⟨pageW, pageH, pageW, pageH, .finite 0, .finite 0⟩
  else
    let pageW := Float64.ofInt paperWidthMM * points / inch
    let contentMM := Float64.minimum (Float64.ofInt printableDots * inch / Float64.ofInt dpi)
      (Float64.ofInt paperWidthMM - Float64.ofRat 4)
    if contentMM.less (Float64.ofRat 30) then .error (.printableArea contentMM)
    else
      let imageW := contentMM * points / inch
      let imageH := imageW * Float64.ofInt h / Float64.ofInt w
      let imageX := (pageW - imageW) / Float64.ofRat 2
      let imageY := Float64.ofRat (2 * 72 / (254 / 10))
      let pageH := imageH + Float64.ofRat 2 * imageY
      if (Float64.ofRat (32767 / 10)).lessEqual (pageH * inch / points) then .error .receiptHeight
      else .ok ⟨pageW, pageH, imageW, imageH, imageX, imageY⟩

/-- The color space of the image and its decode array. -/
def pdfColorSpace (jpeg : JpegDecoder) (data : List UInt8) : ColorModel → Except ImageError (List UInt8 × List UInt8)
  | .gray => .ok (asciiBytes "/DeviceGray", [])
  | .cmyk =>
    match jpeg.decode data with
    | .error reason => .error (.decodeCmyk reason)
    | .ok _ => .ok (asciiBytes "/DeviceCMYK", asciiBytes " /Decode [1 0 1 0 1 0 1 0]")
  | .yCbCr | .rgba => .ok (asciiBytes "/DeviceRGB", [])

/-- The buffer and the offsets of the objects in it. -/
structure PdfWriter where
  b : List UInt8
  offsets : List ℕ
  deriving DecidableEq, Repr

namespace PdfWriter

def write (out : PdfWriter) (bytes : List UInt8) : PdfWriter := { out with b := out.b ++ bytes }

/-- `offsets[n] = b.Len()`. -/
def mark (out : PdfWriter) (n : ℕ) : PdfWriter := { out with offsets := out.offsets.set n out.b.length }

def writeObj (out : PdfWriter) (n : ℕ) (body : List UInt8) : PdfWriter :=
  (((out.mark n).write (textBytes (Text.digits n) ++ asciiBytes " 0 obj\n")).write body).write (asciiBytes "\nendobj\n")

end PdfWriter

/-- `%010d`. -/
def tenDigits (n : ℕ) : List UInt8 :=
  let digits := textBytes (Text.digits n)
  List.replicate (10 - digits.length) 48 ++ digits

def pdfHeader : List UInt8 := asciiBytes "%PDF-1.4\n%" ++ [0xE2, 0xE3, 0xCF, 0xD3] ++ asciiBytes "\n"

def pageBody (g : PageGeometry) : List UInt8 :=
  asciiBytes "<< /Type /Page /Parent 2 0 R /MediaBox [0 0 " ++ textBytes (fixed2 g.pageW) ++ asciiBytes " " ++
    textBytes (fixed2 g.pageH) ++ asciiBytes "] /Resources << /XObject << /Im0 4 0 R >> >> /Contents 5 0 R >>"

def imageHeader (w h : ℤ) (colorSpace imageDecode : List UInt8) (length : ℕ) : List UInt8 :=
  asciiBytes "<< /Type /XObject /Subtype /Image /Width " ++ textBytes (Text.decimal w) ++ asciiBytes " /Height " ++
    textBytes (Text.decimal h) ++ asciiBytes " /ColorSpace " ++ colorSpace ++ imageDecode ++
    asciiBytes " /BitsPerComponent 8 /Filter /DCTDecode /Length " ++ textBytes (Text.digits length) ++
    asciiBytes " >>\nstream\n"

def pageContent (g : PageGeometry) : List UInt8 :=
  asciiBytes "q\n" ++ textBytes (fixed2 g.imageW) ++ asciiBytes " 0 0 " ++ textBytes (fixed2 g.imageH) ++
    asciiBytes " " ++ textBytes (fixed2 g.imageX) ++ asciiBytes " " ++ textBytes (fixed2 g.imageY) ++
    asciiBytes " cm\n/Im0 Do\nQ\n"

def contentBody (content : List UInt8) : List UInt8 :=
  asciiBytes "<< /Length " ++ textBytes (Text.digits content.length) ++ asciiBytes " >>\nstream\n" ++ content ++
    asciiBytes "endstream"

/-- The objects of the document. -/
def writeObjects (w h : ℤ) (colorSpace imageDecode : List UInt8) (g : PageGeometry) (data : List UInt8) : PdfWriter :=
  let out : PdfWriter := ⟨pdfHeader, List.replicate 6 0⟩
  let out := out.writeObj 1 (asciiBytes "<< /Type /Catalog /Pages 2 0 R >>")
  let out := out.writeObj 2 (asciiBytes "<< /Type /Pages /Kids [3 0 R] /Count 1 >>")
  let out := out.writeObj 3 (pageBody g)
  let out := (out.mark 4).write (asciiBytes "4 0 obj\n" ++ imageHeader w h colorSpace imageDecode data.length)
  let out := (out.write data).write (asciiBytes "\nendstream\nendobj\n")
  out.writeObj 5 (contentBody (pageContent g))

/-- The table, the trailer and the offset of the table. -/
def finish (out : PdfWriter) : List UInt8 :=
  let xref := out.b.length
  let out := out.write (asciiBytes "xref\r\n0 6\r\n0000000000 65535 f\r\n")
  let out := (List.range' 1 5).foldl
    (fun (out : PdfWriter) i => out.write (tenDigits (out.offsets.getD i 0) ++ asciiBytes " 00000 n\r\n")) out
  (out.write (asciiBytes "trailer\n<< /Size 6 /Root 1 0 R >>\nstartxref\n" ++ textBytes (Text.digits xref) ++
    asciiBytes "\n%%EOF\n")).b

def jpegToPDFWithReceiptPaper (jpeg : JpegDecoder) (data : List UInt8) (paperWidthMM printableDots dpi : ℤ) :
    Except ImageError (List UInt8) := do
  let cfg ← decodeJPEGConfig jpeg data
  if cfg.width ≤ 0 ∨ cfg.height ≤ 0 then .error (.invalidDimensions cfg.width cfg.height)
  else
    let (colorSpace, imageDecode) ← pdfColorSpace jpeg data cfg.colorModel
    let geometry ← pageGeometry cfg.width cfg.height paperWidthMM printableDots dpi
    return finish (writeObjects cfg.width cfg.height colorSpace imageDecode geometry data)

end PrintGateway.Agent
