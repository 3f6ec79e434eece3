import PrintGateway.Codec.Pdf
import PrintGateway.Soundness.RasterBands

/-!
# The documents the Agent generates

`jpegToPDFWithReceiptPaper` keeps the offsets of its objects while it writes them.  The buffer it returns is a
file of the shape `Codec.Pdf.file`, so that a reader finds the table, and in it every object.
-/

namespace PrintGateway.Agent

open Codec Codec.Pdf Machine

variable {w h : ℤ} {colorSpace imageDecode data : List UInt8} {g : PageGeometry}

/-- An indirect object. -/
def pdfObject (n : ℕ) (body : List UInt8) : List UInt8 := digits n ++ Pdf.ascii " 0 obj\n" ++ body ++ Pdf.ascii "\nendobj\n"

def imageObject (w h : ℤ) (colorSpace imageDecode data : List UInt8) : List UInt8 :=
  pdfObject 4 (imageHeader w h colorSpace imageDecode data.length ++ data ++ Pdf.ascii "\nendstream")

def contentObject (g : PageGeometry) : List UInt8 := pdfObject 5 (contentBody (pageContent g))

def pdfObjects (w h : ℤ) (colorSpace imageDecode : List UInt8) (g : PageGeometry) (data : List UInt8) :
    List (List UInt8) :=
  [pdfObject 1 (Pdf.ascii "<< /Type /Catalog /Pages 2 0 R >>"),
    pdfObject 2 (Pdf.ascii "<< /Type /Pages /Kids [3 0 R] /Count 1 >>"), pdfObject 3 (pageBody g),
    imageObject w h colorSpace imageDecode data, contentObject g]

def pdfTrailer : List UInt8 := Pdf.ascii "<< /Size 6 /Root 1 0 R >>"

@[simp] theorem writeObj_eq (out : PdfWriter) (n : ℕ) (body : List UInt8) :
    out.writeObj n body = ⟨out.b ++ pdfObject n body, out.offsets.set n out.b.length⟩ := by
  simp only [PdfWriter.writeObj, PdfWriter.mark, PdfWriter.write, pdfObject, List.append_assoc]
  rfl

theorem writeObjects_eq : writeObjects w h colorSpace imageDecode g data =
      ⟨body pdfHeader (pdfObjects w h colorSpace imageDecode g data),
        0 :: offsets pdfHeader.length (pdfObjects w h colorSpace imageDecode g data)⟩ := by
  have image : ∀ out : PdfWriter,
      (((out.mark 4).write (asciiBytes "4 0 obj\n" ++ imageHeader w h colorSpace imageDecode data.length)).write
          data).write (asciiBytes "\nendstream\nendobj\n") =
        ⟨out.b ++ imageObject w h colorSpace imageDecode data, out.offsets.set 4 out.b.length⟩ := by
    intro out
    simp only [PdfWriter.mark, PdfWriter.write, imageObject, pdfObject, List.append_assoc]
    rfl
  simp only [writeObjects, writeObj_eq, image, pdfObjects, body, offsets, contentObject, List.flatten_cons,
    List.flatten_nil, List.append_nil, List.append_assoc, List.length_append, Nat.add_assoc]
  rfl

theorem finish_eq (b : List UInt8) (o₁ o₂ o₃ o₄ o₅ : ℕ) : finish ⟨b, [0, o₁, o₂, o₃, o₄, o₅]⟩ =
      b ++ (tableHead 6 ++ ((freeEntry :: [o₁, o₂, o₃, o₄, o₅].map entry).flatten ++
        (Pdf.ascii "trailer\n" ++ (pdfTrailer ++ startxref b.length)))) := by
  have head : asciiBytes "xref\r\n0 6\r\n0000000000 65535 f\r\n" = tableHead 6 ++ freeEntry := by decide
  have row : ∀ offset, tenDigits offset ++ asciiBytes " 00000 n\r\n" = entry offset := fun _ => rfl
  have tail : ∀ xref, asciiBytes "trailer\n<< /Size 6 /Root 1 0 R >>\nstartxref\n" ++ textBytes (Text.digits xref) ++
      asciiBytes "\n%%EOF\n" = Pdf.ascii "trailer\n" ++ (pdfTrailer ++ startxref xref) := fun _ => by
    rw [startxref, ← List.append_assoc, ← List.append_assoc, ← List.append_assoc]
    rfl
  simp only [finish, PdfWriter.write, List.range', List.foldl_cons, List.foldl_nil, Nat.reduceAdd, List.getD_cons_succ,
    List.getD_cons_zero, head, row, tail, List.map_cons, List.map_nil, List.flatten_cons, List.flatten_nil,
    List.append_assoc, List.nil_append]

theorem finish_writeObjects : finish (writeObjects w h colorSpace imageDecode g data) =
      file pdfHeader (pdfObjects w h colorSpace imageDecode g data) pdfTrailer := by
  rw [writeObjects_eq]
  exact finish_eq _ _ _ _ _ _

/-! ### Streams -/

theorem notMem_digits (n : ℕ) : 10 ∉ digits n := by
  intro member
  have := (isDigit_of_mem_digits member).1
  simp at this

theorem notMem_decimal (n : ℤ) : 10 ∉ textBytes (Text.decimal n) := by
  rw [Text.decimal]
  split
  · rw [textBytes, List.map_cons, List.mem_cons, not_or]
    exact ⟨by decide, notMem_digits n.natAbs⟩
  · exact notMem_digits n.natAbs

/-- The color spaces and decode arrays the builder writes. -/
theorem pdfColorSpace_eq_ok {jpeg : JpegDecoder} {model : ColorModel}
    (chosen : pdfColorSpace jpeg data model = .ok (colorSpace, imageDecode)) :
    10 ∉ colorSpace ++ imageDecode := by
  cases model with
  | gray | yCbCr | rgba => cases chosen; decide
  | cmyk =>
    rw [pdfColorSpace] at chosen
    split at chosen
    · cases chosen
    · cases chosen
      decide

/-- The end of a stream dictionary and the line behind it. -/
theorem stream_line : asciiBytes " >>\nstream\n" = Pdf.ascii " >>" ++ Pdf.ascii "\nstream\n" := by decide

theorem isStream_image (plain : 10 ∉ colorSpace ++ imageDecode) :
    IsStream (imageObject w h colorSpace imageDecode data) 4 data := by
  refine ⟨asciiBytes "<< /Type /XObject /Subtype /Image /Width " ++ textBytes (Text.decimal w) ++
    asciiBytes " /Height " ++ textBytes (Text.decimal h) ++ asciiBytes " /ColorSpace " ++ colorSpace ++ imageDecode ++
    asciiBytes " /BitsPerComponent 8 /Filter /DCTDecode " ++ (Pdf.ascii "/Length " ++ digits data.length ++ Pdf.ascii " >>"),
    [10], ?_, List.suffix_append _ _, .inr rfl, Pdf.ascii "\nendobj\n", ?_⟩
  · simp only [List.mem_append, not_or] at plain ⊢
    exact ⟨⟨⟨⟨⟨⟨⟨⟨by decide, notMem_decimal w⟩, by decide⟩, notMem_decimal h⟩, by decide⟩, plain.1⟩, plain.2⟩, by decide⟩,
      ⟨by decide, notMem_digits _⟩, by decide⟩
  · have key : asciiBytes " /BitsPerComponent 8 /Filter /DCTDecode /Length " =
        asciiBytes " /BitsPerComponent 8 /Filter /DCTDecode " ++ Pdf.ascii "/Length " := by decide
    have close : Pdf.ascii "\nendstream" = [10] ++ Pdf.ascii "endstream" := by decide
    simp only [imageObject, pdfObject, imageHeader, key, stream_line, close, List.append_assoc]
    rfl

theorem isStream_content (g : PageGeometry) : IsStream (contentObject g) 5 (pageContent g) := by
  refine ⟨Pdf.ascii "<< " ++ (Pdf.ascii "/Length " ++ digits (pageContent g).length ++ Pdf.ascii " >>"), [], ?_,
    List.suffix_append _ _, .inl rfl, Pdf.ascii "\nendobj\n", ?_⟩
  · simp only [List.mem_append, not_or]
    exact ⟨by decide, ⟨by decide, notMem_digits _⟩, by decide⟩
  · have key : asciiBytes "<< /Length " = Pdf.ascii "<< " ++ Pdf.ascii "/Length " := by decide
    simp only [contentObject, pdfObject, contentBody, key, stream_line, List.append_assoc, List.nil_append]
    rfl

/-! ### Documents -/

theorem occurs_of_infix {marker bytes : List UInt8} (inside : marker <:+: bytes) : occurs marker bytes = true := by
  obtain ⟨before, after, rfl⟩ := inside
  rw [occurs, List.any_eq_true]
  refine ⟨marker ++ after, (List.mem_tails _ _).mpr ⟨before, (List.append_assoc _ _ _).symm⟩, ?_⟩
  exact List.isPrefixOf_iff_prefix.mpr (List.prefix_append _ _)

/-- A file that starts as a document and ends with the offset of its table passes the check. -/
theorem validatePdf_of_startxref {out : List UInt8} {xref : ℕ} (header : pdfPrefix <+: out)
    (finish : startxref xref <:+ out) (small : out.length ≤ maxPrintBytes) : validatePdf out = .ok () := by
  have marker : pdfEof ++ [10] <:+ out := by
    refine List.IsSuffix.trans ⟨Pdf.ascii "\nstartxref\n" ++ digits xref ++ [10], ?_⟩ finish
    rw [startxref, List.append_assoc]
    rfl
  have some : (pdfEof ++ [10]).length ≤ out.length := marker.length_le
  have nonempty : out.length ≠ 0 := fun empty => absurd (empty ▸ some) (by decide)
  -- the marker is the end of the file, which lies within the search window
  have found : ∀ tail, tail <:+ out → (pdfEof ++ [10]).length ≤ tail.length → occurs pdfEof tail = true := by
    intro tail suffix room
    have inside : pdfEof ++ [10] <:+ tail := List.suffix_of_suffix_length_le marker suffix room
    exact occurs_of_infix ((List.prefix_append _ _).isInfix.trans inside.isInfix)
  have window : (pdfEof ++ [10]).length ≤ pdfEofSearchWindow := by decide
  have inTail : occurs pdfEof (if pdfEofSearchWindow < out.length then out.drop (out.length - pdfEofSearchWindow) else
      out) = true := by
    split
    · refine found _ (List.drop_suffix _ _) ?_
      rw [List.length_drop]
      omega
    · exact found out List.suffix_rfl some
  simp [validatePdf, nonempty, not_lt.mpr small, List.isPrefixOf_iff_prefix.mpr header, inTail]

/-- The steps of a document that was built. -/
theorem jpegToPDF_eq_ok {jpeg : JpegDecoder} {paperWidthMM printableDots dpi : ℤ} {out : List UInt8}
    (accepted : jpegToPDFWithReceiptPaper jpeg data paperWidthMM printableDots dpi = .ok out) :
    ∃ (w h : ℤ) (colorSpace imageDecode : List UInt8) (g : PageGeometry), 10 ∉ colorSpace ++ imageDecode ∧
      out = file pdfHeader (pdfObjects w h colorSpace imageDecode g data) pdfTrailer := by
  obtain ⟨cfg, -, accepted⟩ := exists_of_bind_eq_ok accepted
  split_ifs at accepted with empty
  obtain ⟨⟨colorSpace, imageDecode⟩, chosen, accepted⟩ := exists_of_bind_eq_ok accepted
  obtain ⟨g, -, accepted⟩ := exists_of_bind_eq_ok accepted
  have written : finish (writeObjects cfg.width cfg.height colorSpace imageDecode g data) = out := Except.ok.inj accepted
  exact ⟨_, _, colorSpace, imageDecode, g, pdfColorSpace_eq_ok chosen, written.symm.trans finish_writeObjects⟩

/-- Every object of the document starts with its number. -/
theorem objects_start {n : ℕ} {object : List UInt8} (here :
    (pdfObjects w h colorSpace imageDecode g data)[n]? = some object) :
    digits (n + 1) ++ Pdf.ascii " 0 obj\n" <+: object := by
  have number : ∀ (k : ℕ) (body : List UInt8), digits k ++ Pdf.ascii " 0 obj\n" <+: pdfObject k body := by
    intro k body
    rw [pdfObject, List.append_assoc]
    exact List.prefix_append _ _
  match n with
  | 0 => cases here; exact number 1 _
  | 1 => cases here; exact number 2 _
  | 2 => cases here; exact number 3 _
  | 3 => cases here; exact number 4 _
  | 4 => cases here; exact number 5 _
  | n + 5 => cases here

/-- A generated document is structured as its table says: entries of twenty bytes hold the offsets of the five
objects, both streams are as long as their dictionaries say, the data of the image are the input, and the
check of documents accepts it. -/
theorem generated_pdf_structure (jpeg : JpegDecoder) (data : List UInt8) (paperWidthMM printableDots dpi : ℤ)
    (out : List UInt8) (accepted : jpegToPDFWithReceiptPaper jpeg data paperWidthMM printableDots dpi = .ok out)
    (small : out.length < 10 ^ 10) :
    ∃ (xref : ℕ) (offset : ℕ → ℕ) (content : List UInt8),
      startxref xref <:+ out ∧ StartsAt out xref (Pdf.ascii "xref\r\n0 6\r\n") ∧
      StartsAt out (xref + 11 + 20 * 6) (Pdf.ascii "trailer\n") ∧
      (∀ n ≤ 5, (entryAt out xref 6 n).length = 20) ∧
      (∀ n, 1 ≤ n → n ≤ 5 → entryAt out xref 6 n = entry (offset n) ∧
        number ((entryAt out xref 6 n).take 10) = offset n ∧
        StartsAt out (offset n) (digits n ++ Pdf.ascii " 0 obj\n")) ∧
      IsStream (out.drop (offset 4)) 4 data ∧ IsStream (out.drop (offset 5)) 5 content ∧
      (out.length ≤ maxPrintBytes → validatePdf out = .ok ()) := by
  obtain ⟨w, h, colorSpace, imageDecode, g, plain, rfl⟩ := jpegToPDF_eq_ok accepted
  have bounded : (body pdfHeader (pdfObjects w h colorSpace imageDecode g data)).length < 10 ^ 10 := by
    rw [file, List.length_append] at small
    omega
  have head : tableHead 6 = Pdf.ascii "xref\r\n0 6\r\n" := by decide
  have headSize : (tableHead 6).length = 11 := by decide
  have reads := reads_file pdfHeader pdfTrailer (pdfObjects w h colorSpace imageDecode g data) bounded
  have trailer := reads.trailer
  rw [show (pdfObjects w h colorSpace imageDecode g data).length + 1 = 6 from rfl, headSize] at trailer
  refine ⟨_, fun n => (offsets pdfHeader.length (pdfObjects w h colorSpace imageDecode g data)).getD (n - 1) 0,
    pageContent g, reads.finish, head ▸ reads.table, trailer, reads.size, ?_, ?_, ?_, ?_⟩
  · intro n positive last
    obtain ⟨k, rfl⟩ := Nat.exists_eq_add_of_le' positive
    have inside : k < (pdfObjects w h colorSpace imageDecode g data).length := show k < 5 by omega
    obtain ⟨row, starts⟩ := reads.inUse k _ (List.getElem?_eq_getElem inside)
    have size := reads.size (k + 1) (show k + 1 ≤ 5 from last)
    rw [row] at size
    refine ⟨row, ?_, starts.of_isPrefix (objects_start (List.getElem?_eq_getElem inside))⟩
    exact (congrArg (fun text => number (text.take 10)) row).trans (number_entry size)
  · exact (isStream_image plain).of_isPrefix (reads.inUse 3 _ rfl).2
  · exact (isStream_content g).of_isPrefix (reads.inUse 4 _ rfl).2
  · intro short
    have start : pdfPrefix <+: pdfHeader := by decide
    refine validatePdf_of_startxref (start.trans ?_) reads.finish short
    exact (List.prefix_append _ _).trans (List.prefix_append _ _)

theorem exists_ok_of_any {Error Result : Type} {result : Except Error Result} {check : Result → Bool}
    (passed : result.toOption.any check = true) : ∃ value, result = .ok value ∧ check value = true := by
  cases result with
  | error error => cases passed
  | ok value => exact ⟨value, rfl, passed⟩

/-- A receipt on paper of 80 mm. -/
theorem generated_pdf_structure_receipt :
    ∃ out, jpegToPDFWithReceiptPaper sampleDecoder [0xff, 0xd8, 0xff] 80 512 180 = .ok out ∧ out.length < 10 ^ 10 ∧
      validatePdf out = .ok () := by
  have built : (jpegToPDFWithReceiptPaper sampleDecoder [0xff, 0xd8, 0xff] 80 512 180).toOption.any
      (fun out => decide (out.length < 1000)) = true := by
    decide +kernel
  obtain ⟨out, accepted, short⟩ := exists_ok_of_any built
  have length : out.length < 1000 := of_decide_eq_true short
  obtain ⟨_, _, _, _, _, _, _, _, _, _, checked⟩ :=
    generated_pdf_structure sampleDecoder [0xff, 0xd8, 0xff] 80 512 180 out accepted (by omega)
  exact ⟨out, accepted, by omega, checked (by unfold maxPrintBytes; omega)⟩

end PrintGateway.Agent
