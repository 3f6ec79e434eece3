import Mathlib.Data.UInt

/-!
# Packed rows

The raster encoding of PWG 5102.4.  A row is a sequence of packets: a code up to 127 repeats one pixel, a
code from 129 on is followed by that many pixels less than 257, and 128 is reserved.  A page is a sequence
of rows, each after a byte that says how many more times it is repeated.  Reading never lets a packet
cross the end of its row.
-/

namespace Codec.PackBits

/-- The bytes of a pixel. -/
abbrev Pixel := List UInt8

inductive Packet
  | fill (count : ℕ) (pixel : Pixel)
  | literal (pixels : List Pixel)
  deriving DecidableEq, Repr

namespace Packet

def pixels : Packet → List Pixel
  | fill count pixel => List.replicate count pixel
  | literal pixels => pixels

def bytes : Packet → List UInt8
  | fill count pixel => UInt8.ofNat (count - 1) :: pixel
  | literal pixels => UInt8.ofNat (257 - pixels.length) :: pixels.flatten

/-- A packet that has a code, of pixels of the given size. -/
def Valid (size : ℕ) : Packet → Prop
  | fill count pixel => 1 ≤ count ∧ count ≤ 128 ∧ pixel.length = size
  | literal pixels => 2 ≤ pixels.length ∧ pixels.length ≤ 128 ∧ ∀ pixel ∈ pixels, pixel.length = size

end Packet

/-! ### Reading -/

/-- A number of pixels from the front. -/
def readPixels (size : ℕ) : ℕ → List UInt8 → Option (List Pixel × List UInt8)
  | 0, bytes => some ([], bytes)
  | count + 1, bytes =>
    if bytes.length < size then none
    else (readPixels size count (bytes.drop size)).map fun read => (bytes.take size :: read.1, read.2)

def readPacket (size : ℕ) : List UInt8 → Option (Packet × List UInt8)
  | [] => none
  | code :: bytes =>
    if code.toNat < 128 then
      if bytes.length < size then none else some (.fill (code.toNat + 1) (bytes.take size), bytes.drop size)
    else if code.toNat = 128 then none
    else (readPixels size (257 - code.toNat) bytes).map fun read => (.literal read.1, read.2)

/-- A row of the given width.  No packet is empty, so that the width gets smaller. -/
def readRow (size width : ℕ) (bytes : List UInt8) : Option (List Pixel × List UInt8) :=
  if width = 0 then some ([], bytes)
  else
    match readPacket size bytes with
    | none => none
    | some (packet, rest) =>
      if 0 < packet.pixels.length ∧ packet.pixels.length ≤ width then
        (readRow size (width - packet.pixels.length) rest).map fun read => (packet.pixels ++ read.1, read.2)
      else none
termination_by width

/-- A page of the given height. -/
def readRows (size width height : ℕ) (bytes : List UInt8) : Option (List (List Pixel) × List UInt8) :=
  if height = 0 then some ([], bytes)
  else
    match bytes with
    | [] => none
    | more :: bytes =>
      match readRow size width bytes with
      | none => none
      | some (row, rest) =>
        if more.toNat + 1 ≤ height then
          (readRows size width (height - (more.toNat + 1)) rest).map fun read =>
            (List.replicate (more.toNat + 1) row ++ read.1, read.2)
        else none
termination_by height

/-! ### Reading back -/

variable {size : ℕ}

theorem readPixels_flatten {pixels : List Pixel} (sized : ∀ pixel ∈ pixels, pixel.length = size)
    (rest : List UInt8) : readPixels size pixels.length (pixels.flatten ++ rest) = some (pixels, rest) := by
  induction pixels with
  | nil => rfl
  | cons pixel pixels ih =>
    obtain ⟨first, others⟩ := List.forall_mem_cons.mp sized
    have enough : ¬(pixel ++ (pixels.flatten ++ rest)).length < size := by
      rw [List.length_append]
      omega
    rw [List.length_cons, List.flatten_cons, List.append_assoc, readPixels, if_neg enough,
      List.drop_left' first, List.take_left' first, ih others]
    rfl

theorem readPacket_bytes {packet : Packet} (valid : packet.Valid size) (rest : List UInt8) :
    readPacket size (packet.bytes ++ rest) = some (packet, rest) := by
  cases packet with
  | fill count pixel =>
    obtain ⟨positive, small, sized⟩ := valid
    have code : (UInt8.ofNat (count - 1)).toNat = count - 1 :=
      UInt8.toNat_ofNat_of_lt (show count - 1 < 256 by omega)
    have enough : ¬(pixel ++ rest).length < size := by
      rw [List.length_append]
      omega
    rw [Packet.bytes, List.cons_append, readPacket, code, if_pos (by omega), if_neg enough,
      List.drop_left' sized, List.take_left' sized, Nat.sub_add_cancel positive]
  | literal pixels =>
    obtain ⟨several, small, sized⟩ := valid
    have code : (UInt8.ofNat (257 - pixels.length)).toNat = 257 - pixels.length :=
      UInt8.toNat_ofNat_of_lt (show 257 - pixels.length < 256 by omega)
    have count : 257 - (257 - pixels.length) = pixels.length := by omega
    rw [Packet.bytes, List.cons_append, readPacket, code, if_neg (by omega), if_neg (by omega), count,
      readPixels_flatten sized]
    rfl

theorem Packet.Valid.pixels_pos {packet : Packet} (valid : packet.Valid size) : 0 < packet.pixels.length := by
  cases packet with
  | fill count pixel =>
    rw [Packet.pixels, List.length_replicate]
    exact valid.1
  | literal pixels => exact lt_of_lt_of_le (by decide) valid.1

/-- A row written in packets is read back, whatever follows it. -/
theorem readRow_packets {packets : List Packet} (valid : ∀ packet ∈ packets, packet.Valid size)
    (rest : List UInt8) :
    readRow size (packets.flatMap Packet.pixels).length (packets.flatMap Packet.bytes ++ rest) =
      some (packets.flatMap Packet.pixels, rest) := by
  induction packets with
  | nil =>
    rw [readRow]
    rfl
  | cons packet packets ih =>
    obtain ⟨first, others⟩ := List.forall_mem_cons.mp valid
    have positive := first.pixels_pos
    rw [readRow, List.flatMap_cons, List.flatMap_cons, List.append_assoc, readPacket_bytes first, List.length_append,
      if_neg (by omega)]
    simp only
    rw [if_pos ⟨positive, by omega⟩, Nat.add_sub_cancel_left, ih others]
    rfl

/-- A row that stands for several is read before the rest of the page. -/
theorem readRows_cons {width height : ℕ} {more : UInt8} {packed rest bytes : List UInt8} {row : List Pixel}
    {rows : List (List Pixel)} (read : readRow size width (packed ++ bytes) = some (row, bytes))
    (fits : more.toNat + 1 ≤ height)
    (others : readRows size width (height - (more.toNat + 1)) bytes = some (rows, rest)) :
    readRows size width height (more :: (packed ++ bytes)) =
      some (List.replicate (more.toNat + 1) row ++ rows, rest) := by
  rw [readRows, if_neg (by omega), read]
  simp only
  rw [if_pos fits, others]
  rfl

end Codec.PackBits
