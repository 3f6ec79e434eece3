import Mathlib.Data.List.Basic

/-!
# Bits of a byte buffer

The first bit of a byte is its highest.
-/

namespace Codec.Bits

variable {buffer : List UInt8} {places : List ℕ} {i j n m : ℕ}

/-- Bit `i` of a buffer; a bit behind the buffer is zero. -/
def bit (buffer : List UInt8) (i : ℕ) : Bool := (buffer.getD (i / 8) 0).toNat.testBit (7 - i % 8)

/-- The byte in which one bit is set. -/
def mask (i : ℕ) : UInt8 := 0x80 >>> UInt8.ofNat (i % 8)

def setBit (buffer : List UInt8) (i : ℕ) : List UInt8 := buffer.modify (i / 8) (· ||| mask i)

def setBits (buffer : List UInt8) (places : List ℕ) : List UInt8 := places.foldl setBit buffer

theorem testBit_mask (i j : ℕ) : (mask i).toNat.testBit (7 - j % 8) = decide (i % 8 = j % 8) := by
  have bits : ∀ a b : Fin 8,
      ((0x80 : UInt8) >>> UInt8.ofNat a.val).toNat.testBit (7 - b.val) = decide (a.val = b.val) := by
    decide +kernel
  exact bits ⟨i % 8, Nat.mod_lt _ (by decide)⟩ ⟨j % 8, Nat.mod_lt _ (by decide)⟩

@[simp] theorem length_setBit (buffer : List UInt8) (i : ℕ) : (setBit buffer i).length = buffer.length := by
  simp [setBit]

theorem bit_setBit (inside : i / 8 < buffer.length) : bit (setBit buffer i) j = (decide (i = j) || bit buffer j) := by
  simp only [bit, setBit, List.getD_eq_getElem?_getD, List.getElem?_modify]
  by_cases sameByte : i / 8 = j / 8
  · have sameBit : i % 8 = j % 8 ↔ i = j := by omega
    rw [sameByte] at inside
    simp only [sameByte, if_true, List.getElem?_eq_getElem inside, Option.map_eq_map, Option.map_some, Option.getD_some,
      UInt8.toNat_or, Nat.testBit_or, testBit_mask, sameBit, Bool.or_comm]
  · have other : i ≠ j := fun same => sameByte (by rw [same])
    simp [sameByte, other]

@[simp] theorem length_setBits (buffer : List UInt8) (places : List ℕ) :
    (setBits buffer places).length = buffer.length := by
  induction places generalizing buffer with
  | nil => rfl
  | cons i places ih => rw [setBits, List.foldl_cons, ← setBits, ih, length_setBit]

theorem bit_setBits (inside : ∀ i ∈ places, i / 8 < buffer.length) :
    bit (setBits buffer places) j = (decide (j ∈ places) || bit buffer j) := by
  induction places generalizing buffer with
  | nil => simp [setBits]
  | cons i places ih =>
    have first := inside i List.mem_cons_self
    have rest : ∀ k ∈ places, k / 8 < (setBit buffer i).length := fun k member => by
      simpa using inside k (List.mem_cons_of_mem i member)
    rw [setBits, List.foldl_cons, ← setBits, ih rest, bit_setBit first]
    simp only [List.mem_cons, Bool.decide_or, eq_comm (a := j), Bool.or_left_comm, Bool.or_assoc]

theorem bit_replicate_zero (n i : ℕ) : bit (List.replicate n 0) i = false := by
  have zero : (List.replicate n (0 : UInt8)).getD (i / 8) 0 = 0 := by
    by_cases inside : i / 8 < n <;> simp [inside]
  rw [bit, zero]
  exact Nat.zero_testBit _

/-- A bit of the bytes from the `n`-th on. -/
theorem bit_take_drop (inside : i < 8 * m) : bit ((buffer.drop n).take m) i = bit buffer (8 * n + i) := by
  have byte : i / 8 < m := by omega
  have place : (8 * n + i) / 8 = n + i / 8 := by omega
  have offset : (8 * n + i) % 8 = i % 8 := by omega
  simp only [bit, List.getD_eq_getElem?_getD, List.getElem?_take, byte, if_true, List.getElem?_drop, place, offset]

end Codec.Bits
