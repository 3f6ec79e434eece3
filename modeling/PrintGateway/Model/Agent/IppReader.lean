import PrintGateway.Codec.Ipp
import PrintGateway.Machine.Keyed
import PrintGateway.Model.Text

/-!
# Reading IPP responses

The loop that `parseIPPPrintResponse` and `parseIPPPrinterAttributes` share: the framing of names and
values, with the checks and the error texts of each as parameters.  The remaining bytes stand for the data
and its index, and reading past them panics.
-/

namespace PrintGateway.Agent

open Codec

inductive IppError
  | outOfRange
  | message (text : Text)
  deriving DecidableEq, Repr

def ippFail {Value : Type} (text : String) : Except IppError Value := .error (.message text.toList)

/-- The bytes of an ASCII text. -/
def ascii (text : String) : List UInt8 := text.toList.map fun c => UInt8.ofNat c.toNat

/-- The characters of an ASCII text. -/
def ofAscii (bytes : List UInt8) : Text := bytes.map fun byte => Char.ofNat byte.toNat

/-- `binary.BigEndian` on the first bytes. -/
def bigEndian (bytes : List UInt8) : ℕ := bytes.foldl (fun n byte => n * 256 + byte.toNat) 0

/-- `data[i : i+n]`. -/
def slice (n : ℕ) (bytes : List UInt8) : Except IppError (List UInt8) :=
  if bytes.length < n then .error .outOfRange else .ok (bytes.take n)

/-- `int32(binary.BigEndian.Uint32(value))`. -/
def int32 (value : List UInt8) : ℤ :=
  let n : ℕ := bigEndian value % 2 ^ 32
  if n < 2 ^ 31 then n else n - 2 ^ 32

/-- A name or a value after its length, with the errors of its reader. -/
def readBounded (limit : ℕ) (truncated invalid : String) (bytes : List UInt8) :
    Except IppError (List UInt8 × List UInt8) :=
  if bytes.length < 2 then ippFail truncated
  else do
    let length := bigEndian (← slice 2 bytes)
    let bytes := bytes.drop 2
    if limit < length ∨ bytes.length < length then ippFail invalid
    else return (← slice length bytes, bytes.drop length)

/-- `data[i]`. -/
def byteAt (data : List UInt8) (i : ℕ) : Except IppError UInt8 :=
  match data[i]? with
  | some byte => .ok byte
  | none => .error .outOfRange

/-- No slice is out of range, and what is read is a field of the message. -/
theorem readBounded_eq (limit : ℕ) (truncated invalid : String) (bytes : List UInt8) :
    readBounded limit truncated invalid bytes = match Ipp.readField bytes with
      | some (value, rest) => if limit < value.length then ippFail invalid else .ok (value, rest)
      | none => if bytes.length < 2 then ippFail truncated else ippFail invalid := by
  match bytes with
  | [] => rfl
  | [_] => rfl
  | high :: low :: bytes =>
    have two : ¬(high :: low :: bytes).length < 2 := by simp
    have prefixed : slice 2 (high :: low :: bytes) = .ok [high, low] := if_neg two
    have length : bigEndian [high, low] = high.toNat * 256 + low.toNat := by simp [bigEndian]
    rw [readBounded, if_neg two, prefixed]
    simp only [bind, Except.bind, length, List.drop_succ_cons, List.drop_zero, Ipp.readField]
    generalize high.toNat * 256 + low.toNat = n
    by_cases short : bytes.length < n
    · rw [if_pos (.inr short), if_pos short]
      simp only [if_neg two]
    · have taken : (bytes.take n).length = n := List.length_take_of_le (Nat.le_of_not_lt short)
      rw [if_neg short]
      simp only [taken, short, or_false, slice, if_false]
      rfl

theorem readField_of_readBounded {limit : ℕ} {truncated invalid : String} {bytes value rest : List UInt8}
    (read : readBounded limit truncated invalid bytes = .ok (value, rest)) :
    Ipp.readField bytes = some (value, rest) := by
  rw [readBounded_eq] at read
  cases found : Ipp.readField bytes with
  | none =>
    rw [found] at read
    simp only [ippFail] at read
    split at read <;> cases read
  | some pair =>
    rw [found] at read
    simp only at read
    split at read
    · cases read
    · exact congrArg some (Except.ok.inj read)

/-! ### The loop -/

/-- What a parser does with the parts of a message, and how it reports a message that is cut off. -/
structure IppReader (State Result : Type) where
  missingEnd : String
  truncatedName : String
  invalidName : String
  truncatedValue : String
  invalidValue : String
  inGroup : State → Bool
  finish : State → List UInt8 → Except IppError Result
  openGroup : State → UInt8 → Except IppError State
  name : State → List UInt8 → Except IppError State
  value : State → UInt8 → List UInt8 → List UInt8 → Except IppError State

namespace IppReader

variable {State Result : Type} (reader : IppReader State Result)

/-- A tag with its name and value. -/
def readAttribute (state : State) (tag : UInt8) (bytes : List UInt8) : Except IppError (State × List UInt8) :=
  if reader.inGroup state = false then ippFail reader.truncatedName
  else do
    let (name, bytes) ← readBounded 255 reader.truncatedName reader.invalidName bytes
    let state ← reader.name state name
    let (value, bytes) ← readBounded 32767 reader.truncatedValue reader.invalidValue bytes
    let state ← reader.value state tag name value
    return (state, bytes)

theorem length_le_of_readAttribute {state state' : State} {tag : UInt8} {bytes rest : List UInt8}
    (read : reader.readAttribute state tag bytes = .ok (state', rest)) : rest.length ≤ bytes.length := by
  unfold readAttribute at read
  split at read
  · cases read
  obtain ⟨⟨name, afterName⟩, isName, read⟩ := Machine.exists_of_bind_eq_ok read
  obtain ⟨named, -, read⟩ := Machine.exists_of_bind_eq_ok read
  obtain ⟨⟨value, afterValue⟩, isValue, read⟩ := Machine.exists_of_bind_eq_ok read
  obtain ⟨taken, -, read⟩ := Machine.exists_of_bind_eq_ok read
  obtain ⟨-, rfl⟩ := Prod.mk.inj (Except.ok.inj read)
  exact (Ipp.length_le_of_readField (readField_of_readBounded isValue)).trans
    (Ipp.length_le_of_readField (readField_of_readBounded isName))

/-- The loop over the bytes behind the header. -/
def scan (state : State) (bytes : List UInt8) : Except IppError Result :=
  match bytes with
  | [] => ippFail reader.missingEnd
  | tag :: bytes =>
    if tag = Ipp.endTag then reader.finish state bytes
    else if Ipp.isDelimiter tag then
      match reader.openGroup state tag with
      | .error error => .error error
      | .ok state => scan state bytes
    else
      match _read : reader.readAttribute state tag bytes with
      | .error error => .error error
      | .ok (state, rest) => scan state rest
termination_by bytes.length
decreasing_by
  · exact Nat.lt_succ_self _
  · exact Nat.lt_succ_of_le (reader.length_le_of_readAttribute _read)

end IppReader

end PrintGateway.Agent
