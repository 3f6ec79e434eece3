import Mathlib.Data.Rat.Floor

/-!
# Binary floating point

The numbers of IEEE 754 binary64 with their arithmetic, rounded to the nearest number and to the even one of
two.  A finite number is its rational value, so that the sign of a zero is not kept.
-/

namespace Codec

inductive Float64
  | nan
  | infinite (negative : Bool)
  | finite (value : ℚ)
  deriving DecidableEq, Repr

namespace Float64

/-- The nearest integer, and of two the even one. -/
def nearestEven (q : ℚ) : ℤ :=
  let low := ⌊q⌋
  if q - low < 1 / 2 then low else if 1 / 2 < q - low then low + 1 else if low % 2 = 0 then low else low + 1

/-- The exponent of the highest bit of a number that is not zero. -/
def exponent (q : ℚ) : ℤ :=
  let e : ℤ := (Nat.log2 q.num.natAbs : ℤ) - Nat.log2 q.den
  if |q| < (2 : ℚ) ^ e then e - 1 else e

/-- The place of the last of 53 bits; below the smallest exponent fewer bits are left. -/
def lastPlace (q : ℚ) : ℤ := max (exponent q - 52) (-1074)

/-- The nearest number of the format. -/
def ofRat (q : ℚ) : Float64 :=
  if q = 0 then .finite 0
  else
    let ulp := (2 : ℚ) ^ lastPlace q
    let value := nearestEven (q / ulp) * ulp
    if (2 : ℚ) ^ 1024 ≤ |value| then .infinite (decide (value < 0)) else .finite value

def ofInt (n : ℤ) : Float64 := ofRat n

def isNegative : Float64 → Bool
  | nan => false
  | infinite negative => negative
  | finite value => decide (value < 0)

def neg : Float64 → Float64
  | nan => nan
  | infinite negative => infinite !negative
  | finite value => finite (-value)

def add : Float64 → Float64 → Float64
  | nan, _ | _, nan => nan
  | infinite a, infinite b => if a = b then infinite a else nan
  | infinite a, finite _ | finite _, infinite a => infinite a
  | finite a, finite b => ofRat (a + b)

def sub (a b : Float64) : Float64 := add a (neg b)

def mul : Float64 → Float64 → Float64
  | nan, _ | _, nan => nan
  | finite a, finite b => ofRat (a * b)
  | a, b => if a = finite 0 ∨ b = finite 0 then nan else infinite (a.isNegative != b.isNegative)

def div : Float64 → Float64 → Float64
  | nan, _ | _, nan => nan
  | infinite _, infinite _ => nan
  | infinite a, finite b => infinite (a != decide (b < 0))
  | finite _, infinite _ => finite 0
  | finite a, finite b =>
    if b = 0 then if a = 0 then nan else infinite (decide (a < 0)) else ofRat (a / b)

instance : Add Float64 := ⟨add⟩
instance : Sub Float64 := ⟨sub⟩
instance : Mul Float64 := ⟨mul⟩
instance : Div Float64 := ⟨div⟩

/-- The comparison `<`, which no comparison with a number that is none passes. -/
def less : Float64 → Float64 → Bool
  | nan, _ | _, nan => false
  | infinite a, infinite b => a && !b
  | infinite a, finite _ => a
  | finite _, infinite b => !b
  | finite a, finite b => decide (a < b)

/-- The comparison `<=`. -/
def lessEqual : Float64 → Float64 → Bool
  | nan, _ | _, nan => false
  | a, b => !less b a

/-- The smaller of two numbers. -/
def minimum (a b : Float64) : Float64 :=
  if a = infinite true ∨ b = infinite true then infinite true
  else if a = nan ∨ b = nan then nan
  else if less a b then a else b

/-- The nearest integer, and of two the one away from zero. -/
def round : Float64 → Float64
  | finite value => finite (if value < 0 then -⌊1 / 2 - value⌋ else ⌊value + 1 / 2⌋)
  | other => other

/-- The integer part, of a number that has one in 64 bits. -/
def truncate : Float64 → ℤ
  | finite value => if value < 0 then ⌈value⌉ else ⌊value⌋
  | _ => -2 ^ 63

end Float64

end Codec
