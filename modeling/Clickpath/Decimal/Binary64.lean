import Clickpath.Chars.Digit

/-! # Binary floating-point numbers

A number of the 64-bit binary format is kept as its bits, so that equality is decidable and every
question about it is answered in exact arithmetic: the sign, the whole significand `m` and the
exponent `q` with which a finite number is `m * 2 ^ q`.
-/

namespace Clickpath

/-- A number of the 64-bit binary format. -/
structure Binary64 where
  bits : UInt64
  deriving DecidableEq, Repr

namespace Binary64

/-- The number is below zero, or the negative zero. -/
def negative (x : Binary64) : Bool := x.bits.toNat / Nat.pow 2 63 == 1

def exponentField (x : Binary64) : Nat := x.bits.toNat / Nat.pow 2 52 % Nat.pow 2 11

def fraction (x : Binary64) : Nat := x.bits.toNat % Nat.pow 2 52

def isNaN (x : Binary64) : Bool := x.exponentField == 2047 && x.fraction != 0

def isInfinite (x : Binary64) : Bool := x.exponentField == 2047 && x.fraction == 0

def isZero (x : Binary64) : Bool := x.exponentField == 0 && x.fraction == 0

/-- The whole significand of a finite number. -/
def significand (x : Binary64) : Nat :=
  if x.exponentField == 0 then x.fraction else x.fraction + Nat.pow 2 52

/-- The power of two that the significand of a finite number is taken with. -/
def exponent (x : Binary64) : Int :=
  if x.exponentField == 0 then -1074 else (x.exponentField : Int) - 1075

/-- The size of a finite number as a quotient of whole numbers. -/
def ratio (x : Binary64) : Nat × Nat :=
  if 0 ≤ x.exponent then (x.significand * Nat.pow 2 x.exponent.toNat, 1)
  else (x.significand, Nat.pow 2 (-x.exponent).toNat)

/-- The greatest whole number that is not above a finite number. -/
def floor (x : Binary64) : Int :=
  let (top, bottom) := x.ratio
  if x.negative then -((top + bottom - 1) / bottom : Nat) else (top / bottom : Nat)

/-- The millionths after the point of a finite number's size, a half rounded away from zero. -/
def fractionMillionths (x : Binary64) : Nat :=
  let (top, bottom) := x.ratio
  (2 * (top % bottom) * 1000000 + bottom) / (2 * bottom)

/-- The number with these bits of the machine's floating-point type. -/
def ofFloat (x : Float) : Binary64 := ⟨x.toBits⟩

def toFloat (x : Binary64) : Float := Float.ofBits x.bits

/-- The number nearest to `± digits * 10 ^ power`; sizes out of range become zero or infinite. -/
def ofDecimal (negative : Bool) (digits : Nat) (power : Int) : Binary64 :=
  let size : Float :=
    if digits == 0 then 0
    else if power > 400 then Float.ofScientific 1 false 400
    else if power < -1200 - (digits.log2 : Int) then 0
    else Float.ofScientific digits (power < 0) power.natAbs
  ofFloat (if negative then -size else size)

def infinity : Binary64 := ⟨0x7FF0000000000000⟩

def negativeInfinity : Binary64 := ⟨0xFFF0000000000000⟩

def nan : Binary64 := ⟨0x7FF8000000000000⟩

end Binary64

end Clickpath
