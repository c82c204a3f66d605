/-!
IEEE double-precision numbers by their bits, so that equality is decidable and a value with a float
in it can be reasoned about. Arithmetic goes through `Float`.
-/
namespace Replay.Decimal

structure Double where
  bits : UInt64
  deriving DecidableEq, Repr, Inhabited

namespace Double

def ofFloat (x : Float) : Double := ⟨x.toBits⟩

def toFloat (x : Double) : Float := Float.ofBits x.bits

def signWeight : Nat := 0x8000000000000000

/-- The bits below this weight are the fraction, those above it the exponent. -/
def exponentWeight : Nat := 0x10000000000000

def isNegative (x : Double) : Bool := x.bits.toNat / signWeight == 1

def biasedExponent (x : Double) : Nat := x.bits.toNat / exponentWeight % 2048

def fraction (x : Double) : Nat := x.bits.toNat % exponentWeight

def isNaN (x : Double) : Bool := x.biasedExponent == 2047 && x.fraction != 0

def isInfinite (x : Double) : Bool := x.biasedExponent == 2047 && x.fraction == 0

def isFinite (x : Double) : Bool := x.biasedExponent != 2047

def mantissa (x : Double) : Nat :=
  if x.biasedExponent = 0 then x.fraction else exponentWeight + x.fraction

def exponent (x : Double) : Int :=
  if x.biasedExponent = 0 then -1074 else (x.biasedExponent : Int) - 1075

/-- Below a power of two the doubles lie twice as dense as above it. -/
def isBinade (x : Double) : Bool := x.fraction == 0 && 1 < x.biasedExponent

def negate (x : Double) : Double := ofFloat (-x.toFloat)

def powerOfTen (n : Nat) : Float := Float.ofScientific 1 false n

/-- Divides out `308` decimal places at a time until the rest of the exponent is in the range of
`powerOfTen`, or nothing is left. `steps` bounds the number of divisions. -/
def scaleDown (steps : Nat) (f : Float) (places : Nat) : Float :=
  if places ≤ 308 then f / powerOfTen places
  else match steps with
    | 0 => 0.0
    | steps + 1 => if f == 0.0 then f else scaleDown steps (f / powerOfTen 308) (places - 308)

/-- The double a significand and a power of ten are read as: one multiplication or division by a
power of ten, so the last bit may differ from the nearest double. `none` if it overflows.
Three divisions by `1e308` take every significand of 64 bits to zero. -/
def ofDecimal? (significand : UInt64) (exponent : Int) : Option Double :=
  let f := significand.toFloat
  match exponent with
  | .ofNat n =>
    if n ≤ 308 then
      let g := f * powerOfTen n
      if g.isInf then none else some (ofFloat g)
    else if f == 0.0 then some (ofFloat f) else none
  | .negSucc n => some (ofFloat (scaleDown 4 f (n + 1)))

end Double

end Replay.Decimal
