/-!
Fractions that are not negative: the nearest one of a binary format, and their decimal digits. Every
rounding goes to the nearest value, and from the middle to the even one.
-/
namespace Replay.Decimal

structure Rational where
  num : Nat
  den : Nat

def roundDiv (n d : Nat) : Nat :=
  let q := n / d
  let twice := 2 * (n % d)
  if twice < d then q else if d < twice then q + 1 else q + q % 2

/-- A binary format: how many bits a value has, and the lowest exponent of the last of them. -/
structure Binary where
  bits : Nat
  lowest : Int
  /-- Values of this many binary places or more are too large. -/
  highest : Int

def Binary.double : Binary := ⟨53, -1074, 1024⟩

def Binary.extended : Binary := ⟨64, -16445, 16384⟩

namespace Rational

def zero : Rational := ⟨0, 1⟩

def ofDecimal (n : Nat) (e : Int) : Rational :=
  match e with
  | .ofNat e => ⟨n * Nat.pow 10 e, 1⟩
  | .negSucc e => ⟨n, Nat.pow 10 (e + 1)⟩

def ofBinary (n : Nat) (e : Int) : Rational :=
  match e with
  | .ofNat e => ⟨n * Nat.pow 2 e, 1⟩
  | .negSucc e => ⟨n, Nat.pow 2 (e + 1)⟩

def inUnits (x : Rational) (e : Int) : Nat :=
  match e with
  | .ofNat e => roundDiv x.num (x.den * Nat.pow 2 e)
  | .negSucc e => roundDiv (x.num * Nat.pow 2 (e + 1)) x.den

/-- How many binary places a value has in front of its point; fewer than none for small ones. -/
def magnitude (x : Rational) : Int :=
  let guess : Int := (Nat.log2 x.num : Int) - Nat.log2 x.den
  let isBelow : Bool := match guess with
    | .ofNat g => x.num < x.den * Nat.pow 2 g
    | .negSucc g => x.num * Nat.pow 2 (g + 1) < x.den
  if isBelow then guess else guess + 1

/-- The nearest value of a binary format, as a whole number and the exponent of its unit; nothing if
it is too large for the format. -/
def nearest? (b : Binary) (x : Rational) : Option (Nat × Int) :=
  if x.num = 0 then some (0, b.lowest)
  else
    let e := max b.lowest (x.magnitude - b.bits)
    let n := x.inUnits e
    let (n, e) := if n = Nat.pow 2 b.bits then (n / 2, e + 1) else (n, e)
    if b.highest < e + b.bits then none else some (n, e)

/-- Whether a value is too large for a binary format, or so small that the format cuts it short. -/
def isOutside (b : Binary) (x : Rational) : Bool :=
  match x.nearest? b with
  | none => true
  | some (n, e) =>
    let y := ofBinary n e
    n < Nat.pow 2 (b.bits - 1) && x.num * y.den ≠ y.num * x.den

def digits (n : Nat) : List Char := Nat.toDigits 10 n

/-- Digits with leading zeros, so that they are at least so many. -/
def padded (width n : Nat) : List Char :=
  let ds := digits n
  List.replicate (width - ds.length) '0' ++ ds

def withPoint (showsPoint : Bool) (whole fraction : List Char) : List Char :=
  if fraction.isEmpty && !showsPoint then whole else whole ++ '.' :: fraction

def fixed (x : Rational) (places : Nat) (showsPoint : Bool) : List Char :=
  let ds := padded (places + 1) (roundDiv (x.num * Nat.pow 10 places) x.den)
  withPoint showsPoint (ds.take (ds.length - places)) (ds.drop (ds.length - places))

def inTens (x : Rational) (e : Int) : Nat :=
  match e with
  | .ofNat e => roundDiv x.num (x.den * Nat.pow 10 e)
  | .negSucc e => roundDiv (x.num * Nat.pow 10 (e + 1)) x.den

def isBelowTen (x : Rational) (e : Int) : Bool :=
  match e with
  | .ofNat e => x.num < x.den * Nat.pow 10 e
  | .negSucc e => x.num * Nat.pow 10 (e + 1) < x.den

def leading (x : Rational) : Int :=
  if x.num = 0 then 0
  else
    let guess : Int := ((digits x.num).length : Int) - (digits x.den).length
    if x.isBelowTen guess then guess - 1 else guess

/-- The digits of a value, one in front of the point and `places` behind it, with the exponent. -/
def scaled (x : Rational) (places : Nat) : List Char × Int :=
  let e := x.leading
  let n := x.inTens (e - places)
  if n = Nat.pow 10 (places + 1) then (digits (n / 10), e + 1) else (padded (places + 1) n, e)

def power (isUpper : Bool) (e : Int) : List Char :=
  let sign := if e < 0 then '-' else '+'
  (if isUpper then 'E' else 'e') :: sign :: padded 2 e.natAbs

def scientific (x : Rational) (places : Nat) (showsPoint isUpper : Bool) : List Char :=
  let (ds, e) := x.scaled places
  withPoint showsPoint (ds.take 1) (ds.drop 1) ++ power isUpper e

def withoutZeros (ds : List Char) : List Char := (ds.reverse.dropWhile (· == '0')).reverse

/-- A value with a number of digits that count, in the shorter of both ways; zeros at the end are
left out unless `keepsZeros`. -/
def general (x : Rational) (precision : Nat) (keepsZeros isUpper : Bool) : List Char :=
  let p := max precision 1
  let (ds, e) := x.scaled (p - 1)
  let trimmed (fraction : List Char) : List Char :=
    if keepsZeros then fraction else withoutZeros fraction
  if -4 ≤ e && e < p then
    let places := ((p : Int) - 1 - e).toNat
    let all := padded (places + 1) (roundDiv (x.num * Nat.pow 10 places) x.den)
    withPoint keepsZeros (all.take (all.length - places)) (trimmed (all.drop (all.length - places)))
  else
    withPoint keepsZeros (ds.take 1) (trimmed (ds.drop 1)) ++ power isUpper e

end Rational

end Replay.Decimal
