import Replay.Decimal.Double

/-!
The shortest decimal that reads back as a double. A double stands for the interval of reals that
round to it; on the grid of decimals with `n` digits the two neighbours of the double are tried,
for `n = 1, 2, …`, and the first grid with a hit wins.
-/
namespace Replay.Decimal

/-- Which of two equally near decimals is taken. -/
inductive Tie where
  | toEven
  | up
  deriving DecidableEq, Repr

/-- The positive number `digits * 10 ^ exponent`; `digits` does not end in zero. -/
structure Shortest where
  digits : Nat
  exponent : Int
  deriving DecidableEq, Repr

/-- A positive real given by numerators over one denominator: the number itself and the ends of
the interval that rounds to it. -/
structure Interval where
  value : Nat
  low : Nat
  high : Nat
  denominator : Nat
  closed : Bool

namespace Interval

/-- The half-way points to the next doubles belong to an even mantissa. -/
def ofDouble (x : Double) : Interval :=
  let m := 4 * x.mantissa
  let below := if x.isBinade then 1 else 2
  let closed := x.mantissa % 2 == 0
  match x.exponent - 2 with
  | .ofNat q =>
    let s := Nat.pow 2 q
    ⟨m * s, (m - below) * s, (m + 2) * s, 1, closed⟩
  | .negSucc q => ⟨m, m - below, m + 2, Nat.pow 2 (q + 1), closed⟩

def holds (i : Interval) (n : Nat) : Bool :=
  if i.closed then i.low ≤ n && n ≤ i.high else i.low < n && n < i.high

def inUnits (i : Interval) : Int → Interval
  | .ofNat k => { i with denominator := i.denominator * Nat.pow 10 k }
  | .negSucc k =>
    let s := Nat.pow 10 (k + 1)
    { i with value := i.value * s, low := i.low * s, high := i.high * s }

def nearest? (i : Interval) (tie : Tie) : Option Nat :=
  let c := i.value / i.denominator
  match i.holds (c * i.denominator), i.holds ((c + 1) * i.denominator) with
  | false, false => none
  | true, false => some c
  | false, true => some (c + 1)
  | true, true =>
    let twice := 2 * i.value
    let middle := (2 * c + 1) * i.denominator
    if twice < middle then some c
    else if middle < twice then some (c + 1)
    else match tie with
      | .up => some (c + 1)
      | .toEven => some (if c % 2 = 0 then c else c + 1)

def leading (i : Interval) : Int :=
  let d : Int := (Nat.toDigits 10 i.value).length - (Nat.toDigits 10 i.denominator).length
  let reaches : Bool := match d with
    | .ofNat k => i.denominator * Nat.pow 10 k ≤ i.value
    | .negSucc k => i.denominator ≤ i.value * Nat.pow 10 (k + 1)
  if reaches then d else d - 1

end Interval

def Shortest.strip : Nat → Shortest → Shortest
  | 0, s => s
  | n + 1, s =>
    if s.digits % 10 = 0 then strip n ⟨s.digits / 10, s.exponent + 1⟩ else s

/-- Tries the grids from `places` digits on; `left` bounds how many. -/
def Shortest.search (i : Interval) (tie : Tie) (top : Int) (places : Nat) : Nat → Shortest
  | 0 => ⟨0, 0⟩
  | left + 1 =>
    let k := top - places
    match (i.inUnits k).nearest? tie with
    | some c => Shortest.strip 20 ⟨c, k⟩
    | none => search i tie top (places + 1) left

def Shortest.ofDouble (tie : Tie) (x : Double) : Shortest :=
  let i := Interval.ofDouble x
  Shortest.search i tie i.leading 0 18

end Replay.Decimal
