import Replay.Json.Basic
import Replay.Json.Flaw

/-!
Number literals. Reading one keeps the leading digits that fit in 64 bits and counts the rest, so
that a literal of any length is a significand and a power of ten.
-/
namespace Replay.Json

open Decimal (Double)

structure Numeral where
  negative : Bool
  significand : Nat
  /-- The power of ten from digits left out before the point and digits kept behind it. -/
  scale : Int
  /-- Neither a point nor an exponent was written. -/
  integral : Bool
  /-- The written exponent: whether it is negative, and its size. -/
  exponent : Bool × Nat
  deriving DecidableEq

namespace Numeral

def limit : Nat := 0x10000000000000000

/-- Exponents from here on all act alike, and are kept as this one. -/
def exponentLimit : Nat := 0x80000000

def extend? (significand digit : Nat) : Option Nat :=
  let n := significand * 10 + digit
  if n < limit then some n else none

def withExponentDigit (n : Numeral) (digit : Nat) : Numeral :=
  { n with exponent := (n.exponent.1, min exponentLimit (n.exponent.2 * 10 + digit)) }

def signed (negative : Bool) (x : Double) : Double := if negative then x.negate else x

def toDouble? (n : Numeral) : Option Double :=
  if n.exponent.2 = exponentLimit then
    if n.significand ≠ 0 ∧ n.exponent.1 = false then none
    else some (signed n.negative ⟨0⟩)
  else
    let power := if n.exponent.1 then n.scale - n.exponent.2 else n.scale + n.exponent.2
    (Double.ofDecimal? (.ofNat n.significand) power).map (signed n.negative)

/-- An integer where one was written and 64 bits hold it, a double otherwise. Zero with a minus
sign is a double, for integers have no negative zero. -/
def toNumber (n : Numeral) : Except Flaw Number :=
  let asDouble : Except Flaw Number := match n.toDouble? with
    | some x => .ok (.float x)
    | none => .error .numberOutOfRange
  if n.integral ∧ n.scale = 0 ∧ ¬ (n.negative ∧ n.significand = 0) then
    match Integer.ofInt? (if n.negative then - n.significand else n.significand) with
    | some i => .ok (.integer i)
    | none => asDouble
  else asDouble

end Numeral

/-- How far the reading of a literal has come. -/
inductive NumeralStage where
  | minus
  | zero
  | whole
  | point
  | fraction (full : Bool)
  | mark
  | sign
  | exponent
  deriving DecidableEq

/-- A literal that is partly read. -/
structure NumeralDraft where
  stage : NumeralStage
  numeral : Numeral

namespace NumeralDraft

def digit? (c : Char) : Option Nat :=
  if '0' ≤ c ∧ c ≤ '9' then some (c.toNat - 48) else none

def ofMinus : NumeralDraft := ⟨.minus, ⟨true, 0, 0, true, (false, 0)⟩⟩

def ofDigit (negative : Bool) (d : Nat) : NumeralDraft :=
  ⟨if d = 0 then .zero else .whole, ⟨negative, d, 0, true, (false, 0)⟩⟩

/-- What one more character does to a literal. -/
inductive Step where
  | more (d : NumeralDraft)
  | done (n : Numeral)
  | bad (f : Fault)

def pushWhole (n : Numeral) (d : Nat) : Numeral :=
  match if n.scale = 0 then Numeral.extend? n.significand d else none with
  | some s => { n with significand := s }
  | none => { n with scale := n.scale + 1 }

/-- A digit behind the point; once one did not fit, all later ones are left out. -/
def pushFraction (n : Numeral) (full : Bool) (d : Nat) : NumeralDraft :=
  match if full then none else Numeral.extend? n.significand d with
  | some s => ⟨.fraction false, { n with significand := s, scale := n.scale - 1 }⟩
  | none => ⟨.fraction true, n⟩

def atPoint (n : Numeral) : NumeralDraft := ⟨.point, { n with integral := false }⟩

def atMark (n : Numeral) : NumeralDraft := ⟨.mark, { n with integral := false }⟩

def invalid : Step := .bad Flaw.invalidNumber.toFault

def feed (draft : NumeralDraft) (c : Char) : Step :=
  let n := draft.numeral
  match draft.stage, digit? c with
  | .minus, some d => .more (ofDigit true d)
  | .minus, none => invalid
  | .zero, some _ => invalid
  | .zero, none =>
    if c = '.' then .more (atPoint n) else if c = 'e' ∨ c = 'E' then .more (atMark n) else .done n
  | .whole, some d => .more ⟨.whole, pushWhole n d⟩
  | .whole, none =>
    if c = '.' then .more (atPoint n) else if c = 'e' ∨ c = 'E' then .more (atMark n) else .done n
  | .point, some d => .more (pushFraction n false d)
  | .point, none => invalid
  | .fraction full, some d => .more (pushFraction n full d)
  | .fraction _, none => if c = 'e' ∨ c = 'E' then .more (atMark n) else .done n
  | .mark, some d => .more ⟨.exponent, n.withExponentDigit d⟩
  | .mark, none =>
    if c = '+' then .more ⟨.sign, n⟩
    else if c = '-' then .more ⟨.sign, { n with exponent := (true, 0) }⟩
    else invalid
  | .sign, some d => .more ⟨.exponent, n.withExponentDigit d⟩
  | .sign, none => invalid
  | .exponent, some d => .more ⟨.exponent, n.withExponentDigit d⟩
  | .exponent, none => .done n

/-- The end of the text; a reader misses the rest of the literal, one that passes over it finds
it malformed. -/
def finish (draft : NumeralDraft) : Except Fault Numeral :=
  match draft.stage with
  | .zero | .whole | .fraction _ | .exponent => .ok draft.numeral
  | .minus | .point | .mark | .sign => .error ⟨.endInValue, .invalidNumber⟩

end NumeralDraft

end Replay.Json
