import Replay.Workbench.Rational
import Replay.Workbench.Machine.Octets

/-! Directives of formats: how numbers and texts are put into fields of a width. -/
namespace Replay.Program

open Machine
open Decimal (Rational)

structure Layout where
  isLeft : Bool
  showsPlus : Bool
  showsSpace : Bool
  isAlternate : Bool
  hasZeros : Bool
  width : Nat
  precision : Option Nat

namespace Layout

def plain : Layout := ⟨false, false, false, false, false, 0, none⟩

/-- A text in a field; zeros go between a sign and the digits behind it. -/
def pad (l : Layout) (zeros : Bool) (sign text : List Char) : List Char :=
  let missing := l.width - (sign.length + text.length)
  if l.isLeft then sign ++ text ++ List.replicate missing ' '
  else if zeros then sign ++ List.replicate missing '0' ++ text
  else List.replicate missing ' ' ++ sign ++ text

def texts (l : Layout) (text : List Char) : List Char :=
  l.pad false [] ((l.precision.map text.take).getD text)

def sign (l : Layout) (isNegative : Bool) : List Char :=
  if isNegative then ['-'] else if l.showsPlus then ['+'] else if l.showsSpace then [' '] else []

/-- Digits, at least as many as the precision says; none for a zero of no precision. -/
def integerDigits (l : Layout) (digits : List Char) (isZero : Bool) : List Char :=
  match l.precision with
  | some 0 => if isZero then [] else digits
  | some p => List.replicate (p - digits.length) '0' ++ digits
  | none => digits

def usesZeros (l : Layout) : Bool := l.hasZeros && l.precision.isNone

def signed (l : Layout) (n : Int) : List Char :=
  l.pad l.usesZeros (l.sign (n < 0)) (l.integerDigits (Nat.toDigits 10 n.natAbs) (n == 0))

def unsigned (l : Layout) (base : Nat) (isUpper : Bool) (n : Nat) : List Char :=
  let digits := Nat.toDigits base n
  let digits := l.integerDigits (if isUpper then digits.map Char.toUpper else digits) (n == 0)
  let digits := if l.isAlternate && base == 8 && digits.head? != some '0' then '0' :: digits
    else digits
  let mark := if l.isAlternate && base == 16 && n != 0 then ['0', if isUpper then 'X' else 'x']
    else []
  l.pad l.usesZeros mark digits

/-- A number that is no fraction, or a fraction. -/
inductive Real where
  | finite (isNegative : Bool) (x : Rational)
  | infinite (isNegative : Bool)
  | nan (isNegative : Bool)

def hexadecimal (l : Layout) (isUpper : Bool) (x : Rational) : List Char :=
  let (digits, e) : List Char × Int :=
    if x.num = 0 then (['0'], 0)
    else
      let e := x.magnitude - 1
      let places := l.precision.getD 13
      let n := x.inUnits (e - 4 * places)
      (Nat.toDigits 16 n, e)
  let rest := digits.drop 1
  let rest := if l.precision.isNone then Decimal.Rational.withoutZeros rest else rest
  let power := (if e < 0 then '-' else '+') :: Nat.toDigits 10 e.natAbs
  let cs := Decimal.Rational.withPoint l.isAlternate (digits.take 1) rest ++ 'p' :: power
  if isUpper then cs.map Char.toUpper else cs

def real (l : Layout) (conversion : Char) (x : Real) : List Char :=
  let isUpper := conversion.isUpper
  let named (isNegative : Bool) (name : String) : List Char :=
    l.pad false (l.sign isNegative) (if isUpper then name.toUpper else name).toList
  match x with
  | .infinite isNegative => named isNegative "inf"
  | .nan isNegative => named isNegative "nan"
  | .finite isNegative x =>
    let precision := l.precision.getD 6
    match conversion.toLower with
    | 'a' =>
      let mark := ['0', if isUpper then 'X' else 'x']
      l.pad l.hasZeros (l.sign isNegative ++ mark) (l.hexadecimal isUpper x)
    | 'e' =>
      l.pad l.hasZeros (l.sign isNegative) (x.scientific precision l.isAlternate isUpper)
    | 'f' => l.pad l.hasZeros (l.sign isNegative) (x.fixed precision l.isAlternate)
    | _ => l.pad l.hasZeros (l.sign isNegative) (x.general precision l.isAlternate isUpper)

end Layout

/-- A decimal fraction at the front of a text that has no sign, and what follows it. -/
def decimalAt (cs : List Char) : Option (Rational × List Char) :=
  let (whole, rest) := cs.span Char.isDigit
  let (places, rest) := match rest with
    | '.' :: behind => behind.span Char.isDigit
    | rest => ([], rest)
  if whole.isEmpty && places.isEmpty then none
  else
    let (e, rest) : Int × List Char := match rest with
      | mark :: behind =>
        if mark = 'e' || mark = 'E' then
          let (isNegative, digits) := match behind with
            | '-' :: ds => (true, ds)
            | '+' :: ds => (false, ds)
            | ds => (false, ds)
          let (ds, behind) := digits.span Char.isDigit
          if ds.isEmpty then (0, rest)
          else
            let n : Int := min (ofDigits ds) 99999
            (if isNegative then -n else n, behind)
        else (0, rest)
      | [] => (0, [])
    let n := ofDigits (whole ++ places)
    if n = 0 then some (.zero, rest) else some (.ofDecimal n (e - places.length), rest)

def hexDigit? (c : Char) : Option Nat :=
  if c.isDigit then some (c.toNat - 48)
  else if 'a' ≤ c.toLower && c.toLower ≤ 'f' then some (c.toLower.toNat - 87)
  else none

/-- A hexadecimal fraction at the front of a text, behind its mark. -/
def hexadecimalAt (cs : List Char) : Option (Rational × List Char) :=
  let isHex (c : Char) : Bool := (hexDigit? c).isSome
  let (whole, rest) := cs.span isHex
  let (places, rest) := match rest with
    | '.' :: behind => behind.span isHex
    | rest => ([], rest)
  if whole.isEmpty && places.isEmpty then none
  else
    let n := (whole ++ places).foldl (fun n c => n * 16 + (hexDigit? c).getD 0) 0
    let (e, rest) : Int × List Char := match rest with
      | mark :: behind =>
        if mark = 'p' || mark = 'P' then
          let (isNegative, digits) := match behind with
            | '-' :: ds => (true, ds)
            | '+' :: ds => (false, ds)
            | ds => (false, ds)
          let (ds, behind) := digits.span Char.isDigit
          if ds.isEmpty then (0, rest)
          else
            let n : Int := min (ofDigits ds) 99999
            (if isNegative then -n else n, behind)
        else (0, rest)
      | [] => (0, [])
    some (if n = 0 then .zero else .ofBinary n (e - 4 * places.length), rest)

/-- Whether a text begins with a word, in letters of either case. -/
def beginsWith (word : String) (cs : List Char) : Bool :=
  (cs.take word.length).map Char.toLower == word.toList

/-- The number at the front of a text, as the nearest one of a binary format; whether the format has
room for it; and what follows it. -/
def realAt (b : Decimal.Binary) (cs : List Char) : Option (Layout.Real × Bool × List Char) :=
  let cs := cs.dropWhile isSpace
  let (isNegative, cs) := match cs with
    | '-' :: rest => (true, rest)
    | '+' :: rest => (false, rest)
    | rest => (false, rest)
  let rounded (x : Rational × List Char) : Layout.Real × Bool × List Char :=
    match x.1.nearest? b with
    | some (n, e) => (.finite isNegative (.ofBinary n e), !x.1.isOutside b, x.2)
    | none => (.infinite isNegative, false, x.2)
  let ofDecimal : Option (Layout.Real × Bool × List Char) := (decimalAt cs).map rounded
  if beginsWith "infinity" cs then some (.infinite isNegative, true, cs.drop 8)
  else if beginsWith "inf" cs then some (.infinite isNegative, true, cs.drop 3)
  else if beginsWith "nan" cs then some (.nan isNegative, true, cs.drop 3)
  else match cs with
    | '0' :: x :: rest =>
      if x.toLower = 'x' then
        match hexadecimalAt rest with
        | some x => some (rounded x)
        | none => ofDecimal
      else ofDecimal
    | _ => ofDecimal

end Replay.Program
