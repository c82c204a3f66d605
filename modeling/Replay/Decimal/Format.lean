import Replay.Decimal.Shortest

/-! Written forms of doubles: the shortest digits, and the choices a format makes about them. -/
namespace Replay.Decimal

structure Format where
  tie : Tie
  /-- The exponents of the leading digit that are written without an exponent; `none` for all. -/
  positional : Option (Int × Int)
  /-- Whether a whole number keeps one digit behind the point. -/
  keepsPoint : Bool
  nan : String
  infinity : String
  negativeInfinity : String

def digitsOf (n : Nat) : List Char := Nat.toDigits 10 n

def zeros (n : Nat) : List Char := List.replicate n '0'

def positionalChars (keepsPoint : Bool) (s : Shortest) : List Char :=
  let ds := digitsOf s.digits
  match s.exponent with
  | .ofNat k => ds ++ zeros k ++ (if keepsPoint then ['.', '0'] else [])
  | .negSucc k =>
    let places := k + 1
    if places < ds.length then
      ds.take (ds.length - places) ++ '.' :: ds.drop (ds.length - places)
    else ['0', '.'] ++ zeros (places - ds.length) ++ ds

def scientificChars (s : Shortest) (leading : Int) : List Char :=
  let ds := digitsOf s.digits
  let mantissa := match ds with
    | [] => []
    | [d] => [d]
    | d :: rest => d :: '.' :: rest
  let power := match leading with
    | .ofNat n => '+' :: digitsOf n
    | .negSucc n => '-' :: digitsOf (n + 1)
  mantissa ++ 'e' :: power

def Format.chars (f : Format) (x : Double) : List Char :=
  if x.isNaN then f.nan.toList
  else if x.isInfinite then (if x.isNegative then f.negativeInfinity else f.infinity).toList
  else
    let sign := if x.isNegative then ['-'] else []
    if x.mantissa = 0 then sign ++ '0' :: (if f.keepsPoint then ['.', '0'] else [])
    else
      let s := Shortest.ofDouble f.tie x
      let leading : Int := s.exponent + (digitsOf s.digits).length - 1
      let plain := match f.positional with
        | none => true
        | some (low, high) => low ≤ leading && leading ≤ high
      sign ++ if plain then positionalChars f.keepsPoint s else scientificChars s leading

end Replay.Decimal
