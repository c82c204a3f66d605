import Replay.Json.Basic

/-! Compact JSON text: no blanks, members in the order they stand in, the fewest escapes. -/
namespace Replay.Json

/-- Floats in JSON have their shortest digits, a half going to the even digit, with one digit
behind the point at least; outside of `0.00001` to `9999999999999999` they have an exponent. What
is not finite has no JSON text and becomes `null`. -/
def floatFormat : Decimal.Format where
  tie := .toEven
  positional := some (-5, 15)
  keepsPoint := true
  nan := "null"
  infinity := "null"
  negativeInfinity := "null"

def hexDigit (n : Nat) : Char := Nat.digitChar n

/-- A character inside a string: only quotes, backslashes and controls are escaped. -/
def escapedChar (c : Char) : List Char :=
  if c = '"' then ['\\', '"']
  else if c = '\\' then ['\\', '\\']
  else if c = '\n' then ['\\', 'n']
  else if c = '\r' then ['\\', 'r']
  else if c = '\t' then ['\\', 't']
  else if c = '\x08' then ['\\', 'b']
  else if c = '\x0c' then ['\\', 'f']
  else if c.toNat < 0x20 then
    ['\\', 'u', '0', '0', hexDigit (c.toNat / 16), hexDigit (c.toNat % 16)]
  else [c]

def textChars (s : String) : List Char :=
  '"' :: (s.toList.flatMap escapedChar ++ ['"'])

def naturalChars (n : Nat) : List Char := Nat.toDigits 10 n

def integerChars : Int → List Char
  | .ofNat n => naturalChars n
  | .negSucc n => '-' :: naturalChars (n + 1)

def Number.chars : Number → List Char
  | .integer i => integerChars i.val
  | .float x => floatFormat.chars x

mutual

def charsBefore (rest : List Char) : Json → List Char
  | .null => 'n' :: 'u' :: 'l' :: 'l' :: rest
  | .bool true => 't' :: 'r' :: 'u' :: 'e' :: rest
  | .bool false => 'f' :: 'a' :: 'l' :: 's' :: 'e' :: rest
  | .number n => n.chars ++ rest
  | .text s => textChars s ++ rest
  | .list items => '[' :: itemsBefore (']' :: rest) items
  | .object members => '\x7b' :: membersBefore ('\x7d' :: rest) members

def itemsBefore (rest : List Char) : List Json → List Char
  | [] => rest
  | [j] => charsBefore rest j
  | j :: next :: more => charsBefore (',' :: itemsBefore rest (next :: more)) j

def membersBefore (rest : List Char) : List (String × Json) → List Char
  | [] => rest
  | [(k, j)] => textChars k ++ ':' :: charsBefore rest j
  | (k, j) :: next :: more =>
    textChars k ++ ':' :: charsBefore (',' :: membersBefore rest (next :: more)) j

end

def chars (j : Json) : List Char := charsBefore [] j

/-- The JSON text of a value. -/
def print (j : Json) : String := String.ofList j.chars

end Replay.Json
