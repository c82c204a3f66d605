/-!
Byte strings. Inside the machine a text is a string of bytes, written as a string of characters
below 256, one for each byte: its programs know nothing of any encoding.
-/
namespace Replay.Machine

def byteOf (c : Char) : UInt8 := c.toNat.toUInt8

def charOf (b : UInt8) : Char := Char.ofNat b.toNat

def octets (s : String) : String :=
  String.ofList (s.toUTF8.toList.map charOf)

def packList (cs : List Char) : ByteArray := ⟨(cs.map byteOf).toArray⟩

def pack (s : String) : ByteArray := packList s.toList

def unpackList (b : ByteArray) : List Char := b.toList.map charOf

def decimal (n : Nat) : String := String.ofList (Nat.toDigits 10 n)

def decimalInt (i : Int) : String :=
  match i with
  | .ofNat n => decimal n
  | .negSucc n => "-" ++ decimal (n + 1)

def digitValue (c : Char) : Nat := c.toNat - 48

def ofDigits (cs : List Char) : Nat := cs.foldl (fun n c => n * 10 + digitValue c) 0

def natural? (s : String) : Option Nat :=
  let cs := s.toList
  if !cs.isEmpty && cs.all Char.isDigit then some (ofDigits cs) else none

def isSpace (c : Char) : Bool := c == ' ' || (9 ≤ c.toNat && c.toNat ≤ 13)

def classNamed? (name : String) : Option (Char → Bool) :=
  let isGraph (c : Char) : Bool := '!' ≤ c && c ≤ '~'
  match name with
  | "alpha" => some Char.isAlpha
  | "digit" => some Char.isDigit
  | "alnum" => some Char.isAlphanum
  | "upper" => some Char.isUpper
  | "lower" => some Char.isLower
  | "space" => some fun c => c == ' ' || ('\t' ≤ c && c ≤ '\r')
  | "blank" => some fun c => c == ' ' || c == '\t'
  | "punct" => some fun c => isGraph c && !c.isAlphanum
  | "print" => some fun c => c == ' ' || isGraph c
  | "graph" => some isGraph
  | "cntrl" => some fun c => c.toNat < 32 || c.toNat = 127
  | "xdigit" => some fun c => c.isDigit || ('a' ≤ c && c ≤ 'f') || ('A' ≤ c && c ≤ 'F')
  | _ => none

/-- The lines of a text, each without its end, and whether the last one has an end too. -/
def linesOf (cs : List Char) : List (List Char) × Bool :=
  let (done, open_) := cs.foldl (fun (done, line) c =>
    if c = '\n' then (line.reverse :: done, []) else (done, c :: line)) ([], [])
  if open_.isEmpty then (done.reverse, true) else ((open_.reverse :: done).reverse, false)

/-- The text of lines that all have an end but perhaps the last. -/
def ofLines (lines : List (List Char)) (ended : Bool) : List Char :=
  match lines with
  | [] => []
  | [line] => if ended then line ++ ['\n'] else line
  | line :: rest => line ++ '\n' :: ofLines rest ended

def splitAt (separator : Char) (cs : List Char) : List (List Char) :=
  let (done, last) := cs.foldl (fun (done, field) c =>
    if c = separator then (field.reverse :: done, []) else (done, c :: field)) ([], [])
  (last.reverse :: done).reverse

def splitString (separator : Char) (s : String) : List String :=
  (splitAt separator s.toList).map String.ofList

end Replay.Machine
