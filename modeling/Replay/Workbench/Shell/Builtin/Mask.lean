import Replay.Workbench.Shell.Builtin.Basic

/-!
The builtin for the mask of new files: the bits that are taken from their modes. It is given as
octal digits, or as changes of the mode it leaves.
-/
namespace Replay.Shell.Builtin

open Machine

namespace Mask

def all : Nat := 0o777

def whoBits : Char → Nat
  | 'u' => 0o700
  | 'g' => 0o070
  | 'o' => 0o007
  | _ => all

/-- The bits a letter stands for; one that names people takes what they have. -/
def bitsOf? (mode : Nat) : Char → Option Nat
  | 'r' => some 0o444
  | 'w' => some 0o222
  | 'x' | 'X' => some 0o111
  | 's' => some 0
  | 'u' => some (mode / 64 % 8 * 0o111)
  | 'g' => some (mode / 8 % 8 * 0o111)
  | 'o' => some (mode % 8 * 0o111)
  | _ => none

def without (a b : Nat) : Nat := a &&& (all ^^^ b)

/-- The operations behind the people they are about; at least one is `needed`. -/
def operations (who : Nat) : (steps : Nat) → (needed : Bool) → (mode : Nat) → List Char →
    Option (Nat × List Char)
  | 0, _, _, _ => none
  | steps + 1, needed, mode, c :: rest =>
    if c = '+' || c = '-' || c = '=' then
      let letters := rest.takeWhile fun d => (bitsOf? mode d).isSome
      let bits := (letters.filterMap (bitsOf? mode)).foldl (· ||| ·) 0 &&& who
      let mode := if c = '+' then mode ||| bits
        else if c = '-' then without mode bits
        else without mode who ||| bits
      operations who steps false mode (rest.drop letters.length)
    else if needed then none else some (mode, c :: rest)
  | _, needed, mode, [] => if needed then none else some (mode, [])

def changed : (steps : Nat) → (mode : Nat) → List Char → Option Nat
  | 0, _, _ => none
  | _, mode, [] => some mode
  | steps + 1, mode, cs => do
    let people := cs.takeWhile fun c => ['u', 'g', 'o', 'a'].contains c
    let who := if people.isEmpty then all else (people.map whoBits).foldl (· ||| ·) 0
    match ← operations who steps true mode (cs.drop people.length) with
    | (mode, []) => return mode
    | (mode, ',' :: rest) => changed steps mode rest
    | _ => none

def letters (bits : Nat) : String :=
  (if bits &&& 4 = 4 then "r" else "") ++ (if bits &&& 2 = 2 then "w" else "") ++
    (if bits &&& 1 = 1 then "x" else "")

def numeral (mask : Nat) : String :=
  let ds := Nat.toDigits 8 mask
  String.ofList (List.replicate (4 - ds.length) '0' ++ ds)

end Mask

def mask (args : List String) : Sh Nat := do
  let (found, args) ← flags ['S'] args
  let mask := (← get).mask
  let mode := Mask.all ^^^ mask
  match args with
  | [] =>
    Sh.put (if found.isEmpty then Mask.numeral mask ++ "\n"
      else "u=" ++ Mask.letters (mode / 64) ++ ",g=" ++ Mask.letters (mode / 8 % 8) ++ ",o=" ++
        Mask.letters (mode % 8) ++ "\n")
    return 0
  | text :: _ =>
    let cs := text.toList
    if (cs.head?.map Char.isDigit).getD false then
      if !cs.all (fun c => '0' ≤ c && c ≤ '7') then Sh.fail ("Illegal number: " ++ text)
      let n := cs.foldl (fun n c => n * 8 + digitValue c) 0
      modify fun s => { s with mask := n % 512 }
      return 0
    else match Mask.changed (2 * cs.length + 2) mode cs with
      | some mode =>
        modify fun s => { s with mask := Mask.all ^^^ mode }
        return 0
      | none => Sh.fail ("Illegal mode: " ++ text)

end Replay.Shell.Builtin
