import Replay.Workbench.Program.Directive
import Replay.Workbench.Shell.Builtin.Basic

/-! Builtins that write texts: `echo` and `printf`. -/
namespace Replay.Shell.Builtin

open Machine Program

def octal? (c : Char) : Option Nat :=
  if '0' ≤ c ∧ c ≤ '7' then some (c.toNat - 48) else none

def octals (value : Nat) : (most : Nat) → List Char → Nat × List Char
  | most + 1, c :: rest =>
    match octal? c with
    | some d => octals (value * 8 + d) most rest
    | none => (value, c :: rest)
  | _, rest => (value, rest)

def simpleEscape? : Char → Option Char
  | '\\' => some '\\'
  | 'a' => some '\x07'
  | 'b' => some '\x08'
  | 'e' => some '\x1b'
  | 'f' => some '\x0c'
  | 'n' => some '\n'
  | 'r' => some '\r'
  | 't' => some '\t'
  | 'v' => some '\x0b'
  | _ => none

/-- The character that stands behind a backslash, and what follows; an unknown one leaves the
backslash alone. -/
def escape (cs : List Char) : Char × List Char :=
  match cs with
  | [] => ('\\', [])
  | c :: rest =>
    match simpleEscape? c with
    | some d => (d, rest)
    | none =>
      if (octal? c).isSome then
        let (n, rest) := octals 0 3 cs
        (Char.ofNat (n % 256), rest)
      else ('\\', cs)

/-- A text without its backslashes, last character first, and whether `\c` ended it. -/
def unescape : (steps : Nat) → List Char → List Char → List Char × Bool
  | 0, _, done | _, [], done => (done, false)
  | steps + 1, c :: rest, done =>
    if c ≠ '\\' then unescape steps rest (c :: done)
    else match rest with
      | 'c' :: _ => (done, true)
      | '0' :: d :: behind =>
        let (e, rest) := escape (if (octal? d).isSome then d :: behind else rest)
        unescape steps rest (e :: done)
      | rest =>
        let (e, rest) := escape rest
        unescape steps rest (e :: done)

def echo (args : List String) : Sh Nat := do
  let (newline, args) := match args with
    | "-n" :: rest => (false, rest)
    | args => (true, args)
  let text := (" ".intercalate args).toList
  let (done, isCut) := unescape text.length text []
  Sh.put (String.ofList (if newline && !isCut then '\n' :: done else done).reverse)
  return 0

/-- What printing has come to: its output, last character first, the arguments that are left, and
the status. -/
structure Printing where
  done : List Char
  args : List String
  status : Nat

namespace Printing

def add (p : Printing) (text : List Char) : Printing := { p with done := text.reverseAux p.done }

def next (p : Printing) : Option String × Printing :=
  (p.args.head?, { p with args := p.args.drop 1 })

/-- Tells what is left of an argument that is no number from its front to its end. -/
def check (text : String) (rest : List Char) (isFront isInRange : Bool) (p : Printing) :
    Sh Printing := do
  if !rest.isEmpty then
    Sh.warn (text ++ if isFront then ": expected numeric value" else ": not completely converted")
    return { p with status := 1 }
  if !isInRange then
    Sh.warn (text ++ ": Numerical result out of range")
    return { p with status := 1 }
  return p

def characterNumber? (text : String) : Option Nat :=
  match text.toList with
  | '\'' :: rest | '"' :: rest => some ((rest.head?.map Char.toNat).getD 0)
  | _ => none

/-- The sign at the front of a text, the size of the number there, and what follows; nothing if
there is no number. -/
def wholeAt (cs : List Char) : Option (Bool × Nat × List Char) :=
  let cs := cs.dropWhile isSpace
  let (isNegative, digits) := match cs with
    | '-' :: rest => (true, rest)
    | '+' :: rest => (false, rest)
    | rest => (false, rest)
  if (digits.head?.map Char.isDigit).getD false then
    let (n, rest) := Arithmetic.natural digits
    some (isNegative, n, rest)
  else none

def half : Nat := 0x8000000000000000

def whole : Nat := 0x10000000000000000

/-- The next argument as a number of 64 bits: those below zero stand at the upper end. -/
def nextInteger (isSigned : Bool) (p : Printing) : Sh (Nat × Printing) := do
  let (arg, p) := p.next
  match arg with
  | none => return (0, p)
  | some text =>
    match characterNumber? text with
    | some n => return (n, p)
    | none =>
      match wholeAt text.toList with
      | none => return (0, ← p.check text text.toList true true)
      | some (isNegative, n, rest) =>
        let most := if !isSigned then whole - 1 else if isNegative then half else half - 1
        let p ← p.check text rest false (n ≤ most)
        if most < n then
          return (if isSigned then (if isNegative then half else half - 1) else whole - 1, p)
        else return (if isNegative then (whole - n) % whole else n, p)

def nextReal (p : Printing) : Sh (Layout.Real × Printing) := do
  let (arg, p) := p.next
  match arg with
  | none => return (.finite false .zero, p)
  | some text =>
    match characterNumber? text with
    | some n => return (.finite false ⟨n, 1⟩, p)
    | none =>
      match realAt .double text.toList with
      | none => return (.finite false .zero, ← p.check text text.toList true true)
      | some (x, fits, rest) => return (x, ← p.check text rest false fits)

def signedOf (n : Nat) : Int := if half ≤ n then (n : Int) - whole else n

def shortOf (n : Nat) : Int :=
  let low := n % 0x100000000
  if 0x80000000 ≤ low then (low : Int) - 0x100000000 else low

def extent (cs : List Char) (p : Printing) : Sh (Option Int × List Char × Printing) := do
  match cs with
  | '*' :: rest =>
    let (n, p) ← p.nextInteger true
    return (some (shortOf n), rest, p)
  | cs =>
    let (ds, rest) := cs.span fun c => c.isDigit
    return (if ds.isEmpty then none else some (ofDigits ds), rest, p)

/-- Prints one directive, from behind its percent sign on. What follows it comes back, or nothing if
all printing ends. -/
def directive (cs : List Char) (p : Printing) : Sh (Option (List Char) × Printing) := do
  let (marks, rest) := cs.span fun c => ['#', '-', '+', ' ', '0'].contains c
  let (width, rest, p) ← extent rest p
  let (precision, rest, p) ← match rest with
    | '.' :: behind => do
      let (n, rest, p) ← extent behind p
      pure (some (n.getD 0), rest, p)
    | rest => pure (none, rest, p)
  let width := width.getD 0
  let l : Layout := {
    isLeft := marks.contains '-' || width < 0
    showsPlus := marks.contains '+'
    showsSpace := marks.contains ' '
    isAlternate := marks.contains '#'
    hasZeros := marks.contains '0'
    width := width.natAbs
    precision := precision.bind fun n => if n < 0 then none else some n.toNat }
  let invalid {α : Type} (text : String) : Sh α := do
    Sh.warn text
    Sh.put (String.ofList p.done.reverse)
    Sh.setStatus 2
    throw .failure
  match rest with
  | [] => invalid "missing format character"
  | c :: behind =>
    let finish (text : List Char) (p : Printing) : Sh (Option (List Char) × Printing) :=
      return (some behind, p.add text)
    match c with
    | 'b' =>
      let (arg, p) := p.next
      let text := (arg.getD "").toList
      let (done, isCut) := unescape text.length text []
      let p := p.add (l.texts done.reverse)
      return (if isCut then none else some behind, p)
    | 'c' =>
      let (arg, p) := p.next
      let char := ((arg.getD "").toList.head?).getD '\x00'
      finish ({ l with precision := none }.texts [char]) p
    | 's' =>
      let (arg, p) := p.next
      finish (l.texts (arg.getD "").toList) p
    | 'd' | 'i' =>
      let (n, p) ← p.nextInteger true
      finish (l.signed (signedOf n)) p
    | 'o' =>
      let (n, p) ← p.nextInteger false
      finish (l.unsigned 8 false n) p
    | 'u' =>
      let (n, p) ← p.nextInteger false
      finish (l.unsigned 10 false n) p
    | 'x' | 'X' =>
      let (n, p) ← p.nextInteger false
      finish (l.unsigned 16 (c == 'X') n) p
    | _ =>
      if ['a', 'A', 'e', 'E', 'f', 'F', 'g', 'G'].contains c then
        let (x, p) ← p.nextReal
        finish (l.real c x) p
      else
        let shown := cs.take (cs.length - behind.length)
        invalid ("%" ++ String.ofList shown ++ ": invalid directive")

/-- Prints a format once; tells whether printing goes on. -/
def once : (steps : Nat) → List Char → Printing → Sh (Bool × Printing)
  | 0, _, p | _, [], p => return (true, p)
  | steps + 1, c :: rest, p => do
    match c, rest with
    | '\\', rest =>
      let (e, rest) := escape rest
      once steps rest { p with done := e :: p.done }
    | '%', '%' :: rest => once steps rest { p with done := '%' :: p.done }
    | '%', rest =>
      match ← directive rest p with
      | (some rest, p) => once steps rest p
      | (none, p) => return (false, p)
    | c, rest => once steps rest { p with done := c :: p.done }

/-- Prints a format as often as there are arguments for it. -/
def all (format : List Char) (count : Nat) : (steps : Nat) → Printing → Sh Printing
  | 0, p => return p
  | steps + 1, p => do
    let (goesOn, p) ← once (format.length + 1) format p
    if goesOn && p.args.length < count && !p.args.isEmpty then all format count steps p
    else return p

end Printing

def printf (args : List String) : Sh Nat := do
  let (_, args) ← flags [] args
  match args with
  | [] => Sh.fail "usage: printf format [arg ...]"
  | format :: args =>
    let p ← Printing.all format.toList args.length (args.length + 1) ⟨[], args, 0⟩
    Sh.put (String.ofList p.done.reverse)
    return p.status

end Replay.Shell.Builtin
