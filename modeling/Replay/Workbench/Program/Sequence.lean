import Replay.Workbench.Program.Directive
import Replay.Workbench.Program.Stream

/-!
Sequences of numbers: `seq`. The numbers are decimal fractions, and they are counted up exactly, so
that the last one is met where it should be.
-/
namespace Replay.Program.Sequence

open Machine
open Decimal (Rational)

/-- A number as it was given, with what its text tells of how to write the sequence. -/
structure Operand where
  /-- Nothing is without end. -/
  size : Option Rational
  isNegative : Bool
  /-- How many decimal places it has; nothing if the text does not tell. -/
  places : Option Nat
  width : Nat

namespace Operand

def one : Operand := ⟨some ⟨1, 1⟩, false, some 0, 1⟩

def read? (text : String) : Option Operand :=
  let cs := text.toList.dropWhile fun c => isSpace c
  let (isNegative, digits) := match cs with
    | '-' :: rest => (true, rest)
    | '+' :: rest => (false, rest)
    | rest => (false, rest)
  let lower := (String.ofList digits).toLower
  if lower = "inf" || lower = "infinity" then some ⟨none, isNegative, none, 0⟩
  else
    let hexadecimal := match digits with
      | '0' :: x :: rest => if x = 'x' || x = 'X' then hexadecimalAt rest else none
      | _ => none
    match hexadecimal, decimalAt digits with
    | some (x, []), _ => some ⟨some x, isNegative, none, 0⟩
    | _, some (x, []) =>
      let (front, behind) := digits.span fun c => c ≠ 'e' && c ≠ 'E'
      let places := (front.dropWhile (· ≠ '.')).length - 1
      let power : Int := match behind with
        | _ :: '-' :: ds => -(ofDigits ds : Int)
        | _ :: '+' :: ds => ofDigits ds
        | _ :: ds => ofDigits ds
        | [] => 0
      let width := front.length + (if isNegative then 1 else 0) -
        (if places = 0 && front.contains '.' then 1 else 0) +
        (if 0 < places && front.head? = some '.' then 1 else 0) +
        (power.toNat - places)
      some ⟨some x, isNegative, some ((places : Int) - power).toNat, width⟩
    | _, _ => none

def isNoNumber (text : String) : Bool :=
  let cs := text.toList.dropWhile isSpace
  let cs := if cs.head? = some '-' || cs.head? = some '+' then cs.drop 1 else cs
  (String.ofList cs).toLower = "nan"

/-- How many parts the number is, if one is cut into `den` of them. -/
def scaled (x : Operand) (den : Nat) : Int :=
  match x.size with
  | none => 0
  | some r =>
    let n : Int := r.num * (den / r.den)
    if x.isNegative then -n else n

end Operand

/-- How the numbers are written. -/
structure Style where
  front : List Char
  layout : Layout
  conversion : Char
  behind : List Char

/-- The text of a format up to its directive or its end: a doubled percent sign stands for one. -/
def literal : List Char → List Char → List Char × List Char
  | '%' :: '%' :: rest, done => literal rest ('%' :: done)
  | '%' :: rest, done => (done.reverse, '%' :: rest)
  | c :: rest, done => literal rest (c :: done)
  | [], done => (done.reverse, [])

/-- Reads a format that holds one directive. -/
def Style.read (format : String) : Except String Style :=
  let wrong {α : Type} (text : String) : Except String α :=
    .error ("format " ++ quoteWord format ++ text)
  match literal format.toList [] with
  | (_, []) => wrong " has no % directive"
  | (front, _ :: rest) =>
    let (marks, rest) := rest.span fun c => ['\'', '#', '0', '-', '+', ' '].contains c
    let (width, rest) := rest.span Char.isDigit
    let (precision, rest) := match rest with
      | '.' :: behind =>
        let (ds, rest) := behind.span Char.isDigit
        (some (ofDigits ds), rest)
      | rest => (none, rest)
    let rest := if rest.head? = some 'L' then rest.drop 1 else rest
    match rest with
    | [] => wrong " ends in %"
    | c :: rest =>
      if !(['e', 'f', 'g', 'a', 'E', 'F', 'G', 'A'].contains c) then
        wrong (" has unknown %" ++ String.singleton c ++ " directive")
      else match literal rest [] with
        | (_, _ :: _) => wrong " has too many % directives"
        | (behind, []) =>
          .ok ⟨front, ⟨marks.contains '-', marks.contains '+', marks.contains ' ',
            marks.contains '#', marks.contains '0', ofDigits width, precision⟩, c, behind⟩

/-- The style that the operands ask for: as many places as the first number or the step has, and in
equal width if wanted. -/
def Style.ofOperands (first step last : Operand) (isEqual : Bool) : Style :=
  match first.places, step.places, last.places with
  | some p, some q, some r =>
    let places := max p q
    let firstWidth := first.width + (places - p) + (if p = 0 && 0 < places then 1 else 0)
    let lastWidth := last.width + places - r + (if r = 0 && 0 < places then 1 else 0) -
      (if 0 < r && places = 0 then 1 else 0)
    ⟨[], { Layout.plain with
      precision := some places, hasZeros := isEqual
      width := if isEqual then max firstWidth lastWidth else 0 }, 'f', []⟩
  | _, _, _ => ⟨[], .plain, 'g', []⟩

def Style.write (s : Style) (n : Int) (den : Nat) : List Char :=
  s.front ++ s.layout.real s.conversion (.finite (n < 0) ⟨n.natAbs, den⟩) ++ s.behind

def blockLines : Nat := 400

/-- Writes numbers from one on, in steps, as long as they are wanted. -/
def count (name : String) (style : Style) (separator : List Char) (den : Nat)
    (isWanted : Int → Bool) (step : Int) : (turns : Nat) → Int → Job Unit
  | 0, _ => return
  | turns + 1, n => do
    let block := (List.range blockLines).map fun i : Nat => n + (i : Int) * step
    let numbers := block.takeWhile isWanted
    let next := n + blockLines * step
    let goesOn := numbers.length = blockLines && isWanted next
    let text := separator.intercalate (numbers.map fun n => style.write n den)
    emit name (text ++ if goesOn then separator else ['\n'])
    if goesOn then count name style separator den isWanted step turns next

def write (name : String) (style : Style) (separator : String) (first step last : Operand) :
    Job Nat := do
  let denOf (x : Operand) : Nat := (x.size.map (·.den)).getD 1
  let den := Nat.lcm (denOf first) (Nat.lcm (denOf step) (denOf last))
  let stepSize := step.scaled den
  let isWanted (n : Int) : Bool := match last.size with
    | none => (stepSize < 0) == last.isNegative
    | some _ => if stepSize < 0 then last.scaled den ≤ n else n ≤ last.scaled den
  let start := first.scaled den
  if isWanted start then
    count name style separator.toList den isWanted stepSize Job.forever start
  return 0

def operandsOf : List String → Except String (List Operand)
  | [] => .ok []
  | text :: rest => do
    match Operand.read? text with
    | some x => return x :: (← operandsOf rest)
    | none =>
      throw (if Operand.isNoNumber text then
        "invalid 'not-a-number' argument: " ++ quoteWord text
      else "invalid floating point argument: " ++ quoteWord text)

/-- The arguments with a mark in front of the first number below zero, which is no option. -/
def withMark : (isText : Bool) → List String → List String
  | _, [] => []
  | isText, first :: rest =>
    let isNumber : Bool := match first.toList with
      | '-' :: c :: _ => c = '.' || c.isDigit
      | _ => false
    if isText then first :: withMark false rest
    else if first = "--" then first :: rest
    else if isNumber then "--" :: first :: rest
    else if first.startsWith "-" then first :: withMark (first = "-s" || first = "-f") rest
    else first :: rest

def run (words : List String) : Job Nat :=
  withOptions
    [.taking "format" ['f'] ["format"], .taking "separator" ['s'] ["separator"],
     .flag "equal" ['w'] ["equal-width"]] false 1 (fun name a => do
      let separator := (a.last? "separator").getD "\n"
      match a.operands with
      | [] => misuse name "missing operand" 1
      | _ :: _ :: _ :: extra :: _ => misuse name ("extra operand " ++ quoteWord extra) 1
      | texts =>
        match (a.last? "format").map Style.read with
        | some (.error text) =>
          complaint name text
          return 1
        | format =>
          if a.has "format" && a.has "equal" then
            misuse name "format string may not be specified when printing equal width strings" 1
          else match operandsOf texts with
            | .error text => misuse name text 1
            | .ok numbers =>
              let (first, step, last) : Operand × Operand × Operand := match numbers with
                | [last] => (.one, .one, last)
                | [first, last] => (first, .one, last)
                | [first, step, last] => (first, step, last)
                | _ => (.one, .one, .one)
              if (step.size.map (·.num)) = some 0 then
                misuse name ("invalid Zero increment value: " ++ quoteWord ((texts[1]?).getD "")) 1
              else
                let style := match format with
                  | some (.ok style) => style
                  | _ => .ofOperands first step last (a.has "equal")
                write name style separator first step last)
    (words.headD "" :: withMark false (words.drop 1))

end Replay.Program.Sequence
