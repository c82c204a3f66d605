import Replay.Workbench.Machine.Octets
import Replay.Workbench.Regex.Basic

/-!
Reading regular expressions, in the basic form, where operators stand behind backslashes, and in the
extended one, where they do not.
-/
namespace Replay.Regex

open Machine

inductive Fault where
  | badPattern
  | badPreceding
  | badClassName
  | badCollation
  | trailingBackslash
  | badReference
  | openBracket
  | openGroup
  | closedGroup
  | openCount
  | badCount
  | badRange
  | tooBig
  deriving DecidableEq

def Fault.message : Fault → String
  | badPattern => "Invalid regular expression"
  | badPreceding => "Invalid preceding regular expression"
  | badClassName => "Invalid character class name"
  | badCollation => "Invalid collation character"
  | trailingBackslash => "Trailing backslash"
  | badReference => "Invalid back reference"
  | openBracket => "Unmatched [, [^, [:, [., or [="
  | openGroup => "Unmatched ( or \\("
  | closedGroup => "Unmatched ) or \\)"
  | openCount => "Unmatched \\\x7b"
  | badCount => "Invalid content of \\\x7b\\\x7d"
  | badRange => "Invalid range end"
  | tooBig => "Regular expression too big"

/-- Which forms are read, and what is refused in them. -/
structure Dialect where
  isExtended : Bool
  /-- An operator with nothing to repeat is refused; else it stands for itself, or for nothing in
  the extended form. -/
  refusesLoneOperators : Bool
  /-- A second operator behind one is refused. -/
  refusesSecondOperators : Bool
  /-- A count that makes no sense stands for itself. -/
  takesBadCounts : Bool
  /-- The end of a group that never began stands for itself. -/
  takesLoneCloses : Bool
  /-- A line end separates alternatives. -/
  hasLineAlternatives : Bool
  foldsCase : Bool

inductive Sign where
  | ending
  | char (c : Char)
  | groupOpen
  | groupClose
  | bracket
  | back (number : Nat)
  | countOpen
  | countClose
  | star
  | plus
  | query
  | bar
  | any
  | place (p : Place)
  | word (isIn : Bool)
  | space (isIn : Bool)
  | backslash
  deriving DecidableEq

def escapedSign (d : Dialect) (c : Char) : Sign :=
  let basic (s : Sign) : Sign := if d.isExtended then .char c else s
  if '1' ≤ c && c ≤ '9' then .back (c.toNat - 48)
  else match c with
    | '<' => .place .wordStart
    | '>' => .place .wordEnd
    | 'b' => .place .wordEdge
    | 'B' => .place .noWordEdge
    | '\x60' => .place .textStart
    | '\'' => .place .textEnd
    | 'w' => .word true
    | 'W' => .word false
    | 's' => .space true
    | 'S' => .space false
    | '|' => basic .bar
    | '(' => basic .groupOpen
    | ')' => basic .groupClose
    | '+' => basic .plus
    | '?' => basic .query
    | '\x7b' => basic .countOpen
    | '\x7d' => basic .countClose
    | c => .char c

/-- Whether a dollar sign with this behind it ends a line in the basic form. -/
def endsBranch (d : Dialect) : List Char → Bool
  | [] => true
  | '\\' :: c :: _ => c = ')' || c = '|'
  | c :: _ => c = '\n' && d.hasLineAlternatives

/-- The sign at the front of an expression, and what follows it. A caret is an anchor at the start
of a branch; `startsHere` tells whether one may start. -/
def signAt (d : Dialect) (startsHere : Bool) : List Char → Sign × List Char
  | [] => (.ending, [])
  | ['\\'] => (.backslash, [])
  | '\\' :: c :: rest => (escapedSign d c, rest)
  | c :: rest =>
    let extended (s : Sign) : Sign := if d.isExtended then s else .char c
    let sign : Sign := match c with
      | '*' => .star
      | '.' => .any
      | '[' => .bracket
      | '\n' => if d.hasLineAlternatives then .bar else .char c
      | '|' => extended .bar
      | '+' => extended .plus
      | '?' => extended .query
      | '(' => extended .groupOpen
      | ')' => extended .groupClose
      | '\x7b' => extended .countOpen
      | '\x7d' => extended .countClose
      | '^' => if d.isExtended || startsHere then .place .lineStart else .char c
      | '$' => if d.isExtended || endsBranch d rest then .place .lineEnd else .char c
      | c => .char c
    (sign, rest)

/-- Where reading is: the sign that is to be taken next, and what follows it. -/
structure State where
  sign : Sign
  rest : List Char
  /-- How many groups were opened, and which are closed in this branch. -/
  groups : Nat
  closed : List Nat

abbrev Reading := EStateM Fault State

namespace Reading

def fail {α : Type} (f : Fault) : Reading α := fun s => .error f s

def fetch (d : Dialect) (startsHere : Bool) : Reading Unit := modify fun s =>
  let (sign, rest) := signAt d startsHere s.rest
  { s with sign, rest }

/-- A set of characters, in letters of either case if case does not matter. -/
def setOf (d : Dialect) (isIn : Char → Bool) : Regex :=
  if d.foldsCase then .set fun c => isIn c || isIn c.toLower || isIn c.toUpper else .set isIn

def literal (d : Dialect) (c : Char) : Regex := setOf d (· == c)

/-- An end of a range in brackets: a character, perhaps in brackets of its own. -/
inductive Edge where
  | char (c : Char)
  | named (isIn : Char → Bool)

/-- What stands in inner brackets, up to a sign and a bracket. -/
def inner (sign : Char) : List Char → List Char → Option (List Char × List Char)
  | c :: ']' :: rest, done =>
    if c = sign then some (done.reverse, rest) else inner sign (']' :: rest) (c :: done)
  | c :: rest, done => inner sign rest (c :: done)
  | [], _ => none

def edge (cs : List Char) : Reading (Edge × List Char) :=
  match cs with
  | '[' :: sign :: rest =>
    if sign = ':' || sign = '.' || sign = '=' then
      match inner sign rest [] with
      | none => if sign = ':' then return (.char '[', sign :: rest) else fail .openBracket
      | some (name, rest) =>
        if sign = ':' then
          match classNamed? (String.ofList name) with
          | some isIn => return (.named isIn, rest)
          | none => fail .badClassName
        else match name with
          | [c] => return (.char c, rest)
          | _ => fail .badCollation
    else return (.char '[', sign :: rest)
  | c :: rest => return (.char c, rest)
  | [] => fail .openBracket

/-- The members of a set in brackets; one that stands first may be a closing bracket. -/
def members (isIn : Char → Bool) : (steps : Nat) → (isFirst : Bool) → List Char →
    Reading ((Char → Bool) × List Char)
  | 0, _, _ | _, _, [] => fail .openBracket
  | steps + 1, isFirst, c :: rest => do
    if c = ']' && !isFirst then return (isIn, rest)
    let (e, rest) ← edge (c :: rest)
    match e with
    | .named p => members (fun c => isIn c || p c) steps false rest
    | .char first =>
      let single := members (fun c => isIn c || c == first) steps false
      match rest with
      | '-' :: ']' :: _ => single rest
      | ['-'] => fail .openBracket
      | '-' :: behind => do
        match ← edge behind with
        | (.named _, _) => fail .badRange
        | (.char last, rest) =>
          if last < first then fail .badRange
          else members (fun c => isIn c || (first ≤ c && c ≤ last)) steps false rest
      | _ => single rest

def bracketed (d : Dialect) : Reading Regex := do
  let cs := (← get).rest
  let (isNegated, body) := match cs with
    | '^' :: rest => (true, rest)
    | rest => (false, rest)
  if body.isEmpty then fail .badPattern
  let (isIn, rest) ← members (fun _ => false) (body.length + 1) true body
  modify fun s => { s with rest }
  let isMember (c : Char) : Bool :=
    if d.foldsCase then isIn c || isIn c.toLower || isIn c.toUpper else isIn c
  return .set fun c => isMember c != isNegated

def mostRepeats : Nat := 32767

inductive Count where
  | none
  | bad
  | number (n : Nat)

/-- Reads digits up to a comma or the end of the count. -/
def count (d : Dialect) : (steps : Nat) → Count → Reading Count
  | 0, n => return n
  | steps + 1, n => do
    fetch d false
    match (← get).sign with
    | .ending => return .bad
    | .countClose | .char ',' => return n
    | .char c =>
      if c.isDigit then
        match n with
        | .bad => count d steps .bad
        | .none => count d steps (.number (digitValue c))
        | .number k => count d steps (.number (min (mostRepeats + 1) (k * 10 + digitValue c)))
      else count d steps .bad
    | _ => count d steps .bad

def times (r : Regex) (least : Nat) (most : Option Nat) : Regex :=
  let front := List.replicate least r
  let tail : Regex := match most with
    | none => .star r
    | some n => (List.range (n - least)).foldl (fun tail _ => .optional (.seq r tail)) .nothing
  front.foldr .seq tail

def counted (d : Dialect) (r : Regex) : Reading Regex := do
  let start := (← get)
  let steps := start.rest.length + 2
  let first ← count d steps .none
  let isComma : Reading Bool := return (← get).sign = .char ','
  let first : Count ← match first with
    | .none => if ← isComma then pure (Count.number 0) else fail .badCount
    | n => pure n
  let last : Count ← match first with
    | .number _ => do
      if (← get).sign = .countClose then pure first
      else if ← isComma then count d steps .none
      else pure .bad
    | n => pure n
  match first, last with
  | .number least, .bad | .number least, .none | .number least, .number _ =>
    let most : Option Nat := match last with
      | .number n => some n
      | _ => none
    if last matches .bad then refuse start r
    else
      let isUpsideDown : Bool := (most.map fun n => decide (n < least)).getD false
      if isUpsideDown || (← get).sign ≠ .countClose then fail .badCount
      if mostRepeats < most.getD least then fail .tooBig
      fetch d false
      return times r least most
  | _, _ => refuse start r
where
  refuse (start : State) (r : Regex) : Reading Regex := do
    if d.takesBadCounts then
      modify fun _ => { start with sign := .char '\x7b' }
      return r
    if (← get).sign = .ending then fail .openCount else fail .badCount

def isOperator : Sign → Bool
  | .star | .plus | .query | .countOpen => true
  | _ => false

def operators (d : Dialect) : (steps : Nat) → Regex → Reading Regex
  | 0, r => return r
  | steps + 1, r => do
    let sign := (← get).sign
    if !isOperator sign then return r
    let repeated ← match sign with
      | .star => do
        fetch d false
        pure (.star r)
      | .plus => do
        fetch d false
        pure (.seq r (.star r))
      | .query => do
        fetch d false
        pure (.optional r)
      | _ => counted d r
    let after := (← get).sign
    if d.refusesSecondOperators && (after = .star || after = .countOpen) then fail .badPreceding
    operators d steps repeated

mutual

def expression (d : Dialect) : (steps : Nat) → (depth : Nat) → Reading Regex
  | 0, _ => return .nothing
  | steps + 1, depth => do
    let step (r : Regex) : Reading Regex := do
      fetch d false
      operators d steps r
    let sign := (← get).sign
    match sign with
    | .char c => step (literal d c)
    | .any => step (.set fun _ => true)
    | .word isIn => step (.set fun c => isWordChar c == isIn)
    | .space isIn => step (.set fun c => isSpace c == isIn)
    | .bracket => do
      let r ← bracketed d
      step r
    | .back n =>
      if (← get).closed.contains n then step (.back n) else fail .badReference
    | .groupOpen => do
      let number := (← get).groups + 1
      modify fun s => { s with groups := number }
      fetch d true
      let body ← if (← get).sign = .groupClose then pure .nothing else do
        let r ← alternatives d steps (depth + 1)
        if (← get).sign ≠ .groupClose then fail .openGroup
        pure r
      modify fun s => { s with closed := number :: s.closed }
      step (.group number body)
    | .place p => do
      fetch d true
      return .at p
    | .groupClose => if d.takesLoneCloses then step (literal d ')') else fail .closedGroup
    | .countClose => step (literal d '\x7d')
    | .backslash => fail .trailingBackslash
    | .ending | .bar => return .nothing
    | .star | .plus | .query | .countOpen => do
      if sign = .countOpen && d.refusesSecondOperators then fail .badPreceding
      if d.refusesLoneOperators then fail .badPreceding
      if d.isExtended then
        fetch d false
        expression d steps depth
      else
        let c := match sign with
          | .star => '*'
          | .plus => '+'
          | .query => '?'
          | _ => '\x7b'
        step (literal d c)

def branch (d : Dialect) : (steps : Nat) → (depth : Nat) → Reading Regex
  | 0, _ => return .nothing
  | steps + 1, depth => do
    let first ← expression d steps depth
    branchRest d steps depth first

def branchRest (d : Dialect) : (steps : Nat) → (depth : Nat) → Regex → Reading Regex
  | 0, _, r => return r
  | steps + 1, depth, r => do
    match (← get).sign with
    | .bar | .ending => return r
    | .groupClose =>
      if 0 < depth then return r
      if !d.takesLoneCloses then fail .closedGroup
      let next ← expression d steps depth
      branchRest d steps depth (.seq r next)
    | _ => do
      let next ← expression d steps depth
      branchRest d steps depth (.seq r next)

def alternatives (d : Dialect) : (steps : Nat) → (depth : Nat) → Reading Regex
  | 0, _ => return .nothing
  | steps + 1, depth => do
    let before := (← get).closed
    let first ← branch d steps depth
    alternativesRest d steps depth before first

def alternativesRest (d : Dialect) : (steps : Nat) → (depth : Nat) → (before : List Nat) →
    Regex → Reading Regex
  | 0, _, _, r => return r
  | steps + 1, depth, before, r => do
    if (← get).sign ≠ .bar then return r
    fetch d true
    let sign := (← get).sign
    if sign = .bar || sign = .ending || (sign = .groupClose && 0 < depth) then
      alternativesRest d steps depth before (.alt r .nothing)
    else
      let closed := (← get).closed
      modify fun s => { s with closed := before }
      let next ← branch d steps depth
      modify fun s => { s with closed := s.closed ++ closed }
      alternativesRest d steps depth before (.alt r next)

end

end Reading

/-- Reads an expression; the number of its groups comes with it. -/
def read (d : Dialect) (text : List Char) : Except Fault (Regex × Nat) :=
  let steps := 8 * text.length + 16
  match (Reading.fetch d true *> Reading.alternatives d steps 0) ⟨.ending, text, 0, []⟩ with
  | .ok r s => .ok (r, s.groups)
  | .error f _ => .error f

/-- What follows the members of a set in brackets; one that stands first may be a closing bracket.
-/
def afterMembers : (steps : Nat) → (isFirst : Bool) → List Char → List Char
  | 0, _, _ | _, _, [] => []
  | steps + 1, isFirst, c :: rest =>
    if c = ']' && !isFirst then rest
    else match c, rest with
      | '[', sign :: behind =>
        if sign = ':' || sign = '.' || sign = '=' then
          match Reading.inner sign behind [] with
          | some (_, rest) => afterMembers steps false rest
          | none => afterMembers steps false rest
        else afterMembers steps false rest
      | _, rest => afterMembers steps false rest

/-- Whether the members of a set are the name of a class between colons. -/
def isBareName (members : List Char) : Bool :=
  let name := members.takeWhile (· ≠ ']')
  name.length < members.length && name.head? = some ':' && name.getLast? = some ':' &&
    name.any (· ≠ ':') && !name.contains '-' && !name.contains '['

/-- Whether an expression holds a class that lacks its outer brackets, such as `[:space:]`. -/
def hasBareClass : (steps : Nat) → List Char → Bool
  | steps + 1, '\\' :: _ :: rest => hasBareClass steps rest
  | steps + 1, '[' :: rest =>
    let members := if rest.head? = some '^' then rest.drop 1 else rest
    isBareName members || hasBareClass steps (afterMembers (members.length + 1) true members)
  | steps + 1, _ :: rest => hasBareClass steps rest
  | _, _ => false

end Replay.Regex
