import Replay.Workbench.Program.Lines
import Replay.Workbench.Program.Stream
import Replay.Workbench.Regex.Reader

/-! Lines that match patterns: `grep`. -/
namespace Replay.Program.Matching

open Machine

structure Search where
  patterns : List Regex
  foldsCase : Bool
  /-- Lines that do not match are the ones that are selected. -/
  isNegated : Bool

namespace Search

/-- The first match from a place on, and of several there the longest. -/
def span? (x : Search) (line : Array Char) (start : Nat) : Option (Nat × Nat) :=
  let subject : Regex.Subject := ⟨line, x.foldsCase, false⟩
  let found := x.patterns.filterMap fun r => (r.search subject start).map fun m => (m.1, m.2.1)
  found.foldl (fun best m => match best with
    | none => some m
    | some b => if m.1 < b.1 || (m.1 = b.1 && b.2 < m.2) then some m else some b) none

def selects (x : Search) (line : List Char) : Bool :=
  (x.span? line.toArray 0).isSome != x.isNegated

/-- The texts that match in a line, one behind the other; empty ones are passed over. `steps` bounds
how many places are tried. -/
def parts (x : Search) (line : Array Char) : (steps : Nat) → (start : Nat) → List (List Char)
  | 0, _ => []
  | steps + 1, start =>
    match x.span? line start with
    | none => []
    | some (i, j) =>
      if i = j then (if line.size ≤ i then [] else parts x line steps (i + 1))
      else (line.extract i j).toList :: parts x line steps j

end Search

inductive Showing where
  | lines
  | parts
  | count
  /-- The name of the file, if a line is selected or if none is. -/
  | name (ofMatch : Bool)
  | nothing
  deriving DecidableEq

structure Style where
  showing : Showing
  showsName : Bool
  showsNumber : Bool
  /-- After so many selected lines the search ends. -/
  most : Option Nat
  before : Nat
  after : Nat
  /-- A file with a zero byte is treated as others. -/
  takesAll : Bool

/-- How far the search in a file has come. -/
structure Progress where
  number : Nat
  selected : Nat
  /-- Lines that may be shown in front of a selected one, last first. -/
  kept : List (Nat × List Char)
  /-- How many lines are still shown behind a selected one. -/
  owed : Nat
  /-- The number of the line that was shown last. -/
  shown : Option Nat
  isBinary : Bool

/-- A line as it is shown; a sign tells selected lines from those around them. -/
def shownLine (s : Style) (label : String) (number : Nat) (sign : Char) (text : List Char) :
    List Char :=
  (if s.showsName then label.toList ++ [sign] else []) ++
    (if s.showsNumber then Nat.toDigits 10 number ++ [sign] else []) ++ text ++ ['\n']

def emitLines (name : String) (text : List Char) : Job Unit := emitBytes name 2 (packList text)

def showSelected (name : String) (x : Search) (s : Style) (label : String) (line : List Char)
    (p : Progress) : Job Progress := do
  match s.showing with
  | .lines =>
    let front := (p.kept.take s.before).reverse
    let first := (front.head?.map (·.1)).getD p.number
    let isApart : Bool := (0 < s.before || 0 < s.after) &&
      p.shown.any fun n => n + 1 < first
    emitLines name ((if isApart then "--\n".toList else []) ++
      (front.flatMap fun l => shownLine s label l.1 '-' l.2) ++
      shownLine s label p.number ':' line)
    return { p with kept := [], owed := s.after, shown := some p.number }
  | .parts =>
    if !x.isNegated then
      for part in x.parts line.toArray (line.length + 1) 0 do
        emitLines name (shownLine s label p.number ':' part)
    return p
  | _ => return p

def takeLine (name : String) (x : Search) (s : Style) (label : String) (line : List Char)
    (p : Progress) : Job (Progress × Bool) := do
  let p := { p with number := p.number + 1 }
  let isFull : Bool := (s.most.map fun n => decide (n ≤ p.selected)).getD false
  let showsText : Bool := s.showing = .lines || s.showing = .parts
  if !isFull && x.selects line then
    let p := { p with selected := p.selected + 1 }
    if showsText && p.isBinary then return (p, false)
    let p ← showSelected name x s label line p
    let isLast : Bool := (s.most.map fun n => decide (n ≤ p.selected)).getD false
    let isEnough : Bool := match s.showing with
      | .name _ | .nothing => true
      | _ => false
    return (p, !isEnough && (!isLast || 0 < p.owed))
  else if s.showing = .lines && 0 < p.owed && !p.isBinary then
    emitLines name (shownLine s label p.number '-' line)
    let p := { p with owed := p.owed - 1, shown := some p.number }
    return (p, !isFull || 0 < p.owed)
  else
    return ({ p with kept := ((p.number, line) :: p.kept).take s.before }, !isFull)

def takeLines (name : String) (x : Search) (s : Style) (label : String) :
    (turns : Nat) → LineSource → Progress → Job (Except Refusal Progress)
  | 0, _, p => return .ok p
  | turns + 1, source, p => do
    match ← source.next '\n' with
    | .error r => return .error r
    | .ok (none, _) => return .ok p
    | .ok (some (line, _), source) =>
      let (p, goesOn) ← takeLine name x s label line p
      if goesOn then takeLines name x s label turns source p else return .ok p

/-- Searches what is behind a descriptor, and tells whether a line was selected. -/
def searchFile (name : String) (x : Search) (s : Style) (label : String) (fd : Nat) :
    Job (Except Refusal Bool) := do
  let (checked, source) ← (LineSource.ofDescriptor fd).isAtEnd
  match checked with
  | .error r => return .error r
  | .ok _ =>
    let isBinary := !s.takesAll && source.rest.contains '\x00'
    match ← takeLines name x s label Job.forever source ⟨0, 0, [], 0, none, isBinary⟩ with
    | .error r => return .error r
    | .ok p =>
      let isFound : Bool := 0 < p.selected
      let front := if s.showsName then label ++ ":" else ""
      match s.showing with
      | .count => emitLines name (front ++ decimal p.selected ++ "\n").toList
      | .name ofMatch => if isFound == ofMatch then emitLines name (label ++ "\n").toList
      | .lines | .parts => if isFound && p.isBinary then
          complaint name (label ++ ": binary file matches")
      | .nothing => pure ()
      return .ok isFound

/-- Searches files one after the other: whether a line was selected, and whether all could be read.
-/
def searchAll (name : String) (x : Search) (s : Style) (isSilent : Bool) :
    List String → (isFound isWhole : Bool) → Job (Bool × Bool)
  | [], isFound, isWhole => return (isFound, isWhole)
  | path :: rest, isFound, isWhole => do
    let label := if path = "-" then "(standard input)" else path
    let refuse (r : Refusal) : Job (Bool × Bool) := do
      if !isSilent then complaint name (label ++ ": " ++ r.text)
      searchAll name x s isSilent rest isFound false
    match ← openOperand path with
    | .error r => refuse r
    | .ok fd =>
      let result ← searchFile name x s label fd
      closeOperand path fd
      match result with
      | .error r => refuse r
      | .ok here =>
        if here && s.showing = .nothing then return (true, true)
        searchAll name x s isSilent rest (isFound || here) isWhole

inductive Form where
  | basic
  | extended
  | fixed
  deriving DecidableEq

def dialect (isExtended foldsCase : Bool) : Regex.Dialect :=
  { isExtended, refusesLoneOperators := false, refusesSecondOperators := false
    takesBadCounts := isExtended, takesLoneCloses := isExtended, hasLineAlternatives := true
    foldsCase }

/-- What a pattern matches; matches may have to be whole words, or whole lines. -/
def pattern (form : Form) (foldsCase wholeWords wholeLines : Bool) (text : List Char) :
    Except Regex.Fault Regex := do
  let d := dialect (form == .extended) foldsCase
  let r ← match form with
    | .fixed => pure ((text.map (Regex.Reading.literal d)).foldr .seq .nothing)
    | _ => (·.1) <$> Regex.read d text
  return if wholeLines then .seq (.at .textStart) (.seq r (.at .textEnd))
    else if wholeWords then .seq (.at .noWordBefore) (.seq r (.at .noWordBehind))
    else r

/-- The operators of the extended form that stand where there is nothing to repeat. -/
def loneOperators : (steps : Nat) → (startsHere : Bool) → List Char → List String
  | 0, _, _ | _, _, [] => []
  | steps + 1, _, '\\' :: _ :: rest => loneOperators steps false rest
  | steps + 1, _, '[' :: rest =>
    let members := if rest.head? = some '^' then rest.drop 1 else rest
    loneOperators steps false (Regex.afterMembers (members.length + 1) true members)
  | steps + 1, startsHere, c :: rest =>
    let isCount : Bool := c = '\x7b' && rest.head?.any fun d => d.isDigit || d = ','
    let here : List String :=
      if !startsHere then []
      else if c = '*' || c = '+' || c = '?' then [String.singleton c]
      else if isCount then ["\x7b...\x7d"]
      else []
    let mayStart := c = '(' || c = '|' || c = '^' || !here.isEmpty
    here ++ loneOperators steps mayStart rest

def misused (name text : String) : Job Nat := do
  if !text.isEmpty then complaint name text
  Job.complain ("Usage: " ++ name ++ " [OPTION]... PATTERNS [FILE]...\n")
  hint name
  return 2

/-- Arguments in which a number behind a dash asks for lines around those that are selected. -/
def withContext (words : List String) : List String :=
  words.map fun word => match word.toList with
    | '-' :: c :: cs => if (c :: cs).all Char.isDigit then "-C" ++ String.ofList (c :: cs) else word
    | _ => word

def known : List Known :=
  [.flag "extended" ['E'] ["extended-regexp"], .flag "fixed" ['F'] ["fixed-strings"],
   .flag "basic" ['G'] ["basic-regexp"], .taking "pattern" ['e'] ["regexp"],
   .taking "file" ['f'] ["file"], .flag "fold" ['i', 'y'] ["ignore-case"],
   .flag "words" ['w'] ["word-regexp"], .flag "lines" ['x'] ["line-regexp"],
   .flag "negated" ['v'] ["invert-match"], .flag "count" ['c'] ["count"],
   .flag "with" ['l'] ["files-with-matches"], .flag "lacking" ['L'] ["files-without-match"],
   .flag "parts" ['o'] ["only-matching"], .flag "quiet" ['q'] ["quiet", "silent"],
   .flag "silent" ['s'] ["no-messages"], .flag "number" ['n'] ["line-number"],
   .flag "name" ['H'] ["with-filename"], .flag "noName" ['h'] ["no-filename"],
   .taking "most" ['m'] ["max-count"], .taking "before" ['B'] ["before-context"],
   .taking "after" ['A'] ["after-context"], .taking "around" ['C'] ["context"],
   .flag "text" ['a'] ["text"], ⟨"color", [], ["color", "colour"], .perhaps⟩,
   .flag "buffered" [] ["line-buffered"], .flag "recursive" ['r', 'R'] ["recursive"]]

/-- The patterns that options ask for, a line each; what cannot be read comes back instead. -/
def patternTexts : List (String × String) → Job (Except (String × Refusal) (List (List Char)))
  | [] => return .ok []
  | (key, text) :: rest => do
    let here : Except (String × Refusal) (List (List Char)) ←
      if key = "pattern" then pure (.ok (splitAt '\n' text.toList))
      else match ← readOperand text with
        | .ok bytes => pure (.ok (textLines bytes))
        | .error r => pure (.error (text, r))
    match here, ← patternTexts rest with
    | .error e, _ => return .error e
    | _, .error e => return .error e
    | .ok a, .ok b => return .ok (a ++ b)

/-- What is shown, by the options: the names of files outrank counts, and counts outrank parts. -/
def showingOf (a : Arguments) : Showing :=
  if a.has "quiet" then .nothing
  else if a.has "with" || a.has "lacking" then
    .name (a.lastOf? ["with", "lacking"] = some "with")
  else if a.has "count" then .count
  else if a.has "parts" then .parts
  else .lines

def start (name : String) (a : Arguments) : Job Nat := do
  let given := a.options.filter fun o => o.1 == "pattern" || o.1 == "file"
  let (given, files) := match given, a.operands with
    | [], first :: rest => ([("pattern", first)], rest)
    | given, operands => (given, operands)
  let refuse (text : String) : Job Nat := do
    complaint name text
    return 2
  let numberOf (key : String) : Option (Except String Nat) := (a.last? key).map fun text =>
    match natural? text with
    | some n => .ok n
    | none => .error text
  let contexts := ["before", "after", "around"].filterMap numberOf
  let badContext := contexts.findSome? fun n => match n with
    | .error text => some text
    | .ok _ => none
  let context (key : String) : Nat := match (numberOf key).or (numberOf "around") with
    | some (.ok n) => n
    | _ => 0
  if given.isEmpty then misused name ""
  else match badContext, numberOf "most" with
    | some text, _ => refuse (text ++ ": invalid context length argument")
    | none, some (.error _) => refuse "invalid max count"
    | none, most =>
      match ← patternTexts given with
      | .error (path, r) => refuse (path ++ ": " ++ r.text)
      | .ok texts =>
        let form : Form := match a.lastOf? ["extended", "fixed", "basic"] with
          | some "extended" => .extended
          | some "fixed" => .fixed
          | _ => .basic
        if form ≠ .fixed && texts.any fun t => Regex.hasBareClass t.length t then
          refuse "character class syntax is [[:space:]], not [:space:]"
        else
          let read := texts.mapM (pattern form (a.has "fold") (a.has "words") (a.has "lines"))
          match read with
          | .error f => refuse f.message
          | .ok patterns =>
            if form = .extended then
              for operator in texts.flatMap (fun t => loneOperators t.length true t) do
                complaint name ("warning: " ++ operator ++ " at start of expression")
            let sources := if files.isEmpty then ["-"] else files
            let s : Style :=
              { showing := showingOf a
                showsName := match a.lastOf? ["name", "noName"] with
                  | some key => key == "name"
                  | none => 1 < sources.length
                showsNumber := a.has "number"
                most := match most with
                  | some (.ok n) => some n
                  | _ => none
                before := context "before", after := context "after", takesAll := a.has "text" }
            if s.most = some 0 then return 1
            let x : Search := ⟨patterns, a.has "fold", a.has "negated"⟩
            let (isFound, isWhole) ← searchAll name x s (a.has "silent") sources false true
            return if !isWhole then 2 else if isFound then 0 else 1

def run (words : List String) : Job Nat := do
  let name := words.headD ""
  match Arguments.read known true (withContext (words.drop 1)) with
  | .error text => misused name text
  | .ok a =>
    if a.has "help" then
      emitText name ("Usage: " ++ name ++ " [OPTION]... PATTERNS [FILE]...\n")
      return 0
    else if a.has "version" then
      emitText name (name ++ " (GNU grep) 3.8\n")
      return 0
    else start name a

end Replay.Program.Matching
