/-!
Regular expressions with groups, and where they match a text. Of all matches the leftmost is taken,
and of those the longest; of several ways to it, the one that takes first alternatives and repeats
as often as it can.
-/
namespace Replay

/-- Places that are matched by nothing between characters. -/
inductive Regex.Place where
  | lineStart
  | lineEnd
  | textStart
  | textEnd
  | wordStart
  | wordEnd
  | wordEdge
  | noWordEdge
  /-- No character of a word stands in front. -/
  | noWordBefore
  /-- No character of a word stands behind. -/
  | noWordBehind
  deriving DecidableEq

inductive Regex where
  | nothing
  | set (isIn : Char → Bool)
  | seq (a b : Regex)
  | alt (a b : Regex)
  | star (r : Regex)
  | optional (r : Regex)
  | group (number : Nat) (r : Regex)
  /-- What a group matched, once more. -/
  | back (number : Nat)
  | at (p : Regex.Place)

namespace Regex

instance : Inhabited Regex := ⟨.nothing⟩

/-- The groups that matched so far, with where they begin and end, the latest first. -/
abbrev Spans := List (Nat × Nat × Nat)

structure Subject where
  text : Array Char
  foldsCase : Bool
  /-- Whether lines begin and end at the line ends inside the text. -/
  hasLines : Bool

def isWordChar (c : Char) : Bool := c.isAlphanum || c == '_'

namespace Subject

variable (x : Subject)

def charBefore? (i : Nat) : Option Char := if i = 0 then none else x.text[i - 1]?

def isAt (i : Nat) : Place → Bool
  | .textStart => i == 0
  | .textEnd => i == x.text.size
  | .lineStart => i == 0 || (x.hasLines && x.charBefore? i == some '\n')
  | .lineEnd => i == x.text.size || (x.hasLines && x.text[i]? == some '\n')
  | p =>
    let before := ((x.charBefore? i).map isWordChar).getD false
    let behind := (x.text[i]?.map isWordChar).getD false
    match p with
    | .wordStart => !before && behind
    | .wordEnd => before && !behind
    | .wordEdge => before != behind
    | .noWordBefore => !before
    | .noWordBehind => !behind
    | _ => before == behind

/-- How far characters of a set go; `steps` bounds how many they are. -/
def runEnd (isIn : Char → Bool) : (steps : Nat) → Nat → Nat
  | 0, i => i
  | steps + 1, i =>
    match x.text[i]? with
    | some c => if isIn c then runEnd isIn steps (i + 1) else i
    | none => i

/-- Whether the text repeats, at a place, so many characters from another place. -/
def repeats (source place : Nat) : (count : Nat) → Bool
  | 0 => true
  | count + 1 =>
    match x.text[source]?, x.text[place]? with
    | some c, some d =>
      (c == d || (x.foldsCase && c.toLower == d.toLower)) && repeats (source + 1) (place + 1) count
    | _, _ => false

end Subject

/-- Ends of matches that were found, each once: a set of numbers as bits, and the ends, last first.
-/
structure Ends where
  seen : Nat
  found : List (Nat × Spans)

namespace Ends

def none : Ends := ⟨0, []⟩

def add (e : Ends) (m : Nat × Spans) : Ends :=
  if e.seen.testBit m.1 then e else ⟨e.seen ||| 1 <<< m.1, m :: e.found⟩

def addAll (e : Ends) (ms : List (Nat × Spans)) : Ends := ms.foldl add e

/-- The ends in the order they were found; of those at one place the one found first was kept. -/
def toList (e : Ends) : List (Nat × Spans) := e.found.reverse

end Ends

/-- Repeats a step from one place on until it leads to no new place. `steps` bounds how many places
there are one behind the other. -/
def repeated (step : Nat → Spans → List (Nat × Spans)) :
    (steps : Nat) → Nat × Spans → Nat × Ends → Nat × Ends
  | 0, _, state => state
  | steps + 1, here, (visited, ends) =>
    if visited.testBit here.1 then (visited, ends)
    else
      let (visited, ends) := (step here.1 here.2).foldl
        (fun state next => repeated step steps next state) (visited ||| 1 <<< here.1, ends)
      (visited, ends.add here)

/-- Where the matches that begin at a place end; ways that are preferred come first. -/
def ends (x : Subject) : Regex → Nat → Spans → List (Nat × Spans)
  | .nothing, i, g => [(i, g)]
  | .set isIn, i, g =>
    match x.text[i]? with
    | some c => if isIn c then [(i + 1, g)] else []
    | none => []
  | .seq a b, i, g =>
    match ends x a i g with
    | [] => []
    | [(j, h)] => ends x b j h
    | firsts => (firsts.foldl (fun e (j, h) => e.addAll (ends x b j h)) Ends.none).toList
  | .alt a b, i, g => ((Ends.none.addAll (ends x a i g)).addAll (ends x b i g)).toList
  | .optional r, i, g => ((Ends.none.addAll (ends x r i g)).add (i, g)).toList
  | .star (.set isIn), i, g =>
    let last := x.runEnd isIn (x.text.size - i) i
    (List.range (last + 1 - i)).reverse.map fun n => (i + n, g)
  | .star r, i, g => (repeated (ends x r) (x.text.size + 2 - i) (i, g) (0, .none)).2.toList
  | .group n r, i, g => (ends x r i g).map fun (j, h) => (j, (n, i, j) :: h)
  | .back n, i, g =>
    match g.lookup n with
    | some (source, stop) =>
      if x.repeats source i (stop - source) then [(i + (stop - source), g)] else []
    | none => []
  | .at p, i, g => if x.isAt i p then [(i, g)] else []

/-- The first match from a place on: where it begins and ends, and its groups. `steps` bounds how
many places are tried. -/
def searchFrom (r : Regex) (x : Subject) : (steps : Nat) → Nat → Option (Nat × Nat × Spans)
  | 0, _ => none
  | steps + 1, i =>
    match ends x r i [] with
    | first :: others =>
      let (j, g) := others.foldl (fun best e => if best.1 < e.1 then e else best) first
      some (i, j, g)
    | [] => searchFrom r x steps (i + 1)

def search (r : Regex) (x : Subject) (start : Nat) : Option (Nat × Nat × Spans) :=
  r.searchFrom x (x.text.size + 1 - start) start

end Regex

end Replay
