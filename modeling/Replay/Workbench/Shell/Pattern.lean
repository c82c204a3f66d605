import Replay.Workbench.Machine.Octets

/-!
Patterns for texts: a star matches anything, a question mark one character, brackets one character
of a set.
-/
namespace Replay.Shell

open Machine

/-- A character of a text that may be a pattern; one that is quoted stands for itself. -/
structure Cell where
  char : Char
  isQuoted : Bool
  deriving DecidableEq

inductive Member where
  | range (first last : Char)
  | named (holds : Char → Bool)

def Member.holds (c : Char) : Member → Bool
  | range first last => first ≤ c && c ≤ last
  | named p => p c

inductive Piece where
  | char (c : Char)
  | one
  | many
  | set (isNegated : Bool) (members : List Member)

namespace Pattern

/-- A class of characters whose name stands in front of a colon and a bracket, and what follows. -/
def classAt (cells : List Cell) : Option ((Char → Bool) × List Cell) :=
  let (name, rest) := cells.span (·.char.isAlpha)
  match classNamed? (String.ofList (name.map (·.char))), rest with
  | some p, ⟨':', false⟩ :: ⟨']', false⟩ :: behind => some (p, behind)
  | _, _ => none

/-- The members of a set up to its bracket, and what follows; nothing if no bracket closes it.
`steps` bounds the number of characters. -/
def members : (steps : Nat) → (isFirst : Bool) → List Cell → List Member →
    Option (List Member × List Cell)
  | 0, _, _, _ | _, _, [], _ => none
  | steps + 1, isFirst, cell :: rest, done =>
    let single : Option (List Member × List Cell) :=
      let (c, rest) := match cell, rest with
        | ⟨'\\', false⟩, next :: rest => (next.char, rest)
        | cell, rest => (cell.char, rest)
      match rest with
      | ⟨'-', false⟩ :: ⟨'\\', false⟩ :: last :: behind =>
        members steps false behind (.range c last.char :: done)
      | ⟨'-', false⟩ :: ⟨d, isQuoted⟩ :: behind =>
        if d = ']' && !isQuoted then members steps false rest (.range c c :: done)
        else members steps false behind (.range c d :: done)
      | _ => members steps false rest (.range c c :: done)
    match cell, rest with
    | ⟨']', false⟩, rest => if isFirst then single else some (done.reverse, rest)
    | ⟨'[', false⟩, ⟨':', false⟩ :: inner =>
      match classAt inner with
      | some (p, behind) => members steps false behind (.named p :: done)
      | none => single
    | _, _ => single

def piecesWith : (steps : Nat) → List Cell → List Piece
  | 0, _ | _, [] => []
  | steps + 1, ⟨c, true⟩ :: rest => .char c :: piecesWith steps rest
  | steps + 1, ⟨c, false⟩ :: rest =>
    match c with
    | '*' => .many :: piecesWith steps rest
    | '?' => .one :: piecesWith steps rest
    | '\\' =>
      match rest with
      | next :: rest => .char next.char :: piecesWith steps rest
      | [] => [.char c]
    | '[' =>
      let (isNegated, inner) := match rest with
        | ⟨'!', false⟩ :: inner => (true, inner)
        | inner => (false, inner)
      match members (inner.length + 1) true inner [] with
      | some (ms, behind) => .set isNegated ms :: piecesWith steps behind
      | none => .char c :: piecesWith steps rest
    | c => .char c :: piecesWith steps rest

def pieces (cells : List Cell) : List Piece := piecesWith cells.length cells

def isActive (cells : List Cell) : Bool :=
  cells.any fun cell => !cell.isQuoted && ['*', '?', '['].contains cell.char

def accepts (c : Char) : Piece → Bool
  | .char d => c == d
  | .one | .many => true
  | .set isNegated ms => ms.any (·.holds c) != isNegated

/-- The rests of a pattern that may come next, as a star may match nothing. -/
def fronts : List Piece → List (List Piece)
  | .many :: ps => (.many :: ps) :: fronts ps
  | ps => [ps]

def advance (c : Char) : List Piece → List (List Piece)
  | .many :: ps => fronts (.many :: ps)
  | p :: ps => if accepts c p then fronts ps else []
  | [] => []

/-- Keeps one of the rests that are equally long, which are the same. -/
def distinct (states : List (List Piece)) : List (List Piece) :=
  states.foldl (fun kept s => if kept.any (·.length == s.length) then kept else s :: kept) []

def run (states : List (List Piece)) (text : List Char) : List (List Piece) :=
  text.foldl (fun states c => distinct ((states.map (advance c)).flatten)) states

def matchesAll (ps : List Piece) (text : List Char) : Bool :=
  (run (fronts ps) text).any List.isEmpty

/-- The lengths of the fronts of a text that a pattern matches, from the shortest on. -/
def frontLengths (states : List (List Piece)) (text : List Char) (length : Nat) : List Nat :=
  let here := if states.any List.isEmpty then [length] else []
  match text with
  | [] => here
  | c :: rest =>
    if states.isEmpty then here
    else here ++ frontLengths (distinct ((states.map (advance c)).flatten)) rest (length + 1)

def cutFront (ps : List Piece) (longest : Bool) (text : List Char) : List Char :=
  let lengths := frontLengths (fronts ps) text 0
  match if longest then lengths.getLast? else lengths.head? with
  | some n => text.drop n
  | none => text

/-- A text without the shortest end, or the longest, that a pattern matches. -/
def cutEnd (ps : List Piece) (longest : Bool) (text : List Char) : List Char :=
  let positions := List.range (text.length + 1)
  let isCut (n : Nat) : Bool := matchesAll ps (text.drop n)
  match (if longest then positions else positions.reverse).find? isCut with
  | some n => text.take n
  | none => text

end Pattern

end Replay.Shell
