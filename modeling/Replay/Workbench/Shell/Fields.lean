import Replay.Workbench.Shell.Pattern

/-!
What words expand to before they are cut into fields, and how they are cut: values that were not
quoted at the separators in them, lists of parameters between their members.
-/
namespace Replay.Shell

/-- Where a text may be cut into fields. -/
inductive Cutting where
  | never
  /-- At the separators, and between its pieces. -/
  | atSeparators
  /-- Between its pieces, which are fields even if they are empty. -/
  | betweenPieces
  deriving DecidableEq

inductive Segment where
  | text (pieces : List (List Char)) (isQuoted : Bool) (cutting : Cutting)
  /-- What is quoted makes a field even if it is empty. -/
  | mark

abbrev Field := List (List Char × Bool)

namespace Field

def text (f : Field) : String := String.ofList (f.foldr (fun run rest => run.1 ++ rest) [])

def cells (f : Field) : List Cell :=
  f.foldr (fun run rest => run.1.foldr (fun c rest => ⟨c, run.2⟩ :: rest) rest) []

end Field

def Field.ofSegments (segments : List Segment) : Field :=
  segments.filterMap fun s => match s with
    | .text pieces isQuoted _ => some (pieces.flatten, isQuoted)
    | .mark => none

structure Cutter where
  /-- The fields so far, last first. -/
  fields : List Field
  /-- What is finished of the field being read, last first. -/
  runs : Field
  /-- The rest of it, last character first. -/
  open_ : List Char
  /-- Whether it is a field even if it is empty. -/
  isMarked : Bool
  /-- Whether a blank just ended a field, so that a separator behind it counts for nothing. -/
  isBehindBlank : Bool
  /-- Whether the last text was cut between its pieces only. -/
  wasList : Bool

namespace Cutter

def start : Cutter := ⟨[], [], [], false, false, false⟩

def isEmpty (c : Cutter) : Bool := c.runs.isEmpty && c.open_.isEmpty && !c.isMarked

def closeRun (c : Cutter) (isQuoted : Bool) : Cutter :=
  if c.open_.isEmpty then c
  else { c with runs := (c.open_.reverse, isQuoted) :: c.runs, open_ := [] }

def emit (c : Cutter) (isQuoted : Bool) : Cutter :=
  let c := c.closeRun isQuoted
  { c with fields := c.runs.reverse :: c.fields, runs := [], isMarked := false }

def separate (c : Cutter) (isQuoted isList afterList isBlank : Bool) : Cutter :=
  if c.isBehindBlank then if isBlank then c else { c with isBehindBlank := false }
  else if afterList || isList then c.emit isQuoted
  else if isBlank && c.isEmpty then c
  else { c.emit isQuoted with isBehindBlank := isBlank }

def isBlank (char : Char) : Bool := char == ' ' || char == '\t' || char == '\n'

def takeChar (separators : List Char) (isQuoted afterList : Bool) (c : Cutter) (char : Char) :
    Cutter :=
  if separators.contains char then c.separate isQuoted false afterList (isBlank char)
  else { c with open_ := char :: c.open_, isBehindBlank := false }

def takePieces (separators : List Char) (isQuoted isList afterList : Bool) :
    (isFirst : Bool) → List (List Char) → Cutter → Cutter
  | _, [], c => c
  | isFirst, piece :: rest, c =>
    let c := if isFirst then c else c.separate isQuoted isList afterList true
    let c := if isList then { c with open_ := piece.reverseAux c.open_ }
      else piece.foldl (takeChar separators isQuoted afterList) c
    takePieces separators isQuoted isList afterList false rest c

def takeSegment (separators : List Char) (c : Cutter) : Segment → Cutter
  | .mark => { c with isMarked := true }
  | .text pieces isQuoted .never =>
    { c with open_ := pieces.flatten.reverseAux c.open_ }.closeRun isQuoted
  | .text pieces isQuoted cutting =>
    let isList := cutting = .betweenPieces
    let c' := { c with isBehindBlank := false, wasList := isList }
    (takePieces separators isQuoted isList c.wasList true pieces c').closeRun isQuoted

def finish (c : Cutter) : List Field :=
  if c.isEmpty && !c.wasList then c.fields.reverse else (c.runs.reverse :: c.fields).reverse

end Cutter

def fieldsOf (separators : List Char) (segments : List Segment) : List Field :=
  (segments.foldl (Cutter.takeSegment separators) Cutter.start).finish

end Replay.Shell
