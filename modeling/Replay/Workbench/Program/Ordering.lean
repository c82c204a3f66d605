import Replay.Workbench.Program.Lines
import Replay.Workbench.Program.Stream

/-! Programs that put lines in order, and leave out the repeated ones: `sort`, `tac` and `uniq`. -/
namespace Replay.Program.Ordering

open Machine

structure Manner where
  skipsBlanks : Bool
  isDictionary : Bool
  foldsCase : Bool
  skipsUnprintable : Bool
  isNumeric : Bool
  isReversed : Bool
  deriving DecidableEq

namespace Manner

def plain : Manner := ⟨false, false, false, false, false, false⟩

def add (m : Manner) (c : Char) : Manner :=
  match c with
  | 'b' => { m with skipsBlanks := true }
  | 'd' => { m with isDictionary := true }
  | 'f' => { m with foldsCase := true }
  | 'i' => { m with skipsUnprintable := true }
  | 'n' => { m with isNumeric := true }
  | 'r' => { m with isReversed := true }
  | _ => m

def letters : List Char := ['b', 'd', 'f', 'i', 'n', 'r']

end Manner

def isBlank (c : Char) : Bool := c == ' ' || c == '\t' || c == '\n'

/-- The number at the front of a text, with as many decimal places as it has. -/
def numberAt (cs : List Char) : Bool × List Char × List Char :=
  let cs := cs.dropWhile isBlank
  let (isNegative, cs) := if cs.head? = some '-' then (true, cs.drop 1) else (false, cs)
  let (whole, rest) := cs.span Char.isDigit
  let places := if rest.head? = some '.' then (rest.drop 1).takeWhile Char.isDigit else []
  (isNegative, whole, places)

def compareNumbers (a b : List Char) : Ordering :=
  let (aNegative, aWhole, aPlaces) := numberAt a
  let (bNegative, bWhole, bPlaces) := numberAt b
  let width := max aPlaces.length bPlaces.length
  let value (isNegative : Bool) (whole places : List Char) : Int :=
    let n : Int := ofDigits (whole ++ places ++ List.replicate (width - places.length) '0')
    if isNegative then -n else n
  compare (value aNegative aWhole aPlaces) (value bNegative bWhole bPlaces)

def compareChars : List Char → List Char → Ordering
  | [], [] => .eq
  | [], _ => .lt
  | _, [] => .gt
  | a :: as, b :: bs => (compare a b).then (compareChars as bs)

def Manner.compare (m : Manner) (a b : List Char) : Ordering :=
  let trim (cs : List Char) : List Char := if m.skipsBlanks then cs.dropWhile isBlank else cs
  if m.isNumeric then compareNumbers (trim a) (trim b)
  else
    let shown (cs : List Char) : List Char :=
      let cs := trim cs
      let cs := if m.isDictionary then cs.filter fun c => c.isAlphanum || isBlank c else cs
      let cs := if m.skipsUnprintable then cs.filter isPrintable else cs
      if m.foldsCase then cs.map Char.toUpper else cs
    compareChars (shown a) (shown b)

/-- A place in a line: a field, and a character in it, both from one on; the end of a key may be the
end of a field. -/
structure Position where
  field : Nat
  char : Option Nat
  skipsBlanks : Bool

/-- A part of a line that lines are compared by. -/
structure Key where
  first : Position
  last : Option Position
  manner : Manner

/-- The fields of a line: between separators, or each with the blanks in front of it. -/
def fieldsOf (separator : Option Char) (line : List Char) : List (List Char) :=
  match separator with
  | some c => splitAt c line
  | none =>
    let (done, last, _) := line.foldl (fun (done, field, wasBlank) c =>
      if isBlank c && !wasBlank && !field.isEmpty then (field.reverse :: done, [c], true)
      else (done, c :: field, isBlank c)) (([] : List (List Char)), ([] : List Char), true)
    (last.reverse :: done).reverse

/-- How many characters of a line stand in front of a field that is counted from zero. -/
def offsetOf (separator : Option Char) (fields : List (List Char)) (n : Nat) : Nat :=
  ((fields.take n).map List.length).foldl (· + ·) 0 +
    (if separator.isSome then min n fields.length else 0)

namespace Key

def part (k : Key) (separator : Option Char) (line : List Char) : List Char :=
  let fields := fieldsOf separator line
  let blanksAt (place : Nat) : Nat := ((line.drop place).takeWhile isBlank).length
  let startOf (p : Position) : Nat :=
    let place := offsetOf separator fields (p.field - 1)
    if p.skipsBlanks then place + blanksAt place else place
  let first := startOf k.first + (k.first.char.getD 1 - 1)
  let last := match k.last with
    | none => line.length
    | some p =>
      match p.char with
      | none | some 0 =>
        offsetOf separator fields p.field -
          (if separator.isSome && p.field < fields.length then 1 else 0)
      | some c => startOf p + c
  (line.take last).drop first

end Key

structure Order where
  keys : List Key
  manner : Manner
  separator : Option Char
  /-- Lines that are equal by their keys stay as they are. -/
  isStable : Bool
  isUnique : Bool

namespace Order

def turned (isReversed : Bool) (o : Ordering) : Ordering := if isReversed then o.swap else o

def compareKeys (x : Order) (a b : List Char) : Ordering :=
  if x.keys.isEmpty then turned x.manner.isReversed (x.manner.compare a b)
  else x.keys.foldl (fun o k => o.then (turned k.manner.isReversed
    (k.manner.compare (k.part x.separator a) (k.part x.separator b)))) .eq

def compare (x : Order) (a b : List Char) : Ordering :=
  let o := x.compareKeys a b
  if x.isStable || x.isUnique then o
  else o.then (turned x.manner.isReversed (compareChars a b))

/-- Leaves out lines that are equal to the one in front of them. -/
def distinct (x : Order) : List (List Char) → List (List Char)
  | a :: b :: rest =>
    if x.compareKeys a b = .eq then distinct x (a :: rest) else a :: distinct x (b :: rest)
  | ls => ls
termination_by ls => ls.length

def sort (x : Order) (lines : List (List Char)) : List (List Char) :=
  let sorted := lines.mergeSort fun a b => x.compare a b != .gt
  if x.isUnique then x.distinct sorted else sorted

def disorder? (x : Order) : (number : Nat) → List (List Char) → Option (Nat × List Char)
  | number, a :: b :: rest =>
    let o := x.compare a b
    if o = .gt || (x.isUnique && o = .eq) then some (number + 1, b)
    else disorder? x (number + 1) (b :: rest)
  | _, _ => none

end Order

def countAt (what : String) (cs : List Char) : Except String (Nat × List Char) :=
  let (ds, rest) := cs.span Char.isDigit
  if ds.isEmpty then
    .error ("invalid number " ++ what ++ ": invalid count at start of " ++
      quoteWord (String.ofList cs))
  else .ok (ofDigits ds, rest)

/-- Reads a key. -/
def Key.read (general : Manner) (text : String) : Except String Key := do
  let badly {α : Type} (why : String) : Except String α :=
    .error (why ++ ": invalid field specification " ++ quoteWord text)
  let (field, rest) ← countAt "at field start" text.toList
  if field = 0 then badly "field number is zero"
  let (char, rest) : Option Nat × List Char ← match rest with
    | '.' :: behind => do
      let (n, rest) ← countAt "after '.'" behind
      if n = 0 then badly "character offset is zero"
      pure (some n, rest)
    | rest => pure (none, rest)
  let (marks, rest) := rest.span Manner.letters.contains
  let (last, lastMarks, rest) : Option (Nat × Option Nat) × List Char × List Char ← match rest with
    | ',' :: behind => do
      let (field, rest) ← countAt "after ','" behind
      if field = 0 then badly "field number is zero"
      let (char, rest) : Option Nat × List Char ← match rest with
        | '.' :: behind => do
          let (n, rest) ← countAt "after '.'" behind
          pure (some n, rest)
        | rest => pure (none, rest)
      let (marks, rest) := rest.span Manner.letters.contains
      pure (some (field, char), marks, rest)
    | rest => pure (none, [], rest)
  if !rest.isEmpty then badly "stray character in field spec"
  let all := marks ++ lastMarks
  let manner := if all.isEmpty then general else (all.filter (· ≠ 'b')).foldl Manner.add .plain
  let skips (marks : List Char) : Bool :=
    if all.isEmpty then general.skipsBlanks else marks.contains 'b'
  return ⟨⟨field, char, skips marks⟩,
    last.map fun (field, char) => ⟨field, char, skips lastMarks⟩,
    { manner with skipsBlanks := false }⟩

def separatorOf : Option String → Except String (Option Char)
  | none => .ok none
  | some text =>
    match text.toList with
    | [c] => .ok (some c)
    | ['\\', '0'] => .ok (some '\x00')
    | [] => .error "empty tab"
    | _ => .error ("multi-character tab " ++ quoteWord text)

def orderOf (a : Arguments) : Except String Order := do
  let letters := a.options.flatMap fun o => if o.1 = "manner" then o.2.toList else []
  let manner := letters.foldl Manner.add .plain
  let keys ← ((a.options.filter (·.1 == "key")).map (·.2)).mapM (Key.read manner)
  return ⟨keys, manner, ← separatorOf (a.last? "separator"), a.has "stable", a.has "unique"⟩

def sort : List String → Job Nat := withOptions
  [⟨"manner", Manner.letters, [], .nothing⟩, .taking "key" ['k'] ["key"],
   .taking "separator" ['t'] ["field-separator"], .flag "stable" ['s'] ["stable"],
   .flag "unique" ['u'] ["unique"], .flag "check" ['c'] [], .flag "quietCheck" ['C'] [],
   .flag "merge" ['m'] ["merge"], .taking "output" ['o'] ["output"]] true 2 fun name a => do
    match orderOf a with
    | .error text =>
      complaint name text
      return 2
    | .ok x =>
      let sources := sourcesOf a
      let isCheck := a.has "check" || a.has "quietCheck"
      match isCheck, sources with
      | true, _ :: extra :: _ =>
        complaint name ("extra operand " ++ quoteWord extra ++ " not allowed with -c")
        return 2
      | _, _ =>
        let (contents, isWhole) ← readAllOperands name
          (fun path r => (if r = .isDirectory then "read failed: " else "cannot read: ") ++
            plainTrouble path r) sources
        if !isWhole then return 2
        else
          let lines := contents.flatMap textLines
          if isCheck then
            match x.disorder? 1 lines with
            | some (n, line) =>
              if !a.has "quietCheck" then
                complaint name (sources.headD "-" ++ ":" ++ decimal n ++ ": disorder: " ++
                  String.ofList line)
              return 1
            | none => return 0
          else
            let isInOrder := a.has "merge" && sources.length = 1
            let text := packList (endedLines (if isInOrder then lines else x.sort lines))
            match a.last? "output" with
            | none =>
              match ← Job.writeBytes 1 text with
              | .ok () => return 0
              | .error r =>
                complaint name ("fflush failed: 'standard output': " ++ r.text)
                complaint name "write error"
                return 2
            | some path =>
              match ← Job.openFile path (.write false) with
              | .error r =>
                complaint name ("open failed: " ++ plainTrouble path r)
                return 2
              | .ok fd =>
                discard (Job.writeBytes fd text)
                return 0

def tac : List String → Job Nat := withOptions [] true 1 fun name a => do
  let (contents, isWhole) ← readAllOperands name (fun path r =>
    if r = .isDirectory then path ++ ": read error: " ++ Refusal.invalid.text
    else "failed to open " ++ quoteAlways path ++ " for reading: " ++ r.text) (sourcesOf a)
  for bytes in contents do
    let (lines, isEnded) := linesOf (unpackList bytes)
    let whole := lines.map (· ++ ['\n'])
    let shown := if isEnded then whole else whole.dropLast ++ lines.getLast?.toList
    emit name shown.reverse.flatten
  return if isWhole then 0 else 1

/-- Which lines are told apart, and which are shown. -/
structure Uniqueness where
  fields : Nat
  chars : Nat
  most : Option Nat
  foldsCase : Bool
  showsCount : Bool
  showsRepeated : Bool
  showsSingle : Bool

namespace Uniqueness

def part (x : Uniqueness) (line : List Char) : List Char :=
  let afterFields := (List.range x.fields).foldl (fun cs _ =>
    (cs.dropWhile isBlank).dropWhile fun c => !isBlank c) line
  let rest := afterFields.drop x.chars
  let rest := (x.most.map rest.take).getD rest
  if x.foldsCase then rest.map Char.toLower else rest

def groups (x : Uniqueness) : List (List Char) → List (List Char × Nat)
  | [] => []
  | line :: rest =>
    match groups x rest with
    | (next, n) :: others =>
      if x.part next = x.part line then (line, n + 1) :: others
      else (line, 1) :: (next, n) :: others
    | [] => [(line, 1)]

def shown (x : Uniqueness) (group : List Char × Nat) : List Char :=
  let isShown := if group.2 = 1 then !x.showsRepeated else !x.showsSingle
  if !isShown then []
  else (if x.showsCount then rightAligned 7 group.2 ++ [' '] else []) ++ group.1 ++ ['\n']

end Uniqueness

def uniq : List String → Job Nat := withOptions
  [.flag "count" ['c'] ["count"], .flag "repeated" ['d'] ["repeated"],
   .flag "single" ['u'] ["unique"], .flag "fold" ['i'] ["ignore-case"],
   .taking "fields" ['f'] ["skip-fields"], .taking "chars" ['s'] ["skip-chars"],
   .taking "most" ['w'] ["check-chars"]] true 1 fun name a => do
    let counts := [("fields", "fields to skip"), ("chars", "bytes to skip"),
      ("most", "bytes to compare")]
    let bad := counts.findSome? fun (key, what) => (a.last? key).bind fun text =>
      if (natural? text).isSome then none else some (text, what)
    match bad, a.operands with
    | some (text, what), _ =>
      complaint name (text ++ ": invalid number of " ++ what)
      return 1
    | none, _ :: _ :: extra :: _ => misuse name ("extra operand " ++ quoteWord extra) 1
    | none, operands =>
      let number (key : String) : Option Nat := (a.last? key).bind natural?
      let x : Uniqueness :=
        { fields := (number "fields").getD 0, chars := (number "chars").getD 0
          most := number "most", foldsCase := a.has "fold", showsCount := a.has "count"
          showsRepeated := a.has "repeated", showsSingle := a.has "single" }
      let source := operands.headD "-"
      match ← readOperand source with
      | .error r =>
        complaint name (if r = .isDirectory then
          "error reading " ++ quoteAlways source ++ ": " ++ r.text else plainTrouble source r)
        return 1
      | .ok bytes =>
        let text := packList ((x.groups (textLines bytes)).flatMap x.shown)
        match operands[1]? with
        | none => emitBytes name 1 text
        | some path =>
          match ← Job.openFile path (.write false) with
          | .ok fd => discard (Job.writeBytes fd text)
          | .error r =>
            complaint name (plainTrouble path r)
            Job.exit 1
        return 0

end Replay.Program.Ordering
