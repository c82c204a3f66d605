import Replay.Workbench.Program.Stream

/-! Programs that pass on the front or the end of their operands, or count what is in them. -/
namespace Replay.Program

open Machine

def countOf? (text : String) : Option Nat :=
  let (ds, unit) := text.toList.span Char.isDigit
  if ds.isEmpty then none
  else
    let scaled (factor : Nat) : Option Nat := some (ofDigits ds * factor)
    let power (base : Nat) (c : Char) : Option Nat :=
      (['K', 'M', 'G', 'T', 'P', 'E'].findIdx? (· == c.toUpper)).bind fun i =>
        scaled (Nat.pow base (i + 1))
    match unit with
    | [] => scaled 1
    | ['b'] => scaled 512
    | [c] => power 1024 c
    | [c, 'B'] => power 1000 c
    | [c, 'i', 'B'] => power 1024 c
    | _ => none

/-- What is passed on: so much, or all but so much. -/
structure Extent where
  inBytes : Bool
  /-- Counted from the other end. -/
  isRest : Bool
  count : Nat

/-- Reads the options that say how much is passed on; an old way is a number behind a dash. -/
def extentOf (a : Arguments) (mark : Char) : Except String Extent :=
  match (a.options.reverse.find? fun o => o.1 == "lines" || o.1 == "bytes") with
  | none => .ok ⟨false, false, 10⟩
  | some (key, text) =>
    let inBytes := key == "bytes"
    let (isRest, digits) := match text.toList with
      | c :: rest =>
        if c = mark then (true, String.ofList rest)
        else if c = '-' || c = '+' then (false, if mark = '-' && c = '+' then text else
          String.ofList rest)
        else (false, text)
      | [] => (false, text)
    match countOf? digits with
    | some n => .ok ⟨inBytes, isRest, n⟩
    | none =>
      .error ("invalid number of " ++ (if inBytes then "bytes" else "lines") ++ ": " ++
        quoteWord (if text.startsWith "-" then digits else text))

/-- The front of a text that holds so many line ends at most, and how many are still missing. -/
def frontLines (separator : Char) : (count : Nat) → List Char → List Char → List Char × Nat
  | 0, _, done => (done.reverse, 0)
  | count, [], done => (done.reverse, count)
  | count + 1, c :: rest, done =>
    if c = separator then frontLines separator count rest (c :: done)
    else frontLines separator (count + 1) rest (c :: done)
termination_by _ cs => cs.length

def wholeLines (separator : Char) (cs : List Char) : List (List Char) :=
  let (done, last) := cs.foldl (fun (done, line) c =>
    if c = separator then ((c :: line).reverse :: done, []) else (done, c :: line)) ([], [])
  (if last.isEmpty then done else last.reverse :: done).reverse

def passFront (name : String) (x : Extent) (separator : Char) (fd : Nat) :
    Job (Except Refusal Unit) := do
  if x.isRest then
    match ← Job.readAll fd with
    | .error r => return .error r
    | .ok bytes =>
      if x.inBytes then emitBytes name 1 (bytes.extract 0 (bytes.size - x.count))
      else
        let lines := wholeLines separator (unpackList bytes)
        emit name (lines.take (lines.length - x.count)).flatten
      return .ok ()
  else if x.count = 0 then return .ok ()
  else
    let take (left : Nat) (bytes : ByteArray) : Job (Nat × Bool) := do
      if x.inBytes then
        emitBytes name 1 (bytes.extract 0 left)
        return (left - bytes.size, bytes.size < left)
      else
        let (front, left) := frontLines separator left (unpackList bytes) []
        emit name front
        return (left, 0 < left)
    let size := if x.inBytes then min 8192 x.count else 8192
    match ← eachBlock fd size take Job.forever x.count with
    | .ok _ => return .ok ()
    | .error r => return .error r

def passEnd (name : String) (x : Extent) (separator : Char) (fd : Nat) :
    Job (Except Refusal Unit) := do
  match ← Job.readAll fd with
  | .error r => return .error r
  | .ok bytes =>
    if x.inBytes then
      let start := if x.isRest then x.count - 1 else bytes.size - x.count
      emitBytes name 1 (bytes.extract start bytes.size)
    else
      let lines := wholeLines separator (unpackList bytes)
      emit name (lines.drop (if x.isRest then x.count - 1 else lines.length - x.count)).flatten
    return .ok ()

def titleOf (path : String) : String := if path = "-" then "standard input" else path

def passAll (name : String) (pass : Nat → Job (Except Refusal Unit)) (showsTitles : Bool) :
    List String → (isFirst : Bool) → (status : Nat) → Job Nat
  | [], _, status => return status
  | path :: rest, isFirst, status => do
    match ← openOperand path with
    | .error r =>
      complaint name ("cannot open " ++ quoteAlways path ++ " for reading: " ++ r.text)
      passAll name pass showsTitles rest isFirst 1
    | .ok fd =>
      if showsTitles then
        emitText name ((if isFirst then "" else "\n") ++ "==> " ++ titleOf path ++ " <==\n")
      let result ← pass fd
      closeOperand path fd
      match result with
      | .ok () => passAll name pass showsTitles rest false status
      | .error r =>
        complaint name ("error reading " ++ quoteAlways (titleOf path) ++ ": " ++ r.text)
        passAll name pass showsTitles rest false 1

def withOldCount (marks : List Char) : List String → List String
  | first :: rest =>
    match first.toList with
    | mark :: c :: cs =>
      if marks.contains mark && c.isDigit then
        let (ds, letters) := (c :: cs).span Char.isDigit
        let count := String.ofList (if mark = '+' then '+' :: ds else ds)
        match letters with
        | [] => "-n" :: count :: rest
        | ['c'] => "-c" :: count :: rest
        | _ => first :: rest
      else first :: rest
    | _ => first :: rest
  | [] => []

def endOptions : List Known :=
  [.taking "bytes" ['c'] ["bytes"], .taking "lines" ['n'] ["lines"],
   .flag "quiet" ['q'] ["quiet", "silent"], .flag "verbose" ['v'] ["verbose"],
   .flag "zero" ['z'] ["zero-terminated"]]

def frontOrEnd (mark : Char) (pass : String → Extent → Char → Nat → Job (Except Refusal Unit))
    (name : String) (a : Arguments) : Job Nat := do
  match extentOf a mark with
  | .error text =>
    complaint name text
    return 1
  | .ok x =>
    let sources := sourcesOf a
    let showsTitles := match a.lastOf? ["quiet", "verbose"] with
      | some "quiet" => false
      | some _ => true
      | none => 1 < sources.length
    passAll name (pass name x (if a.has "zero" then '\x00' else '\n')) showsTitles sources true 0

def head (words : List String) : Job Nat :=
  withOptions endOptions true 1 (frontOrEnd '-' passFront)
    (words.headD "" :: withOldCount ['-'] (words.drop 1))

def tail (words : List String) : Job Nat :=
  withOptions (.flag "follow" ['f', 'F'] ["follow"] :: endOptions) true 1 (fun name a => do
      let status ← frontOrEnd '+' passEnd name a
      if a.has "follow" then
        Job.sleep 1000000000000000000
      return status)
    (words.headD "" :: withOldCount ['-', '+'] (words.drop 1))

/-- What is counted of a text. -/
structure Counts where
  lines : Nat
  words : Nat
  bytes : Nat
  /-- The width of the line that is open, and of the widest one. -/
  column : Nat
  widest : Nat
  isInWord : Bool

namespace Counts

def zero : Counts := ⟨0, 0, 0, 0, 0, false⟩

def take (x : Counts) (c : Char) : Counts :=
  let x := { x with bytes := x.bytes + 1 }
  let x := if isSpace c then { x with isInWord := false }
    else if isPrintable c || x.isInWord then
      if x.isInWord then x else { x with isInWord := true, words := x.words + 1 }
    else { x with isInWord := true, words := x.words + 1 }
  if c = '\n' then
    { x with lines := x.lines + 1, widest := max x.widest x.column, column := 0 }
  else if c = '\r' || c = '\x0c' then { x with widest := max x.widest x.column, column := 0 }
  else if c = '\t' then { x with column := x.column + 8 - x.column % 8 }
  else if isPrintable c then { x with column := x.column + 1 }
  else x

def add (a b : Counts) : Counts :=
  ⟨a.lines + b.lines, a.words + b.words, a.bytes + b.bytes, 0, max a.widest b.widest, false⟩

def shown (x : Counts) (a : Arguments) : List Nat :=
  let isAny := ["lines", "words", "chars", "bytes", "widest"].any a.has
  let column (key : String) (byDefault : Bool) (n : Nat) : List Nat :=
    if a.has key || (!isAny && byDefault) then [n] else []
  column "lines" true x.lines ++ column "words" true x.words ++ column "chars" false x.bytes ++
    column "bytes" true x.bytes ++ column "widest" false (max x.widest x.column)

end Counts

def countLine (width : Nat) (numbers : List Nat) (title : String) : List Char :=
  [' '].intercalate (numbers.map (rightAligned width)) ++
    (if title.isEmpty then [] else ' ' :: title.toList) ++ ['\n']

def countAll (name : String) (a : Arguments) (width : Nat) :
    List String → (total : Counts) → (status : Nat) → Job (Counts × Nat)
  | [], total, status => return (total, status)
  | path :: rest, total, status => do
    let title := if a.operands.isEmpty then "" else path
    match ← openOperand path with
    | .error r =>
      complaint name (plainTrouble path r)
      countAll name a width rest total 1
    | .ok fd =>
      let counted ← eachBlock fd 16384 (fun (x : Counts) bytes =>
        return (bytes.foldl (fun x b => x.take (charOf b)) x, true)) Job.forever .zero
      closeOperand path fd
      match counted with
      | .ok x =>
        emit name (countLine width (x.shown a) title)
        countAll name a width rest (total.add { x with widest := max x.widest x.column }) status
      | .error r =>
        let shown := if path = "-" then "'standard input'" else quoteName path
        complaint name (shown ++ ": " ++ r.text)
        emit name (countLine width (Counts.zero.shown a) title)
        countAll name a width rest total 1

/-- How wide the numbers are: as the sizes of the files ask for, wider if sizes are not known. -/
def countWidth (a : Arguments) : List String → (total : Nat) → (low : Nat) → Job Nat
  | [], total, low => return max low (Nat.toDigits 10 total).length
  | path :: rest, total, low => do
    if path = "-" then countWidth a rest total 7
    else match ← Job.inspect path true with
      | .ok facts =>
        if facts.isRegular then countWidth a rest (total + facts.size) low
        else countWidth a rest total 7
      | .error _ => countWidth a rest total low

def wordCount : List String → Job Nat := withOptions
  [.flag "bytes" ['c'] ["bytes"], .flag "chars" ['m'] ["chars"], .flag "lines" ['l'] ["lines"],
   .flag "words" ['w'] ["words"], .flag "widest" ['L'] ["max-line-length"]] true 1 fun name a => do
    let sources := sourcesOf a
    let columns := (Counts.zero.shown a).length
    let width ← if columns = 1 && sources.length = 1 then pure 1 else countWidth a sources 0 1
    let (total, status) ← countAll name a width sources .zero 0
    if 1 < sources.length then emit name (countLine width (total.shown a) "total")
    return status

end Replay.Program
