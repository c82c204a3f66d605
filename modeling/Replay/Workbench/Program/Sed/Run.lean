import Replay.Workbench.Program.Lines
import Replay.Workbench.Program.Sed.Reader

/-! Running scripts of the stream editor, line after line. -/
namespace Replay.Program.Sed

open Machine

/-- How far a command is in the lines between its addresses. -/
inductive Range where
  | outside
  /-- As far as a line that is known, or one that the second address is for. -/
  | inside (stop : Option Nat)

/-- What is written at the end of a turn. -/
inductive Queued where
  | text (cs : List Char)
  | file (path : String)
  /-- A line of a file, which may lack its end. -/
  | line (cs : List Char)

/-- An output that was opened, and whether its last line lacks its end. -/
structure Outlet where
  path : String
  /-- None for the standard output, which is written to in pieces. -/
  fd : Option Nat
  isOpenLine : Bool

structure Options where
  name : String
  isQuiet : Bool
  separator : Char
  /-- Every file is edited for itself. -/
  isSeparate : Bool
  isUnbuffered : Bool
  width : Nat

structure Editing where
  options : Options
  commands : Array Command
  ranges : Array Range
  files : List String
  source : Option (String × LineSource)
  number : Nat
  line : List Char
  /-- Whether the line has an end. -/
  isEnded : Bool
  held : List Char
  isHeldEnded : Bool
  isReplaced : Bool
  last : Option Search
  queue : List Queued
  /-- What waits to be written to the standard output, last character first, and how much it is. -/
  waiting : List Char
  size : Nat
  isOpenLine : Bool
  outlets : List Outlet
  readers : List (String × LineSource)
  status : Nat

abbrev Edit := StateT Editing Job

namespace Edit

def ask {α : Type} (j : Job α) : Edit α := StateT.lift j

def flush : Edit Unit := do
  let s ← get
  if !s.waiting.isEmpty then
    modify fun s => { s with waiting := [], size := 0 }
    match ← ask (Job.writeBytes 1 (packList s.waiting.reverse)) with
    | .ok () => return
    | .error r =>
      let verb := if r = .badDescriptor then "close" else "flush"
      ask (complaint s.options.name ("couldn't " ++ verb ++ " stdout: " ++ r.text))
      ask (Job.exit 4)

def fail {α : Type} (text : String) (status : Nat) : Edit α := do
  flush
  ask (complaint (← get).options.name text)
  ask (Job.exit status)

/-- Writes to the standard output, which takes up to a block at once. -/
def putBare (cs : List Char) : Edit Unit := do
  let s ← get
  set { s with waiting := cs.reverseAux s.waiting, size := s.size + cs.length + 1 }
  if s.options.isUnbuffered || 4096 ≤ s.size then flush

def endLine : Edit Unit := do
  if (← get).isOpenLine then
    modify fun s => { s with isOpenLine := false }
    putBare ['\n']

def put (cs : List Char) (isEnded : Bool) : Edit Unit := do
  endLine
  modify fun s => { s with isOpenLine := !isEnded }
  putBare cs

def outlet (path : String) : Edit Outlet := do
  match (← get).outlets.find? (·.path == path) with
  | some o => return o
  | none =>
    let fd : Option Nat ← if path = "/dev/stdout" then pure none
      else if path = "/dev/stderr" then pure (some 2)
      else match ← ask (Job.openFile path (.write false)) with
        | .error r => fail ("couldn't open file " ++ path ++ ": " ++ r.text) 4
        | .ok fd => pure (some fd)
    let o : Outlet := ⟨path, fd, false⟩
    modify fun s => { s with outlets := o :: s.outlets }
    return o

def putTo (path : String) (cs : List Char) (isEnded : Bool) : Edit Unit := do
  let o ← outlet path
  let text := if o.isOpenLine then '\n' :: cs else cs
  modify fun s => { s with
    outlets := s.outlets.map fun p =>
      if p.path == path then { p with isOpenLine := !isEnded } else p }
  match o.fd with
  | none => putBare text
  | some fd =>
    match ← ask (Job.writeBytes fd (packList text)) with
    | .ok () => return
    | .error r => fail ("couldn't flush " ++ path ++ ": " ++ r.text) 4

/-- The line with its end. -/
def ended (cs : List Char) (isEnded : Bool) : Edit (List Char) := do
  let separator := (← get).options.separator
  return if isEnded then cs ++ [separator] else cs

def putLine : Edit Unit := do
  let s ← get
  put (← ended s.line s.isEnded) s.isEnded

def openNext : (steps : Nat) → Edit Bool
  | 0 => return false
  | steps + 1 => do
    let s ← get
    match s.files with
    | [] => return false
    | path :: files => do
      set { s with files }
      match ← ask (openOperand path) with
      | .ok fd =>
        modify fun s => { s with source := some (path, .ofDescriptor fd) }
        return true
      | .error r =>
        flush
        ask (complaint s.options.name ("can't read " ++ path ++ ": " ++ r.text))
        modify fun s => { s with status := 2 }
        openNext steps

def readFault {α : Type} (path : String) (r : Refusal) : Edit α :=
  fail ("read error on " ++ (if path = "-" then "stdin" else path) ++ ": " ++ r.text) 4

/-- Whether no line follows: in this file, and in others unless each is for itself. -/
def isLast (acrossFiles : Bool) : (steps : Nat) → Edit Bool
  | 0 => return true
  | steps + 1 => do
    match (← get).source with
    | none =>
      if ← openNext ((← get).files.length + 1) then isLast acrossFiles steps else return true
    | some (path, source) => do
      let (r, source) ← ask source.isAtEnd
      modify fun s => { s with source := some (path, source) }
      match r with
      | .error r => readFault path r
      | .ok false => return false
      | .ok true =>
        if !acrossFiles then return true
        if path ≠ "-" then ask (Job.close source.fd)
        modify fun s => { s with source := none }
        isLast acrossFiles steps

def steps : Edit Nat := do return 2 * (← get).files.length + 3

def nextLine : Edit (Option (List Char × Bool)) := do
  if ← isLast true (← steps) then return none
  let s ← get
  match s.source with
  | none => return none
  | some (path, source) =>
    match ← ask (source.next s.options.separator) with
    | .error r => readFault path r
    | .ok (line, source) =>
      modify fun s => { s with source := some (path, source), number := s.number + 1 }
      return line

def copyFile (path : String) : Edit Unit := do
  endLine
  let opened ← if path = "/dev/stdin" then pure (.ok 0) else ask (Job.openFile path .read)
  match opened with
  | .error _ => return
  | .ok fd =>
    match ← ask (Job.readAll fd) with
    | .ok bytes => putBare (unpackList bytes)
    | .error _ => pure ()
    if fd ≠ 0 then ask (Job.close fd)

def queueFileLine (path : String) : Edit Unit := do
  let s ← get
  let source : Option LineSource ← match s.readers.lookup path with
    | some source => pure (some source)
    | none => do
      let opened ← if path = "/dev/stdin" then pure (.ok 0) else ask (Job.openFile path .read)
      match opened with
      | .ok fd => pure (some (.ofDescriptor fd))
      | .error _ => pure none
  match source with
  | none => return
  | some source =>
    match ← ask (source.next s.options.separator) with
    | .error _ => return
    | .ok (line, source) =>
      modify fun s => { s with
        readers := (path, source) :: s.readers.filter (·.1 != path) }
      match line with
      | some (cs, isEnded) => do
        let text ← ended cs isEnded
        modify fun s => { s with queue := .line text :: s.queue }
      | none => return

def writeQueue : Edit Unit := do
  let queue := (← get).queue
  modify fun s => { s with queue := [] }
  for q in queue.reverse do
    match q with
    | .text cs => put cs true
    | .file path => copyFile path
    | .line cs => do
      endLine
      putBare cs

def readLine : Edit Bool := do
  writeQueue
  modify fun s => { s with isReplaced := false }
  match ← nextLine with
  | none => return false
  | some (line, isEnded) =>
    modify fun s => { s with line, isEnded }
    return true

/-- The expression of a search; an empty one is the one used last. -/
def expression (s : Search) : Edit (Regex × Search) := do
  match s.expression with
  | some r =>
    modify fun e => { e with last := some s }
    return (r, s)
  | none =>
    match (← get).last with
    | some last =>
      match last.expression with
      | some r => return (r, last)
      | none => fail (Reading.expression 1 0 "no previous regular expression") 1
    | none => fail (Reading.expression 1 0 "no previous regular expression") 1

def fits (a : Address) : Edit Bool := do
  let s ← get
  match a with
  | .line n => return s.number = n
  | .step first step => return first ≤ s.number && (s.number - first) % step = 0
  | .last => isLast (!s.options.isSeparate) (← steps)
  | .search x => do
    let (r, x) ← expression x
    return (r.search ⟨s.line.toArray, x.foldsCase, x.hasLines⟩ 0).isSome
  | .plus _ | .multiple _ => return false

def setRange (place : Nat) (r : Range) : Edit Unit :=
  modify fun s => { s with ranges := s.ranges.setIfInBounds place r }

def isSelected (place : Nat) (c : Command) : Edit Bool := do
  match c.first, c.second with
  | none, _ => return true
  | some a, none => fits a
  | some a, some b => do
    let n := (← get).number
    match (← get).ranges[place]?.getD .outside with
    | .outside => do
      if !(← fits a) then return false
      let stop : Option Nat := match b with
        | .line m => some m
        | .plus m => some (n + m)
        | .multiple m => some (if m = 0 then n else (n / m + 1) * m)
        | _ => none
      match stop with
      | some stop => if n < stop then setRange place (.inside (some stop))
      | none => setRange place (.inside none)
      return true
    | .inside (some stop) => do
      if stop ≤ n then setRange place .outside
      return n ≤ stop
    | .inside none => do
      if ← fits b then setRange place .outside
      return true

def isInside (place : Nat) : Edit Bool := do
  return (← get).ranges[place]?.getD .outside matches .inside _

/-- Writes a text in the manner of a replacement; its last character first. -/
def cased (casing : Casing) (next : Casing) (cs : List Char) (done : List Char) :
    List Char × Casing :=
  let change (k : Casing) (c : Char) : Char := match k with
    | .keep => c
    | .upper => c.toUpper
    | .lower => c.toLower
  match cs with
  | [] => (done, next)
  | c :: rest =>
    let first := if next = .keep then change casing c else change next c
    ((rest.map (change casing)).reverseAux (first :: done), .keep)

def replaced (x : Array Char) (span : Nat × Nat) (groups : Regex.Spans) (ps : List Piece)
    (done : List Char) : List Char :=
  (ps.foldl (fun (casing, next, done) p => match p with
    | .char c =>
      let (done, next) := cased casing next [c] done
      (casing, next, done)
    | .group n =>
      let found := if n = 0 then some span else groups.lookup n
      match found with
      | some (i, j) =>
        let (done, next) := cased casing next (x.extract i j).toList done
        (casing, next, done)
      | none => (casing, next, done)
    | .casing c => (c, .keep, done)
    | .nextCasing c => (casing, c, done)) (Casing.keep, Casing.keep, done)).2.2

/-- Replaces matches from a place on; `steps` bounds how many there are. The new text is kept last
character first; `before` is where the match before ended. -/
def substitutions (s : Substitution) (r : Regex) (x : Regex.Subject) :
    (steps : Nat) → (start : Nat) → (before : Option Nat) → (count : Nat) → List Char →
      List Char × Bool
  | 0, _, _, _, done => (done, false)
  | steps + 1, start, before, count, done =>
    let ending (from_ : Nat) (done : List Char) : List Char :=
      (x.text.extract from_ x.text.size).toList.reverseAux done
    if x.text.size < start then (done, false)
    else match r.search x start with
      | none => (ending start done, false)
      | some (i, j, groups) =>
        let done := (x.text.extract start i).toList.reverseAux done
        let one (done : List Char) : List Char :=
          match x.text[j]? with
          | some c => c :: done
          | none => done
        if i = j && before = some i then
          substitutions s r x steps (j + 1) none count (one done)
        else
          let count := count + 1
          let isCounted := s.number ≤ count
          let done := if isCounted then replaced x.text (i, j) groups s.replacement done
            else (x.text.extract i j).toList.reverseAux done
          if isCounted && !s.isGlobal then (ending j done, true)
          else
            let (next, done) := if i = j then (j + 1, one done) else (j, done)
            let (done, others) := substitutions s r x steps next (if i = j then none else some j)
              count done
            (done, isCounted || others)

def substitute (s : Substitution) : Edit Unit := do
  let (r, x) ← expression s.search
  let e ← get
  let hasLines := x.hasLines && e.options.separator = '\n'
  let text := e.line.toArray
  let (done, isReplaced) :=
    substitutions s r ⟨text, x.foldsCase, hasLines⟩ (text.size + 2) 0 none 0 []
  if isReplaced then
    set { e with line := done.reverse, isReplaced := true }
    if s.prints then putLine
    match s.file with
    | some path => do
      let e ← get
      putTo path (← ended e.line e.isEnded) e.isEnded
    | none => return

/-- The characters of a line as they are shown, each with its own escape. -/
def shownChar (c : Char) : List Char :=
  if c = '\\' then ['\\', '\\']
  else if isPrintable c then [c]
  else escapedChars c

/-- Breaks what is shown into lines of a width, of which the last sign is kept for a backslash. -/
def brokenLines (width : Nat) : List (List Char) → (column : Nat) → List Char → List Char
  | [], _, done => ('\n' :: '$' :: done).reverse
  | cs :: rest, column, done =>
    if 0 < width && width - 1 < column + cs.length then
      brokenLines width rest cs.length (cs.reverseAux ('\n' :: '\\' :: done))
    else brokenLines width rest (column + cs.length) (cs.reverseAux done)

inductive Following where
  | at (place : Nat)
  /-- The end of the turn, with or without writing the line. -/
  | turnEnd (writes : Bool)
  /-- Another turn with what is left of the line. -/
  | again
  | ending (status : Nat)

def firstLine (separator : Char) (cs : List Char) : List Char := cs.takeWhile (· != separator)

def perform (place : Nat) (c : Command) : Edit Following := do
  let s ← get
  let onward : Following := .at (place + 1)
  match c.action with
  | .block _ | .nothing => return onward
  | .append cs => do
    set { s with queue := .text cs :: s.queue }
    return onward
  | .insert cs => do
    if !cs.isEmpty then put cs true
    return onward
  | .change cs => do
    if c.isNegated || !(← isInside place) then
      if !cs.isEmpty then put cs true
    return .turnEnd false
  | .jump j _ target => do
    ask (Job.work 1)
    let jumps := match j with
      | .always => true
      | .ifReplaced => s.isReplaced
      | .unlessReplaced => !s.isReplaced
    if j ≠ .always then set { s with isReplaced := false }
    return if jumps then .at (target.getD 0) else onward
  | .substitute x => do
    substitute x
    return onward
  | .replaceChars pairs => do
    set { s with line := s.line.map fun c => (pairs.lookup c).getD c }
    return onward
  | .delete => return .turnEnd false
  | .deleteLine =>
    match s.line.dropWhile (· != s.options.separator) with
    | [] => return .turnEnd false
    | _ :: rest => do
      set { s with line := rest }
      return .again
  | .getHeld => do
    set { s with line := s.held, isEnded := s.isHeldEnded }
    return onward
  | .appendHeld => do
    set { s with line := s.line ++ s.options.separator :: s.held, isEnded := s.isHeldEnded }
    return onward
  | .hold => do
    set { s with held := s.line, isHeldEnded := s.isEnded }
    return onward
  | .appendToHeld => do
    set { s with held := s.held ++ s.options.separator :: s.line, isHeldEnded := s.isEnded }
    return onward
  | .exchange => do
    set { s with
      line := s.held, isEnded := s.isHeldEnded, held := s.line, isHeldEnded := s.isEnded }
    return onward
  | .next => do
    let isLast ← isLast true (← steps)
    if !s.options.isQuiet then putLine
    if isLast then return .turnEnd false
    writeQueue
    match ← nextLine with
    | some (line, isEnded) =>
      modify fun s => { s with line, isEnded }
      return onward
    | none => return .turnEnd false
  | .appendNext => do
    if ← isLast true (← steps) then return .turnEnd true
    writeQueue
    match ← nextLine with
    | some (line, isEnded) =>
      modify fun s => { s with line := s.line ++ s.options.separator :: line, isEnded }
      return onward
    | none => return .turnEnd true
  | .print => do
    putLine
    return onward
  | .printLine => do
    match s.line.dropWhile (· != s.options.separator) with
    | [] => putLine
    | _ => put (← ended (firstLine s.options.separator s.line) true) true
    return onward
  | .number => do
    put (Nat.toDigits 10 s.number ++ ['\n']) true
    return onward
  | .fileName => do
    put (((s.source.map (·.1)).getD "-").toList ++ ['\n']) true
    return onward
  | .empty => do
    set { s with line := [] }
    return onward
  | .showHidden width => do
    put (brokenLines (width.getD s.options.width) (s.line.map shownChar) 0 []) true
    return onward
  | .quit status => do
    if !s.options.isQuiet then putLine
    endLine
    writeQueue
    return .ending status
  | .quitSilently status => return .ending status
  | .readFile path => do
    set { s with queue := .file path :: s.queue }
    return onward
  | .readFileLine path => do
    queueFileLine path
    return onward
  | .write path => do
    putTo path (← ended s.line s.isEnded) s.isEnded
    return onward
  | .writeLine path => do
    let isEnded := s.isEnded || s.line.contains s.options.separator
    putTo path (← ended (firstLine s.options.separator s.line) isEnded) isEnded
    return onward

def turn : (steps : Nat) → (place : Nat) → Edit Following
  | 0, _ => return .ending 1
  | steps + 1, place => do
    match (← get).commands[place]? with
    | none => return .turnEnd true
    | some c => do
      let isSelected := (← isSelected place c) != c.isNegated
      match c.action with
      | .block stop => turn steps (if isSelected then place + 1 else stop)
      | _ =>
        if !isSelected then turn steps (place + 1)
        else match ← perform place c with
          | .at place => turn steps place
          | following => return following

def turns : (steps : Nat) → (reads : Bool) → Edit Nat
  | 0, _ => return 1
  | steps + 1, reads => do
    let isThere ← if reads then readLine else do
      writeQueue
      pure true
    if !isThere then return (← get).status
    match ← turn Job.forever 0 with
    | .ending status => return status
    | .again => turns steps false
    | .turnEnd writes =>
      if writes && !(← get).options.isQuiet then putLine
      turns steps true
    | .at _ => turns steps true

/-- Opens the files that lines are written to, before the first line is read. -/
def openOutlets : Edit Unit := do
  for c in (← get).commands do
    let path := match c.action with
      | .write path | .writeLine path => some path
      | .substitute s => s.file
      | _ => none
    match path with
    | some path => discard (outlet path)
    | none => pure ()

end Edit

def options : List Known :=
  [.flag "quiet" ['n'] ["quiet", "silent"], .taking "expression" ['e'] ["expression"],
   .taking "file" ['f'] ["file"], .flag "extended" ['E', 'r'] ["regexp-extended"],
   .flag "separate" ['s'] ["separate"], .flag "unbuffered" ['u'] ["unbuffered"],
   .flag "null" ['z'] ["null-data", "zero-terminated"], .taking "width" ['l'] ["line-length"],
   .flag "posix" [] ["posix"], .flag "debug" [] ["debug"], .flag "sandbox" [] ["sandbox"],
   ⟨"place", ['i'], ["in-place"], .perhaps⟩]

def partsOf (name : String) : List (String × String) → Job (Except Nat (List Part))
  | [] => return .ok []
  | ("expression", text) :: rest => do
    match ← partsOf name rest with
    | .ok ps => return .ok (⟨none, text.toList⟩ :: ps)
    | .error n => return .error n
  | ("file", path) :: rest => do
    match ← readOperand path with
    | .error r =>
      complaint name ("couldn't open file " ++ path ++ ": " ++ r.text)
      return .error 4
    | .ok bytes =>
      let text := unpackList bytes
      let text := if text.getLast? = some '\n' then text.dropLast else text
      match ← partsOf name rest with
      | .ok ps => return .ok (⟨some path, text⟩ :: ps)
      | .error n => return .error n
  | _ :: rest => partsOf name rest

def usage (name : String) (fd : Nat) : Job Nat := do
  discard (Job.write fd ("Usage: " ++ name ++
    " [OPTION]... \x7bscript-only-if-no-other-script\x7d [input-file]...\n"))
  return 1

def edit (name : String) (a : Arguments) : Job Nat := do
  let hasScript := a.has "expression" || a.has "file"
  let given := if hasScript then a.options
    else a.options ++ ((a.operands.take 1).map fun text => ("expression", text))
  let files := if hasScript then a.operands else a.operands.drop 1
  if !hasScript && a.operands.isEmpty then usage name 2
  else
    match ← partsOf name given with
    | .error status => return status
    | .ok parts =>
      match Script.read parts (a.has "extended") with
      | .error f =>
        complaint name f.text
        return f.status
      | .ok script =>
        let options : Options :=
          { name, isQuiet := a.has "quiet" || script.isQuiet
            separator := if a.has "null" then '\x00' else '\n'
            isSeparate := a.has "separate" || a.has "place", isUnbuffered := a.has "unbuffered"
            width := (((a.last? "width").bind natural?).getD 70) }
        let start : Editing :=
          { options, commands := script.commands
            ranges := script.commands.map fun c => match c.first with
              | some (.line 0) => .inside none
              | _ => .outside
            files := if files.isEmpty then ["-"] else files
            source := none, number := 0, line := [], isEnded := true, held := []
            isHeldEnded := true, isReplaced := false, last := none, queue := [], waiting := []
            size := 0
            isOpenLine := false, outlets := [], readers := [], status := 0 }
        let whole : Edit Nat := do
          Edit.openOutlets
          let status ← Edit.turns Job.forever true
          Edit.flush
          return status
        let (status, _) ← whole.run start
        return status

def run (words : List String) : Job Nat := do
  let name := words.headD ""
  match Arguments.read options true (words.drop 1) with
  | .error text =>
    complaint name text
    usage name 2
  | .ok a =>
    match a.lastOf? ["help", "version"] with
    | some "help" => do
      discard (usage name 1)
      return 0
    | some _ => do
      discard (Job.write 1 "sed (GNU sed) 4.9\n")
      return 0
    | none => edit name a

end Replay.Program.Sed
