import Replay.Workbench.Program.Surroundings

/-! Running a command for the items of the input: `xargs`. -/
namespace Replay.Program.Invocation

open Machine

/-- What is wrong with quotation marks in the input. -/
inductive Fault where
  | singleOpen
  | doubleOpen

def Fault.message (f : Fault) : String :=
  "unmatched " ++ (match f with
    | .singleOpen => "single"
    | .doubleOpen => "double") ++
    " quote; by default quotes are special to xargs unless you use the -0 option"

/-- Items of an input, by lines. -/
structure Items where
  lines : List (List String)
  fault : Option Fault

abbrev Open := Option (List Char)

def closed (item : Open) (line : List String) : List String :=
  match item with
  | some cs => line ++ [String.ofList cs.reverse]
  | none => line

/-- Reads items between blanks; marks and backslashes take away the meaning of what they quote. If
`byLines`, blanks inside a line are no ends. -/
def items (byLines : Bool) :
    (steps : Nat) → List Char → (item : Open) → (line : List String) → Items
  | 0, _, _, _ => ⟨[], none⟩
  | _, [], item, line =>
    let line := closed item line
    ⟨if line.isEmpty then [] else [line], none⟩
  | steps + 1, c :: rest, item, line =>
    if c = '\n' then
      let line := closed item line
      let others := items byLines steps rest none []
      { others with lines := if line.isEmpty then others.lines else line :: others.lines }
    else if c = ' ' || c = '\t' then
      if byLines && item.isSome then items byLines steps rest (some (c :: item.getD [])) line
      else items byLines steps rest none (closed item line)
    else if c = '\\' then
      match rest with
      | d :: rest => items byLines steps rest (some (d :: item.getD [])) line
      | [] => items byLines steps [] (some ('\\' :: item.getD [])) line
    else if c = '\'' || c = '"' then
      let (inside, behind) := rest.span fun d => d ≠ c && d ≠ '\n'
      match behind with
      | d :: rest =>
        if d = c then items byLines steps rest (some (inside.reverse ++ item.getD [])) line
        else ⟨[], some (if c = '"' then .doubleOpen else .singleOpen)⟩
      | [] => ⟨[], some (if c = '"' then .doubleOpen else .singleOpen)⟩
    else items byLines steps rest (some (c :: item.getD [])) line

def plainItems (separator : Char) (cs : List Char) : Items :=
  let parts := splitAt separator cs
  let parts := if parts.getLast? = some [] then parts.dropLast else parts
  ⟨parts.map fun p => [String.ofList p], none⟩

def batches {α : Type} (most : Nat) : (steps : Nat) → List α → List (List α)
  | 0, _ | _, [] => []
  | steps + 1, xs => xs.take most :: batches most steps (xs.drop most)

def replaced (mark : List Char) (text : String) : (steps : Nat) → List Char → List Char
  | 0, cs => cs
  | _, [] => []
  | steps + 1, c :: rest =>
    if !mark.isEmpty && mark.isPrefixOf (c :: rest) then
      text.toList ++ replaced mark text steps ((c :: rest).drop mark.length)
    else c :: replaced mark text steps rest

/-- Runs one command, and tells what is to become of the status; nothing if all ends. -/
def runOne (environment : Environment) (name : String) (tells : Bool) (command : List String) :
    Job (Nat × Bool) := do
  if tells then Job.complain (" ".intercalate command ++ "\n")
  let child ← Job.fork (Job.task do
    Job.close 0
    discard (Job.openFile "/dev/null" .read)
    Surroundings.runOperands environment command name (command.headD ""))
  let stop (status : Nat) (text : String) : Job (Nat × Bool) := do
    complaint name (command.headD "" ++ ": " ++ text)
    return (status, false)
  match ← Job.wait (some child) false with
  | .error _ => return (0, true)
  | .ok (_, .signal n _) => stop 125 ("terminated by signal " ++ decimal n)
  | .ok (_, .exit n) =>
    if n = 255 then stop 124 "exited with status 255; aborting"
    else if n = 126 || n = 127 then return (n, false)
    else return (if n = 0 then 0 else 123, true)

def runAll (environment : Environment) (name : String) (tells : Bool) :
    List (List String) → (status : Nat) → Job Nat
  | [], status => return status
  | command :: rest, status => do
    let (here, goesOn) ← runOne environment name tells command
    if !goesOn then return here
    runAll environment name tells rest (if here = 0 then status else here)

def known : List Known :=
  [.flag "zero" ['0'] ["null"], .taking "delimiter" ['d'] ["delimiter"],
   .taking "replace" ['I'] [], ⟨"replaceBraces", ['i'], ["replace"], .perhaps⟩,
   .taking "lines" ['L'] ["max-lines"], .taking "most" ['n'] ["max-args"],
   .flag "strict" ['r'] ["no-run-if-empty"], .flag "tells" ['t'] ["verbose"],
   .taking "processes" ['P'] ["max-procs"], .taking "source" ['a'] ["arg-file"],
   .taking "size" ['s'] ["max-chars"], .flag "exits" ['x'] ["exit"]]

def markOf (a : Arguments) : Option String :=
  match a.lastOf? ["replace", "replaceBraces"] with
  | some "replace" => a.last? "replace"
  | some _ => (a.last? "replaceBraces").map fun text => if text.isEmpty then "\x7b\x7d" else text
  | none => none

def commandsOf (a : Arguments) (command : List String) (x : Items) : List (List String) :=
  let all := x.lines.flatten
  match markOf a, (a.last? "lines").bind natural?, (a.last? "most").bind natural? with
  | some mark, _, _ => x.lines.map fun line =>
      command.map fun word =>
        String.ofList (replaced mark.toList (line.headD "") (word.length + 1) word.toList)
  | none, _, some n =>
    let groups := batches n (all.length + 1) all
    (if x.fault.isSome then groups.filter (·.length = n) else groups).map (command ++ ·)
  | none, some n, none =>
    (batches n (x.lines.length + 1) x.lines).map fun ls => command ++ ls.flatten
  | none, none, none => if x.fault.isSome || all.isEmpty then [] else [command ++ all]

def xargs (environment : Environment) : List String → Job Nat :=
  withOptions known false 1 fun name a => do
  let counts := [("most", "n"), ("lines", "L"), ("size", "s"), ("processes", "P")]
  let badCount := counts.findSome? fun (key, letter) => (a.last? key).bind fun text =>
    match natural? text with
    | none => some ("invalid number \"" ++ text ++ "\" for -" ++ letter ++ " option")
    | some n =>
      if n = 0 && key ≠ "processes" then
        some ("value 0 for -" ++ letter ++ " option should be >= 1")
      else none
  match badCount with
  | some text => misuse name text 1
  | none =>
    let content ← match a.last? "source" with
      | some path => readOperand path
      | none => Job.readAll 0
    match content with
    | .error r =>
      complaint name ((a.last? "source").getD "-" ++ ": " ++ r.text)
      return 1
    | .ok bytes =>
      let cs := unpackList bytes
      let separator : Option Char := if a.has "zero" then some '\x00'
        else (a.last? "delimiter").map fun text => match text.toList with
          | ['\\', 'n'] => '\n'
          | ['\\', 't'] => '\t'
          | ['\\', '0'] => '\x00'
          | cs => cs.headD '\x00'
      let x : Items := match separator with
        | some c => plainItems c cs
        | none => items (markOf a).isSome (cs.length + 1) cs none []
      let command := if a.operands.isEmpty then ["echo"] else a.operands
      let commands := commandsOf a command x
      let isBare := x.lines.isEmpty && x.fault.isNone && !a.has "strict" && (markOf a).isNone
      let commands := if isBare then [command] else commands
      let status ← runAll environment name (a.has "tells") commands 0
      match x.fault with
      | none => return status
      | some f =>
        complaint name f.message
        return 1

end Replay.Program.Invocation
