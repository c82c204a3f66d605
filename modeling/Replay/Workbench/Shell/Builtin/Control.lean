import Replay.Workbench.Shell.Builtin.Variables

/-! Builtins that steer the script: where it goes on, what it runs, and what signals do to it. -/
namespace Replay.Shell.Builtin

open Machine

def leaveLoops (name : String) (args : List String) : Sh Nat := do
  let n ← match args with
    | [] => pure 1
    | text :: _ => Sh.number text
  if n = 0 then Sh.fail ("Illegal number: " ++ args.headD "")
  let n := min n (← get).loops
  if n ≠ 0 then
    modify fun s => { s with skip := some (if name == "continue" then .continue n else .break n) }
  return 0

def leaveFunction (args : List String) : Sh Nat := do
  match args with
  | text :: _ =>
    let n ← Sh.number text
    modify fun s => { s with skip := some (.return true) }
    return n
  | [] =>
    let s ← get
    modify fun s => { s with skip := some (.return false) }
    return s.status

def exit (args : List String) : Sh Nat := do
  match args with
  | text :: _ =>
    let n ← Sh.number text
    modify fun s => { s with ending := some n }
  | [] => pure ()
  throw .exit

def evaluate (e : Evaluator) (m : Manner) (args : List String) : Sh Nat := do
  if args.isEmpty then return 0
  e.runText (" ".intercalate args) { m with isLast := false }

/-- The commands of a stream, which is read as far as they need it. -/
structure Stream where
  fd : Nat
  source : Source

def scriptBlock : Nat := 8192

def showLines (before after : Source) : Sh Unit := do
  if ← Sh.isOn 'v' then
    let lines := before.rest.take (before.rest.length - after.rest.length)
    Sh.write 2 (String.ofList lines)

/-- Runs the commands of a stream; `isScript` for one that ends with the shell. -/
def runStream (e : Evaluator) : (steps : Nat) → Stream → (status : Nat) → Sh Nat
  | 0, _, status => return status
  | steps + 1, stream, status => do
    let source := { stream.source with aliases := (← get).aliases : Source }
    match source.next with
    | .ended =>
      showLines source { source with rest := [] }
      return status
    | .unfinished =>
      match ← Sh.ask (Job.read stream.fd scriptBlock) with
      | .ok bytes =>
        let more := (unpackList bytes).filter (· ≠ '\x00')
        runStream e steps { stream with source := { source with
          rest := source.rest ++ more, isOpen := !bytes.isEmpty } } status
      | .error _ =>
        runStream e steps { stream with source := { source with isOpen := false } } status
    | .malformed line text =>
      showLines source { source with rest := [] }
      modify fun s => { s with line }
      Sh.fail ("Syntax error: " ++ text)
    | .command c after =>
      showLines source after
      let status ← match c with
        | some c => e.run c .plain
        | none => pure status
      if (← get).skip.isSome then
        modify fun s => { s with skip := match s.skip with
          | some (.return _) => none
          | skip => skip }
        return status
      runStream e steps { stream with source := after } status

def openStream (fd : Nat) : Stream := ⟨fd, { Source.ofText [] [] with isOpen := true }⟩

/-- Opens a script, under a descriptor that programs do not inherit. -/
def openScript (path : String) : Sh Nat := do
  match ← Sh.ask (Job.openFile path .read) with
  | .error r => Sh.fail ("cannot open " ++ path ++ ": " ++ Evaluator.openingText false r)
  | .ok fd =>
    match ← Sh.ask (Job.keep fd 10) with
    | .ok kept =>
      Sh.ask (Job.close fd)
      return kept
    | .error _ => return fd

def candidates (searchPath name : String) : List String :=
  if name.contains '/' then [name]
  else (splitString ':' searchPath).map fun d => if d.isEmpty then name else d ++ "/" ++ name

def firstFile (isFit : FileFacts → Bool) : List String → Sh (Option String)
  | [] => return none
  | path :: rest => do
    match ← Sh.ask (Job.inspect path true) with
    | .ok facts => if isFit facts then return some path else firstFile isFit rest
    | .error _ => firstFile isFit rest

def readIn (e : Evaluator) (args : List String) : Sh Nat := do
  let (_, args) ← flags [] args
  match args with
  | [] => return 0
  | name :: _ =>
    let path ← if name.contains '/' then pure name else do
      match ← firstFile (·.isRegular) (candidates (← get).searchPath name) with
      | some path => pure path
      | none => Sh.fail (name ++ ": not found")
    let fd ← openScript path
    modify fun s => { s with command := some path }
    let r ← Sh.attempt (runStream e always (openStream fd) 0)
    Sh.ask (Job.close fd)
    match r with
    | .ok status => return status
    | .error j => throw j

/-- Tells why a program could not take the place of the shell, and leaves. -/
def failExec {α : Type} (name : String) (r : Refusal) : Sh α := do
  let isAbsent := [Refusal.notFound, .notDirectory].contains r
  Sh.warn (name ++ ": " ++ if isAbsent then "not found" else r.text)
  Sh.setStatus (if isAbsent || [Refusal.nameTooLong, .tooManyLinks].contains r then 127 else 126)
  throw .replacement

/-- Tries to run a program at a path; a script that names no interpreter is one for the shell. -/
def tryExec (path : String) (words : List String) (environment : Environment) : Sh Refusal := do
  match ← Sh.ask (Job.exec path words environment) with
  | .notExecutable => Sh.ask (Job.exec "/bin/sh" ("/bin/sh" :: path :: words.drop 1) environment)
  | r => return r

/-- Puts a program in the place of the shell, the first one that can be run. -/
def replaceShell (words : List String) (searchPath : String) : Sh Nat := do
  let environment := (← get).environment
  let rec go : List String → Refusal → Sh Nat
    | [], r => failExec (words.headD "") r
    | path :: rest, r => do
      let here ← tryExec path words environment
      go rest (if [Refusal.notFound, .notDirectory].contains here then r else here)
  go (candidates searchPath (words.headD "")) .notFound

/-- The number of a signal by its number or its name; the shell has no name for the sixteenth. -/
def signalOf (text : String) (withZero : Bool) : Option Nat :=
  match natural? text with
  | some n => if n ≤ lastSignal then some n else none
  | none =>
    let name := text.toUpper
    if withZero && name = "EXIT" then some 0
    else if name = "RTMIN" then some 34
    else if name = "RTMAX" then some 64
    else if name.startsWith "RTMIN+" then
      (natural? (name.drop 6).toString).bind fun n => if n ≤ 15 then some (34 + n) else none
    else if name.startsWith "RTMAX-" then
      (natural? (name.drop 6).toString).bind fun n => if n ≤ 14 then some (64 - n) else none
    else if name = "STKFLT" then none
    else signalNumber? name

def signalNameOf (signal : Nat) : String :=
  match if signal = 16 then none else Interpreter.signalName? signal with
  | some name => name
  | none =>
    if signal = 0 then "EXIT"
    else if signal = 34 then "RTMIN"
    else if signal = 64 then "RTMAX"
    else if 34 < signal && signal ≤ 49 then "RTMIN+" ++ decimal (signal - 34)
    else if 49 < signal then "RTMAX-" ++ decimal (64 - signal)
    else decimal signal

/-- Sets the command for one signal, or what signals do by themselves. -/
def setTrap (signal : Nat) (action : Option String) : Sh Unit := do
  modify fun s =>
    let others := s.traps.filter (·.1 ≠ signal)
    { s with traps := match action with
      | some text => (signal, text) :: others
      | none => others }
  if signal ≠ 0 then
    Sh.ask (Job.onSignal signal (match action with
      | some "" => .ignore
      | some _ => .catch
      | none => .standard))

def setTraps (action : Option String) : List String → Sh Nat
  | [] => return 0
  | text :: rest => do
    match signalOf text true with
    | none =>
      Sh.write 2 ("trap: " ++ text ++ ": bad trap\n")
      return 1
    | some signal =>
      setTrap signal action
      setTraps action rest

def trap (args : List String) : Sh Nat := do
  let (_, args) ← flags [] args
  match args with
  | [] =>
    let sorted := (← get).traps.mergeSort fun a b => a.1 ≤ b.1
    Sh.put (String.join (sorted.map fun (signal, text) =>
      "trap -- " ++ quoted text ++ " " ++ signalNameOf signal ++ "\n"))
    return 0
  | [_] => setTraps none args
  | first :: rest =>
    if (natural? first).any (· ≤ lastSignal) then setTraps none args
    else setTraps (if first = "-" then none else some first) rest

/-- Tells a word of the shell from an alias, a function, a builtin and a program. -/
inductive Meaning where
  | keyword
  | replaced (text : String)
  | function
  | builtin (isSpecial : Bool)
  | program (path : String)
  | nothing

def meaningOf (builtinKind : String → Option Bool) (searchPath name : String) : Sh Meaning := do
  let s ← get
  if keywords.contains name then return .keyword
  match s.aliases.lookup name with
  | some text => return .replaced text
  | none => pure ()
  if (s.functions.lookup name).isSome then return .function
  match builtinKind name with
  | some isSpecial => return .builtin isSpecial
  | none => pure ()
  let isProgram (f : FileFacts) : Bool := f.isRegular && f.isExecutable
  let isFit (f : FileFacts) : Bool := name.contains '/' || isProgram f
  match ← firstFile isFit (candidates searchPath name) with
  | some path => return .program path
  | none => return .nothing

def describe (builtinKind : String → Option Bool) (searchPath name : String) : Sh Nat := do
  let meaning ← meaningOf builtinKind searchPath name
  let isTracked := ((← get).tracked.lookup name).isSome
  let text : Option String := match meaning with
    | .keyword => some " is a shell keyword"
    | .replaced text => some (" is an alias for " ++ text)
    | .function => some " is a shell function"
    | .builtin isSpecial =>
      some (" is a " ++ (if isSpecial then "special " else "") ++ "shell builtin")
    | .program path => some (" is " ++ (if isTracked then "a tracked alias for " else "") ++ path)
    | .nothing => none
  Sh.put (name ++ (text.getD ": not found") ++ "\n")
  return if text.isSome then 0 else 127

def whatRuns (builtinKind : String → Option Bool) (searchPath name : String) : Sh Nat := do
  let meaning ← meaningOf builtinKind searchPath name
  let text : Option String := match meaning with
    | .keyword | .function | .builtin _ => some name
    | .replaced text => some ("alias " ++ name ++ "=" ++ quoted text)
    | .program path => some path
    | .nothing => none
  match text with
  | some text =>
    Sh.put (text ++ "\n")
    return 0
  | none => return 127

def standardPath : String := "/usr/sbin:/usr/bin:/sbin:/bin"

/-- The builtin that looks names up, where it is not just put in front of a command. -/
def command (builtinKind : String → Option Bool) (args : List String) : Sh Nat := do
  let (found, names) ← flags ['p', 'v', 'V'] args
  let s ← get
  let searchPath := if found.contains 'p' then standardPath else s.searchPath
  match names, (found.filter (· ≠ 'p')).getLast? with
  | name :: _, some 'v' => whatRuns builtinKind searchPath name
  | name :: _, some _ => describe builtinKind searchPath name
  | _, _ => return 0

def typeOf (builtinKind : String → Option Bool) : List String → (status : Nat) → Sh Nat
  | [], status => return status
  | name :: rest, status => do
    let n ← describe builtinKind (← get).searchPath name
    typeOf builtinKind rest (status ||| n)

def setAliases : List String → (status : Nat) → Sh Nat
  | [], status => return status
  | arg :: rest, status => do
    match splitAssignment arg with
    | (name, some text) =>
      if name.isEmpty then
        Sh.write 2 ("alias: " ++ arg ++ " not found\n")
        setAliases rest 1
      else
        modify fun s => { s with
          aliases :=
            if s.aliases.any (·.1 == name) then
              s.aliases.map fun a => if a.1 == name then (name, text) else a
            else s.aliases ++ [(name, text)] }
        setAliases rest status
    | (name, none) =>
      match (← get).aliases.lookup name with
      | some text =>
        Sh.put (name ++ "=" ++ quoted text ++ "\n")
        setAliases rest status
      | none =>
        Sh.write 2 ("alias: " ++ name ++ " not found\n")
        setAliases rest 1

def aliases (args : List String) : Sh Nat := do
  if args.isEmpty then
    let all := byGroup 39 (← get).aliases
    Sh.put (String.join (all.map fun (name, text) => name ++ "=" ++ quoted text ++ "\n"))
    return 0
  else setAliases args 0

def unalias (args : List String) : Sh Nat := do
  let (all, names) ← flags ['a'] args
  if !all.isEmpty then
    modify fun s => { s with aliases := [] }
    return 0
  let rec go : List String → Nat → Sh Nat
    | [], status => return status
    | name :: rest, status => do
      if ((← get).aliases.lookup name).isSome then
        modify fun s => { s with aliases := s.aliases.filter (·.1 ≠ name) }
        go rest status
      else
        Sh.write 2 ("unalias: " ++ name ++ " not found\n")
        go rest 1
  go names 0

end Replay.Shell.Builtin
