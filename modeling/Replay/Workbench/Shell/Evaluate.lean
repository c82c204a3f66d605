import Replay.Workbench.Shell.Builtin.Jobs
import Replay.Workbench.Shell.Builtin.Mask
import Replay.Workbench.Shell.Builtin.Test
import Replay.Workbench.Shell.Builtin.Text

/-!
Running commands. How a command is run tells whether its process may end with it, and whether its
failure ends the script if the script asks for that.
-/
namespace Replay.Shell

open Machine

def commandTime : Nat := 20

def mostCalls : Nat := 1000

def builtinKind (name : String) : Option Bool :=
  if specialBuiltins.contains name then some true
  else if ["[", "alias", "bg", "cd", "chdir", "command", "echo", "false", "fg", "getopts", "hash",
    "jobs", "kill", "printf", "pwd", "read", "test", "true", "type", "ulimit", "umask", "unalias",
    "wait"].contains name then some false
  else none

def builtinRun (name : String) : Evaluator → Manner → List String → Sh Nat :=
  let ordinary (run : List String → Sh Nat) : Evaluator → Manner → List String → Sh Nat :=
    fun _ _ => run
  match name with
  | "." => fun e _ => Builtin.readIn e
  | "eval" => Builtin.evaluate
  | "exec" => ordinary fun args => do
    if args.isEmpty then return 0
    Builtin.replaceShell args (← get).searchPath
  | "break" | "continue" => ordinary (Builtin.leaveLoops name)
  | "return" => ordinary Builtin.leaveFunction
  | "exit" => ordinary Builtin.exit
  | "export" | "readonly" => ordinary (Builtin.exportOrProtect name)
  | "local" => ordinary Builtin.localVariables
  | "set" => ordinary Builtin.set
  | "shift" => ordinary Builtin.shift
  | "times" => ordinary fun _ => Builtin.times
  | "trap" => ordinary Builtin.trap
  | "unset" => ordinary Builtin.unset
  | "[" | "test" => ordinary (Builtin.Test.run name)
  | "alias" => ordinary Builtin.aliases
  | "unalias" => ordinary Builtin.unalias
  | "bg" | "fg" => ordinary Builtin.noJobs
  | "cd" | "chdir" => ordinary Builtin.changeDirectory
  | "command" => ordinary (Builtin.command builtinKind)
  | "echo" => ordinary Builtin.echo
  | "false" => ordinary fun _ => return 1
  | "getopts" => ordinary Builtin.getopts
  | "hash" => ordinary Builtin.track
  | "jobs" => ordinary Builtin.jobs
  | "kill" => ordinary Builtin.kill
  | "printf" => ordinary Builtin.printf
  | "pwd" => ordinary Builtin.showDirectory
  | "read" => ordinary Builtin.readLine
  | "type" => ordinary fun args => Builtin.typeOf builtinKind args 0
  | "ulimit" => ordinary Builtin.limits
  | "umask" => ordinary Builtin.mask
  | "wait" => ordinary Builtin.wait
  | _ => ordinary fun _ => return 0

/-- What a name of a command is found to be. -/
inductive Found where
  | nothing
  | builtin (name : String)
  | function (f : Command)
  | program

def findCommand (name : String) (withFunctions : Bool) : Sh Found := do
  match (← get).functions.lookup name with
  | some f => if withFunctions then return .function f
  | none => pure ()
  if (builtinKind name).isSome then return .builtin name
  return .program

namespace Evaluator

variable (e : Evaluator)

/-- The words of a command once its name is known, which may stand behind `command`. -/
structure Call where
  /-- The words in front that only say how to run it. -/
  front : List String
  /-- The words that are expanded, the name first. -/
  words : List String
  /-- The words that are not expanded yet. -/
  left : List Word
  found : Found
  /-- Whether the first name found is that of a special builtin; none without a builtin. -/
  isSpecial : Option Bool
  withFunctions : Bool
  searchPath : Option String

def fill : List Word → Sh (List String × List Word)
  | [] => return ([], [])
  | w :: rest => do
    match ← Sh.expandFields e.output w with
    | [] => fill rest
    | fields => return (fields, rest)

/-- Skips the options that stand behind `command`. If they ask something of it, or nothing follows,
it is a command like others. -/
def behindCommand : (steps : Nat) → (front words : List String) → (left : List Word) →
    (standard : Bool) → Sh (Option (List String × List String × List Word × Bool))
  | 0, _, _, _, _ => return none
  | steps + 1, front, words, left, standard => do
    let (words, left) ← if words.isEmpty then fill e left else pure (words, left)
    match words with
    | [] => return none
    | word :: rest =>
      match word.toList with
      | ['-', '-'] =>
        let (rest, left) ← if rest.isEmpty then fill e left else pure (rest, left)
        if rest.isEmpty then return none
        return some (front ++ [word], rest, left, standard)
      | '-' :: c :: cs =>
        if (c :: cs).all (· == 'p') then behindCommand steps (front ++ [word]) rest left true
        else return none
      | _ => return some (front, words, left, standard)

def findCall : (steps : Nat) → Call → Sh Call
  | 0, call => return call
  | steps + 1, call => do
    match call.words with
    | [] => return call
    | name :: rest =>
      let found ← findCommand name call.withFunctions
      match found with
      | .builtin builtin =>
        let isSpecial := call.isSpecial.or (builtinKind builtin)
        let here := { call with found, isSpecial }
        if builtin ≠ "command" then return here
        let before ← get
        match ← e.behindCommand (call.left.length + rest.length + 1) (call.front ++ [name]) rest
            call.left false with
        | none =>
          Sh.setStatus before.status
          let (words, left) ← expandRest rest call.left
          return { here with words := name :: words, left }
        | some (front, words, left, standard) =>
          findCall steps { here with
            front, words, left, withFunctions := false
            searchPath := if standard then some Builtin.standardPath else call.searchPath }
      | found => return { call with found }
where
  expandRest (done : List String) (left : List Word) : Sh (List String × List Word) := do
    return (done ++ (← Sh.expandAll e.output left), [])

/-- Expands the words that are left; assignments are values where the command takes them. -/
def expandArguments (takesAssignments : Bool) : List Word → Sh (List String)
  | [] => return []
  | w :: rest => do
    let fields ← match if takesAssignments then assignment? w else none with
      | some (name, value) => do pure [name ++ "=" ++ (← Sh.expandValue e.output value)]
      | none => Sh.expandFields e.output w
    return fields ++ (← expandArguments takesAssignments rest)

def trace (parts : List String) : Sh Unit := do
  let s ← get
  if s.options.contains 'x' && !s.isTracing then
    set { s with isTracing := true }
    let mark := (s.value? "PS4").getD ""
    let shown ← match Reading.parts (pure none) (pure ()) Reading.steps (.document [] false) []
        (Source.ofText mark.toList []) with
      | .ok done _ => Sh.expandDocument e.output (Reading.finish done)
      | .error _ _ => pure mark
    modify fun s => { s with isTracing := false }
    Sh.write s.traceTo (shown ++ " ".intercalate parts ++ "\n")

/-- Makes the assignments in front of a command; the texts of all of them come back. -/
def assignAll (keeps isExported : Bool) : List Word → Sh (List String)
  | [] => return []
  | w :: rest => do
    match assignment? w with
    | none => assignAll keeps isExported rest
    | some (name, value) =>
      let text ← Sh.expandValue e.output value
      Sh.ask (Job.work (text.utf8ByteSize / 2))
      if keeps then Sh.keep name
      Sh.assign name text (keeps || isExported)
      return (name ++ "=" ++ text) :: (← assignAll keeps isExported rest)

def runBuiltin (name : String) (m : Manner) (words : List String) : Sh Nat := do
  let before := (← get).command
  modify fun s => { s with command := some (words.headD ""), isOutputLost := false }
  let r ← Sh.attempt (builtinRun name e m (words.drop 1))
  let status ← match r with
    | .ok status =>
      if (← get).isOutputLost then
        Sh.warn (words.headD "" ++ ": I/O error")
        pure (status ||| 1)
      else pure status
    | .error _ => pure (← get).status
  modify fun s => { s with command := before, isOutputLost := false }
  match r with
  | .ok _ =>
    Sh.setStatus status
    return status
  | .error j => throw j

def callFunction (f : Command) (arguments : List String) (m : Manner) : Sh Nat := do
  let s ← get
  if mostCalls ≤ s.calls then
    Sh.fail ("Maximum function recursion depth (" ++ decimal mostCalls ++ ") reached")
  set { s with
    parameters := arguments, loops := 0, calls := s.calls + 1
    optionWord := 1, optionPlace := 0 }
  Sh.openFrame
  let r ← Sh.attempt (e.run f ⟨false, m.isTested⟩)
  Sh.closeFrame false
  modify fun t => { t with
    parameters := s.parameters, loops := s.loops
    calls := s.calls, optionWord := s.optionWord, optionPlace := s.optionPlace
    skip := match t.skip with
      | some (.return _) => none
      | skip => skip }
  match r with
  | .ok _ => return (← get).status
  | .error j => throw j

/-- The path of a program, or nothing after telling that there is none. -/
def locate (name searchPath : String) : Sh (Option String) := do
  if name.contains '/' then return some name
  match (← get).tracked.lookup name with
  | some path => return some path
  | none =>
    let isFit (f : FileFacts) : Bool := f.isRegular && f.isExecutable
    match ← Builtin.firstFile isFit (Builtin.candidates searchPath name) with
    | some path =>
      modify fun s => { s with tracked := (name, path) :: s.tracked }
      return some path
    | none =>
      let isThere ← Builtin.firstFile (fun _ => true) (Builtin.candidates searchPath name)
      Sh.warn (name ++ (if isThere.isSome then ": Permission denied" else ": not found"))
      return none

def runProgram (path : String) (words : List String) : Sh Nat := do
  let environment := (← get).environment
  let r ← Builtin.tryExec path words environment
  Builtin.failExec (words.headD "") r

/-- Runs what a command calls; `rs` are its redirections, which hold already. -/
def runCall (call : Call) (words : List String) (m : Manner) : Sh Nat := do
  match call.found with
  | .nothing =>
    return (← get).substituted
  | .builtin name =>
    match ← Sh.attempt (e.runBuiltin name m words) with
    | .ok status => return status
    | .error .failure =>
      if call.isSpecial = some true then throw .failure else return (← get).status
    | .error j => throw j
  | .function f => e.callFunction f (words.drop 1) m
  | .program =>
    match ← locate (words.headD "") (call.searchPath.getD (← get).searchPath) with
    | none => return 127
    | some path =>
      if m.isLast && (← get).traps.isEmpty then runProgram path words
      else awaitOne (← e.forkAwaited (runProgram path words))

def simple (line : Nat) (assignments words : List Word) (redirects : List Redirect) (m : Manner) :
    Sh Nat := do
  modify fun s => { s with line, substituted := 0 }
  Sh.openFrame
  let depth := (← get).kept.length
  let traceTo := (← get).traceTo
  let body : Sh Nat := do
    let (first, left) ← e.fill words
    let call ← e.findCall (words.length + 2) ⟨[], first, left, .nothing, none, true, none⟩
    let takesAssignments := match call.found with
      | .builtin name => ["export", "readonly", "local", "alias"].contains name
      | _ => false
    let rest ← e.expandArguments takesAssignments call.left
    let all := call.words ++ rest
    let isExec := match call.found with
      | .builtin "exec" => true
      | _ => false
    let expanded ← redirects.mapM e.expandRedirect
    match ← Sh.attempt (e.redirectAll expanded) with
    | .error .failure =>
      Sh.setStatus 2
      if call.isSpecial = some true then throw .failure
      return 2
    | .error j => throw j
    | .ok displaced =>
      match displaced.lookup 2 with
      | some (some copy) => modify fun s => { s with traceTo := copy }
      | _ => pure ()
      let isLocal := !all.isEmpty && call.isSpecial ≠ some true
      let run : Sh Nat := do
        let assigned ← e.assignAll isLocal (isExec && 1 < all.length) assignments
        e.trace (assigned ++ call.front ++ all)
        modify fun s => { s with traceTo }
        if !isLocal then Sh.closeFrame true
        e.runCall call all m
      let r ← Sh.attempt run
      modify fun s => { s with traceTo }
      bringBack displaced isExec
      match r with
      | .ok status => return status
      | .error j => throw j
  let r ← Sh.attempt body
  if (← get).kept.length = depth then Sh.closeFrame false
  match r with
  | .ok status => return status
  | .error j => throw j

def subshell (line : Nat) (body : Command) (redirects : List Redirect) (isBackground : Bool)
    (m : Manner) : Sh Nat := do
  modify fun s => { s with line }
  let expanded ← redirects.mapM e.expandRedirect
  let inside (m : Manner) : Sh Nat := do
    for r in expanded do discard (e.redirect r false)
    e.run body m
  if !isBackground && m.isLast && (← get).traps.isEmpty then
    modify fun s => { s with isSubshell := true }
    inside { m with isLast := true }
  else
    let number ← claimNumber
    let process ← e.fork do
      if isBackground then
        Sh.ask (Job.onSignal 2 .ignore)
        Sh.ask (Job.onSignal 3 .ignore)
        Sh.ask (Job.close 0)
        discard (Sh.ask (Job.openFile "/dev/null" .read))
      inside ⟨true, m.isTested && !isBackground⟩
    if isBackground then
      addJob number [process]
      return 0
    else awaitOne process

/-- Starts the processes of a pipeline, each reading what the one before it writes. -/
def startAll (isBackground : Bool) : List Command → (input : Option Nat) → (isFirst : Bool) →
    Sh (List Nat)
  | [], _, _ => return []
  | c :: rest, input, isFirst => do
    let pipe ← if rest.isEmpty then pure none else some <$> Sh.ask Job.pipe
    let process ← e.fork do
      if isBackground then
        Sh.ask (Job.onSignal 2 .ignore)
        Sh.ask (Job.onSignal 3 .ignore)
        if isFirst then
          Sh.ask (Job.close 0)
          discard (Sh.ask (Job.openFile "/dev/null" .read))
      match pipe with
      | some (reading, _) => Sh.ask (Job.close reading)
      | none => pure ()
      match input with
      | some fd =>
        if fd ≠ 0 then
          discard (Sh.ask (Job.copy fd 0))
          Sh.ask (Job.close fd)
      | none => pure ()
      match pipe with
      | some (_, writing) =>
        if writing ≠ 1 then
          discard (Sh.ask (Job.copy writing 1))
          Sh.ask (Job.close writing)
      | none => pure ()
      e.run c .last
    match input with
    | some fd => Sh.ask (Job.close fd)
    | none => pure ()
    match pipe with
    | some (reading, writing) =>
      Sh.ask (Job.close writing)
      return process :: (← startAll isBackground rest (some reading) false)
    | none => return [process]

def pipeline (commands : List Command) (isBackground : Bool) : Sh Nat := do
  let number ← claimNumber
  let processes ← e.startAll isBackground commands none true
  if isBackground then
    addJob number processes
    return 0
  else await ((processes.getLast?).getD 0) always processes 0

/-- Notes the end of a turn of a loop: whether the loop goes on, and what is passed over outside
it. -/
def endTurn : Sh Bool := do
  let s ← get
  match s.skip with
  | none => return true
  | some (.break n) =>
    set { s with skip := if 1 < n then some (Skip.break (n - 1)) else none }
    return false
  | some (.continue n) =>
    set { s with skip := if 1 < n then some (Skip.continue (n - 1)) else none }
    return n ≤ 1
  | some (.return _) => return false

def loopTurns (whileSuccess : Bool) (test body : Command) (m : Manner) :
    (steps : Nat) → (status : Nat) → Sh Nat
  | 0, status => return status
  | steps + 1, status => do
    let tested ← e.run test .tested
    if (← get).skip.isSome then
      let status := if (← get).skip matches some (.return _) then tested else status
      if ← endTurn then loopTurns whileSuccess test body m steps status else return status
    else if (tested == 0) != whileSuccess then return status
    else
      let status ← e.run body { m with isLast := false }
      if ← endTurn then loopTurns whileSuccess test body m steps status else return status

def forTurns (name : String) (body : Command) (m : Manner) : List String → (status : Nat) → Sh Nat
  | [], status => return status
  | text :: rest, _ => do
    Sh.assign name text false
    let status ← e.run body { m with isLast := false }
    if ← endTurn then forTurns name body m rest status else return status

def inLoop (body : Sh Nat) : Sh Nat := do
  modify fun s => { s with loops := s.loops + 1 }
  let r ← Sh.attempt body
  modify fun s => { s with loops := s.loops - 1 }
  match r with
  | .ok status => return status
  | .error j => throw j

def chooseArm (text : List Char) : List (List Word × Option Command) →
    Sh (Option (Option Command))
  | [] => return none
  | (patterns, body) :: rest => do
    let isFit ← patterns.anyM fun p => do
      let field ← Sh.expandField e.output p
      return Pattern.matchesAll (Pattern.pieces field.cells) text
    if isFit then return some body else chooseArm text rest

def sequence (m : Manner) : List Command → (status : Nat) → Sh Nat
  | [], status => return status
  | [c], _ => e.run c m
  | c :: rest, _ => do
    let status ← e.run c { m with isLast := false }
    if (← get).skip.isSome then return status else sequence m rest status

def dispatch (c : Command) (m : Manner) : Sh Nat := do
  match c with
  | .simple line assignments words redirects => e.simple line assignments words redirects m
  | .pipeline commands isBackground => e.pipeline commands isBackground
  | .both a b =>
    let status ← e.run a .tested
    if status ≠ 0 || (← get).skip.isSome then return status else e.run b m
  | .either a b =>
    let status ← e.run a .tested
    if status = 0 || (← get).skip.isSome then return status else e.run b m
  | .not body => return if (← e.run body .tested) = 0 then 1 else 0
  | .sequence commands => e.sequence m commands 0
  | .background line body redirects => e.subshell line body redirects true m
  | .subshell line body redirects => e.subshell line body redirects false m
  | .redirected line body redirects =>
    modify fun s => { s with line }
    let expanded ← redirects.mapM e.expandRedirect
    match ← Sh.attempt (e.redirectAll expanded) with
    | .error .failure => return 2
    | .error j => throw j
    | .ok displaced =>
      let r ← Sh.attempt (e.run body { m with isLast := false })
      bringBack displaced false
      match r with
      | .ok status => return status
      | .error j => throw j
  | .choice test body otherwise =>
    let status ← e.run test .tested
    if (← get).skip.isSome then return status
    else if status = 0 then e.run body m
    else match otherwise with
      | some c => e.run c m
      | none => return 0
  | .loop whileSuccess test body => inLoop (e.loopTurns whileSuccess test body m always 0)
  | .forEach line name words body =>
    modify fun s => { s with line }
    let fields ← Sh.expandAll e.output words
    inLoop (e.forTurns name body m fields 0)
  | .case line subject arms =>
    modify fun s => { s with line }
    let text ← Sh.expandText e.output subject
    match ← e.chooseArm text.toList arms with
    | some (some c) => e.run c m
    | some none | none => return 0
  | .define name body =>
    modify fun s => { s with
      functions := (name, body) :: s.functions.filter (·.1 ≠ name) }
    return 0

def isChecked : Command → Bool
  | .simple .. | .pipeline .. | .background .. | .subshell .. => true
  | _ => false

def step (c : Command) (m : Manner) : Sh Nat := do
  if ← Sh.isOn 'n' then return 0
  Sh.ask (Job.work commandTime)
  e.runTraps
  let status ← e.dispatch c m
  Sh.setStatus status
  e.runTraps
  if isChecked c && !m.isTested && status ≠ 0 && (← Sh.isOn 'e') then throw .exit
  if m.isLast then throw .exit
  return status

end Evaluator

def evaluator : (steps : Nat) → Evaluator
  | 0 => ⟨fun _ _ => return 0⟩
  | steps + 1 => ⟨fun c m => (evaluator steps).step c m⟩

end Replay.Shell
