import Replay.Workbench.Shell.Builtin.Control

/-! Builtins about processes, directories and limits. -/
namespace Replay.Shell.Builtin

open Machine
open Interpreter (Ending)

/-- The job of a name; all jobs have an empty text for their commands. -/
def jobNamed (text : String) : Sh BackgroundJob := do
  let jobs := (← get).jobs
  let (found, complaint) := match text.toList with
    | ['%'] | ['%', '%'] | ['%', '+'] => (jobs.head?, "No current job")
    | ['%', '-'] => (jobs[1]?, "No previous job")
    | ['%', '?'] =>
      if jobs.length ≤ 1 then (jobs.head?, "No such job: " ++ text)
      else (none, text ++ ": ambiguous")
    | '%' :: ds =>
      ((natural? (String.ofList ds)).bind fun n => jobs.find? (·.number = n),
        "No such job: " ++ text)
    | _ => (none, "No such job: " ++ text)
  match found with
  | some j => return j
  | none => Sh.fail complaint

/-- Waits for the end of some child, and notes it; tells the signal that came instead. -/
def waitOnce : Sh (Option Nat) := do
  match ← Sh.ask (Job.wait none true) with
  | .ok (process, ending) =>
    Evaluator.note process ending
    return none
  | .error .interrupted => return some 0
  | .error _ =>
    modify fun s => { s with jobs := s.jobs.map fun j =>
      { j with processes := j.processes.map fun p => (p.1, p.2.or (some (.exit 127))) } }
    return none

def signalStatus : Sh Nat := do
  let s ← get
  let came := (← Sh.ask Job.signals).filter fun n => (s.traps.lookup n).isSome
  match came with
  | [] => return 128
  | n :: _ =>
    for m in came do discard (Sh.ask (Job.kill s.process m))
    return 128 + n

def waitAll : (steps : Nat) → Sh Nat
  | 0 => return 0
  | steps + 1 => do
    let (ended, others) := (← get).jobs.span (!·.isRunning)
    modify fun s => { s with jobs := (ended.map fun j => { j with isWaited := true }) ++ others }
    if others.isEmpty then return 0
    else match ← waitOnce with
      | none => waitAll steps
      | some _ => signalStatus

def waitFor (number : Nat) : (steps : Nat) → Sh Nat
  | 0 => return 0
  | steps + 1 => do
    match (← get).jobs.find? (·.number = number) with
    | none => return 127
    | some j =>
      if j.isRunning then
        match ← waitOnce with
        | none => waitFor number steps
        | some _ => signalStatus
      else
        modify fun s => { s with jobs := s.jobs.map fun j =>
          if j.number = number then { j with isWaited := true } else j }
        return (j.ending?.map (·.status)).getD 127

def waitEach : List String → (status : Nat) → Sh Nat
  | [], status => return status
  | text :: rest, _ => do
    let job ← if text.startsWith "%" then some <$> jobNamed text else do
      let n ← Sh.number text
      pure ((← get).jobs.find? fun j => (j.processes.getLast?.map (·.1)) = some n)
    match job with
    | none => waitEach rest 127
    | some j =>
      let wasRunning := j.isRunning
      let status ← waitFor j.number always
      if wasRunning && 128 < status then
        match (← get).jobs.find? (·.number = j.number) with
        | some j => for p in j.processes do
            if let some ending := p.2 then Evaluator.tellEnding ending
        | none => pure ()
      waitEach rest status

def wait (args : List String) : Sh Nat := do
  let (_, args) ← flags [] args
  if args.isEmpty then waitAll always else waitEach args 0

def noteEndings : Sh Unit := do
  for j in (← get).jobs do
    for p in j.processes do
      if p.2.isNone then
        match ← Sh.ask (Job.poll p.1) with
        | some ending => Evaluator.note p.1 ending
        | none => pure ()

def stateText (j : BackgroundJob) : String :=
  if j.isRunning then "Running"
  else match j.ending? with
    | some (.signal n _) => Evaluator.signalText n
    | some (.exit 0) | none => "Done"
    | some (.exit n) => "Done(" ++ decimal n ++ ")"

def showJob (style : Option Char) (j : BackgroundJob) : Sh Unit := do
  if style = some 'p' then
    Sh.put (((j.processes.head?.map fun p => decimal p.1).getD "") ++ "\n")
  else
    let numbers := (← get).jobs.map (·.number)
    let mark := if numbers.head? = some j.number then "+"
      else if numbers[1]? = some j.number then "-" else " "
    let id (p : Nat × Option Ending) : String :=
      if style = some 'l' then decimal p.1 ++ " " else ""
    let first := "[" ++ decimal j.number ++ "] " ++ mark ++ " " ++
      ((j.processes.head?.map id).getD "") ++ stateText j
    let filled (line : String) : String :=
      line ++ String.ofList (List.replicate (max 1 (33 - line.length)) ' ')
    let others := (j.processes.drop 1).map fun p =>
      if style = some 'l' then " |\n" ++ filled (String.ofList (List.replicate 6 ' ') ++ id p)
      else " | "
    Sh.put (filled first ++ String.join others ++ "\n")
    unless j.isRunning do
      modify fun s => { s with jobs := s.jobs.filter (·.number ≠ j.number) }

def jobs (args : List String) : Sh Nat := do
  let (found, names) ← flags ['l', 'p'] args
  let style := found.getLast?
  if names.isEmpty then
    noteEndings
    for j in (← get).jobs do showJob style j
  else for name in names do showJob style (← jobNamed name)
  return 0

def usage {α : Type} : Sh α :=
  Sh.fail ("Usage: kill [-s sigspec | -signum | -sigspec] [pid | job]... or\n" ++
    "kill -l [exitstatus]")

def listSignals : List String → Sh Nat
  | [] => do
    let names := (List.range lastSignal).map fun n => signalNameOf (n + 1) ++ "\n"
    Sh.put ("0\n" ++ String.join names)
    return 0
  | text :: _ => do
    let n ← Sh.number text
    let signal := if 128 < n then n - 128 else n
    if signal = 0 || lastSignal < signal then
      Sh.fail ("invalid signal number or exit status: " ++ text)
    Sh.put (signalNameOf signal ++ "\n")
    return 0

def killEach (signal : Nat) : List String → (status : Nat) → Sh Nat
  | [], status => return status
  | text :: rest, status => do
    let target ← match text.toList with
      | '%' :: _ => do
        discard (jobNamed text)
        pure none
      | '-' :: ds => do
        discard (Sh.number (String.ofList ds))
        pure none
      | _ => some <$> Sh.number text
    let result ← match target with
      | some n => Sh.ask (Job.kill n signal)
      | none => pure (.error .noProcess)
    match result with
    | .ok () => killEach signal rest status
    | .error r =>
      Sh.warn (r.text ++ "\n")
      killEach signal rest 1

def kill (args : List String) : Sh Nat := do
  match args with
  | [] => usage
  | first :: rest =>
    let (signal, list, targets) ← do
      match first.toList with
      | '-' :: name =>
        match if name.isEmpty then none else signalOf (String.ofList name) false with
        | some n => pure (some n, false, rest)
        | none =>
          let (found, targets) ← options [('l', .nothing), ('s', .text)] args
          let list := found.any (·.1 = 'l')
          let mut signal : Option Nat := none
          for (option, text) in found do
            if option = 's' then
              match signalOf text false with
              | some n => signal := some n
              | none => Sh.fail ("invalid signal number or name: " ++ text)
          pure (signal, list, targets)
      | _ => pure (none, false, args)
    if list then
      if signal.isSome then usage
      listSignals targets
    else
      if targets.isEmpty then usage
      killEach (signal.getD 15) targets 0

def noJobs (args : List String) : Sh Nat := do
  let (_, args) ← flags [] args
  discard (jobNamed (args.headD "%"))
  Sh.fail ("job " ++ args.headD "(null)" ++ " not created under job control")

/-- A path behind a directory, without what leads nowhere or back. Two signs at the front stay. -/
def joined (directory path : String) : String :=
  let whole := if path.startsWith "/" then path else directory
  let front := if whole.startsWith "//" && !whole.startsWith "///" then "//" else "/"
  let start := if path.startsWith "/" then [] else splitString '/' directory
  let parts := (start ++ splitString '/' path).foldl (fun done part =>
    if part.isEmpty || part = "." then done
    else if part = ".." then done.drop 1
    else part :: done) ([] : List String)
  front ++ "/".intercalate parts.reverse

def enter (path : String) (isPhysical : Bool) : Sh Bool := do
  let s ← get
  let logical := joined s.directory path
  match ← Sh.ask (Job.enter (if isPhysical then path else logical)) with
  | .error _ => return false
  | .ok () =>
    let directory ← if isPhysical then Sh.ask Job.whereabouts else pure logical
    Sh.assign "OLDPWD" s.directory true
    Sh.assign "PWD" directory true
    modify fun s => { s with directory }
    return true

/-- Enters the first directory of that name behind those where names are looked for. -/
def enterFrom (name : String) (isPhysical : Bool) : List String → Sh (Option Bool)
  | [] => return none
  | directory :: rest => do
    let path := if directory.isEmpty then name else directory ++ "/" ++ name
    match ← Sh.ask (Job.inspect path true) with
    | .ok facts =>
      if facts.isDirectory then
        if ← enter path isPhysical then return some (!directory.isEmpty) else return none
      else enterFrom name isPhysical rest
    | .error _ => enterFrom name isPhysical rest

def changeDirectory (args : List String) : Sh Nat := do
  let (found, args) ← flags ['L', 'P'] args
  let isPhysical := found.getLast? = some 'P'
  let s ← get
  let (target, shows) := match args with
    | [] => ((s.value? "HOME").getD "", false)
    | "-" :: _ => ((s.value? "OLDPWD").getD "", true)
    | name :: _ => (name, false)
  let isPlain := target.startsWith "/" ||
    ["", ".", ".."].contains target || target.startsWith "./" || target.startsWith "../"
  let showsNew ← if isPlain then
      if ← enter (if target.isEmpty then "." else target) isPhysical then pure shows
      else Sh.fail ("can't cd to " ++ target)
    else match ← enterFrom target isPhysical (splitString ':' ((s.value? "CDPATH").getD "")) with
      | some isElsewhere => pure (shows || isElsewhere)
      | none =>
        if ← enter target isPhysical then pure shows else Sh.fail ("can't cd to " ++ target)
  if showsNew then Sh.put ((← get).directory ++ "\n")
  return 0

def showDirectory (args : List String) : Sh Nat := do
  let (found, _) ← flags ['L', 'P'] args
  let directory ← if found.getLast? = some 'P' then Sh.ask Job.whereabouts
    else pure (← get).directory
  Sh.put (directory ++ "\n")
  return 0

def limits (args : List String) : Sh Nat := do
  let letters : List Char :=
    ['H', 'S', 'a', 't', 'f', 'd', 's', 'c', 'm', 'l', 'p', 'n', 'v', 'w', 'r']
  let (found, args) ← flags letters args
  if 1 < args.length then Sh.fail "too many arguments"
  if args.isEmpty then Sh.put (if found.contains 'c' then "0\n" else "unlimited\n")
  return 0

def times : Sh Nat := do
  Sh.put "0m0.000000s 0m0.000000s\n0m0.000000s 0m0.000000s\n"
  return 0

def track (args : List String) : Sh Nat := do
  let (found, names) ← flags ['r', 'v'] args
  if found.contains 'r' then
    modify fun s => { s with tracked := [] }
    return 0
  if names.isEmpty then
    let all := byGroup 31 (← get).tracked.reverse
    Sh.put (String.join (all.map fun t => t.2 ++ "\n"))
    return 0
  let rec go : List String → Nat → Sh Nat
    | [], status => return status
    | name :: rest, status => do
      let isFit (f : FileFacts) : Bool := f.isRegular && f.isExecutable
      match ← firstFile isFit (candidates (← get).searchPath name) with
      | some path =>
        modify fun s => { s with tracked := (name, path) :: s.tracked.filter (·.1 ≠ name) }
        go rest status
      | none =>
        Sh.warn (name ++ ": not found")
        go rest 1
  go names 0

end Replay.Shell.Builtin
