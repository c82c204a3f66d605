import Replay.Workbench.Program.Plain

/-! Programs that look for another program and run it in surroundings of its own: `env`, `nice`,
`nohup`, `setsid`, `timeout`, and with them `printenv` and `which`. -/
namespace Replay.Program.Surroundings

open Machine

/-- Where programs are looked for if the environment does not say so. -/
def standardPath : String := "/bin:/usr/bin"

/-- Puts the first program that can be run in the place of the process; a script that names no
interpreter is one for the shell. -/
def execFirst (words : List String) (environment : Environment) :
    List String → (met : Refusal) → Job Refusal
  | [], met => return met
  | path :: rest, met => do
    match ← Job.exec path words environment with
    | .notExecutable => Job.exec "/bin/sh" ("/bin/sh" :: path :: words.drop 1) environment
    | .notAllowed => execFirst words environment rest .notAllowed
    | .notFound => execFirst words environment rest met
    | .notDirectory => execFirst words environment rest met
    | r => return r

def pathsOf (environment : Environment) (name : String) : List String :=
  if name.contains '/' || name.isEmpty then [name]
  else (splitString ':' ((environment.lookup "PATH").getD standardPath)).map fun d =>
    if d.isEmpty then name else d ++ "/" ++ name

def execSearched (words : List String) (environment : Environment) : Job Refusal :=
  execFirst words environment (pathsOf environment (words.headD "")) .notFound

def which (environment : Environment) (words : List String) : Job Nat := do
  let names := words.drop 1
  let found ← names.mapM fun name =>
    (pathsOf environment name).findM? fun path => do
      match ← Job.inspect path true with
      | .ok facts => return facts.isRegular && facts.isExecutable
      | .error _ => return false
  for path in found do
    match path with
    | some path => emitText (words.headD "") (path ++ "\n")
    | none => pure ()
  return if found.all Option.isSome && !names.isEmpty then 0 else 1

def refusedStatus (r : Refusal) : Nat := if r = .notFound then 127 else 126

def put (environment : Environment) (name value : String) : Environment :=
  if (environment.lookup name).isSome then
    environment.map fun v => if v.1 = name then (name, value) else v
  else environment ++ [(name, value)]

/-- The environment with the assignments in front of some words, and the words behind them. -/
def assignments (environment : Environment) : List String → Environment × List String
  | [] => (environment, [])
  | word :: rest =>
    match word.toList.span (· != '=') with
    | (name, _ :: value) =>
      assignments (put environment (String.ofList name) (String.ofList value)) rest
    | (_, []) => (environment, word :: rest)

/-- Takes names out of an environment; tells of the first text that is no name. -/
def without (environment : Environment) : List String → Except String Environment
  | [] => .ok environment
  | name :: rest =>
    if name.isEmpty || name.contains '=' then
      .error ("cannot unset " ++ quoteWord name ++ ": Invalid argument")
    else without (environment.filter (·.1 ≠ name)) rest

/-- Runs a program in an environment that was changed, or shows it. -/
def env (environment : Environment) (words : List String) : Job Nat :=
  withOptions
    [.flag "ignore" ['i'] ["ignore-environment"], .flag "zero" ['0'] ["null"],
     .taking "unset" ['u'] ["unset"],
     .taking "directory" ['C'] ["chdir"]] false 125 (fun name a => do
      let (isBare, operands) := match a.operands with
        | "-" :: rest => (true, rest)
        | operands => (a.has "ignore", operands)
      let texts := (a.options.filter (·.1 == "unset")).map (·.2)
      match without (if isBare then [] else environment) texts with
      | .error text =>
        complaint name text
        return 125
      | .ok environment =>
        let (environment, command) := assignments environment operands
        if a.has "zero" && !command.isEmpty then
          misuse name "cannot specify --null (-0) with command" 125
        else if command.isEmpty then
          if a.has "directory" then misuse name "must specify command with --chdir (-C)" 125
          else
            let last := if a.has "zero" then "\x00" else "\n"
            emitText name (String.join (environment.map fun v => v.1 ++ "=" ++ v.2 ++ last))
            return 0
        else
          let entered ← match a.last? "directory" with
            | some path => do
              match ← Job.enter path with
              | .ok () => pure none
              | .error r => pure (some (path, r))
            | none => pure none
          match entered with
          | some (path, r) =>
            complaint name ("cannot change directory to " ++ quoteAlways path ++ ": " ++ r.text)
            return 125
          | none =>
            let r ← execSearched command environment
            complaint name (quoteWord (command.headD "") ++ ": " ++ r.text)
            if r = .notFound && (command.headD "").contains ' ' then
              complaint name "use -[v]S to pass options in shebang lines"
            return refusedStatus r)
    words

def printEnv (environment : Environment) : List String → Job Nat := withOptions
  [.flag "zero" ['0'] ["null"]] false 2 fun name a => do
    let last := if a.has "zero" then "\x00" else "\n"
    if a.operands.isEmpty then
      emitText name (String.join (environment.map fun v => v.1 ++ "=" ++ v.2 ++ last))
      return 0
    else
      let values := a.operands.map fun name => environment.lookup name
      emitText name (String.join (values.map fun v => (v.map (· ++ last)).getD ""))
      return if values.all Option.isSome then 0 else 1

def runOperands (environment : Environment) (command : List String) (name text : String) :
    Job Nat := do
  let r ← execSearched command environment
  complaint name (text ++ ": " ++ r.text)
  return refusedStatus r

/-- The arguments with an old way to give an adjustment, a number behind a dash, in the new way. -/
def withAdjustment : List String → List String
  | first :: rest =>
    match first.toList with
    | '-' :: c :: cs =>
      let digits := if c = '-' || c = '+' then cs else c :: cs
      if !digits.isEmpty && digits.all Char.isDigit then
        "-n" :: String.ofList (c :: cs) :: rest
      else first :: rest
    | _ => first :: rest
  | [] => []

def nice (environment : Environment) (words : List String) : Job Nat :=
  withOptions [.taking "adjustment" ['n'] ["adjustment"]] false 125 (fun name a => do
      let isNumber (text : String) : Bool :=
        let cs := text.toList
        let ds := if cs.head? = some '-' || cs.head? = some '+' then cs.drop 1 else cs
        !ds.isEmpty && ds.all Char.isDigit
      let bad := (a.last? "adjustment").bind fun text => if isNumber text then none else some text
      match bad, a.operands with
      | some text, _ =>
        complaint name ("invalid adjustment " ++ quoteWord text)
        return 125
      | none, [] =>
        if a.has "adjustment" then
          misuse name "a command must be given with an adjustment" 125
        else
          emitText name "0\n"
          return 0
      | none, command => runOperands environment command name (quoteWord (command.headD "")))
    (words.headD "" :: withAdjustment (words.drop 1))

def nohup (environment : Environment) : List String → Job Nat :=
  withOptions [] false 125 fun name a => do
  if a.operands.isEmpty then misuse name "missing operand" 125
  else
    Job.onSignal 1 .ignore
    runOperands environment a.operands name
      ("failed to run command " ++ quoteAlways (a.operands.headD ""))

def setsid (environment : Environment) : List String → Job Nat := withOptions
  [.flag "terminal" ['c'] ["ctty"], .flag "fork" ['f'] ["fork"], .flag "wait" ['w'] ["wait"]]
  false 1 fun name a => do
    if a.operands.isEmpty then
      complaint name "no command specified"
      hint name
      return 1
    else
      let start : Job Nat :=
        runOperands environment a.operands name ("failed to execute " ++ a.operands.headD "")
      if a.has "fork" then
        discard (Job.fork start.task)
        return 0
      else start

/-- A signal by its name, with or without its front, or its number. -/
def signal? (text : String) : Option Nat :=
  match natural? text with
  | some n => if n ≤ lastSignal then some n else none
  | none =>
    let name := text.toUpper
    signalNumber? (if name.startsWith "SIG" then (name.drop 3).toString else name)

structure Limit where
  /-- In microseconds; there is none if it is nothing. -/
  time : Nat
  signal : Nat
  /-- How long after the signal the program is killed. -/
  killAfter : Nat
  keepsStatus : Bool
  tells : Bool

/-- Waits for a program, and stops it when its time is up. `alarm` is the process that ends when the
time is up, and `sent` tells which signal was sent already. -/
def watch (name command : String) (l : Limit) (child : Nat) :
    (turns : Nat) → (alarm : Option Nat) → (sent : Option Nat) → Job Nat
  | 0, _, _ => return 125
  | turns + 1, alarm, sent => do
    match ← Job.wait none false with
    | .error _ => return 125
    | .ok (process, ending) =>
      if process = child then
        match alarm with
        | some a => discard (Job.kill a 9)
        | none => pure ()
        match ending, sent with
        | .exit status, none => return status
        | .signal n _, none => do
          let (self, _) ← Job.self
          Job.onSignal n .standard
          discard (Job.kill self n)
          return 128 + n
        | .exit status, some _ => return if l.keepsStatus then status else 124
        | .signal n _, some _ => return if l.keepsStatus || n = 9 then 128 + n else 124
      else if some process = alarm then
        let signal := if sent.isSome then 9 else l.signal
        if l.tells then
          let signalName := (Interpreter.signalName? signal).getD (decimal signal)
          complaint name ("sending signal " ++ signalName ++ " to command " ++ quoteAlways command)
        discard (Job.kill child signal)
        discard (Job.kill child 18)
        if signal = 9 then
          let (self, _) ← Job.self
          discard (Job.kill self 9)
        let next ← if l.killAfter = 0 || sent.isSome then pure none
          else some <$> Job.fork (Job.task do
            Job.sleep l.killAfter
            return 0)
        watch name command l child turns next (some signal)
      else watch name command l child turns alarm sent

def timeout (environment : Environment) : List String → Job Nat := withOptions
  [.taking "signal" ['s'] ["signal"], .taking "kill" ['k'] ["kill-after"],
   .flag "foreground" [] ["foreground"], .flag "preserve" [] ["preserve-status"],
   .flag "verbose" ['v'] ["verbose"]] false 125 fun name a => do
    let wrongTime (text : String) : Job Nat :=
      misuse name ("invalid time interval " ++ quoteWord text) 125
    match (a.last? "kill").map duration? with
    | some none => wrongTime ((a.last? "kill").getD "")
    | after =>
      match (a.last? "signal").map signal? with
      | some none => misuse name (quoteWord ((a.last? "signal").getD "") ++ ": invalid signal") 125
      | signal =>
        match a.operands with
        | [] | [_] => do
          hint name
          return 125
        | limit :: command =>
          match duration? limit with
          | none => wrongTime limit
          | some time =>
            let l : Limit :=
              { time, signal := (signal.join).getD 15, killAfter := (after.join).getD 0
                keepsStatus := a.has "preserve", tells := a.has "verbose" }
            let child ← Job.fork (Job.task (runOperands environment command name
              ("failed to run command " ++ quoteAlways (command.headD ""))))
            let alarm ← if time = 0 then pure none
              else some <$> Job.fork (Job.task do
                Job.sleep time
                return 0)
            watch name (command.headD "") l child Job.forever alarm none

end Replay.Program.Surroundings
