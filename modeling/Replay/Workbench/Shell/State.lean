import Replay.Workbench.Machine.Task
import Replay.Workbench.Shell.Commands

/-!
The state of a shell, and what it does step by step. A step asks the system, changes the state, and
may leave what follows it behind: after a failure that ends a script, or where the script says so.
-/
namespace Replay.Shell

open Machine
open Interpreter (Ending)

structure Variable where
  /-- None for one that is only marked. -/
  value : Option String
  isExported : Bool
  isReadOnly : Bool

/-- Commands that are passed over. -/
inductive Skip where
  | break (loops : Nat)
  | continue (loops : Nat)
  /-- The rest of a function or of a script that is read in; a status was given or not. -/
  | return (isGiven : Bool)
  deriving DecidableEq

/-- Processes that were started together. -/
structure BackgroundJob where
  number : Nat
  /-- Each process with its ending, once that is known. -/
  processes : List (Nat × Option Ending)
  /-- Whether its end was waited for, so that its number may be used again. -/
  isWaited : Bool

namespace BackgroundJob

def isRunning (j : BackgroundJob) : Bool := j.processes.any (·.2.isNone)

def ending? (j : BackgroundJob) : Option Ending :=
  if j.isRunning then none else (j.processes.getLast?).bind (·.2)

end BackgroundJob

/-- What was kept of a variable, or of the options, to be brought back. -/
inductive Kept where
  | variable (name : String) (v : Option Variable)
  | options (letters : List Char)

/-- What a shell knows while it runs a script. -/
structure State where
  /-- The name in front of its complaints. -/
  name : String
  process : Nat
  parent : Nat
  bindings : List (String × Variable)
  parameters : List String
  status : Nat
  /-- The letters of the options that are on. -/
  options : List Char
  functions : List (String × Command)
  aliases : List (String × String)
  /-- Programs that were found before, with their paths. -/
  tracked : List (String × String)
  /-- Commands for signals, and under zero for the end; an empty one ignores its signal. -/
  traps : List (Nat × String)
  /-- The line a complaint is about. -/
  line : Nat
  /-- The builtin that runs. -/
  command : Option String
  loops : Nat
  calls : Nat
  skip : Option Skip
  /-- What is to be brought back at the end of commands and functions, the innermost first. -/
  kept : List (List Kept)
  background : Option Nat
  jobs : List BackgroundJob
  /-- The status a command without a name has: that of the last substitution in it. -/
  substituted : Nat
  /-- The status to end with, if a trap or an order to exit set it. -/
  ending : Option Nat
  /-- Where options are looked for next, as a word and a place in it. -/
  optionWord : Nat
  optionPlace : Nat
  /-- The descriptor that commands are traced on. -/
  traceTo : Nat
  isTracing : Bool
  /-- Whether it was started by another shell to run a part of its script. -/
  isSubshell : Bool
  directory : String
  /-- The bits that are taken from the modes of new files. -/
  mask : Nat
  /-- Whether the builtin that runs could not write what it had to. -/
  isOutputLost : Bool

/-- Why a shell leaves its commands. -/
inductive Jump where
  /-- An error was told that ends scripts. -/
  | failure
  | exit
  /-- A program was to take the place of the shell and did not. -/
  | replacement
  deriving DecidableEq

abbrev Sh := ExceptT Jump (StateT State Job)

namespace Sh

variable {α : Type}

def ask (j : Job α) : Sh α := ExceptT.lift (StateT.lift j)

def write (fd : Nat) (text : String) : Sh Unit := do discard (ask (Job.write fd text))

def put (text : String) : Sh Unit := do
  match ← ask (Job.write 1 text) with
  | .ok () => return
  | .error _ => modify fun s => { s with isOutputLost := true }

def complaintHead (s : State) : String :=
  s.name ++ ": " ++ decimal s.line ++ ": " ++ (s.command.map (· ++ ": ")).getD ""

def warn (text : String) : Sh Unit := do write 2 (complaintHead (← get) ++ text ++ "\n")

def setStatus (status : Nat) : Sh Unit := modify fun s => { s with status }

def fail (text : String) : Sh α := do
  warn text
  setStatus 2
  throw .failure

def isOn (option : Char) : Sh Bool := return (← get).options.contains option

/-- What a step comes to, with what it leaves behind as a result. -/
def attempt (x : Sh α) : Sh (Except Jump α) := fun s => do
  let (r, s) ← x.run s
  return (.ok r, s)

/-- The number that a text is, with blanks around it and a sign in front. -/
def integer (text : String) : Sh Int := do
  let (isNegative, digits) := match text.toList.dropWhile isSpace with
    | '-' :: rest => (true, rest)
    | '+' :: rest => (false, rest)
    | rest => (false, rest)
  let (ds, rest) := digits.span Char.isDigit
  if ds.isEmpty || !rest.all isSpace then fail ("Illegal number: " ++ text)
  return if isNegative then -(ofDigits ds : Int) else ofDigits ds

/-- The number that a text is, from zero on. -/
def number (text : String) : Sh Nat := do
  let n ← integer text
  if n < 0 || 0x7fffffff < n then fail ("Illegal number: " ++ text)
  return n.toNat

end Sh

/-- The group of a name, if there are so many: names are listed group by group. -/
def groupOf (count : Nat) (name : String) : Nat :=
  name.toList.foldl (fun n c => n + c.toNat) ((name.toList.head?.map (·.toNat * 16)).getD 0) % count

/-- Names with what belongs to them in the order of their groups; within a group the order stays. -/
def byGroup {α : Type} (count : Nat) (entries : List (String × α)) : List (String × α) :=
  entries.mergeSort fun a b => groupOf count a.1 ≤ groupOf count b.1

namespace State

def entry? (s : State) (name : String) : Option Variable := s.bindings.lookup name

def setVariable (s : State) (name : String) (v : Variable) : State :=
  if s.bindings.any (·.1 == name) then
    { s with bindings := s.bindings.map fun entry =>
        if entry.1 == name then (name, v) else entry }
  else { s with bindings := (name, v) :: s.bindings }

def dropVariable (s : State) (name : String) : State :=
  { s with bindings := s.bindings.filter (·.1 ≠ name) }

def value? (s : State) (name : String) : Option String := (s.entry? name).bind (·.value)

def separators (s : State) : List Char :=
  ((s.value? "IFS").map String.toList).getD [' ', '\t', '\n']

def environment (s : State) : Environment :=
  (byGroup 39 s.bindings.reverse).filterMap fun (name, v) =>
    if v.isExported then v.value.map ((name, ·)) else none

def searchPath (s : State) : String :=
  (s.value? "PATH").getD "/usr/local/sbin:/usr/local/bin:/usr/sbin:/usr/bin:/sbin:/bin"

end State

namespace Sh

def assign (name value : String) (isExported : Bool) : Sh Unit := do
  let s ← get
  let old := s.entry? name
  if (old.map (·.isReadOnly)).getD false then fail (name ++ ": is read only")
  let place ← if name = "OPTIND" then number value else pure 1
  let isExported := isExported || s.options.contains 'a' || (old.map (·.isExported)).getD false
  let s := s.setVariable name ⟨some value, isExported, false⟩
  set (if name = "OPTIND" then
      { s with optionWord := max 1 place, optionPlace := 0 }
    else if name = "PATH" then { s with tracked := [] }
    else s)

def unset (name : String) : Sh Unit := do
  let s ← get
  if ((s.entry? name).map (·.isReadOnly)).getD false then fail (name ++ ": is read only")
  set (s.dropVariable name)

/-- Keeps a variable, to be brought back with the others that are kept. -/
def keep (name : String) : Sh Unit := modify fun s =>
  match s.kept with
  | frame :: outer => { s with kept := (.variable name (s.entry? name) :: frame) :: outer }
  | [] => s

def restore (s : State) : Kept → State
  | .variable name (some v) => s.setVariable name v
  | .variable name none => s.dropVariable name
  | .options options => { s with options }

def openFrame : Sh Unit := modify fun s => { s with kept := [] :: s.kept }

/-- Closes the innermost frame, and brings back what was kept in it unless it is to `stay`. -/
def closeFrame (stay : Bool) : Sh Unit := modify fun s =>
  match s.kept with
  | frame :: outer =>
    let s := if stay then s else frame.foldl restore s
    { s with kept := outer }
  | [] => s

end Sh

end Replay.Shell
