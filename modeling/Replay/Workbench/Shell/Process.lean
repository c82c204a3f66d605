import Replay.Workbench.Shell.Expand

/-!
Running parts of a script in processes of their own, and what a shell does at its end and between
commands: signals that were caught have commands of theirs.
-/
namespace Replay.Shell

open Machine
open Interpreter (Ending)

structure Manner where
  /-- Nothing is left for the process to do behind it. -/
  isLast : Bool
  /-- Its failure is looked at, and ends nothing. -/
  isTested : Bool

namespace Manner

def plain : Manner := ⟨false, false⟩

def tested : Manner := ⟨false, true⟩

def last : Manner := ⟨true, false⟩

end Manner

/-- What runs commands, with their status as the result. -/
structure Evaluator where
  run : Command → Manner → Sh Nat

def always : Nat := 1000000000000000

namespace Evaluator

variable (e : Evaluator)

def runSource (m : Manner) : (steps : Nat) → Source → (status : Nat) → Sh Nat
  | 0, _, status => return status
  | steps + 1, source, status => do
    match { source with aliases := (← get).aliases : Source }.next with
    | .ended | .unfinished => return status
    | .malformed line text =>
      modify fun s => { s with line }
      Sh.fail ("Syntax error: " ++ text)
    | .command c source =>
      let status ← match c with
        | some c => e.run c m
        | none => pure status
      if (← get).skip.isSome then return status
      runSource m steps source status

def runText (text : String) (m : Manner) : Sh Nat :=
  e.runSource m always (.ofText text.toList []) 0

/-- Forgets the status to end with, which counts after an order to exit. -/
def settle (isExit : Bool) : Sh Unit := modify fun s =>
  match s.ending with
  | some status => { s with ending := none, status := if isExit then status else s.status }
  | none => s

/-- Ends a shell: runs the command for its end, and tells its status. -/
def conclude (r : Except Jump Nat) : Sh Nat := do
  settle (r matches .error .exit)
  let s ← get
  match s.traps.lookup 0 with
  | none => return s.status
  | some text =>
    set { s with
      ending := some s.status, traps := s.traps.filter fun t => t.1 ≠ 0, skip := none }
    let r ← Sh.attempt (e.runText text .plain)
    settle (!(r matches .error .failure) && !(r matches .error .replacement))
    return (← get).status

def task (s : State) (body : Sh Nat) : Task :=
  (do e.conclude (← Sh.attempt body) : Sh Nat).run.run s fun (r, s) =>
    .exit (match r with
      | .ok status => status
      | .error _ => s.status)

/-- Starts a process that goes on as a copy of the shell; commands for signals are left behind. -/
def fork (body : Sh Nat) : Sh Nat := fun s => fun (k : Except Jump Nat × State → Task) =>
  let caught := s.traps.filter fun t => t.1 ≠ 0 && t.2 ≠ ""
  let copy : State := { s with
    traps := s.traps.filter (·.2 = ""), jobs := [], isSubshell := true, ending := none }
  let begun : Sh Nat := do
    for (signal, _) in caught do Sh.ask (Job.onSignal signal .standard)
    body
  .fork (e.task copy begun) fun id => k (.ok id, s)

def signalText (signal : Nat) : String :=
  let texts := ["Hangup", "Interrupt", "Quit", "Illegal instruction", "Trace/breakpoint trap",
    "Aborted", "Bus error", "Floating point exception", "Killed", "User defined signal 1",
    "Segmentation fault", "User defined signal 2", "Broken pipe", "Alarm clock", "Terminated",
    "Stack fault", "Child exited", "Continued", "Stopped (signal)", "Stopped",
    "Stopped (tty input)", "Stopped (tty output)", "Urgent I/O condition",
    "CPU time limit exceeded", "File size limit exceeded", "Virtual timer expired",
    "Profiling timer expired", "Window changed", "I/O possible", "Power failure",
    "Bad system call"]
  match texts[signal - 1]? with
  | some text => text
  | none =>
    if signal < 34 then "Unknown signal " ++ decimal signal
    else "Real-time signal " ++ decimal (signal - 34)

/-- Tells the end of a process by a signal, unless such ends are usual. -/
def tellEnding : Ending → Sh Unit
  | .signal n _ => do if n ≠ 2 && n ≠ 13 then Sh.write 2 (signalText n ++ "\n")
  | .exit _ => return

def note (process : Nat) (ending : Ending) : Sh Unit := modify fun s =>
  { s with jobs := s.jobs.map fun j =>
      { j with processes := j.processes.map fun p =>
          if p.1 = process then (process, some ending) else p } }

/-- Waits for processes that were started together, and tells the status of the last one. -/
def await (last : Nat) : (steps : Nat) → (processes : List Nat) → (status : Nat) → Sh Nat
  | 0, _, status => return status
  | steps + 1, processes, status => do
    if processes.isEmpty then return status
    match ← Sh.ask (Job.wait none false) with
    | .error _ => return status
    | .ok (process, ending) =>
      if processes.contains process then
        tellEnding ending
        await last steps (processes.filter (· ≠ process))
          (if process = last then ending.status else status)
      else
        note process ending
        await last steps processes status

def awaitOne (process : Nat) : Sh Nat := await process always [process] 0

/-- The number for processes that are to be started: the first one that no job has, or one that
was waited for, and that job is forgotten. -/
def claimNumber : Sh Nat := do
  let s ← get
  let isFree (n : Nat) : Bool := s.jobs.all fun j => j.number ≠ n || j.isWaited
  let number := (((List.range (s.jobs.length + 1)).map (· + 1)).find? isFree).getD 1
  set { s with jobs := s.jobs.filter (·.number ≠ number) }
  return number

/-- Starts processes that take a number, but keep it only as long as they are waited for. -/
def forkAwaited (body : Sh Nat) : Sh Nat := do
  discard claimNumber
  e.fork body

def addJob (number : Nat) (processes : List Nat) : Sh Unit := modify fun s => { s with
  jobs := ⟨number, processes.map ((·, none)), false⟩ :: s.jobs
  background := processes.getLast? }

def output (c : Option Command) : Sh (List Char) := do
  match c with
  | none =>
    modify fun s => { s with substituted := 0 }
    return []
  | some c =>
    let (reading, writing) ← Sh.ask Job.pipe
    let child : Sh Nat := do
      Sh.ask (Job.close reading)
      if writing ≠ 1 then
        discard (Sh.ask (Job.copy writing 1))
        Sh.ask (Job.close writing)
      e.run c .last
    let process ← e.forkAwaited child
    Sh.ask (Job.close writing)
    let text ← Sh.ask (Job.readAll reading)
    Sh.ask (Job.close reading)
    let status ← awaitOne process
    modify fun s => { s with substituted := status }
    let bytes := match text with
      | .ok bytes => unpackList bytes
      | .error _ => []
    return ((bytes.filter (· ≠ '\x00')).reverse.dropWhile (· == '\n')).reverse

def runTraps : Sh Unit := do
  let s ← get
  if s.traps.any (fun t => t.1 ≠ 0 && t.2 ≠ "") && s.skip.isNone then
    let came := ((← Sh.ask Job.signals).mergeSort (· ≤ ·)).eraseDups
    unless came.isEmpty do
      let before := (← get).ending
      let status := before.getD (← get).status
      modify fun s => { s with ending := some status }
      for signal in came do
        match (← get).traps.lookup signal with
        | none => pure ()
        | some text =>
          discard (e.runText text .plain)
          if (← get).skip ≠ some (.return true) then Sh.setStatus status
      modify fun s => { s with ending := before }

end Evaluator

end Replay.Shell
