import Replay.Interpreter.Ending
import Replay.Workbench.Machine.Tree

/-!
Tasks: what processes do. A task is a tree of single requests to the system, each with what follows
on the answer, so that the system can let processes take turns.
-/
def Replay.Interpreter.Ending.status : Replay.Interpreter.Ending → Nat
  | .exit n => n
  | .signal n _ => 128 + n

namespace Replay.Machine

open Interpreter (Ending)

/-- The signals that a process passes over unless it asks for them. -/
def isPassedOver (signal : Nat) : Bool := [17, 18, 23, 28].contains signal

def isStop (signal : Nat) : Bool := [19, 20, 21, 22].contains signal

def lastSignal : Nat := 64

def signalNumber? (name : String) : Option Nat :=
  (Interpreter.signalNames.findIdx? (· == name)).map (· + 1)

abbrev Environment := List (String × String)

/-- What a file is opened for. -/
inductive Access where
  | read
  /-- Made if it is not there, and emptied if it is; `fresh` refuses one that is there. -/
  | write (fresh : Bool)
  | append
  | update
  deriving DecidableEq

/-- What is to become of a signal. -/
inductive Disposition where
  | standard
  | ignore
  | catch
  deriving DecidableEq

/-- What can be told of a file. -/
structure FileFacts where
  node : Nat
  isDirectory : Bool
  isRegular : Bool
  isLink : Bool
  isDevice : Bool
  isPipe : Bool
  isExecutable : Bool
  size : Nat

/-- Changes of the file tree. -/
inductive Change where
  | makeDirectory (path : String)
  | removeDirectory (path : String)
  | removeFile (path : String)
  | rename (path target : String)
  | makeLink (target path : String)
  /-- Gives a file another name. -/
  | shareFile (path name : String)
  | setExecutable (path : String) (executable : Bool)

inductive Task : Type where
  | exit (status : Nat)
  /-- Works for a while, in microseconds. -/
  | work (time : Nat) (k : Unit → Task)
  | sleep (time : Nat) (k : Unit → Task)
  /-- Reads what is there, at most so many bytes; nothing is there at the end. -/
  | read (fd most : Nat) (k : Except Refusal ByteArray → Task)
  /-- Writes all of the bytes. -/
  | write (fd : Nat) (bytes : ByteArray) (k : Except Refusal Unit → Task)
  | open (path : String) (access : Access) (k : Except Refusal Nat → Task)
  | close (fd : Nat) (k : Unit → Task)
  /-- Makes a descriptor name what another one names. -/
  | copy (source target : Nat) (k : Except Refusal Unit → Task)
  /-- Names what a descriptor names by another one from `low` on, which programs do not inherit. -/
  | keep (source low : Nat) (k : Except Refusal Nat → Task)
  /-- The reading end and the writing end of a new pipe. -/
  | pipe (k : Nat × Nat → Task)
  | fork (child : Task) (k : Nat → Task)
  /-- Waits for the end of a child, or of any; a signal may cut the waiting short. -/
  | wait (child : Option Nat) (interruptible : Bool) (k : Except Refusal (Nat × Ending) → Task)
  /-- Takes the ending of a child that is over, without waiting for it. -/
  | poll (child : Nat) (k : Option Ending → Task)
  | kill (target signal : Nat) (k : Except Refusal Unit → Task)
  | onSignal (signal : Nat) (d : Disposition) (k : Unit → Task)
  /-- Takes the signals caught since they were taken last. -/
  | signals (k : List Nat → Task)
  /-- The numbers of the process and of its parent. -/
  | self (k : Nat × Nat → Task)
  /-- Puts a program in the place of the process; only a refusal comes back. -/
  | exec (path : String) (arguments : List String) (environment : Environment)
      (k : Refusal → Task)
  | enter (path : String) (k : Except Refusal Unit → Task)
  | whereabouts (k : String → Task)
  | inspect (path : String) (follow : Bool) (k : Except Refusal FileFacts → Task)
  | list (path : String) (k : Except Refusal (List String) → Task)
  | change (c : Change) (k : Except Refusal Unit → Task)
  | clock (k : Nat → Task)

instance : Inhabited Task := ⟨.exit 0⟩

/-- Programs by what they do with their arguments, the name they are called by among them, and their
environment. -/
abbrev Program := List String → Environment → Task

/-- A part of a task with a result: a task that lacks what follows on it. -/
def Job (α : Type) : Type := (α → Task) → Task

namespace Job

variable {α β : Type}

instance : Monad Job where
  pure a := fun k => k a
  bind j f := fun k => j fun a => f a k

def task (j : Job Nat) : Task := j .exit

def exit (status : Nat) : Job α := fun _ => .exit status

def work (time : Nat) : Job Unit := fun k => .work time k

def sleep (time : Nat) : Job Unit := fun k => .sleep time k

def read (fd most : Nat) : Job (Except Refusal ByteArray) := fun k => .read fd most k

def writeBytes (fd : Nat) (bytes : ByteArray) : Job (Except Refusal Unit) :=
  fun k => if bytes.isEmpty then k (.ok ()) else .write fd bytes k

def write (fd : Nat) (text : String) : Job (Except Refusal Unit) := writeBytes fd (pack text)

def complain (text : String) : Job Unit := do discard (write 2 text)

def openFile (path : String) (access : Access) : Job (Except Refusal Nat) :=
  fun k => .open path access k

def close (fd : Nat) : Job Unit := fun k => .close fd k

def fork (child : Task) : Job Nat := fun k => .fork child k

def wait (child : Option Nat) (interruptible : Bool) : Job (Except Refusal (Nat × Ending)) :=
  fun k => .wait child interruptible k

def poll (child : Nat) : Job (Option Ending) := fun k => .poll child k

def kill (target signal : Nat) : Job (Except Refusal Unit) := fun k => .kill target signal k

def exec (path : String) (arguments : List String) (environment : Environment) : Job Refusal :=
  fun k => .exec path arguments environment k

def copy (source target : Nat) : Job (Except Refusal Unit) := fun k => .copy source target k

def keep (source low : Nat) : Job (Except Refusal Nat) := fun k => .keep source low k

def pipe : Job (Nat × Nat) := fun k => .pipe k

def onSignal (signal : Nat) (d : Disposition) : Job Unit := fun k => .onSignal signal d k

def signals : Job (List Nat) := fun k => .signals k

def self : Job (Nat × Nat) := fun k => .self k

def enter (path : String) : Job (Except Refusal Unit) := fun k => .enter path k

def clock : Job Nat := fun k => .clock k

def whereabouts : Job String := fun k => .whereabouts k

def inspect (path : String) (follow : Bool) : Job (Except Refusal FileFacts) :=
  fun k => .inspect path follow k

def list (path : String) : Job (Except Refusal (List String)) := fun k => .list path k

def change (c : Change) : Job (Except Refusal Unit) := fun k => .change c k

def blockSize : Nat := 65536

def forever : Nat := 1000000000000000

/-- Reads all that is left behind a descriptor; pieces read so far are kept last first. -/
def readRest (fd : Nat) (pieces : List ByteArray) :
    (turns : Nat) → Job (Except Refusal (List ByteArray))
  | 0 => pure (.ok pieces)
  | turns + 1 => do
    match ← read fd blockSize with
    | .error r => pure (.error r)
    | .ok bytes =>
      if bytes.isEmpty then pure (.ok pieces) else readRest fd (bytes :: pieces) turns

def join (pieces : List ByteArray) : ByteArray :=
  pieces.foldr (fun b all => all ++ b) ByteArray.empty

def readAll (fd : Nat) : Job (Except Refusal ByteArray) := do
  match ← readRest fd [] forever with
  | .ok pieces => pure (.ok (join pieces))
  | .error r => pure (.error r)

end Job

end Replay.Machine
