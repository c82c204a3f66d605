import Replay.Interpreter.Process
import Replay.Workbench.Machine.Kernel
import Replay.Workbench.Program.Catalog

/-!
A workbench for trying interpreters out: a machine with a shell and some programs, on which an
interpreter's program is found and started. The code waits in a pipe; what the program tells, and
what it complains of, is collected. It is one way to come by the outcome of a process, and no
theorem depends on it.
-/
namespace Replay.Interpreter

open Replay.Machine

namespace Launch

def programId : Nat := 100
def feederId : Nat := 101

def outside : Nat := 1

/-- Where programs without a slash in their names are looked for. -/
def searchPath : String := "/usr/local/sbin:/usr/local/bin:/usr/sbin:/usr/bin:/sbin:/bin"

def environment : Environment :=
  [("PATH", searchPath), ("HOME", "/root"), ("USER", "root"), ("PWD", "/")]

def feed (code : ByteArray) : Task := Job.task do
  match ← Job.writeBytes 1 code with
  | .ok () => return 0
  | .error _ => return 1

/-- The machine before the program is there: a pipe with the feeder at its end, and two outputs. -/
def waiting (directory : Nat) (code : ByteArray) : System :=
  let standard (files : List (Nat × Nat)) : List (Nat × Handle) :=
    files.map fun f => (f.1, ⟨f.2, true⟩)
  let feeder : Machine.Process :=
    { id := feederId, parent := outside, task := feed code, handles := standard [(1, 11)], directory
      ignored := [13], caught := [], pending := [], wake := none, stopped := false }
  let program : Machine.Process :=
    { feeder with
      id := programId, task := .exit 127
      handles := standard [(0, 10), (1, 12), (2, 13)], ignored := [] }
  { now := 0, tree := Program.tree
    files := [(10, ⟨.source 20, 0, .read⟩), (11, ⟨.drain 20, 0, .append⟩),
      (12, ⟨.sink 1, 0, .append⟩), (13, ⟨.sink 2, 0, .append⟩)]
    pipes := [], processes := [program, feeder], ended := [], issued := 1000, collected := [] }

/-- What is tried for a program that is found nowhere: a refusal that was met on the way outranks
the absence. -/
def search (tryPath : String → Except Refusal Task) (met : Refusal) :
    List String → Except Refusal Task
  | [] => .error met
  | directory :: rest =>
    match tryPath directory with
    | .ok task => .ok task
    | .error .notAllowed => search tryPath .notAllowed rest
    | .error .notFound => search tryPath met rest
    | .error .notDirectory => search tryPath met rest
    | .error r => .error r

/-- The task of a program that is named by a path, or searched for. -/
def taskOf (s : System) (p : Machine.Process) (name : String) (arguments : List String) :
    Except Refusal Task :=
  let tryPath (path : String) : Except Refusal Task :=
    s.execute Program.find? p 5 path (name :: arguments) environment
  if name = "" then .error .notFound
  else if name.contains '/' then tryPath name
  else if Tree.longestName < name.length then .error .nameTooLong
  else search (fun directory => tryPath (directory ++ "/" ++ name)) .notFound
    (splitString ':' searchPath)

/-- The exchange is over when both processes are, and nobody can tell anything more. -/
def isOver (s : System) : Bool :=
  let hasEnded (id : Nat) : Bool := s.ended.any (·.2.1 == id)
  hasEnded programId && hasEnded feederId && !s.isOpen (.sink 1) && !s.isOpen (.sink 2)

def collectedFrom (s : System) (sink : Nat) : List UInt8 :=
  (Job.join ((s.collected.filter (·.1 == sink)).map (·.2))).toList

/-- The machine with the program at its start. A text with a zero byte can be no argument; the
directory is entered before the program is looked for. -/
def begin (c : Config) (code : String) : Except SystemFault System :=
  let hasNul (s : String) : Bool := s.contains '\x00'
  if hasNul c.program || c.arguments.any hasNul || c.directory.any hasNul then .error .nulByte
  else
    let entered : Except Refusal Nat := match c.directory with
      | none => .ok Tree.root
      | some path =>
        match Program.tree.resolve Tree.root (octets path) true with
        | .error r => .error r
        | .ok node => if Program.tree.isDirectory node then .ok node else .error .notDirectory
    match entered with
    | .error r => .error (.refused r)
    | .ok directory =>
      let s := waiting directory code.toUTF8
      match s.processes with
      | program :: others =>
        match taskOf s program (octets c.program) (c.arguments.map octets) with
        | .ok task => .ok { s with processes := { program with task } :: others }
        | .error r => .error (.refused r)
      | [] => .error (.refused .noProcess)

/-- What becomes of the program of a configuration when it is sent some code. -/
def outcome (c : Config) (code : String) : Outcome :=
  match begin c code with
  | .error f => .notSpawned f
  | .ok s =>
    let s := s.run Program.find? isOver (c.timeout.toNat * 1000) Job.forever 0
    let endingOf (id : Nat) : Option Ending := (s.ended.find? (·.2.1 == id)).map (·.2.2)
    match endingOf programId, endingOf feederId with
    | some ending, some fed =>
      if isOver s then
        .exchanged (if fed.isSuccess then .ok () else .error .brokenPipe)
          (.ok ⟨ending, collectedFrom s 1, collectedFrom s 2⟩)
      else .late
    | _, _ => .late

end Launch

end Replay.Interpreter
