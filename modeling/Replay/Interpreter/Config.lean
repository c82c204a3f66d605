import Replay.Json.Record

/-! Which program an interpreter runs, and for how long. -/
namespace Replay.Interpreter

open Json

structure Config where
  program : String
  arguments : List String
  directory : Option String
  /-- The time one run may take, in milliseconds. -/
  timeout : UInt64
  deriving DecidableEq, Inhabited

namespace Config

def defaultTimeout : UInt64 := 10000

def ofProgram (program : String) : Config := ⟨program, [], none, defaultTimeout⟩

def toJson (c : Config) : Json :=
  .object ([("program", .text c.program), ("args", texts c.arguments)] ++
    (c.directory.map fun d => ("working_dir", .text d)).toList ++
    [("timeout_ms", natural c.timeout)])

/-- The parts of a configuration that are read so far; a directory may be read as absent. -/
structure Draft where
  program : Option String
  arguments : Option (List String)
  directory : Option (Option String)
  timeout : Option UInt64

def path : Reader String := Reader.text "path string"

def record : Record Draft Config where
  title := "struct CommandInterpreterConfig"
  fields :=
    [.of "program" path (·.program) (fun s d => { d with program := some s }) false,
     .of "args" (Reader.list Reader.string) (·.arguments)
       (fun s d => { d with arguments := some s }) true,
     .of "working_dir" (Reader.optional path) (·.directory)
       (fun s d => { d with directory := some s }) true,
     .of "timeout_ms" (Reader.natural "u64") (·.timeout)
       (fun n d => { d with timeout := some n }) true]
  blank := ⟨none, none, none, none⟩
  build d := return {
    program := ← need "program" d.program
    arguments := d.arguments.getD []
    directory := d.directory.getD none
    timeout := d.timeout.getD defaultTimeout }

def reader : Reader Config := record.reader

end Config

end Replay.Interpreter
