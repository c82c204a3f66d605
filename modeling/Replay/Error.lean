import Replay.Json.Reader
import Replay.Refusal

/-! What can go wrong while levels are loaded, modules reached and traces fetched. -/
namespace Replay

/-- Troubles with what is outside: refusals of the system, and data that cannot pass. -/
inductive SystemFault where
  | refused (r : Refusal)
  | nulByte
  | notUtf8
  deriving DecidableEq, Repr

def SystemFault.message : SystemFault → String
  | refused r => r.message
  | nulByte => "nul byte found in provided data"
  | notUtf8 => "stream did not contain valid UTF-8"

mutual

inductive Error where
  /-- A level asks for a module that the catalog cannot make. -/
  | unknownModule (name : String)
  | moduleNotFound (id : String)
  /-- The module is there, but it is none of the kind `expected`. -/
  | wrongModuleKind (id expected : String)
  /-- The module is in the middle of a call. -/
  | moduleBusy (id : String)
  | missingDependency (module dependency : String)
  | dependencyCycle (modules : List String)
  | invalidLevel (level reason : String)
  | interpreter (message : String) (cause : Option Cause)
  | timeout (milliseconds : UInt64)
  | malformed (e : Json.ReadError)
  | system (f : SystemFault)

/-- What made an interpreter fail. -/
inductive Cause where
  | error (e : Error)
  | system (f : SystemFault)

end

namespace Error

def message : Error → String
  | unknownModule name => "Module " ++ name ++ " not found in module catalog"
  | moduleNotFound id => "Module " ++ id ++ " not found"
  | wrongModuleKind id expected => "Module " ++ id ++ " is not a " ++ expected
  | moduleBusy id => "Module " ++ id ++ " is busy handling another call"
  | missingDependency module dependency =>
    "Module " ++ module ++ " depends on " ++ dependency ++ ", which is not loaded by this level"
  | dependencyCycle modules =>
    "Module dependency cycle involving: " ++ ", ".intercalate modules
  | invalidLevel level reason => "Invalid level " ++ level ++ ": " ++ reason
  | interpreter text _ => "Interpreter error: " ++ text
  | timeout n => "Operation timed out after " ++ String.ofList (Json.naturalChars n.toNat) ++ "ms"
  | malformed e => "Serialization error: " ++ e.message
  | system f => "I/O error: " ++ f.message

/-- Whether levels and modules are put together wrongly, as opposed to a failure while running. -/
def isConfiguration : Error → Bool
  | unknownModule _ | moduleNotFound _ | wrongModuleKind .. | moduleBusy _ | missingDependency ..
  | dependencyCycle _ | invalidLevel .. => true
  | interpreter .. | timeout _ | malformed _ | system _ => false

end Error

def Cause.message : Cause → String
  | error e => e.message
  | system f => f.message

def liftRead {α : Type} : Except Json.ReadError α → Except Error α
  | .ok a => .ok a
  | .error e => .error (.malformed e)

end Replay
