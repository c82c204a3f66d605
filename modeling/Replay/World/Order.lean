import Replay.Error
import Replay.Level

/-!
The order in which the modules of a level are initialised: every module behind all it depends on,
and as near to the order of the level as that allows.
-/
namespace Replay.LoadOrder

variable {α : Type} (id : α → String) (needs : α → List String)

def repeated? (modules : List α) : Option String := firstRepeated [] (modules.map id)

/-- The first module that needs one which is not there, and the first that it needs so. -/
def missing? (modules : List α) : Option (String × String) :=
  modules.findSome? fun m =>
    ((needs m).find? fun need => !(modules.map id).contains need).map fun need => (id m, need)

def isReady (placed : List String) (m : α) : Bool := (needs m).all placed.contains

/-- Places the first module that is ready, and so on; `steps` bounds how many. The modules that wait
when none is ready are given back. -/
def place (placed : List String) (waiting : List α) : (steps : Nat) → Except (List α) (List α)
  | 0 => if waiting.isEmpty then .ok [] else .error waiting
  | steps + 1 =>
    if waiting.isEmpty then .ok []
    else match waiting.find? (isReady needs placed) with
      | none => .error waiting
      | some next =>
        match place (placed ++ [id next]) (waiting.eraseP (isReady needs placed)) steps with
        | .ok later => .ok (next :: later)
        | .error stuck => .error stuck

/-- The modules in the order of initialisation. -/
def arrange (level : String) (modules : List α) : Except Error (List α) :=
  match repeated? id modules with
  | some again =>
    .error (.invalidLevel level ("module id " ++ again ++ " is loaded more than once"))
  | none => match missing? id needs modules with
    | some (module, dependency) => .error (.missingDependency module dependency)
    | none => match place id needs [] modules modules.length with
      | .ok order => .ok order
      | .error stuck => .error (.dependencyCycle (stuck.map id))

end Replay.LoadOrder
