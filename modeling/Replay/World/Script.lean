import Replay.Bus
import Replay.Module.Variables
import Replay.Session.Basic

/-!
Scripts: what foreign code does when it is called. A script is a tree of single actions, each with
what follows on its result, so that listeners, modules and hooks can do anything they may do to the
world around them and a law can still be stated about all of them. They keep what they like in a
memory `σ` of their own.
-/
namespace Replay

/-- The number of a module instance, in the order of making. -/
structure InstanceId where
  number : Nat
  deriving DecidableEq, Repr

def variablesKind : String := "trace_visualiser::modules::variables::VariablesModule"

/-- A module as typed access shows it. -/
inductive View where
  | tracker (m : Variables)
  | foreign (i : InstanceId)

inductive Script (σ : Type) : Type where
  | done
  | panic
  | consult (k : σ → Script σ)
  | remember (f : σ → σ) (k : Script σ)
  | subscribe (kind : Notice.Kind) (callback : Notice → Script σ) (k : SubscriptionId → Script σ)
  | unsubscribe (id : SubscriptionId) (k : Bool → Script σ)
  | clearBus (k : Script σ)
  | mark (k : SubscriptionId → Script σ)
  | since (mark : SubscriptionId) (k : List SubscriptionId → Script σ)
  | count (kind : Notice.Kind) (k : Nat → Script σ)
  | publish (n : Notice) (k : Nat → Script σ)
  /-- The ids of the registered modules. -/
  | registered (k : List String → Script σ)
  /-- Registers an instance that exists already. -/
  | register (i : InstanceId) (k : Script σ)
  | clearRegistry (k : Script σ)
  /-- Reaches a module of a kind. While `body` runs on it nobody else reaches it, so it is
  afterwards as `body` saw it. -/
  | access (id kind : String) (body : View → Script σ) (k : Except Error View → Script σ)
  | createElement (s : Surface) (spec : Element.Spec) (k : ElementId → Script σ)
  | updateElement (e : ElementId) (spec : Element.Spec) (k : Script σ)
  | removeElement (e : ElementId) (k : Script σ)
  | start (k : RunId → Script σ)
  | resume (k : RunId → Script σ)
  | pause (k : Script σ)
  | setSpeed (speed : UInt64) (k : Script σ)
  | setCode (code : String) (k : Script σ)
  /-- Looks at the session. -/
  | session (k : Session → Script σ)

/-- Foreign code with a result: a script that lacks what follows on it. -/
def Code (σ α : Type) : Type := (α → Script σ) → Script σ

namespace Code

variable {σ α β : Type}

instance : Monad (Code σ) where
  pure a := fun k => k a
  bind c f := fun k => c fun a => f a k

def script (c : Code σ Unit) : Script σ := c fun _ => .done

def panic : Code σ α := fun _ => .panic

def consult : Code σ σ := fun k => .consult k

def remember (f : σ → σ) : Code σ Unit := fun k => .remember f (k ())

def subscribe (kind : Notice.Kind) (callback : Notice → Script σ) : Code σ SubscriptionId :=
  fun k => .subscribe kind callback k

def unsubscribe (id : SubscriptionId) : Code σ Bool := fun k => .unsubscribe id k

def clearBus : Code σ Unit := fun k => .clearBus (k ())

def publish (n : Notice) : Code σ Nat := fun k => .publish n k

def registered : Code σ (List String) := fun k => .registered k

def look (id kind : String) : Code σ (Except Error View) :=
  fun k => .access id kind (fun _ => .done) k

def createElement (s : Surface) (spec : Element.Spec) : Code σ ElementId :=
  fun k => .createElement s spec k

def removeElement (e : ElementId) : Code σ Unit := fun k => .removeElement e (k ())

def start : Code σ RunId := fun k => .start k

def resume : Code σ RunId := fun k => .resume k

def pause : Code σ Unit := fun k => .pause (k ())

def setSpeed (speed : UInt64) : Code σ Unit := fun k => .setSpeed speed (k ())

def setCode (code : String) : Code σ Unit := fun k => .setCode code (k ())

def session : Code σ Session := fun k => .session k

end Code

/-- A module from outside: what it is called, what it needs, and what it does when called. -/
structure ForeignModule (σ : Type) where
  id : String
  dependencies : List String
  /-- The name of its kind, by which typed access asks for it. -/
  kind : String
  respond : InstanceId → Call → Script σ

end Replay
