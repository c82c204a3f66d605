import Replay.Notice

/-!
The bus on which modules tell each other what happened. A listener hears one kind of notice;
subscriptions are numbered from one on, over all kinds together, and no number is given twice.
-/
namespace Replay

structure SubscriptionId where
  number : Nat
  deriving DecidableEq, Repr

structure Listener (κ : Type) where
  id : SubscriptionId
  callback : κ

/-- A channel per kind, with its listeners in the order of subscription. A kind that nobody has
subscribed to since the last clearing has no channel. -/
structure Bus (κ : Type) where
  issued : Nat
  declared : Option (List (Listener κ))
  changed : Option (List (Listener κ))

namespace Bus

variable {κ : Type}

def empty : Bus κ := ⟨0, none, none⟩

def channel (b : Bus κ) : Notice.Kind → Option (List (Listener κ))
  | .declared => b.declared
  | .changed => b.changed

def setChannel (b : Bus κ) (kind : Notice.Kind) (ls : Option (List (Listener κ))) : Bus κ :=
  match kind with
  | .declared => { b with declared := ls }
  | .changed => { b with changed := ls }

def listeners (b : Bus κ) (kind : Notice.Kind) : List (Listener κ) := (b.channel kind).getD []

def subscribe (b : Bus κ) (kind : Notice.Kind) (callback : κ) : SubscriptionId × Bus κ :=
  let id : SubscriptionId := ⟨b.issued + 1⟩
  (id, { b.setChannel kind (some (b.listeners kind ++ [⟨id, callback⟩])) with
    issued := b.issued + 1 })

def unsubscribe (b : Bus κ) (id : SubscriptionId) : Bool × Bus κ :=
  let without (ls : List (Listener κ)) := ls.filter (·.id ≠ id)
  if (b.listeners .declared).any (·.id = id) then
    (true, { b with declared := b.declared.map without })
  else if (b.listeners .changed).any (·.id = id) then
    (true, { b with changed := b.changed.map without })
  else (false, b)

/-- Takes every listener out. Numbers go on from where they were. -/
def clear (b : Bus κ) : Bus κ := { b with declared := none, changed := none }

def mark (b : Bus κ) : SubscriptionId := ⟨b.issued⟩

def since (b : Bus κ) (mark : SubscriptionId) : List SubscriptionId :=
  (((b.listeners .declared ++ b.listeners .changed).map (·.id)).filter
    (mark.number < ·.number)).mergeSort (·.number ≤ ·.number)

def count (b : Bus κ) (kind : Notice.Kind) : Nat := (b.listeners kind).length

def summary (b : Bus κ) : String :=
  let show? (name : String) (ls : Option (List (Listener κ))) : Option String :=
    ls.map fun ls => name ++ ": " ++ displayNatural ls.length
  let shown := [show? "VariableDeclared" b.declared, show? "VariableChanged" b.changed]
  "ModuleEventBus \x7b listeners: \x7b" ++ ", ".intercalate (shown.filterMap id) ++ "\x7d \x7d"

end Bus

end Replay
