import Replay.Bus
import Replay.Module.Call
import Replay.Variable
import Std.Data.TreeMap

/-!
The module that shows a box for every variable. A variable is declared by its first `init` event;
an assignment to a name that is not declared is ignored. Every call is answered by the module as it
is afterwards, the renderer as it is afterwards, and at most one notice to publish: when a listener
hears of a change, variable and box have it already.
-/
namespace Replay

/-- Declared variables by name. -/
structure Roster where
  entries : Std.TreeMap String Variable
  /-- A variable stands under its own name. -/
  named : ∀ {key : String} {v : Variable}, entries[key]? = some v → v.name = key

namespace Roster

def empty : Roster := ⟨∅, fun none => by simp at none⟩

def enter (t : Roster) (v : Variable) : Roster where
  entries := t.entries.insert v.name v
  named {key w} there := by
    rw [Std.TreeMap.getElem?_insert] at there
    split at there
    · cases there
      exact Std.LawfulEqOrd.eq_of_compare ‹_›
    · exact t.named there

/-- Gives the variable under a name, if there is one, another value. -/
def renew (t : Roster) (name : String) (value : Tracked) : Roster where
  entries := t.entries.modify name fun v => { v with data := value }
  named {key w} there := by
    rw [Std.TreeMap.getElem?_modify] at there
    split at there
    · obtain ⟨v, old, rfl⟩ := Option.map_eq_some_iff.mp there
      exact (t.named old).trans (Std.LawfulEqOrd.eq_of_compare ‹_›)
    · exact t.named there

def erase (t : Roster) (name : String) : Roster where
  entries := t.entries.erase name
  named {key w} there := by
    rw [Std.TreeMap.getElem?_erase] at there
    split at there
    · cases there
    · exact t.named there

/-- The values by name. -/
def data (t : Roster) : Std.TreeMap String Tracked := t.entries.map fun _ v => v.data

end Roster

structure Variables where
  roster : Roster
  /-- The box of each variable that has one. -/
  boxes : Std.TreeMap String ElementId
  /-- The surface to put boxes on, once the module is initialised. -/
  surface : Option Surface
  destroyed : Bool

namespace Variables

def name : String := "variables"

def blank : Variables := ⟨.empty, ∅, none, false⟩

structure Outcome where
  module : Variables
  renderer : Renderer
  notice : Option Notice

def get? (m : Variables) (name : String) : Option Variable := m.roster.entries[name]?

def data (m : Variables) : Std.TreeMap String Tracked := m.roster.data

def publishing (m : Variables) (n : Notice) : Option Notice :=
  if m.surface.isSome then some n else none

def change (m : Variables) (r : Renderer) (name : String) (existing : Variable) (new : Tracked) :
    Outcome :=
  let m := { m with roster := m.roster.renew name new }
  let r := match m.boxes[name]? with
    | some box => r.updateElement box { existing with data := new }.spec
    | none => r
  ⟨m, r, m.publishing (.changed name existing.data new)⟩

/-- Gives a name its first value, and a box if there is a surface to put it on. -/
def declare (m : Variables) (r : Renderer) (name : String) (value : Tracked) : Outcome :=
  let new : Variable := ⟨name, value⟩
  let (boxes, r) := match m.surface with
    | some s =>
      let (box, r) := r.createElement s.id new.spec
      (m.boxes.insert name box, r)
    | none => (m.boxes, r)
  let m := { m with roster := m.roster.enter new, boxes }
  ⟨m, r, m.publishing (.declared name value)⟩

def initialise (m : Variables) (r : Renderer) (name : String) (value : Tracked) : Outcome :=
  match m.get? name with
  | some existing => m.change r name existing value
  | none => m.declare r name value

def assign (m : Variables) (r : Renderer) (name : String) (value : Tracked) : Outcome :=
  match m.get? name with
  | some existing => m.change r name existing value
  | none => ⟨m, r, none⟩

def handle (m : Variables) (r : Renderer) (event : Event) : Outcome :=
  if m.destroyed then ⟨m, r, none⟩
  else match event with
    | .init (.variable name) value => m.initialise r name value
    | .assign _ (.variable name) value => m.assign r name value
    | _ => ⟨m, r, none⟩

/-- Removes all boxes, in the order of their names, and all variables. -/
def clear (m : Variables) (r : Renderer) : Variables × Renderer :=
  ({ m with roster := .empty, boxes := ∅ }, m.boxes.foldl (fun r _ box => r.removeElement box) r)

def respond (m : Variables) (r : Renderer) : Call → Outcome
  | .init _ own => ⟨{ m with surface := some own, destroyed := false }, r, none⟩
  | .handle event _ => m.handle r event
  | .reset =>
    let (m, r) := m.clear r
    ⟨m, r, none⟩
  | .destroy =>
    let (m, r) := m.clear r
    ⟨{ m with surface := none, destroyed := true }, r, none⟩
  | .update _ => ⟨m, r, none⟩

/-- Takes out a variable and its box, and tells what the variable was. -/
def remove (m : Variables) (r : Renderer) (name : String) :
    Option Variable × Variables × Renderer :=
  let r := match m.boxes[name]? with
    | some box => r.removeElement box
    | none => r
  (m.get? name, { m with roster := m.roster.erase name, boxes := m.boxes.erase name }, r)

def boxCount (m : Variables) : Nat := m.boxes.size

def count (m : Variables) : Nat := m.roster.entries.size

/-- The variables with the names they stand under, by these names. -/
def toList (m : Variables) : List (String × Variable) := m.roster.entries.toList

end Variables

end Replay
