import Replay.Trace.Basic
import Std.Data.TreeMap

/-! The state of every place after the front of a trace: each place holds what was last written. -/
namespace Replay

namespace Location

def compareSlots : UInt64 × UInt64 → UInt64 × UInt64 → Ordering :=
  compareLex (compareOn Prod.fst) (compareOn Prod.snd)

protected def compare : Location → Location → Ordering
  | .variable a, .variable b => Ord.compare a b
  | .variable _, .slot .. => .lt
  | .slot .., .variable _ => .gt
  | .slot a i, .slot b j => compareSlots (a, i) (b, j)

instance : Ord Location := ⟨Location.compare⟩

instance : Std.TransCmp compareSlots := by unfold compareSlots; infer_instance

theorem eq_of_compareSlots {a i b j : UInt64} (h : compareSlots (a, i) (b, j) = .eq) :
    a = b ∧ i = j := by
  simp only [compareSlots, compareLex, compareOn, Ordering.then_eq_eq] at h
  exact ⟨Std.LawfulEqCmp.eq_of_compare h.1, Std.LawfulEqCmp.eq_of_compare h.2⟩

instance : Std.TransOrd Location where
  eq_swap {a b} := by
    cases a <;> cases b
    · exact @Std.OrientedCmp.eq_swap String Ord.compare _ _ _
    · rfl
    · rfl
    · exact @Std.OrientedCmp.eq_swap _ compareSlots _ _ _
  isLE_trans {a b c} hab hbc := by
    cases a <;> cases b <;> cases c
    · exact @Std.TransCmp.isLE_trans String Ord.compare _ _ _ _ hab hbc
    · rfl
    · cases hbc
    · rfl
    · cases hab
    · cases hab
    · cases hbc
    · exact @Std.TransCmp.isLE_trans _ compareSlots _ _ _ _ hab hbc

instance : Std.LawfulEqOrd Location where
  compare_self {a} := by
    cases a
    · exact @Std.ReflCmp.compare_self String Ord.compare _ _
    · exact @Std.ReflCmp.compare_self _ compareSlots _ _
  eq_of_compare {a b} h := by
    cases a <;> cases b
    · exact congrArg _ (@Std.LawfulEqCmp.eq_of_compare String Ord.compare _ _ _ h)
    · cases h
    · cases h
    · obtain ⟨rfl, rfl⟩ := eq_of_compareSlots h
      rfl

end Location

abbrev Snapshot := Std.TreeMap Location Tracked

/-- A snapshot after one more event. -/
def Event.apply (event : Event) (s : Snapshot) : Snapshot :=
  match event.target?, event.written? with
  | some location, some value => s.insert location value
  | _, _ => s

namespace Trace

/-- What each place holds after the first `count` events; a trace has no more than all of them. -/
def stateAt (events : Trace) (count : Nat) : Snapshot :=
  (events.take count).foldl (fun s e => e.apply s) ∅

end Trace

end Replay
