import Replay.Proofs.Module.Ledger

/-!
What is in a place at a moment of a trace: what was written there last. The state after two traces
is that of the first, overridden by that of the second, and an event that writes to no place leaves
no mark wherever it stands.
-/
namespace Replay

namespace Event

/-- Whether an event writes to no place: it compares, it is unknown, or its value goes to something
that is not a place. -/
def isIdle : Event → Bool
  | init target _ | assign _ target _ =>
    match target with
    | .variable _ | .slot .. => false
    | .expression | .literal | .none | .unknown _ => true
  | compare .. | unknown _ => true

def WritesTo (e : Event) (place : Location) (value : Tracked) : Prop :=
  e.target? = some place ∧ e.written? = some value

variable {e : Event} {place : Location} {s : Snapshot}

theorem target?_eq_none_iff : e.target? = none ↔ e.isIdle = true := by
  cases e with
  | init target value => cases target <;> simp [target?, Source.location?, isIdle]
  | assign source target value => cases target <;> simp [target?, Source.location?, isIdle]
  | compare | unknown => exact iff_of_true rfl rfl

theorem apply_of_isIdle (idle : e.isIdle = true) : e.apply s = s := by
  unfold apply
  rw [target?_eq_none_iff.mpr idle]

theorem exists_writesTo (target : e.target? = some place) : ∃ value, e.WritesTo place value := by
  cases e with
  | init | assign => exact ⟨_, target, rfl⟩
  | compare | unknown => cases target

end Event

namespace Trace

variable {events : Trace} {place : Location} {value : Tracked}

theorem getElem?_ending : (ending events)[place]? = some value ↔
    Since (fun _ e => e.WritesTo place value) (·.target? = some place) events := by
  induction events using List.reverseRecOn with
  | nil => exact ⟨nofun, fun since => absurd since not_since_nil⟩
  | append_singleton events e ih =>
    rw [ending_concat, Event.getElem?_apply, since_concat, ← ih]
    by_cases here : e.target? = some place
    · simp [here, Event.WritesTo]
    · simp [here, Event.WritesTo]

theorem not_mem_ending : place ∉ ending events ↔ ∀ e ∈ events, e.target? ≠ some place := by
  rw [Std.TreeMap.mem_iff_isSome_getElem?, Option.not_isSome_iff_eq_none]
  induction events using List.reverseRecOn with
  | nil => exact ⟨fun _ _ => nofun, fun _ => rfl⟩
  | append_singleton events e ih =>
    rw [ending_concat, Event.getElem?_apply, List.forall_mem_append, List.forall_mem_singleton,
      ← ih]
    by_cases here : e.target? = some place
    · obtain ⟨value, -, written⟩ := Event.exists_writesTo here
      simp [here, written]
    · simp [here]

theorem getElem?_ending_append (a b : Trace) (place : Location) :
    (ending (a ++ b))[place]? = (ending b)[place]?.or (ending a)[place]? := by
  induction b using List.reverseRecOn with
  | nil =>
    rw [List.append_nil]
    rfl
  | append_singleton b e ih =>
    rw [← List.append_assoc, ending_concat, ending_concat, Event.getElem?_apply,
      Event.getElem?_apply, ih]
    split
    · obtain ⟨value, -, written⟩ := Event.exists_writesTo ‹_›
      rw [written, Option.some_or]
    · rfl

theorem ending_append (a b : Trace) : (ending (a ++ b)).Equiv (ending a ∪ ending b) :=
  .of_forall_constGet?_eq fun place =>
    (getElem?_ending_append a b place).trans Std.TreeMap.getElem?_union.symm

theorem ending_of_isIdle {e : Event} (idle : e.isIdle = true) (a b : Trace) :
    ending (a ++ e :: b) = ending (a ++ b) := by
  unfold ending
  rw [List.foldl_append, List.foldl_append, List.foldl_cons, Event.apply_of_isIdle idle]

theorem stateAt_eq (events : Trace) (count : Nat) :
    stateAt events count = ending (events.take (min count events.length)) := by
  rw [← List.take_eq_take_min]
  rfl

theorem stateAt_append (a b : Trace) (n : Nat) :
    stateAt (a ++ b) (a.length + n) = ending (a ++ b.take n) := by
  unfold stateAt
  rw [List.take_length_add_append]
  rfl

/-- The state after a number of events. Two traces one after the other: what the second writes
overrides what the first has written. Of one trace: a place holds what the last of these events that
writes to it has written, and nothing if none of them does. Events that write to no place could be
left out. -/
theorem last_write_stands :
    (∀ (a b : Trace) (n : Nat),
      (stateAt (a ++ b) (a.length + n)).Equiv (stateAt a a.length ∪ stateAt b n)) ∧
    (∀ (events : Trace) (count : Nat) (place : Location),
      (∀ value, (stateAt events count)[place]? = some value ↔
        Since (fun _ e => e.WritesTo place value) (·.target? = some place)
          (events.take (min count events.length))) ∧
      (place ∉ stateAt events count ↔
        ∀ e ∈ events.take (min count events.length), e.target? ≠ some place)) ∧
    (∀ (a b : Trace) (e : Event) (n : Nat), e.isIdle = true →
      stateAt (a ++ e :: b) (a.length + (n + 1)) = stateAt (a ++ b) (a.length + n)) := by
  refine ⟨fun a b n => ?_, fun events count place => ⟨fun value => ?_, ?_⟩, fun a b e n idle => ?_⟩
  · have whole : stateAt a a.length = ending a := congrArg ending a.take_length
    rw [stateAt_append, whole]
    exact ending_append a (b.take n)
  · rw [stateAt_eq]
    exact getElem?_ending
  · rw [stateAt_eq]
    exact not_mem_ending
  · rw [stateAt_append, stateAt_append, List.take_succ_cons]
    exact ending_of_isIdle idle a (b.take n)

def rewritten : Trace :=
  [.init (.variable "x") ⟨.boolean false, .literal⟩,
    .compare ⟨.nil, .none⟩ ⟨.nil, .none⟩ true,
    .assign .expression (.slot 7 0) ⟨.nil, .expression⟩,
    .assign .literal (.variable "x") ⟨.boolean true, .literal⟩,
    .assign .literal .expression ⟨.nil, .literal⟩]

theorem last_write_stands_of_rewritten :
    (stateAt rewritten 100)[Location.variable "x"]? = some ⟨.boolean true, .literal⟩ ∧
    Location.slot 7 1 ∉ stateAt rewritten 4 ∧
    (Event.compare ⟨.nil, .none⟩ ⟨.nil, .none⟩ true).isIdle = true ∧
    stateAt rewritten 5 = stateAt (rewritten.eraseIdx 1) 4 := by
  obtain ⟨-, stands, idle⟩ := last_write_stands
  refine ⟨((stands rewritten 100 _).1 _).mpr ?_, (stands rewritten 4 _).2.mpr ?_, rfl, ?_⟩
  · refine ⟨rewritten.take 3, rewritten[3], rewritten.drop 4, rfl, ⟨rfl, rfl⟩, ?_⟩
    decide
  · decide
  · exact idle (rewritten.take 1) (rewritten.drop 2) _ 3 rfl

end Trace

end Replay
