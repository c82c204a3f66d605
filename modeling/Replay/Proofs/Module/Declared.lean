import Mathlib.Data.List.Induction
import Replay.Module.Variables
import Replay.Trace.State

/-!
Which variables a trace declares, and that the variables module tracks them: it holds of each
declared variable what the state of the timeline holds of it, and nothing else.
-/
namespace Replay

def Event.declare (names : List String) : Event → List String
  | .init (.variable name) _ => if name ∈ names then names else names ++ [name]
  | _ => names

namespace Trace

def declared (events : Trace) : List String := events.foldl (fun names e => e.declare names) []

def ending (events : Trace) : Snapshot := events.foldl (fun s e => e.apply s) ∅

variable {events : Trace} {e : Event} {name : String}

theorem declared_concat : declared (events ++ [e]) = e.declare (declared events) := by
  unfold declared
  rw [List.foldl_append]
  rfl

theorem ending_concat : ending (events ++ [e]) = e.apply (ending events) := by
  unfold ending
  rw [List.foldl_append]
  rfl

theorem mem_declare {names : List String} : name ∈ e.declare names ↔
    name ∈ names ∨ ∃ value, e = .init (.variable name) value := by
  unfold Event.declare
  split
  · rename_i other value
    by_cases same : name = other
    · subst same
      split <;> simp_all
    · split <;> simp_all [Ne.symm same]
  · rename_i other
    refine ⟨.inl, fun h => h.resolve_right ?_⟩
    rintro ⟨value, rfl⟩
    exact other name value rfl

theorem declare_cases (e : Event) (names : List String) : e.declare names = names ∨
    ∃ name value, e = .init (.variable name) value ∧ name ∉ names ∧
      e.declare names = names ++ [name] := by
  unfold Event.declare
  split
  · split
    · exact .inl rfl
    · exact .inr ⟨_, _, rfl, ‹_›, rfl⟩
  · exact .inl rfl

theorem mem_declared : name ∈ declared events ↔
    ∃ value, Event.init (.variable name) value ∈ events := by
  induction events using List.reverseRecOn with
  | nil => simp [declared]
  | append_singleton events e ih =>
    rw [declared_concat, mem_declare, ih]
    simp only [List.mem_append, List.mem_singleton, exists_or, eq_comm]

example (v : Tracked) : declared [.init (.variable "y") v, .assign .literal (.variable "z") v,
    .init (.variable "x") v, .init (.variable "y") v] = ["y", "x"] := rfl

theorem nodup_declare {names : List String} (h : names.Nodup) : (e.declare names).Nodup := by
  unfold Event.declare
  split
  · split
    · exact h
    · rename_i fresh
      refine List.nodup_append.mpr ⟨h, List.pairwise_singleton _ _, ?_⟩
      intro a mem b mem' eq
      rw [List.mem_singleton] at mem'
      exact fresh (mem' ▸ eq ▸ mem)
  · exact h

theorem nodup_declared : (declared events).Nodup := by
  induction events using List.reverseRecOn with
  | nil => exact List.nodup_nil
  | append_singleton events e ih =>
    rw [declared_concat]
    exact nodup_declare ih

end Trace

theorem getElem?_insert_eq {κ α : Type} [Ord κ] [Std.TransOrd κ] [Std.LawfulEqOrd κ]
    [DecidableEq κ] (t : Std.TreeMap κ α) (k a : κ) (v : α) :
    (t.insert k v)[a]? = if k = a then some v else t[a]? := by
  rw [Std.TreeMap.getElem?_insert]
  by_cases same : k = a
  · rw [if_pos same, if_pos (Std.compare_eq_iff_eq.mpr same)]
  · rw [if_neg same, if_neg fun eq => same (Std.compare_eq_iff_eq.mp eq)]

theorem getElem?_erase_eq {κ α : Type} [Ord κ] [Std.TransOrd κ] [Std.LawfulEqOrd κ]
    [DecidableEq κ] (t : Std.TreeMap κ α) (k a : κ) :
    (t.erase k)[a]? = if k = a then none else t[a]? := by
  rw [Std.TreeMap.getElem?_erase]
  by_cases same : k = a
  · rw [if_pos same, if_pos (Std.compare_eq_iff_eq.mpr same)]
  · rw [if_neg same, if_neg fun eq => same (Std.compare_eq_iff_eq.mp eq)]

theorem getElem?_modify_eq {κ α : Type} [Ord κ] [Std.TransOrd κ] [Std.LawfulEqOrd κ]
    [DecidableEq κ] {t : Std.TreeMap κ α} {a b : κ} {f : α → α} :
    (t.modify a f)[b]? = if a = b then t[a]?.map f else t[b]? := by
  rw [Std.TreeMap.getElem?_modify]
  simp only [Std.compare_eq_iff_eq]

theorem Source.location?_eq_variable {source : Source} {name : String} :
    source.location? = some (.variable name) ↔ source = .variable name := by
  cases source <;> simp [location?]

theorem Event.getElem?_apply (e : Event) (s : Snapshot) (place : Location) :
    (e.apply s)[place]? = if e.target? = some place then e.written? else s[place]? := by
  unfold apply
  cases target : e.target? with
  | none => exact (if_neg nofun).symm
  | some other =>
    cases e with
    | init | assign =>
      dsimp only [written?]
      simp only [getElem?_insert_eq, Option.some.injEq]
    | compare | unknown => cases target

namespace Trace

variable {events : Trace} {e : Event} {name : String}

theorem ending_concat_variable : (ending (events ++ [e]))[Location.variable name]? =
    match e with
    | .init target value | .assign _ target value =>
      if target = .variable name then some value else (ending events)[Location.variable name]?
    | .compare .. | .unknown _ => (ending events)[Location.variable name]? := by
  rw [ending_concat, Event.getElem?_apply]
  cases e with
  | init target value =>
    simp only [Event.target?, Event.written?, Source.location?_eq_variable]
  | assign source target value =>
    simp only [Event.target?, Event.written?, Source.location?_eq_variable]
  | compare left right result => rfl
  | unknown raw => rfl

theorem isSome_of_declared (h : name ∈ declared events) :
    ((ending events)[Location.variable name]?).isSome = true := by
  induction events using List.reverseRecOn with
  | nil => cases h
  | append_singleton events e ih =>
    rw [declared_concat, mem_declare] at h
    rw [ending_concat_variable]
    cases e with
    | init target value =>
      dsimp only
      split
      · rfl
      · rename_i other
        refine ih (h.resolve_right ?_)
        rintro ⟨_, eq⟩
        cases eq
        exact other rfl
    | assign source target value =>
      dsimp only
      split
      · rfl
      · exact ih (h.resolve_right (by rintro ⟨_, eq⟩; cases eq))
    | compare left right result => exact ih (h.resolve_right (by rintro ⟨_, eq⟩; cases eq))
    | unknown raw => exact ih (h.resolve_right (by rintro ⟨_, eq⟩; cases eq))

end Trace

/-- Whether an event gives a variable a value, its first or another one. -/
def Event.Writes (e : Event) (name : String) (value : Tracked) : Prop :=
  e = .init (.variable name) value ∨ ∃ source, e = .assign source (.variable name) value

namespace Variables

def Tracks (m : Variables) (events : Trace) : Prop :=
  ∀ name, m.data[name]? = if name ∈ events.declared then
    events.ending[Location.variable name]? else none

variable {m : Variables} {r : Renderer} {events : Trace} {e : Event} {name : String}
  {value : Tracked}

theorem get?_eq : m.get? name = m.data[name]?.map (Variable.mk name) := by
  have data : m.data[name]? = (m.get? name).map Variable.data := Std.TreeMap.getElem?_map
  rw [data, Option.map_map]
  cases there : m.get? name with
  | none => rfl
  | some v => exact congrArg (fun other => some (Variable.mk other v.data)) (m.roster.named there)

theorem toList_eq : m.toList = m.data.toList.map fun (name, value) => (name, ⟨name, value⟩) := by
  unfold toList data Roster.data
  rw [Std.TreeMap.toList_map, List.map_map]
  refine ((List.map_congr_left ?_).trans (List.map_id _)).symm
  rintro ⟨name, v⟩ mem
  have named := m.roster.named (Std.TreeMap.mem_toList_iff_getElem?_eq_some.mp mem)
  subst named
  rfl

theorem getElem?_data_change {existing : Variable} {other : String} :
    (m.change r name existing value).module.data[other]? =
      if name = other then m.data[other]?.map fun _ => value else m.data[other]? := by
  unfold data Roster.data change Roster.renew
  dsimp only
  rw [Std.TreeMap.getElem?_map, getElem?_modify_eq, Std.TreeMap.getElem?_map]
  split
  · rename_i same
    rw [same, Option.map_map, Option.map_map]
    rfl
  · rfl

theorem getElem?_data_change_of_held {existing : Variable} {old : Tracked} {other : String}
    (held : m.data[name]? = some old) : (m.change r name existing value).module.data[other]? =
      if name = other then some value else m.data[other]? := by
  rw [getElem?_data_change]
  split
  · rename_i same
    rw [← same, held]
    rfl
  · rfl

theorem getElem?_data_declare {other : String} : (m.declare r name value).module.data[other]? =
    if name = other then some value else m.data[other]? := by
  unfold data Roster.data declare Roster.enter
  dsimp only
  rw [Std.TreeMap.getElem?_map, getElem?_insert_eq, Std.TreeMap.getElem?_map]
  split <;> rfl

theorem getElem?_data_remove {other : String} : (m.remove r name).2.1.data[other]? =
    if name = other then none else m.data[other]? := by
  unfold data Roster.data remove Roster.erase
  dsimp only
  rw [Std.TreeMap.getElem?_map, getElem?_erase_eq, Std.TreeMap.getElem?_map]
  split <;> rfl

theorem Tracks.mem_iff (h : m.Tracks events) :
    name ∈ events.declared ↔ (m.data[name]?).isSome = true := by
  rw [h name]
  split
  · exact ⟨fun _ => Trace.isSome_of_declared ‹_›, fun _ => ‹_›⟩
  · exact ⟨fun declared => absurd declared ‹_›, nofun⟩

theorem Tracks.getElem?_eq_some (h : m.Tracks events) : m.data[name]? = some value ↔
    events.ending[Location.variable name]? = some value ∧
      ∃ first, Event.init (.variable name) first ∈ events := by
  rw [h name, ← Trace.mem_declared]
  split
  · exact ⟨fun eq => ⟨eq, ‹_›⟩, And.left⟩
  · exact ⟨nofun, fun both => absurd both.2 ‹_›⟩

/-- An event changes a variable that is held, declares one that is not, or is ignored. -/
theorem handle_cases (live : m.destroyed = false) :
    (∃ name old value, m.data[name]? = some old ∧ e.Writes name value ∧
      m.handle r e = m.change r name ⟨name, old⟩ value) ∨
    (∃ name value, e = .init (.variable name) value ∧ m.data[name]? = none ∧
      m.handle r e = m.declare r name value) ∨
    (∀ name value, e.Writes name value → m.data[name]? = none ∧ e ≠ .init (.variable name) value) ∧
      m.handle r e = ⟨m, r, none⟩ := by
  unfold handle
  rw [live]
  simp only [Bool.false_eq_true, if_false]
  split
  · rename_i name value
    unfold initialise
    rw [get?_eq]
    cases held : m.data[name]? with
    | some old => exact .inl ⟨name, old, value, held, .inl rfl, rfl⟩
    | none => exact .inr (.inl ⟨name, value, rfl, held, rfl⟩)
  · rename_i source name value
    unfold assign
    rw [get?_eq]
    cases held : m.data[name]? with
    | some old => exact .inl ⟨name, old, value, held, .inr ⟨source, rfl⟩, rfl⟩
    | none =>
      refine .inr (.inr ⟨?_, rfl⟩)
      rintro other value' (eq | ⟨_, eq⟩)
      · cases eq
      · cases eq
        exact ⟨held, nofun⟩
  · rename_i no_init no_assign
    refine .inr (.inr ⟨?_, rfl⟩)
    rintro name value (rfl | ⟨source, rfl⟩)
    · exact absurd rfl (no_init name value)
    · exact absurd rfl (no_assign source name value)

theorem Tracks.change {old value : Tracked} (h : m.Tracks events) (held : m.data[name]? = some old)
    (writes : e.Writes name value) :
    (m.change r name ⟨name, old⟩ value).module.Tracks (events ++ [e]) ∧
      (events ++ [e]).declared = events.declared := by
  have declared : name ∈ events.declared := h.mem_iff.mpr (held ▸ rfl)
  have same : (events ++ [e]).declared = events.declared := by
    rw [Trace.declared_concat]
    rcases writes with rfl | ⟨source, rfl⟩
    · exact if_pos declared
    · rfl
  refine ⟨fun other => ?_, same⟩
  have after : (events ++ [e]).ending[Location.variable other]? =
      if name = other then some value else events.ending[Location.variable other]? := by
    rw [Trace.ending_concat_variable]
    rcases writes with rfl | ⟨source, rfl⟩ <;> simp only [Source.variable.injEq]
  rw [same, after, getElem?_data_change_of_held held, h other]
  by_cases eq : name = other
  · subst eq
    simp only [if_pos, declared]
  · simp only [if_neg eq]

theorem Tracks.declare (h : m.Tracks events) (value : Tracked) (fresh : m.data[name]? = none) :
    (m.declare r name value).module.Tracks (events ++ [Event.init (.variable name) value]) ∧
      (events ++ [Event.init (.variable name) value]).declared = events.declared ++ [name] := by
  have undeclared : name ∉ events.declared := by
    rw [h.mem_iff, fresh]
    exact Bool.false_ne_true
  have more : (events ++ [Event.init (.variable name) value]).declared =
      events.declared ++ [name] := by
    rw [Trace.declared_concat]
    exact if_neg undeclared
  refine ⟨fun other => ?_, more⟩
  rw [more, Trace.ending_concat_variable, getElem?_data_declare, h other]
  by_cases eq : name = other
  · subst eq
    simp
  · simp [eq, Ne.symm eq]

theorem Tracks.ignore (h : m.Tracks events)
    (ignored : ∀ name value, e.Writes name value →
      m.data[name]? = none ∧ e ≠ .init (.variable name) value) :
    m.Tracks (events ++ [e]) ∧ (events ++ [e]).declared = events.declared := by
  have same : (events ++ [e]).declared = events.declared := by
    rw [Trace.declared_concat]
    unfold Event.declare
    split
    · exact absurd rfl (ignored _ _ (.inl rfl)).2
    · rfl
  refine ⟨fun other => ?_, same⟩
  rw [same, h other]
  split
  · rename_i declared
    rw [Trace.ending_concat_variable]
    -- no declared variable is written
    have unwritten (value : Tracked) : ¬e.Writes other value := by
      intro writes
      have held := h.mem_iff.mp declared
      rw [(ignored other value writes).1] at held
      cases held
    cases e with
    | init target value =>
      refine (if_neg ?_).symm
      rintro rfl
      exact unwritten value (.inl rfl)
    | assign source target value =>
      refine (if_neg ?_).symm
      rintro rfl
      exact unwritten value (.inr ⟨source, rfl⟩)
    | compare left right result => rfl
    | unknown raw => rfl
  · rfl

end Variables

end Replay
