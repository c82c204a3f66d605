import Replay.Proofs.World.Calm
import Replay.Proofs.World.Loading
import Replay.Proofs.World.Pause

/-!
The register of modules. An id has the place of its first registration and the instance of its last
one, until everything is cleared. An event goes to those who are registered when it is delivered,
whatever happens to the register meanwhile.
-/
namespace Replay

variable {σ : Type}

namespace Registry

/-- What is done to a register; instances come with ids of their own. -/
inductive Request where
  | register (i : InstanceId)
  | clear

def serve (title : InstanceId → String) (r : Registry) : Request → Registry
  | .register i => r.register (title i) i
  | .clear => .empty

def after (title : InstanceId → String) (requests : List Request) : Registry :=
  requests.foldl (serve title) .empty

/-- What was registered since the register was last cleared, in order. -/
def entered (requests : List Request) : List InstanceId :=
  requests.foldl (fun named request => match request with
    | .register i => named ++ [i]
    | .clear => []) []

def newest (title : InstanceId → String) (named : List InstanceId) (id : String) :
    Option InstanceId :=
  named.reverse.find? (title · = id)

variable {title : InstanceId → String} {r : Registry} {id id' : String} {i : InstanceId}
  {named : List InstanceId}

theorem has_iff : r.has id = true ↔ id ∈ r.ids := by
  unfold has ids
  simp

theorem ids_register : (r.register id i).ids = if id ∈ r.ids then r.ids else r.ids ++ [id] := by
  have held : (r.entries.any (·.1 = id)) = true ↔ id ∈ r.ids := has_iff
  unfold register
  by_cases old : id ∈ r.ids
  · rw [if_pos (held.mpr old), if_pos old]
    unfold ids
    rw [List.map_map]
    refine List.map_congr_left fun entry _ => ?_
    dsimp only [Function.comp]
    split
    · exact Eq.symm ‹_›
    · rfl
  · rw [if_neg (mt held.mp old), if_neg old]
    exact List.map_append

theorem lookup_replace (entries : List (String × InstanceId)) :
    (entries.map fun entry => if entry.1 = id then (id, i) else entry).lookup id' =
      if id = id' then (entries.lookup id').map fun _ => i else entries.lookup id' := by
  induction entries with
  | nil => simp
  | cons entry rest ih =>
    rw [List.map_cons, List.lookup_cons, List.lookup_cons, ih]
    by_cases same : entry.1 = id
    · by_cases wanted : id = id'
      · simp [same, wanted]
      · simp [same, wanted, beq_eq_false_iff_ne.mpr (Ne.symm wanted)]
    · by_cases wanted : id = id'
      · subst wanted
        simp [same, beq_eq_false_iff_ne.mpr (Ne.symm same)]
      · simp [same, wanted]

theorem lookup_eq_none : r.entries.lookup id = none ↔ id ∉ r.ids := by
  unfold ids
  rw [List.lookup_eq_none_iff, List.mem_map]
  exact ⟨fun none ⟨entry, mem, same⟩ => bne_iff_ne.mp (none entry mem) same.symm,
    fun none entry mem => bne_iff_ne.mpr fun same => none ⟨entry, mem, same.symm⟩⟩

theorem get_register :
    (r.register id i).get id' = if id = id' then .ok i else r.get id' := by
  have held : (r.entries.any (·.1 = id)) = true ↔ id ∈ r.ids := has_iff
  unfold register get
  by_cases old : id ∈ r.ids
  · rw [if_pos (held.mpr old)]
    dsimp only
    rw [lookup_replace]
    by_cases same : id = id'
    · subst same
      obtain ⟨j, found⟩ := Option.ne_none_iff_exists'.mp (mt lookup_eq_none.mp (not_not.mpr old))
      simp [found]
    · simp [same]
  · rw [if_neg (mt held.mp old)]
    dsimp only
    rw [List.lookup_append, List.lookup_cons]
    by_cases same : id = id'
    · subst same
      simp [lookup_eq_none.mpr old]
    · simp [same, beq_eq_false_iff_ne.mpr (Ne.symm same)]

theorem mem_register {entry : String × InstanceId} (h : entry ∈ (r.register id i).entries) :
    entry ∈ r.entries ∨ entry = (id, i) := by
  unfold register at h
  split at h
  · obtain ⟨old, mem, rfl⟩ := List.mem_map.mp h
    split
    · exact .inr rfl
    · exact .inl mem
  · exact (List.mem_append.mp h).imp_right List.mem_singleton.mp

theorem eraseDups_concat (l : List String) (a : String) :
    (l ++ [a]).eraseDups = if a ∈ l then l.eraseDups else l.eraseDups ++ [a] := by
  rw [List.eraseDups_append]
  by_cases old : a ∈ l
  · simp [old, List.removeAll]
  · simp [old, List.removeAll, List.eraseDups_cons]

/-- A register lists instances: their ids at their first places, each with its last instance. -/
structure Lists (r : Registry) (title : InstanceId → String) (named : List InstanceId) : Prop where
  ids : r.ids = (named.map title).eraseDups
  nodup : r.ids.Nodup
  get : ∀ id, r.get id = match newest title named id with
    | some i => .ok i
    | none => .error (.moduleNotFound id)
  titled : ∀ entry ∈ r.entries, title entry.2 = entry.1

theorem lists_empty : Lists .empty title [] := ⟨rfl, .nil, fun _ => rfl, nofun⟩

theorem Lists.mem_ids (h : r.Lists title named) : id ∈ r.ids ↔ id ∈ named.map title := by
  rw [h.ids, List.mem_eraseDups]

theorem Lists.register (h : r.Lists title named) (i : InstanceId) :
    (r.register (title i) i).Lists title (named ++ [i]) where
  ids := by
    rw [ids_register, List.map_append, List.map_singleton, eraseDups_concat, h.ids]
    simp only [List.mem_eraseDups]
  nodup := by
    rw [ids_register]
    split
    · exact h.nodup
    · exact List.concat_eq_append ▸ h.nodup.concat ‹_›
  get id := by
    unfold newest
    rw [get_register, List.reverse_append, List.reverse_singleton, List.singleton_append,
      List.find?_cons]
    by_cases same : title i = id
    · simp [same]
    · rw [if_neg same, decide_eq_false same]
      exact h.get id
  titled entry mem := by
    rcases mem_register mem with mem | rfl
    · exact h.titled entry mem
    · rfl

theorem lists_after (title : InstanceId → String) (requests : List Request) :
    (after title requests).Lists title (entered requests) := by
  induction requests using List.reverseRecOn with
  | nil => exact lists_empty
  | append_singleton requests request ih =>
    unfold after entered at ih ⊢
    rw [List.foldl_concat, List.foldl_concat]
    cases request with
    | register i => exact ih.register i
    | clear => exact lists_empty

theorem Lists.all (h : r.Lists title named) : r.ids.map r.get = r.all.map .ok := by
  unfold Registry.ids Registry.all
  rw [List.map_map, List.map_map]
  exact List.map_congr_left fun entry mem => get_of_mem h.nodup mem

theorem Lists.all_nodup (h : r.Lists title named) : r.all.Nodup := by
  have same : r.all.map title = r.ids := by
    unfold Registry.all Registry.ids
    rw [List.map_map]
    exact List.map_congr_left h.titled
  exact .of_map title (same ▸ h.nodup)

end Registry

namespace World

variable {w v : World σ} {c : Call} {is : List InstanceId} {halt : Halt} {i : InstanceId}
  {event : Event} {history : Trace}

/-- Calls that are cut off are cut off in one of them, and all before it came to their end. -/
theorem callAll_error (h : (callAll c is).run w = (.error halt, v)) :
    ∃ before i rest u, is = before ++ i :: rest ∧ (callAll c before).run w = (.ok (), u) ∧
      (call i c).run u = (.error halt, v) := by
  induction is generalizing w with
  | nil => cases h
  | cons i rest ih =>
    unfold callAll at h
    rw [Act.run_bind] at h
    cases called : (call i c).run w with
    | mk result u =>
      rw [called] at h
      cases result with
      | error halt' =>
        cases h
        exact ⟨[], i, rest, w, rfl, rfl, called⟩
      | ok _ =>
        obtain ⟨before, j, rest', u', rfl, ended, cut⟩ := ih h
        refine ⟨i :: before, j, rest', u', rfl, ?_, cut⟩
        unfold callAll
        rw [Act.run_bind, called]
        exact ended

/-- Where calls are cut off, all before the last one came to their end, and that one was begun. -/
theorem callAll_cut (idle : w.busy = []) (there : ∀ i ∈ is, w.body? i ≠ none)
    (h : (callAll c is).run w = (.error halt, v)) :
    ∃ before i rest u b, is = before ++ i :: rest ∧ (callAll c before).run w = (.ok (), u) ∧
      (call i c).run u = (.error halt, v) ∧ Discipline.free.Steps (u.begin i b c) v := by
  obtain ⟨before, i, rest, u, rfl, ended, cut⟩ := callAll_error h
  have moves := w.confined_true.moves_callAll c before
  rw [ended] at moves
  obtain ⟨b, here⟩ := Option.ne_none_iff_exists'.mp fun none => by
    rw [← cast_eq_none, moves.cast, cast_eq_none] at none
    exact there i (List.mem_append_right _ List.mem_cons_self) none
  have steps := Discipline.free.steps_call (c := c) here
    (isBusy_of_idle (moves.busy.trans idle) i) (fun _ _ => trivial) Discipline.tame_free
  rw [cut] at steps
  exact ⟨before, i, rest, u, b, rfl, ended, cut, steps⟩

/-- An event whose delivery is cut off has reached those up to the one that cuts it off. -/
theorem heard_cut (idle : w.busy = []) (there : ∀ i ∈ is, w.body? i ≠ none) (nodup : is.Nodup)
    (h : (callAll (.handle event history) is).run w = (.error halt, v)) :
    ∃ before i rest u, is = before ++ i :: rest ∧
      (callAll (.handle event history) before).run w = (.ok (), u) ∧
      (call i (.handle event history)).run u = (.error halt, v) ∧
      v.deliveries = w.deliveries ++ (before ++ [i]).map (·, event, history) ∧
      ∀ j, v.calls j = w.calls j ++ if j ∈ before ++ [i] then [.handle event history] else [] := by
  obtain ⟨before, i, rest, u, b, rfl, ended, cut, steps⟩ := callAll_cut idle there h
  have there : ∀ j ∈ before, w.body? j ≠ none := fun j mem => there j (List.mem_append_left _ mem)
  obtain ⟨first, -, apart⟩ := List.nodup_append.mp nodup
  refine ⟨before, i, rest, u, rfl, ended, cut, ?_, fun j => ?_⟩
  · rw [steps.deliveries, deliveries_begin, deliveries_callAll there ended, List.map_append,
      List.append_assoc]
    rfl
  · obtain ⟨n, eq, -, all⟩ := calls_callAll (j := j) ended
    rw [steps.calls, calls_begin, eq, all rfl there, first.count]
    by_cases last : i = j
    · subst last
      have fresh : i ∉ before := fun mem => apart i mem i List.mem_cons_self rfl
      simp [fresh]
    · rw [if_neg last]
      congr 1
      by_cases mem : j ∈ before <;> simp [mem, Ne.symm last]

end World

/-- A register has every id once, at the place of its first registration since it was last cleared,
and finds the instance that was registered last. An event that is delivered to it goes to those who
are registered then, in their order: to all of them if the delivery comes to its end, and as far as
the one that cuts it off if it does not. It comes to its end where none of them panics and
publications are not nested too deeply, whatever they and their listeners do to the register. -/
theorem register_keeps_places {title : InstanceId → String} {requests : List Registry.Request}
    {r : Registry} (reached : Registry.after title requests = r) :
    r.ids = ((Registry.entered requests).map title).eraseDups ∧ r.ids.Nodup ∧ r.all.Nodup ∧
    r.ids.map r.get = r.all.map .ok ∧ r.all.length = r.ids.length ∧
    (∀ id, r.get id = match Registry.newest title (Registry.entered requests) id with
      | some i => .ok i
      | none => .error (.moduleNotFound id)) ∧
    (∀ id, r.has id = true ↔ id ∈ (Registry.entered requests).map title) ∧
    ∀ (w : World σ) event history, w.registry = r → w.busy = [] →
      (∀ i ∈ r.all, w.title? i = some (title i)) →
      ∀ result v, (World.broadcast event history).run w = (result, v) →
        (∃ told rest, r.all = told ++ rest ∧
          v.deliveries = w.deliveries ++ told.map (·, event, history) ∧
          (result = .ok () → rest = [])) ∧
        ((∀ i ∈ r.all, ∀ m, w.body? i = some (.foreign m) →
            (m.respond i (.handle event history)).Calm) →
          result = .ok () ∨ result = .error .overflow) := by
  have lists := reached ▸ Registry.lists_after title requests
  refine ⟨lists.ids, lists.nodup, lists.all_nodup, lists.all, ?_, lists.get,
    fun id => Registry.has_iff.trans lists.mem_ids, ?_⟩
  · unfold Registry.all Registry.ids
    rw [List.length_map, List.length_map]
  · rintro w event history rfl idle titled result v ran
    have there : ∀ i ∈ w.registry.all, w.body? i ≠ none := fun i mem =>
      World.there_of_title? (titled i mem)
    have called : (World.callAll (.handle event history) w.registry.all).run w = (result, v) := ran
    constructor
    · cases result with
      | ok =>
        exact ⟨_, [], (List.append_nil _).symm, World.deliveries_callAll there called, fun _ => rfl⟩
      | error halt =>
        obtain ⟨before, i, rest, -, split, -, -, deliveries, -⟩ :=
          World.heard_cut idle there lists.all_nodup called
        exact ⟨before ++ [i], rest, split.trans (by simp), deliveries, nofun⟩
    · intro calm
      have ends := World.ends_callAll (.handle event history) w.registry.all idle calm
      unfold Act.Ends at ends
      rw [called] at ends
      cases result with
      | ok => exact .inl rfl
      | error halt => exact .inr (congrArg _ (ends halt rfl))

def ForeignModule.usurper (id : String) : ForeignModule Unit where
  id := id
  dependencies := []
  kind := "usurper"
  respond i c := match c with
    | .handle .. => .clearRegistry (.register i .done)
    | _ => .done

def Registry.doubled (i : InstanceId) : String := if i = ⟨1⟩ then "b" else "a"

def World.usurped : World Unit :=
  { World.new .builtin .recording {} 8 () with
    instances := ["a", "b", "a"].map fun id => .foreign (.usurper id)
    registry := .after Registry.doubled [.register ⟨0⟩, .register ⟨1⟩, .register ⟨2⟩] }

theorem register_keeps_places_of_usurped :
    let event : Event := .init (.variable "x") ⟨.boolean true, .literal⟩
    World.usurped.registry.ids = ["a", "b"] ∧ World.usurped.registry.get "a" = .ok ⟨2⟩ ∧
    ∃ v, (World.broadcast event [event]).run World.usurped = (.ok (), v) ∧
      v.deliveries = [(⟨2⟩, event, [event]), (⟨1⟩, event, [event])] ∧
      v.registry.all = [⟨1⟩] := by
  intro event
  have reached : Registry.after Registry.doubled [.register ⟨0⟩, .register ⟨1⟩, .register ⟨2⟩] =
    World.usurped.registry := rfl
  obtain ⟨-, -, -, -, -, get, -, broadcast⟩ := register_keeps_places (σ := Unit) reached
  have titled : ∀ i ∈ World.usurped.registry.all,
      World.usurped.title? i = some (Registry.doubled i) := by decide +kernel
  have all : World.usurped.registry.all = [⟨2⟩, ⟨1⟩] := by decide +kernel
  have ran : (World.broadcast event [event]).run World.usurped = (.ok (), _) :=
    Act.run_eq_of_fst (by decide +kernel)
  have left : ((World.broadcast event [event]).run World.usurped).2.registry.all = [⟨1⟩] := by
    decide +kernel
  obtain ⟨⟨told, rest, split, deliveries, whole⟩, -⟩ :=
    broadcast World.usurped event [event] rfl rfl titled _ _ ran
  rw [whole rfl, List.append_nil, all] at split
  rw [← split] at deliveries
  have newest : Registry.newest Registry.doubled
      (Registry.entered [.register ⟨0⟩, .register ⟨1⟩, .register ⟨2⟩]) "a" = some ⟨2⟩ := by
    decide +kernel
  have named := get "a"
  rw [newest] at named
  exact ⟨by decide +kernel, named, _, ran, deliveries, left⟩

end Replay
