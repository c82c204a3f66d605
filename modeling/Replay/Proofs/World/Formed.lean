import Replay.Proofs.World.Strokes

/-!
What nothing but a poll changes about a world, whatever foreign code there is: a session gets no
further than by what is asked of it, instances stay what they are, and the registry stays well
formed. Loading a level is among the things that do so.
-/
namespace Replay

variable {σ : Type}

namespace Body

theorem id_eq (b : Body σ) : b.id = b.foreign?.elim Variables.name ForeignModule.id := by
  cases b <;> rfl

end Body

namespace World

variable {u v w : World σ} {i : InstanceId} {id : String}

def title? (w : World σ) (i : InstanceId) : Option String := (w.body? i).map Body.id

/-- No id is registered twice, and every registered instance is there and has its own id. -/
structure Formed (w : World σ) : Prop where
  nodup : w.registry.ids.Nodup
  titled : ∀ {id i}, (id, i) ∈ w.registry.entries → w.title? i = some id

theorem title?_eq : w.title? i =
    w.cast[i.number]?.map fun m => m.elim Variables.name ForeignModule.id := by
  unfold title? cast body?
  rw [List.getElem?_map, Option.map_map]
  congr 1
  funext b
  exact b.id_eq

theorem title?_extend (h : w.cast <+: v.cast) (titled : w.title? i = some id) :
    v.title? i = some id := by
  obtain ⟨rest, eq⟩ := h
  rw [title?_eq] at titled ⊢
  rw [← eq]
  obtain ⟨m, here, rfl⟩ := Option.map_eq_some_iff.mp titled
  rw [List.getElem?_append_left (List.getElem?_eq_some_iff.mp here).1, here]
  rfl

theorem Formed.extend (h : w.Formed) (registry : v.registry = w.registry)
    (cast : w.cast <+: v.cast) : v.Formed := by
  constructor
  · rw [registry]
    exact h.nodup
  · intro id i mem
    rw [registry] at mem
    exact title?_extend cast (h.titled mem)

theorem Formed.all_nodup (h : w.Formed) : w.registry.all.Nodup := by
  have ids := List.pairwise_map.mp h.nodup
  refine List.pairwise_map.mpr (ids.imp_of_mem ?_)
  rintro ⟨id, i⟩ ⟨id', i'⟩ mem mem' ne same
  dsimp only at ne same
  subst same
  exact ne (Option.some.inj ((h.titled mem).symm.trans (h.titled mem')))

theorem there_of_title? (titled : w.title? i = some id) : w.body? i ≠ none := by
  intro none
  unfold title? at titled
  rw [none] at titled
  cases titled

theorem Formed.there (h : w.Formed) (mem : i ∈ w.registry.all) : w.body? i ≠ none := by
  obtain ⟨⟨id, i⟩, here, rfl⟩ := List.mem_map.mp mem
  exact there_of_title? (h.titled here)

theorem formed_empty (h : w.registry = .empty) : w.Formed := by
  constructor
  · rw [h]
    exact List.nodup_nil
  · rw [h]
    nofun

theorem Formed.register (h : w.Formed) (i : InstanceId) : (w.register i).Formed := by
  unfold World.register
  cases here : w.body? i with
  | none => exact h
  | some b =>
    have titled : w.title? i = some b.id := congrArg (Option.map Body.id) here
    unfold Registry.register
    dsimp only
    split
    · -- the entry with this id is replaced, so the ids are the same as before
      constructor
      · have same : (Registry.mk (w.registry.entries.map fun entry =>
            if entry.1 = b.id then (b.id, i) else entry)).ids = w.registry.ids := by
          unfold Registry.ids
          rw [List.map_map]
          refine List.map_congr_left ?_
          rintro ⟨id, j⟩ -
          dsimp only [Function.comp]
          split
          · exact Eq.symm ‹_›
          · rfl
        dsimp only
        rw [same]
        exact h.nodup
      · intro id j mem
        obtain ⟨⟨id', j'⟩, mem', eq⟩ := List.mem_map.mp mem
        split at eq
        · cases eq
          exact titled
        · cases eq
          exact h.titled mem'
    · rename_i fresh
      constructor
      · unfold Registry.ids
        dsimp only
        rw [List.map_append]
        refine List.nodup_append.mpr ⟨h.nodup, List.pairwise_singleton _ _, ?_⟩
        intro id mem id' mem' eq
        obtain ⟨entry, old, rfl⟩ := List.mem_map.mp mem
        rw [List.map_singleton, List.mem_singleton] at mem'
        exact fresh (List.any_eq_true.mpr ⟨entry, old, by simpa using eq.trans mem'⟩)
      · intro id j mem
        rcases List.mem_append.mp mem with mem | mem
        · exact h.titled mem
        · cases List.mem_singleton.mp mem
          exact titled

theorem Formed.apply (h : w.Formed) (e : Effect σ) : (e.apply w).Formed := by
  cases e with
  | register i => exact h.register i
  | clearRegistry => exact formed_empty rfl
  | _ => exact h.extend rfl List.prefix_rfl

structure Stays (w v : World σ) : Prop where
  busy : v.busy = w.busy
  formed : w.Formed → v.Formed

structure Tended (w v : World σ) : Prop extends Stays w v where
  session : Session.Steered (fun _ => True) w.session v.session

theorem Stays.trans (h : Stays u v) (h' : Stays v w) : Stays u w where
  busy := h'.busy.trans h.busy
  formed := fun formed => h'.formed (h.formed formed)

theorem Tended.trans (h : Tended u v) (h' : Tended v w) : Tended u w where
  toStays := h.toStays.trans h'.toStays
  session := h.session.trans h'.session

theorem Stays.frame (busy : v.busy = w.busy) (instances : v.instances = w.instances)
    (registry : v.registry = w.registry) : Stays w v := by
  have same : w.cast = v.cast := congrArg (List.map Body.foreign?) instances.symm
  exact ⟨busy, fun h => h.extend registry (same ▸ List.prefix_rfl)⟩

theorem Tended.frame (session : v.session = w.session) (busy : v.busy = w.busy)
    (instances : v.instances = w.instances) (registry : v.registry = w.registry) : Tended w v := by
  refine ⟨.frame busy instances registry, ?_⟩
  rw [session]
  exact .refl

theorem Tended.refl (w : World σ) : Tended w w := .frame rfl rfl rfl rfl

end World

theorem Discipline.Moves.tended {D : Discipline σ} {c : Call} {w v : World σ}
    (moves : D.Moves c w v) : World.Tended w v := by
  refine ⟨⟨moves.busy, fun formed => ?_⟩, moves.session fun _ => trivial⟩
  induction moves with
  | refl => exact formed
  | tail _ step ih =>
    rcases step with ⟨e, -, rfl⟩ | ⟨i, b, here, rfl⟩
    · exact ih.apply e
    · exact ih.extend World.registry_begin ((World.cast_begin here).symm ▸ List.prefix_rfl)

theorem Discipline.Steps.tended {D : Discipline σ} {w v : World σ} (steps : D.Steps w v) :
    World.Tended w v :=
  (steps.moves .reset).tended

namespace World

variable {u v w : World σ}

/-! Loading a level -/

theorem tended_callAll (c : Call) (is : List InstanceId) (w : World σ) :
    Tended w ((callAll c is).run w).2 :=
  (Discipline.moves_callAll is Discipline.tame_free fun _ _ _ _ => trivial).tended

theorem tended_run (s : Script σ) (w : World σ) : Tended w ((run s).run w).2 :=
  (Discipline.free.steps_run (s := s) trivial Discipline.tame_free).tended

variable {P : Effect σ → Prop}

theorem Stroke.tended (h : Stroke P w v) : Tended w v := by
  cases h with
  | called _ moves => exact moves.tended
  | cleared => exact ⟨⟨rfl, fun _ => formed_empty rfl⟩, .refl⟩
  | @entered _ b _ =>
    have cast : w.cast <+: (w.addInstance b).2.cast := by
      unfold World.cast addInstance
      dsimp only
      rw [List.map_append]
      exact List.prefix_append _ _
    have added : Tended w (w.addInstance b).2 := ⟨⟨rfl, fun h => h.extend rfl cast⟩, .refl⟩
    have registered : Discipline.free.Steps (w.addInstance b).2 (w.entering b) :=
      .single ⟨.register _, trivial, rfl⟩
    exact added.trans registered.tended
  | coded _ code => exact ⟨.frame rfl rfl rfl, .single ⟨.setCode code, trivial, rfl⟩⟩
  | _ => exact .frame rfl rfl rfl rfl

theorem Strokes.tended (h : Strokes P w v) : Tended w v := by
  induction h with
  | refl => exact .refl _
  | tail _ stroke ih => exact ih.trans stroke.tended

theorem tended_initSession (l : Level) (hook : Hook σ) (w : World σ) :
    Tended w ((initSession l hook).run w).2 :=
  ((confined_true w).strokes_initSession fun _ => Script.within_true _).tended

end World

end Replay
