import Mathlib.Data.List.Count
import Replay.Proofs.World.Accounted

/-!
How modules are lodged. Each gets a surface of its own below the root, and instances and surfaces
are counted alike, so that those of the level are the instances and surfaces from a number on: they
are registered and mounted, all before them is gone.
-/
namespace Replay

variable {σ : Type}

namespace World

/-! Releasing surfaces -/

theorem raised_releaseAll (mounts : List SurfaceHandle) : ∀ r : Renderer,
    (releaseAll r mounts).raised = r.raised := by
  induction mounts with
  | nil => exact fun _ => rfl
  | cons mount rest ih =>
    intro r
    refine (ih (mount.release r).2).trans ?_
    unfold SurfaceHandle.release
    split
    · rfl
    · exact Renderer.raised_removeSurface

def held (surfaces : List Surface) : List SurfaceHandle := surfaces.map (⟨·, false⟩)

theorem releaseAll_held {s : Surface} {rest : List Surface} {r : Renderer} :
    releaseAll r (held (s :: rest)) = releaseAll (r.removeSurface s.id) (held rest) := rfl

theorem razed_releaseAll (surfaces : List Surface) : ∀ r : Renderer,
    (releaseAll r (held surfaces)).razed = r.razed ++ surfaces.map (·.id) := by
  induction surfaces with
  | nil => exact fun _ => (List.append_nil _).symm
  | cons s rest ih =>
    intro r
    rw [releaseAll_held, ih, Renderer.razed_removeSurface, List.append_assoc]
    rfl

theorem pictures_releaseAll {root : Surface} (surfaces : List Surface) : ∀ {r : Renderer}
    {p : Picture}, (root.id :: surfaces.map (·.id)).Nodup → r.Pictures root surfaces p →
      ∃ p', (releaseAll r (held surfaces)).Pictures root [] p' := by
  induction surfaces with
  | nil => exact fun _ h => ⟨_, h⟩
  | cons s rest ih =>
    intro r p once h
    rw [releaseAll_held]
    exact ih (once.sublist ((List.sublist_cons_self _ _).cons_cons _)) (h.removeSurface once)

/-! The ids of instances -/

variable {u v w : World σ} {bodies bodies' : List (Body σ)} {made : Nat} {i : InstanceId}

theorem map_id_cast : w.instances.map Body.id =
    w.cast.map fun m => m.elim Variables.name ForeignModule.id := by
  unfold cast
  rw [List.map_map]
  refine List.map_congr_left fun b _ => ?_
  cases b <;> rfl

theorem entered_congr (same : bodies.map Body.id = bodies'.map Body.id) :
    entered made bodies = entered made bodies' := by
  induction bodies generalizing bodies' made with
  | nil => rw [List.map_eq_nil_iff.mp same.symm]
  | cons b rest ih =>
    cases bodies' with
    | nil => cases same
    | cons b' rest' =>
      obtain ⟨id, same⟩ := List.cons.inj same
      rw [entered_cons, entered_cons, id, ih same]

theorem entered_append : entered made (bodies ++ bodies') =
    entered made bodies ++ entered (made + bodies.length) bodies' := by
  induction bodies generalizing made with
  | nil => rfl
  | cons b rest ih =>
    rw [List.cons_append, entered_cons, entered_cons, ih, List.cons_append, List.length_cons,
      Nat.add_right_comm, Nat.add_assoc]

theorem map_snd_entered : (entered made bodies).map Prod.snd =
    (List.range' made bodies.length).map InstanceId.mk := by
  induction bodies generalizing made with
  | nil => rfl
  | cons b rest ih =>
    rw [entered_cons, List.map_cons, ih]
    rfl

/-- How modules are lodged since the world was like `start`: each that was ever initialised has got
a surface, with its id for the scope; the first `gone` of them are not registered any more, and
their surfaces are removed; and of those that are registered some wait to be initialised. -/
structure Lodged (w start : World σ) (owns : List Surface) (gone : Nat) (waiting : List String) :
    Prop where
  root : w.visualiser.root = start.visualiser.root
  le : gone ≤ owns.length
  bodies : w.instances.map Body.id = owns.map (·.scope) ++ waiting
  registry : w.registry = ⟨(entered 0 w.instances).drop gone⟩
  mounts : w.visualiser.mounts = held (owns.drop gone)
  later : start.renderer.Later w.renderer
  raised : w.renderer.raised = start.renderer.raised ++
    owns.map fun s => (s.id, some start.visualiser.root.id, s.scope)
  razed : w.renderer.razed = start.renderer.razed ++ (owns.take gone).map (·.id)
  once : (start.visualiser.root.id :: owns.map (·.id)).Nodup
  issued : ∀ s ∈ start.visualiser.root :: owns, s.id.number ≤ w.renderer.issued
  fresh : ∀ s ∈ owns, start.renderer.issued < s.id.number
  pictured : ∀ {p : Picture}, start.renderer.Pictures start.visualiser.root [] p →
    ∃ p', w.renderer.Pictures start.visualiser.root (owns.drop gone) p'

variable {start : World σ} {owns : List Surface} {gone : Nat} {waiting : List String}
  {P : Effect σ → Prop} {c : Call} {id : String}

theorem Lodged.frame (h : w.Lodged start owns gone waiting)
    (root : v.visualiser.root = w.visualiser.root)
    (mounts : v.visualiser.mounts = w.visualiser.mounts) (cast : v.cast = w.cast)
    (registry : v.registry = w.registry) (draws : w.renderer.Draws v.renderer) :
    v.Lodged start owns gone waiting :=
  have bodies : v.instances.map Body.id = w.instances.map Body.id := by
    rw [map_id_cast, cast, map_id_cast]
  { root := root.trans h.root
    le := h.le
    bodies := bodies.trans h.bodies
    registry := by rw [registry, h.registry, entered_congr bodies]
    mounts := mounts.trans h.mounts
    later := h.later.trans draws.later
    raised := draws.surfaces.1.trans h.raised
    razed := draws.surfaces.2.trans h.razed
    once := h.once
    issued := fun s mem => Nat.le_trans (h.issued s mem) draws.later.issued
    fresh := h.fresh
    pictured := fun pictures => (h.pictured pictures).elim fun _ here => here.draws draws }

theorem Lodged.moves (h : w.Lodged start owns gone waiting)
    (leave : ∀ {e : Effect σ}, P e → e.LeavesRegistry)
    (moves : (Discipline.within P).Moves c w v) : v.Lodged start owns gone waiting :=
  h.frame (congrArg Visualiser.root moves.visualiser) (congrArg Visualiser.mounts moves.visualiser)
    moves.cast (moves.registry (Discipline.leavesRegistry_of_within leave)) moves.draws

theorem Lodged.length (h : w.Lodged start owns gone waiting) :
    w.instances.length = owns.length + waiting.length := by
  have same := congrArg List.length h.bodies
  rwa [List.length_map, List.length_append, List.length_map] at same

theorem Lodged.count_all (h : w.Lodged start owns gone []) (k : Nat) :
    w.registry.all.count ⟨k⟩ = if gone ≤ k ∧ k < owns.length then 1 else 0 := by
  have inj : Function.Injective InstanceId.mk := fun _ _ => congrArg InstanceId.number
  have all : w.registry.all = (List.range' gone (owns.length - gone)).map InstanceId.mk := by
    rw [h.registry]
    unfold Registry.all
    rw [List.map_drop, map_snd_entered, ← List.map_drop, List.drop_range', h.length]
    simp
  rw [all, List.count_map_of_injective _ _ inj, List.Nodup.count List.nodup_range']
  congr 1
  rw [List.mem_range'_1, eq_iff_iff]
  omega

theorem Lodged.mem_all (h : w.Lodged start owns gone []) {k : Nat} :
    ⟨k⟩ ∈ w.registry.all ↔ gone ≤ k ∧ k < owns.length := by
  rw [← List.count_pos_iff, h.count_all]
  split <;> simp [*]

theorem there_of_lt (lt : i.number < w.instances.length) : w.body? i ≠ none := by
  unfold body?
  rw [ne_eq, List.getElem?_eq_none_iff]
  omega

theorem Lodged.length_entered (h : w.Lodged start owns gone []) :
    (entered 0 w.instances).length = owns.length := by
  unfold entered
  rw [List.length_mapIdx, h.length]
  rfl

theorem Lodged.releases (h : w.Lodged start owns gone []) :
    w.cleared.renderer = releaseAll w.renderer (held (owns.drop gone)) :=
  congrArg _ h.mounts

theorem Lodged.cleared (h : w.Lodged start owns gone []) :
    w.cleared.Lodged start owns owns.length [] where
  root := h.root
  le := Nat.le_refl _
  bodies := h.bodies
  registry := congrArg Registry.mk (List.drop_eq_nil_of_le (Nat.le_of_eq h.length_entered)).symm
  mounts := by
    rw [List.drop_length]
    rfl
  later := by
    rw [h.releases]
    exact h.later.trans (later_releaseAll _ _)
  raised := by rw [h.releases, raised_releaseAll, h.raised]
  razed := by
    rw [h.releases, razed_releaseAll, h.razed, List.append_assoc, ← List.map_append,
      List.take_append_drop, List.take_length]
  once := h.once
  issued s mem := by
    rw [h.releases]
    exact Nat.le_trans (h.issued s mem) (later_releaseAll _ _).issued
  fresh := h.fresh
  pictured pictures := by
    obtain ⟨p', here⟩ := h.pictured pictures
    rw [h.releases, List.drop_length]
    refine pictures_releaseAll _ (h.once.sublist (List.Sublist.cons_cons _ ?_)) here
    exact (List.drop_sublist gone owns).map _

theorem Lodged.staffed (h : w.Lodged start owns owns.length []) (bodies : List (Body σ)) :
    (w.staffed bodies).Lodged start owns owns.length (bodies.map Body.id) where
  root := h.root
  le := h.le
  bodies := by
    unfold World.staffed
    rw [List.map_append, h.bodies, List.append_nil]
  registry := by
    unfold World.staffed
    dsimp only
    rw [entered_append, List.drop_left' h.length_entered, Nat.zero_add]
  mounts := h.mounts
  later := h.later
  raised := h.raised
  razed := h.razed
  once := h.once
  issued := h.issued
  fresh := h.fresh
  pictured := h.pictured

theorem Lodged.new (h : w.Lodged start owns gone waiting) :
    (w.mount id).surface.id ∉ (start.visualiser.root :: owns).map (·.id) := by
  intro mem
  obtain ⟨s, mem, same⟩ := List.mem_map.mp mem
  have le := h.issued s mem
  rw [same] at le
  exact Nat.not_succ_le_self _ le

theorem Lodged.furnished (h : w.Lodged start owns gone (id :: waiting)) :
    ((w.furnished id).keeping (w.mount id)).Lodged start (owns ++ [(w.mount id).surface]) gone
      waiting :=
  have later : w.renderer.Later (w.furnished id).renderer := Renderer.later_createSurface _ _ _
  have raised : (w.furnished id).renderer.raised =
      w.renderer.raised ++ [((w.mount id).surface.id, some w.visualiser.root.id, id)] :=
    Renderer.raised_createSurface
  have razed : (w.furnished id).renderer.razed = w.renderer.razed := Renderer.razed_createSurface
  have drop : (owns ++ [(w.mount id).surface]).drop gone =
      owns.drop gone ++ [(w.mount id).surface] := List.drop_append_of_le_length h.le
  { root := h.root
    le := by
      rw [List.length_append]
      exact Nat.le_add_right_of_le h.le
    bodies := by
      rw [List.map_append, List.append_assoc]
      exact h.bodies
    registry := h.registry
    mounts := by
      have kept : ((w.furnished id).keeping (w.mount id)).visualiser.mounts =
          w.visualiser.mounts ++ [w.mount id] := rfl
      rw [kept, h.mounts, drop]
      unfold held
      rw [List.map_append]
      rfl
    later := h.later.trans later
    raised := by
      refine raised.trans ?_
      rw [h.raised, h.root, List.map_append, List.append_assoc]
      rfl
    razed := by
      refine razed.trans ?_
      rw [h.razed, List.take_append_of_le_length h.le]
    once := by
      rw [List.map_append, ← List.cons_append]
      refine List.nodup_append.mpr
        ⟨h.once, List.pairwise_singleton _ _, fun a mem b last same => ?_⟩
      rw [same, List.mem_singleton.mp last] at mem
      exact h.new mem
    issued := by
      rw [← List.cons_append]
      exact List.forall_mem_append.mpr
        ⟨fun s mem => Nat.le_trans (h.issued s mem) later.issued,
          List.forall_mem_singleton.mpr (Nat.le_refl _)⟩
    fresh := List.forall_mem_append.mpr
      ⟨h.fresh, List.forall_mem_singleton.mpr (Nat.lt_succ_of_le h.later.issued)⟩
    pictured := fun pictures => by
      obtain ⟨p', here⟩ := h.pictured pictures
      rw [drop]
      rw [← h.root] at here ⊢
      exact ⟨_, here.createSurface id⟩ }

theorem Lodged.installed (h : w.Lodged start owns gone (id :: waiting))
    (leave : ∀ {e : Effect σ}, P e → e.LeavesRegistry)
    (moves : (Discipline.within P).Moves c (w.furnished id) u) :
    (u.keeping (w.mount id)).Lodged start (owns ++ [(w.mount id).surface]) gone waiting := by
  have same : u.visualiser = w.visualiser := moves.visualiser
  have kept : (u.keeping (w.mount id)).visualiser =
      ((w.furnished id).keeping (w.mount id)).visualiser := by
    unfold World.keeping
    rw [same]
    rfl
  have registry : u.registry = (w.furnished id).registry :=
    moves.registry (Discipline.leavesRegistry_of_within leave)
  exact h.furnished.frame (congrArg Visualiser.root kept) (congrArg Visualiser.mounts kept)
    moves.cast registry moves.draws

end World

end Replay
