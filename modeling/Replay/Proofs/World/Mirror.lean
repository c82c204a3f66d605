import Replay.Proofs.Module.Boxes
import Replay.Proofs.World.Delivery
import Replay.Proofs.World.Tidy

/-!
The variables module in the course of a level. It mirrors the events it has heard since its last
reset; what tidy code does to the world around it changes nothing about that.
-/
namespace Replay

variable {σ : Type}

namespace World

def told (w : World σ) (i : InstanceId) : Trace := (w.heard i).map Prod.fst

/-- One instance is the variables module, no other is, and it mirrors what it has heard. -/
structure Mirrors (keeps : σ → Nat → Prop) (i : InstanceId) (w : World σ) : Prop where
  fair : w.Fair keeps
  only : ∀ {j}, w.cast[j.number]? = some none → j = i
  mirror : ∃ m s, w.body? i = some (.tracker m) ∧ m.Mirrors s (w.told i) w.renderer

variable {keeps : σ → Nat → Prop} {w : World σ} {i j : InstanceId} {b : Body σ} {c : Call}
  {e : Effect σ} {m : Variables} {s : Surface} {events : Trace}

theorem cast_of_tracker (here : w.body? i = some (.tracker m)) : w.cast[i.number]? = some none := by
  unfold cast
  rw [List.getElem?_map]
  exact congrArg (Option.map Body.foreign?) here

theorem mirrors_respond (h : m.Mirrors s (w.told i) w.renderer) (play : c.isPlay = true) :
    (m.respond w.renderer c).module.Mirrors s ((c.hear (w.heard i)).map Prod.fst)
      (m.respond w.renderer c).renderer := by
  cases c with
  | handle event history =>
    unfold Call.hear
    rw [List.map_append]
    exact h.handle event
  | reset => exact h.clear
  | init root own => cases play
  | destroy => cases play
  | update elapsed => cases play

theorem Mirrors.apply (h : w.Mirrors keeps i) (may : e.Tidy keeps w) :
    World.Mirrors keeps i (e.apply w) := by
  obtain ⟨m, s, here, mirror⟩ := h.mirror
  refine ⟨may.grows.fair h.fair, fun there => h.only (Effect.cast_apply ▸ there), m, s, ?_, ?_⟩
  · rw [Effect.body?_apply]
    exact here
  · have told : (e.apply w).told i = w.told i := congrArg _ Effect.heard_apply
    rw [told]
    exact ⟨mirror.live, mirror.surface, mirror.tracks,
      may.steady Variables.steady_shown mirror.shown⟩

theorem Mirrors.begun (h : w.Mirrors keeps i) (there : w.body? j = some b)
    (play : c.isPlay = true) : World.Mirrors keeps i (w.begin j b c) := by
  obtain ⟨m, s, here, mirror⟩ := h.mirror
  have told : (w.begin j b c).told i =
      if j = i then (c.hear (w.heard i)).map Prod.fst else w.told i := by
    unfold World.told
    rw [heard_begin]
    split <;> rfl
  refine ⟨(grows_begin b c).fair h.fair, fun tracker => h.only (cast_begin there ▸ tracker), ?_⟩
  rw [told]
  cases b with
  | foreign m' =>
    have ne : j ≠ i := by
      rintro rfl
      cases here.symm.trans there
    rw [if_neg ne]
    exact ⟨m, s, here, mirror⟩
  | tracker m' =>
    cases h.only (cast_of_tracker there)
    cases here.symm.trans there
    rw [if_pos rfl]
    exact ⟨_, s, body?_begin here, mirrors_respond mirror play⟩

theorem Mirrors.tracker (h : w.Mirrors keeps i) (named : w.registry.get Variables.name = .ok i)
    (free : w.busy = []) :
    ∃ m s, w.tracker = .ok m ∧ m.Mirrors s (w.told i) w.renderer := by
  obtain ⟨m, s, here, mirror⟩ := h.mirror
  refine ⟨m, s, ?_, mirror⟩
  unfold World.tracker reach isBusy
  rw [named, free]
  dsimp only
  rw [here]
  rfl

end World

theorem Discipline.lasting_mirrors (keeps : σ → Nat → Prop) (known : Registry) (i : InstanceId) :
    (tidy keeps).Lasting fun w => (tidy keeps).Rules known w ∧ w.Mirrors keeps i :=
  (lasting_rules Effect.Tidy.leavesRegistry known).and (fun now may => now.apply may)
    (fun now there play => now.begun there play)
    fun _ now => ⟨now.fair.of_evolves (.refl _) rfl, now.only, now.mirror⟩

end Replay
