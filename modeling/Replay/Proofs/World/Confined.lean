import Replay.Proofs.World.Call

/-!
Foreign code that confines itself to some kinds of effects, whatever the world is like: scripts none
of whose branches does anything else. What such code leaves of a world is read off the effects.
-/
namespace Replay

variable {σ : Type}

/-- Whether all a script does, on any branch, is among some effects, and all that listeners do which
it subscribes. -/
def Script.Within (P : Effect σ → Prop) : Script σ → Prop
  | .done | .panic => True
  | .consult k => ∀ memory, (k memory).Within P
  | .remember f k => P (.remember f) ∧ k.Within P
  | .subscribe kind callback k => P (.subscribe kind callback) ∧
      (∀ n, (callback n).Within P) ∧ ∀ id, (k id).Within P
  | .unsubscribe id k => P (.unsubscribe id) ∧ ∀ removed, (k removed).Within P
  | .clearBus k => P .clearBus ∧ k.Within P
  | .mark k => ∀ mark, (k mark).Within P
  | .since _ k => ∀ ids, (k ids).Within P
  | .count _ k => ∀ number, (k number).Within P
  | .publish _ k => ∀ count, (k count).Within P
  | .registered k => ∀ ids, (k ids).Within P
  | .register i k => P (.register i) ∧ k.Within P
  | .clearRegistry k => P .clearRegistry ∧ k.Within P
  | .access _ _ body k => (∀ view, (body view).Within P) ∧ ∀ result, (k result).Within P
  | .createElement s spec k => P (.createElement s spec) ∧ ∀ e, (k e).Within P
  | .updateElement e spec k => P (.updateElement e spec) ∧ k.Within P
  | .removeElement e k => P (.removeElement e) ∧ k.Within P
  | .start k => P (.command .start) ∧ ∀ r, (k r).Within P
  | .resume k => P (.command .resume) ∧ ∀ r, (k r).Within P
  | .pause k => P (.command .pause) ∧ k.Within P
  | .setSpeed speed k => P (.command (.setSpeed speed)) ∧ k.Within P
  | .setCode code k => P (.command (.setCode code)) ∧ k.Within P
  | .session k => ∀ s, (k s).Within P

def Effect.Among (P : Effect σ → Prop) : Effect σ → Prop
  | .notice _ => True
  | .subscribe kind callback => P (.subscribe kind callback) ∧ ∀ n, (callback n).Within P
  | e => P e

namespace Discipline

def within (P : Effect σ → Prop) : Discipline σ where
  may _ e := e.Among P
  ok _ s := s.Within P
  grow _ _ := True
  grow_refl _ := trivial
  grow_trans _ _ := trivial
  grow_apply _ := trivial
  grow_busy _ _ := trivial
  grow_session _ _ := trivial
  grow_begin _ _ := trivial
  may_busy may := may
  may_notice _ _ := trivial
  ok_grow _ ok := ok
  ok_callback may := may.2 _
  ok_look {w s rest} ok h := by
    cases s <;> simp only [Script.next, Option.some.injEq, Prod.mk.injEq, reduceCtorEq, false_and,
      true_and] at h <;> subst h <;> exact ok _
  ok_next {w s e rest} ok h := by
    cases s with
    | subscribe kind callback k =>
      cases h
      exact ⟨⟨ok.1, ok.2.1⟩, ok.2.2 _⟩
    | _ =>
      simp only [Script.next, Option.some.injEq, Prod.mk.injEq, reduceCtorEq, false_and] at h
      try
        obtain ⟨rfl, rfl⟩ := h
        first
        | exact ⟨ok.1, ok.2⟩
        | exact ⟨ok.1, ok.2 _⟩
  ok_publish ok := ok
  ok_access ok := ok

end Discipline

/-- Whether an effect leaves the registry as it is. -/
def Effect.LeavesRegistry : Effect σ → Prop
  | .register _ | .clearRegistry => False
  | _ => True

namespace Discipline

variable {D : Discipline σ} {w w' : World σ} {known : Registry}

theorem Moves.registry {c : Call} (leave : ∀ {w e}, D.may w e → e.LeavesRegistry)
    (h : D.Moves c w w') : w'.registry = w.registry := by
  refine h.kept (fun {w e} may => ?_) fun _ => World.registry_begin
  have leaves := leave may
  cases e with
  | register i => exact leaves.elim
  | clearRegistry => exact leaves.elim
  | _ => rfl

theorem leavesRegistry_of_within {P : Effect σ → Prop} (leave : ∀ {e}, P e → e.LeavesRegistry)
    {e : Effect σ} (may : (within P).may w e) : e.LeavesRegistry := by
  cases e with
  | notice n => trivial
  | subscribe kind callback => trivial
  | _ => exact leave may

end Discipline

end Replay
