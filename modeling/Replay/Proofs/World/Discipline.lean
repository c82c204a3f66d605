import Replay.Proofs.Bus.Numbering
import Replay.Proofs.World.Effect

/-!
Whoever keeps to a discipline does no more than it allows: scripts, listeners that are called, and
publications within publications.
-/
namespace Replay

variable {σ α β : Type}

namespace Act

theorem run_bind (act : Act σ α) (f : α → Act σ β) (w : World σ) :
    (act >>= f).run w = match act.run w with
      | (.ok a, after) => (f a).run after
      | (.error h, after) => (.error h, after) := by
  have h : (act >>= f).run w = ExceptT.bindCont f (act.run w).1 (act.run w).2 := rfl
  rw [h]
  rcases act.run w with ⟨_ | _, _⟩ <;> rfl

theorem run_get_bind (f : World σ → Act σ α) (w : World σ) :
    ((get : Act σ (World σ)) >>= f).run w = (f w).run w := rfl

theorem run_set_bind (v : World σ) (f : PUnit → Act σ α) (w : World σ) :
    ((set v : Act σ PUnit) >>= f).run w = (f ⟨⟩).run v := rfl

theorem run_modify_bind (g : World σ → World σ) (f : PUnit → Act σ α) (w : World σ) :
    ((modify g : Act σ PUnit) >>= f).run w = (f ⟨⟩).run (g w) := rfl

theorem run_discard (act : Act σ α) (w : World σ) :
    (discard act).run w = ((act.run w).1.map fun _ => (), (act.run w).2) := by
  have run : (discard act).run w = ((act >>= fun _ => pure ()) : Act σ Unit).run w := rfl
  rw [run, run_bind]
  rcases act.run w with ⟨_ | _, _⟩ <;> rfl

theorem run_eq_of_fst {act : Act σ α} {w : World σ} {result : Except Halt α}
    (h : (act.run w).1 = result) : act.run w = (result, (act.run w).2) :=
  Prod.ext h rfl

theorem bind_of_trans {R : World σ → World σ → Prop} (trans : ∀ {u v w}, R u v → R v w → R u w)
    {act : Act σ α} {f : α → Act σ β} {w : World σ} (first : R w (act.run w).2)
    (rest : ∀ a, R (act.run w).2 ((f a).run (act.run w).2).2) : R w ((act >>= f).run w).2 := by
  rw [run_bind]
  generalize act.run w = outcome at first rest ⊢
  obtain ⟨_ | a, after⟩ := outcome
  · exact first
  · exact trans first (rest a)

end Act

theorem World.run_holding (i : InstanceId) (act : Act σ α) (w : World σ) :
    (World.holding i act).run w = ((act.run { w with busy := i :: w.busy }).1,
      { (act.run { w with busy := i :: w.busy }).2 with busy := w.busy }) := rfl

theorem World.snd_run_attempt (act : Act σ Unit) (w : World σ) :
    ((World.attempt act).run w).2 = (act.run w).2 := by
  simp only [World.attempt, ExceptT.run_mk]
  rcases act.run w with ⟨halt | _, after⟩
  · cases halt <;> rfl
  · rfl

theorem Script.exec_of_look {publish : Notice → Act σ Nat} {s rest : Script σ} {w : World σ}
    (h : s.next w = some (none, rest)) : (s.exec publish).run w = (rest.exec publish).run w := by
  cases s <;> simp only [next, Option.some.injEq, Prod.mk.injEq, reduceCtorEq, false_and,
    true_and] at h <;> subst h <;> rfl

theorem Script.exec_of_next {publish : Notice → Act σ Nat} {s rest : Script σ} {e : Effect σ}
    {w : World σ} (h : s.next w = some (some e, rest)) :
    (s.exec publish).run w = (rest.exec publish).run (e.apply w) := by
  cases s <;> simp only [next, Option.some.injEq, Prod.mk.injEq, reduceCtorEq, false_and] at h <;>
    obtain ⟨rfl, rfl⟩ := h <;> rfl

theorem Script.exec_of_step {publish : Notice → Act σ Nat} {s rest : Script σ}
    {e : Option (Effect σ)} {w : World σ} (h : s.next w = some (e, rest)) :
    (s.exec publish).run w = (rest.exec publish).run (e.elim w (·.apply w)) := by
  cases e with
  | none => exact exec_of_look h
  | some e => exact exec_of_next h

namespace Discipline

variable (D : Discipline σ) {w w' : World σ}

def free : Discipline σ where
  may _ _ := True
  ok _ _ := True
  grow _ _ := True
  grow_refl _ := trivial
  grow_trans _ _ := trivial
  grow_apply _ := trivial
  grow_busy _ _ := trivial
  grow_session _ _ := trivial
  grow_begin _ _ := trivial
  may_busy _ := trivial
  may_notice _ _ := trivial
  ok_grow _ _ := trivial
  ok_callback _ := trivial
  ok_look _ _ := trivial
  ok_next _ _ := ⟨trivial, trivial⟩
  ok_publish _ _ := trivial
  ok_access _ := ⟨fun _ => trivial, fun _ => trivial⟩

theorem tame_free : free.Tame w := fun _ _ _ _ => trivial

theorem steps_grow (h : D.Steps w w') : D.grow w w' := by
  induction h with
  | refl => exact D.grow_refl w
  | tail _ step ih =>
    obtain ⟨e, may, rfl⟩ := step
    exact D.grow_trans ih (D.grow_apply may)

theorem Tame.grow {D : Discipline σ} (tame : D.Tame w) (bus : w'.bus = w.bus)
    (h : D.grow w w') : D.Tame w' := by
  intro kind l mem n
  rw [bus] at mem
  exact D.ok_grow h (tame kind l mem n)

theorem Tame.apply {D : Discipline σ} {e : Effect σ} (tame : D.Tame w) (may : D.may w e) :
    D.Tame (e.apply w) := by
  have kept {kind : Notice.Kind} {l : Listener (Notice → Script σ)}
      (h : l ∈ w.bus.listeners kind) (n : Notice) : D.ok (e.apply w) (l.callback n) :=
    D.ok_grow (D.grow_apply may) (tame kind l h n)
  intro kind l mem n
  cases e with
  | subscribe kind' callback =>
    rcases Bus.mem_listeners_subscribe mem with mem | eq
    · exact kept mem n
    · rw [eq]
      exact D.ok_grow (D.grow_apply may) (D.ok_callback may)
  | unsubscribe id => exact kept (Bus.mem_listeners_unsubscribe mem) n
  | clearBus =>
    have none : l ∈ ([] : List (Listener (Notice → Script σ))) := by
      rw [← Bus.listeners_clear (b := w.bus) kind]
      exact mem
    cases none
  | register i =>
    have bus : ((Effect.register i).apply w).bus = w.bus := by
      unfold Effect.apply World.register
      dsimp only
      split <;> rfl
    exact kept (bus ▸ mem) n
  | _ => exact kept mem n

theorem Tame.steps {D : Discipline σ} (tame : D.Tame w) (h : D.Steps w w') : D.Tame w' := by
  induction h with
  | refl => exact tame
  | tail _ step ih =>
    obtain ⟨e, may, rfl⟩ := step
    exact ih.apply may

/-- What is done while an instance is in the middle of a call could be done as well while it is
not. -/
theorem steps_of_busy {busy : List InstanceId} (h : D.Steps { w with busy } w') :
    D.Steps w { w' with busy := w.busy } := by
  induction h with
  | refl => exact .refl
  | tail _ step ih =>
    obtain ⟨e, may, rfl⟩ := step
    refine ih.tail ⟨e, D.may_busy may, ?_⟩
    cases e with
    | register i =>
      unfold Effect.apply World.register
      dsimp only
      split <;> split <;> simp_all [World.body?]
    | _ => rfl

theorem steps_holding {i : InstanceId} {act : Act σ α}
    (h : D.Steps { w with busy := i :: w.busy } (act.run { w with busy := i :: w.busy }).2) :
    D.Steps w ((World.holding i act).run w).2 :=
  D.steps_of_busy h

theorem steps_bind {act : Act σ α} {f : α → Act σ β} (first : D.Steps w (act.run w).2)
    (rest : ∀ a, D.Steps (act.run w).2 ((f a).run (act.run w).2).2) :
    D.Steps w ((act >>= f).run w).2 :=
  Act.bind_of_trans .trans first rest

theorem steps_exec {publish : Notice → Act σ Nat}
    (published : ∀ n w, D.Tame w → D.Steps w ((publish n).run w).2) (s : Script σ) :
    ∀ w, D.ok w s → D.Tame w → D.Steps w ((s.exec publish).run w).2 := by
  induction s using Script.stepwise with
  | done => exact fun _ _ _ => .refl
  | panic => exact fun _ _ _ => .refl
  | step s ih =>
    intro w ok tame
    obtain ⟨e, rest, next, ih⟩ := ih w
    rw [Script.exec_of_step next]
    cases e with
    | none => exact ih w (D.ok_look ok next) tame
    | some e =>
      obtain ⟨may, ok⟩ := D.ok_next ok next
      exact .head ⟨e, may, rfl⟩ (ih (e.apply w) ok (tame.apply may))
  | publish n k ih =>
    intro w ok tame
    have first := published n w tame
    exact D.steps_bind first fun count =>
      ih count _ (D.ok_grow (D.steps_grow first) (D.ok_publish ok count)) (tame.steps first)
  | access id kind body k ihBody ih =>
    intro w ok tame
    obtain ⟨body_ok, ok⟩ := D.ok_access ok
    simp only [Script.exec, Act.run_get_bind]
    split
    · exact ih _ w (ok _) tame
    · rename_i i b _
      have inside : D.Tame { w with busy := i :: w.busy } := tame.grow rfl (D.grow_busy w _)
      have first := D.steps_holding
        (ihBody (b.view i) _ (D.ok_grow (D.grow_busy w _) (body_ok _)) inside)
      exact D.steps_bind first fun _ =>
        ih _ _ (D.ok_grow (D.steps_grow first) (ok _)) (tame.steps first)

theorem steps_attempt {act : Act σ Unit} (h : D.Steps w (act.run w).2) :
    D.Steps w ((World.attempt act).run w).2 := by
  rwa [World.snd_run_attempt]

theorem steps_deliver {publish : Notice → Act σ Nat}
    (published : ∀ n w, D.Tame w → D.Steps w ((publish n).run w).2) (n : Notice)
    (ls : List (Listener (Notice → Script σ))) :
    ∀ w, (∀ l ∈ ls, D.ok w (l.callback n)) → D.Tame w →
      D.Steps w ((World.deliver publish n ls).run w).2 := by
  induction ls with
  | nil => exact fun _ _ _ => .refl
  | cons l rest ih =>
    intro w ok tame
    have first := D.steps_attempt
      (D.steps_exec published (l.callback n) w (ok l List.mem_cons_self) tame)
    refine D.steps_bind first fun ended => D.steps_bind ?_ fun _ => .refl
    exact ih _ (fun l mem => D.ok_grow (D.steps_grow first) (ok l (List.mem_cons_of_mem _ mem)))
      (tame.steps first)

theorem steps_publishWithin (depth : Nat) :
    ∀ n w, D.Tame w → D.Steps w ((World.publishWithin depth n).run w).2 := by
  induction depth with
  | zero => exact fun _ _ _ => .refl
  | succ depth ih =>
    intro n w tame
    have may := D.may_notice w n
    have noticed : D.Tame ((Effect.notice n).apply w) := tame.apply may
    refine .head ⟨.notice n, may, rfl⟩ (D.steps_deliver ih n _ _ ?_ noticed)
    exact fun l mem => noticed n.kind l mem n

theorem steps_publish (n : Notice) (w : World σ) (tame : D.Tame w) :
    D.Steps w ((World.publish n).run w).2 :=
  D.steps_publishWithin w.nesting n w tame

theorem steps_run {s : Script σ} (ok : D.ok w s) (tame : D.Tame w) :
    D.Steps w ((World.run s).run w).2 :=
  D.steps_exec D.steps_publish s w ok tame

end Discipline

end Replay
