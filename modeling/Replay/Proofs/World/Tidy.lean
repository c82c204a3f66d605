import Replay.Proofs.Module.Lending
import Replay.Proofs.World.Confined

/-!
Tidy code. Foreign code has no surface but those that modules are given when they are initialised,
and no element but those that it makes. It may hand them on, by what it subscribes and what it keeps
in memory, but it cannot make up a number, nor reach what belongs to the variables module. And it
leaves the registry alone.
-/
namespace Replay

variable {σ : Type}

/-- Whether a script is tidy that holds some numbers; `keeps` says which numbers are kept in a
memory. -/
def Script.Tidy (keeps : σ → Nat → Prop) : Script σ → (Nat → Prop) → Prop
  | .done, _ | .panic, _ => True
  | .consult k, held => ∀ memory, (k memory).Tidy keeps fun n => held n ∨ keeps memory n
  | .remember f k, held =>
    (∀ memory n, keeps (f memory) n → keeps memory n ∨ held n) ∧ k.Tidy keeps held
  | .subscribe _ callback k, held =>
    (∀ n, (callback n).Tidy keeps held) ∧ ∀ id, (k id).Tidy keeps held
  | .unsubscribe _ k, held => ∀ removed, (k removed).Tidy keeps held
  | .clearBus k, held => k.Tidy keeps held
  | .mark k, held => ∀ mark, (k mark).Tidy keeps held
  | .since _ k, held => ∀ ids, (k ids).Tidy keeps held
  | .count _ k, held => ∀ number, (k number).Tidy keeps held
  | .publish _ k, held => ∀ count, (k count).Tidy keeps held
  | .registered k, held => ∀ ids, (k ids).Tidy keeps held
  | .register .., _ | .clearRegistry _, _ => False
  | .access _ _ body k, held =>
    (∀ view, (body view).Tidy keeps held) ∧ ∀ result, (k result).Tidy keeps held
  | .createElement s _ k, held =>
    held s.id.number ∧ ∀ e, (k e).Tidy keeps fun n => held n ∨ n = e.number
  | .updateElement e _ k, held | .removeElement e k, held => held e.number ∧ k.Tidy keeps held
  | .start k, held | .resume k, held => ∀ r, (k r).Tidy keeps held
  | .pause k, held | .setSpeed _ k, held | .setCode _ k, held => k.Tidy keeps held
  | .session k, held => ∀ s, (k s).Tidy keeps held

def Call.given : Call → Nat → Prop
  | .init root own, n => n = root.id.number ∨ n = own.id.number
  | .handle .., _ | .reset, _ | .destroy, _ | .update _, _ => False

namespace World

variable (keeps : σ → Nat → Prop) {u v w : World σ} {n : Nat}

structure Fair (w : World σ) : Prop where
  picture : ∃ p, w.renderer.Keeps p
  memory : ∀ n, keeps w.memory n → w.renderer.Lends n

def Admits (w : World σ) (s : Script σ) : Prop :=
  w.Fair keeps ∧ ∃ held, (∀ n, held n → w.renderer.Lends n) ∧ s.Tidy keeps held

structure Grows (w v : World σ) : Prop where
  fair : w.Fair keeps → v.Fair keeps
  lends : ∀ {n}, w.renderer.Lends n → v.renderer.Lends n

variable {keeps}

theorem Fair.of_evolves (h : w.Fair keeps) (evolves : w.renderer.Evolves v.renderer)
    (memory : v.memory = w.memory) : v.Fair keeps := by
  obtain ⟨p, kept⟩ := h.picture
  obtain ⟨p', kept', -⟩ := evolves p kept
  refine ⟨⟨p', kept'⟩, fun n mem => evolves.lends (h.memory n ?_)⟩
  rw [memory] at mem
  exact mem

theorem Grows.of_evolves (evolves : w.renderer.Evolves v.renderer) (memory : v.memory = w.memory) :
    Grows keeps w v :=
  ⟨fun fair => fair.of_evolves evolves memory, evolves.lends⟩

theorem Grows.same (renderer : v.renderer = w.renderer) (memory : v.memory = w.memory) :
    Grows keeps w v :=
  .of_evolves (renderer ▸ .refl w.renderer) memory

theorem Admits.grow {s : Script σ} (h : w.Admits keeps s) (grows : Grows keeps w v) :
    v.Admits keeps s := by
  obtain ⟨fair, held, lent, tidy⟩ := h
  exact ⟨grows.fair fair, held, fun n mem => grows.lends (lent n mem), tidy⟩

end World

def Effect.Tidy (keeps : σ → Nat → Prop) (w : World σ) : Effect σ → Prop
  | .notice _ | .unsubscribe _ | .clearBus | .command _ => True
  | .remember f => ∃ held : Nat → Prop, (∀ n, held n → w.renderer.Lends n) ∧
      ∀ memory n, keeps (f memory) n → keeps memory n ∨ held n
  | .subscribe _ callback => ∀ n, w.Admits keeps (callback n)
  | .register _ | .clearRegistry => False
  | .createElement s _ => w.renderer.Lends s.id.number
  | .updateElement e _ | .removeElement e => w.renderer.Lends e.number

variable {keeps : σ → Nat → Prop} {w : World σ} {e : Effect σ}

theorem Effect.Tidy.grows (h : e.Tidy keeps w) : World.Grows keeps w (e.apply w) := by
  cases e with
  | remember f =>
    obtain ⟨held, lent, adds⟩ := h
    refine ⟨fun fair => ⟨fair.picture, fun n mem => ?_⟩, id⟩
    rcases adds w.memory n mem with mem | mem
    · exact fair.memory n mem
    · exact lent n mem
  | register i => exact h.elim
  | clearRegistry => exact h.elim
  | createElement s spec => exact .of_evolves (Renderer.evolves_createElement _ _ _) rfl
  | updateElement e spec => exact .of_evolves (Renderer.evolves_updateElement _ _ _) rfl
  | removeElement e => exact .of_evolves (Renderer.evolves_removeElement _ _) rfl
  | _ => exact .same rfl rfl

theorem Effect.Tidy.leavesRegistry (h : e.Tidy keeps w) : e.LeavesRegistry := by
  cases e with
  | register i => exact h
  | clearRegistry => exact h
  | _ => trivial

theorem World.grows_begin {i : InstanceId} (b : Body σ) (c : Call) :
    Grows keeps w (w.begin i b c) := by
  cases b with
  | tracker m => exact .of_evolves (Variables.evolves_respond c) rfl
  | foreign m => exact .same rfl rfl

theorem World.Admits.next {s rest : Script σ} (h : w.Admits keeps s)
    (next : s.next w = some (some e, rest)) :
    e.Tidy keeps w ∧ World.Admits keeps (e.apply w) rest := by
  obtain ⟨fair, held, lent, tidy⟩ := h
  have after {t : Script σ} (may : e.Tidy keeps w) (tidy : t.Tidy keeps held) :
      World.Admits keeps (e.apply w) t :=
    .grow ⟨fair, held, lent, tidy⟩ may.grows
  cases s with
  | createElement s spec k =>
    cases next
    have may : Effect.Tidy keeps w (.createElement s spec) := lent _ tidy.1
    refine ⟨may, may.grows.fair fair, _, ?_, tidy.2 _⟩
    rintro n (mem | rfl)
    · exact may.grows.lends (lent n mem)
    · exact Renderer.lends_createElement may
  | remember f k =>
    cases next
    have may : Effect.Tidy keeps w (.remember f) := ⟨held, lent, tidy.1⟩
    exact ⟨may, after may tidy.2⟩
  | subscribe kind callback k =>
    cases next
    have may : Effect.Tidy keeps w (.subscribe kind callback) :=
      fun n => ⟨fair, held, lent, tidy.1 n⟩
    exact ⟨may, after may (tidy.2 _)⟩
  | updateElement e spec k =>
    cases next
    have may : Effect.Tidy keeps w (.updateElement e spec) := lent _ tidy.1
    exact ⟨may, after may tidy.2⟩
  | removeElement e k =>
    cases next
    have may : Effect.Tidy keeps w (.removeElement e) := lent _ tidy.1
    exact ⟨may, after may tidy.2⟩
  | register i k => exact tidy.elim
  | clearRegistry k => exact tidy.elim
  | _ =>
    simp only [Script.next, Option.some.injEq, Prod.mk.injEq, reduceCtorEq, false_and] at next
    try
      obtain ⟨rfl, rfl⟩ := next
      first
      | exact ⟨trivial, after trivial tidy⟩
      | exact ⟨trivial, after trivial (tidy _)⟩

theorem World.Admits.look {s rest : Script σ} (h : w.Admits keeps s)
    (next : s.next w = some (none, rest)) : w.Admits keeps rest := by
  obtain ⟨fair, held, lent, tidy⟩ := h
  cases s with
  | consult k =>
    cases next
    refine ⟨fair, _, ?_, tidy w.memory⟩
    rintro n (mem | mem)
    · exact lent n mem
    · exact fair.memory n mem
  | registered k | session k | mark k | since m k | count kind k =>
    cases next
    exact ⟨fair, held, lent, tidy _⟩
  | _ => simp only [Script.next, Option.some.injEq, Prod.mk.injEq, reduceCtorEq, false_and] at next

def Discipline.tidy (keeps : σ → Nat → Prop) : Discipline σ where
  may w e := e.Tidy keeps w
  ok w s := w.Admits keeps s
  grow := World.Grows keeps
  grow_refl _ := .same rfl rfl
  grow_trans h h' := ⟨h'.fair ∘ h.fair, h'.lends ∘ h.lends⟩
  grow_apply may := may.grows
  grow_busy _ _ := .same rfl rfl
  grow_session _ _ := .same rfl rfl
  grow_begin {_ _ b} _ c := World.grows_begin b c
  may_busy {_ e _} may := by
    cases e with
    | subscribe kind callback => exact fun n => (may n).grow (.same rfl rfl)
    | _ => exact may
  may_notice _ _ := trivial
  ok_grow grows ok := World.Admits.grow ok grows
  ok_callback may := may _
  ok_look ok := ok.look
  ok_next ok := ok.next
  ok_publish ok count := by
    obtain ⟨fair, held, lent, tidy⟩ := ok
    exact ⟨fair, held, lent, tidy count⟩
  ok_access ok := by
    obtain ⟨fair, held, lent, tidy⟩ := ok
    exact ⟨fun view => ⟨fair, held, lent, tidy.1 view⟩,
      fun result => ⟨fair, held, lent, tidy.2 result⟩⟩

theorem Effect.Tidy.steady {R : Renderer → Prop} (steady : Renderer.Steady R) (h : e.Tidy keeps w)
    (now : R w.renderer) : R (e.apply w).renderer := by
  cases e with
  | register i => exact h.elim
  | createElement s spec => exact steady.create now h
  | updateElement e spec => exact steady.update now h
  | removeElement e => exact steady.remove now h
  | _ => exact now

end Replay
