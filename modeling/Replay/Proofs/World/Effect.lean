import Replay.Proofs.Session.Command
import Replay.World.Action

/-!
What foreign code does to the world around it, one thing at a time. A script comes to a sequence of
effects, so a law about all scripts is a law about single effects. A discipline says which effects
foreign code confines itself to; whoever is called then, listeners included, keeps to it.
-/
namespace Replay

inductive Effect (σ : Type) where
  /-- A notice is published; what listeners make of it are effects of their own. -/
  | notice (n : Notice)
  | remember (f : σ → σ)
  | subscribe (kind : Notice.Kind) (callback : Notice → Script σ)
  | unsubscribe (id : SubscriptionId)
  | clearBus
  | register (i : InstanceId)
  | clearRegistry
  | createElement (s : Surface) (spec : Element.Spec)
  | updateElement (e : ElementId) (spec : Element.Spec)
  | removeElement (e : ElementId)
  | command (c : Session.Command)

def Effect.apply {σ : Type} (w : World σ) : Effect σ → World σ
  | .notice n => { w with journal := .notice n :: w.journal }
  | .remember f => { w with memory := f w.memory }
  | .subscribe kind callback => { w with bus := (w.bus.subscribe kind callback).2 }
  | .unsubscribe id => { w with bus := (w.bus.unsubscribe id).2 }
  | .clearBus => { w with bus := w.bus.clear }
  | .register i => w.register i
  | .clearRegistry => { w with registry := .empty }
  | .createElement s spec => { w with renderer := (w.renderer.createElement s.id spec).2 }
  | .updateElement e spec => { w with renderer := w.renderer.updateElement e spec }
  | .removeElement e => { w with renderer := w.renderer.removeElement e }
  | .command c => { w with session := w.session.obey c }

namespace Script

variable {σ : Type}

/-- What a script does first, if that is more than a look, and the rest of it. A script that
publishes or reaches a module is not told apart from what then happens. -/
def next (w : World σ) : Script σ → Option (Option (Effect σ) × Script σ)
  | .consult k => some (none, k w.memory)
  | .remember f k => some (some (.remember f), k)
  | .subscribe kind callback k =>
    some (some (.subscribe kind callback), k (w.bus.subscribe kind callback).1)
  | .unsubscribe id k => some (some (.unsubscribe id), k (w.bus.unsubscribe id).1)
  | .clearBus k => some (some .clearBus, k)
  | .mark k => some (none, k w.bus.mark)
  | .since m k => some (none, k (w.bus.since m))
  | .count kind k => some (none, k (w.bus.count kind))
  | .registered k => some (none, k w.registry.ids)
  | .register i k => some (some (.register i), k)
  | .clearRegistry k => some (some .clearRegistry, k)
  | .createElement s spec k =>
    some (some (.createElement s spec), k (w.renderer.createElement s.id spec).1)
  | .updateElement e spec k => some (some (.updateElement e spec), k)
  | .removeElement e k => some (some (.removeElement e), k)
  | .start k => some (some (.command .start), k w.session.start.1)
  | .resume k => some (some (.command .resume), k w.session.resume.1)
  | .pause k => some (some (.command .pause), k)
  | .setSpeed speed k => some (some (.command (.setSpeed speed)), k)
  | .setCode code k => some (some (.command (.setCode code)), k)
  | .session k => some (none, k w.session)
  | .done | .panic | .publish .. | .access .. => none

@[elab_as_elim]
theorem stepwise {motive : Script σ → Prop} (done : motive .done) (panic : motive .panic)
    (publish : ∀ n k, (∀ count, motive (k count)) → motive (.publish n k))
    (access : ∀ id kind body k, (∀ view, motive (body view)) → (∀ result, motive (k result)) →
      motive (.access id kind body k))
    (step : ∀ s, (∀ w, ∃ e rest, s.next w = some (e, rest) ∧ motive rest) → motive s)
    (s : Script σ) : motive s := by
  induction s with
  | done => exact done
  | panic => exact panic
  | publish n k ih => exact publish n k ih
  | access id kind body k ihBody ih => exact access id kind body k ihBody ih
  | subscribe kind callback k _ ih => exact step _ fun _ => ⟨_, _, rfl, ih _⟩
  | consult k ih | mark k ih | registered k ih | session k ih | start k ih | resume k ih =>
    exact step _ fun _ => ⟨_, _, rfl, ih _⟩
  | unsubscribe _ k ih | since _ k ih | count _ k ih | createElement _ _ k ih =>
    exact step _ fun _ => ⟨_, _, rfl, ih _⟩
  | _ => exact step _ fun _ => ⟨_, _, rfl, ‹_›⟩

end Script

def World.begin {σ : Type} (w : World σ) (i : InstanceId) (b : Body σ) (c : Call) : World σ :=
  let w := { w with journal := .call i c :: w.journal }
  match b with
  | .tracker m =>
    let out := m.respond w.renderer c
    { w.setBody i (.tracker out.module) with renderer := out.renderer }
  | .foreign _ => w

structure Discipline (σ : Type) where
  /-- Whether an effect is allowed in a world. -/
  may : World σ → Effect σ → Prop
  /-- Whether a script, and all it ever subscribes, comes to nothing but allowed effects. -/
  ok : World σ → Script σ → Prop
  /-- Changes of the world under which the same is allowed as before. -/
  grow : World σ → World σ → Prop
  grow_refl : ∀ w, grow w w
  grow_trans : ∀ {u v w}, grow u v → grow v w → grow u w
  grow_apply : ∀ {w e}, may w e → grow w (e.apply w)
  grow_busy : ∀ w busy, grow w { w with busy }
  grow_session : ∀ w session, grow w { w with session }
  grow_begin : ∀ {w i b}, w.body? i = some b → ∀ c, grow w (w.begin i b c)
  may_busy : ∀ {w e busy}, may { w with busy } e → may w e
  may_notice : ∀ w n, may w (.notice n)
  ok_grow : ∀ {w w' s}, grow w w' → ok w s → ok w' s
  ok_callback : ∀ {w kind callback n},
    may w (.subscribe kind callback) → ok w (callback n)
  ok_look : ∀ {w s rest}, ok w s → s.next w = some (none, rest) → ok w rest
  ok_next : ∀ {w s e rest}, ok w s → s.next w = some (some e, rest) →
    may w e ∧ ok (e.apply w) rest
  ok_publish : ∀ {w n k}, ok w (.publish n k) → ∀ count, ok w (k count)
  ok_access : ∀ {w id kind body k}, ok w (.access id kind body k) →
    (∀ view, ok w (body view)) ∧ ∀ result, ok w (k result)

namespace Discipline

variable {σ : Type} (D : Discipline σ)

def Steps : World σ → World σ → Prop :=
  Relation.ReflTransGen fun w w' => ∃ e, D.may w e ∧ w' = e.apply w

def Tame (w : World σ) : Prop :=
  ∀ kind, ∀ l ∈ w.bus.listeners kind, ∀ n, D.ok w (l.callback n)

end Discipline

end Replay
