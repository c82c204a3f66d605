import Replay.Proofs.Module.Chronicle
import Replay.Proofs.World.Publication

/-!
Announcements. Where a call of the variables module changes something it is published, once, and
where it changes nothing nothing is published. Those who listen are called when the module and the
picture are in order again.
-/
namespace Replay

variable {σ : Type} {depth : Nat} {n : Notice} {w v : World σ} {rounds front back : List (Round σ)}
  {round : Round σ}

theorem Rounds.before {R : World σ → World σ → Prop} (refl : ∀ w, R w w)
    (trans : ∀ {u v w}, R u v → R v w → R u w) (between : ∀ r ∈ front, R r.before r.after)
    (chained : Rounds depth n w (front ++ round :: back) v) : R w round.before := by
  induction front generalizing w with
  | nil => exact chained.1 ▸ refl w
  | cons first rest ih =>
    obtain ⟨eq, -, later⟩ := chained
    have here := between first List.mem_cons_self
    rw [eq] at here
    exact trans here (ih (fun r mem => between r (List.mem_cons_of_mem _ mem)) later)

namespace World

variable {i : InstanceId} {m : Variables} {c : Call}

/-- Where there is nothing to tell, a call of the variables module is over once it has answered. -/
theorem call_of_silent (here : w.body? i = some (.tracker m)) (free : w.isBusy i = false)
    (silent : (m.respond w.renderer c).notice = none) :
    (call i c).run w = (.ok (), w.begin i (.tracker m) c) := by
  rw [call_of_tracker here free, silent]
  rfl

theorem rounds_publish (terminates : ((publish n).run w).1 ≠ .error .overflow) :
    ∃ depth rounds v, w.nesting = depth + 1 ∧
      (publish n).run w = (.ok (rounds.countP (·.ended)), v) ∧
      rounds.map (·.listener) = w.bus.listeners n.kind ∧
      Rounds depth n ((Effect.notice n).apply w) rounds v := by
  have published : (publish n).run w = (publishWithin w.nesting n).run w := rfl
  rw [published] at terminates ⊢
  cases nesting : w.nesting with
  | zero =>
    rw [nesting] at terminates
    exact absurd rfl terminates
  | succ depth =>
    rw [nesting] at terminates
    obtain ⟨rounds, v, delivered, listeners, chained, -⟩ :=
      rounds_deliver (w.bus.listeners n.kind) ((Effect.notice n).apply w) terminates
    exact ⟨depth, rounds, v, rfl, delivered, listeners, chained⟩

theorem call_of_telling (here : w.body? i = some (.tracker m)) (free : w.isBusy i = false)
    (telling : (m.respond w.renderer c).notice = some n)
    (terminates : ((call i c).run w).1 ≠ .error .overflow) :
    ∃ depth rounds v, w.nesting = depth + 1 ∧
      (call i c).run w = (.ok (), { v with busy := w.busy }) ∧
      rounds.map (·.listener) = w.bus.listeners n.kind ∧
      Rounds depth n ((Effect.notice n).apply { w.begin i (.tracker m) c with busy := i :: w.busy })
        rounds v := by
  obtain ⟨held, inside⟩ :
      ∃ held, held = { w.begin i (.tracker m) c with busy := i :: w.busy } := ⟨_, rfl⟩
  have called : (call i c).run w = (((publish n).run held).1.map fun _ => (),
      { ((publish n).run held).2 with busy := w.busy }) := by
    rw [call_of_tracker here free, telling, run_holding, inside]
    unfold tell
    rw [Act.run_discard]
    rfl
  rw [called] at terminates ⊢
  obtain ⟨depth, rounds, v, nesting, published, listeners, chained⟩ :=
    rounds_publish (n := n) (w := held) fun cut => terminates (by rw [cut]; rfl)
  rw [published, ← inside]
  subst inside
  exact ⟨depth, rounds, v, nesting, rfl, listeners, chained⟩

end World

namespace Variables

theorem reset_module {m : Variables} {r : Renderer} {s : Surface} (live : m.destroyed = false)
    (surface : m.surface = some s) : (m.respond r .reset).module = mounted s := by
  unfold respond clear mounted blank
  dsimp only
  rw [live, surface]

def acquainted : Outcome :=
  let r := (Renderer.recording.createSurface none Variables.name).2
  ((mounted ⟨⟨1⟩, Variables.name⟩).respond r .reset).module.respond r
    (.handle (.init (.variable "x") ⟨.nil, .literal⟩) [])

def mirroring (n : Notice) : Script Unit :=
  .createElement ⟨⟨9⟩, "own"⟩ (Variable.mk n.name n.value).spec fun _ => .done

def attended : World Unit :=
  { World.new .builtin .recording {} 8 () with
    renderer := acquainted.renderer
    instances := [.tracker acquainted.module]
    bus := ((Bus.empty.subscribe .changed mirroring).2.subscribe .changed fun _ => .panic).2 }

end Variables

end Replay
