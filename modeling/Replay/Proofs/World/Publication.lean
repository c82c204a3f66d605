import Replay.Proofs.World.Story

/-!
Publications. Who gets a notice is settled when it is published: each of those who listen is called
once, one after the other, whatever the listeners do to the bus, publish themselves, or panic.
-/
namespace Replay

variable {σ : Type}

/-- The call of one listener in a publication. -/
structure Round (σ : Type) where
  listener : Listener (Notice → Script σ)
  before : World σ
  after : World σ
  /-- Whether the listener came to its end; otherwise it panicked. -/
  ended : Bool

namespace Round

variable (depth : Nat) (n : Notice) (r : Round σ)

def inner : Story σ :=
  (r.listener.callback n).story (World.publishWithin depth) (World.story depth) r.before

def story : Story σ :=
  .called r.listener n :: r.inner depth n ++ [.left r.listener n r.ended]

def Runs : Prop :=
  ((r.listener.callback n).exec (World.publishWithin depth)).run r.before =
    (if r.ended then .ok () else .error .panic, r.after)

end Round

/-- Rounds one after the other: each begins where the one before it has left the world. -/
def Rounds (depth : Nat) (n : Notice) : World σ → List (Round σ) → World σ → Prop
  | w, [], v => v = w
  | w, r :: rs, v => r.before = w ∧ r.Runs depth n ∧ Rounds depth n r.after rs v

namespace World

variable {depth : Nat} {n : Notice}

theorem rounds_deliver (ls : List (Listener (Notice → Script σ))) (w : World σ)
    (terminates : ((deliver (publishWithin depth) n ls).run w).1 ≠ .error .overflow) :
    ∃ rounds v, (deliver (publishWithin depth) n ls).run w =
        (.ok (rounds.countP (·.ended)), v) ∧
      rounds.map (·.listener) = ls ∧ Rounds depth n w rounds v ∧
      deliveryStory (publishWithin depth) (story depth) n ls w =
        rounds.flatMap (Round.story depth n) := by
  induction ls generalizing w with
  | nil => exact ⟨[], w, rfl, rfl, rfl, rfl⟩
  | cons l rest ih =>
    have free := (tells_exec (publishes_publishWithin depth) (l.callback n) w).free
    unfold deliver at terminates ⊢
    unfold deliveryStory
    rw [Act.run_bind] at terminates ⊢
    rcases attempt_cases ((l.callback n).exec (publishWithin depth)) w with
      ⟨ended, u, attempted, ran⟩ | ⟨halt, u, ne, attempted, ran⟩
    · rw [attempted] at terminates ⊢
      dsimp only at terminates ⊢
      rw [Act.run_bind] at terminates ⊢
      have calm : ((deliver (publishWithin depth) n rest).run u).1 ≠ .error .overflow := by
        intro cut
        refine terminates ?_
        generalize (deliver (publishWithin depth) n rest).run u = outcome at cut ⊢
        obtain ⟨result, v⟩ := outcome
        cases cut
        rfl
      obtain ⟨rounds, v, delivered, listeners, chained, told⟩ := ih u calm
      refine ⟨⟨l, w, u, ended⟩ :: rounds, v, ?_, ?_, ⟨rfl, ran, chained⟩, ?_⟩
      · rw [delivered, List.countP_cons]
        cases ended <;> rfl
      · rw [List.map_cons, listeners]
      · rw [told, List.flatMap_cons]
        unfold Round.story Round.inner
        simp
    · rw [attempted] at terminates
      rw [ran] at free
      cases halt with
      | panic => exact absurd rfl ne
      | overflow => exact absurd rfl terminates
      | deadlock => exact absurd rfl free

theorem told_of_rounds {rounds : List (Round σ)} {w v : World σ} (h : Rounds depth n w rounds v)
    {r : Round σ} (mem : r ∈ rounds) :
    Told true [] r.before.bus (r.inner depth n) r.after.bus := by
  induction rounds generalizing w with
  | nil => cases mem
  | cons first rest ih =>
    obtain ⟨-, ran, later⟩ := h
    rcases List.mem_cons.mp mem with rfl | mem
    · have tells := tells_exec (publishes_publishWithin depth) (r.listener.callback n) r.before
      have told := tells.told
      rwa [ran, survives_attempted] at told
    · exact ih later mem

end World

/-- A notice that is published, from any state of the bus, goes to those who are subscribed to its
kind at that moment, in the order of their subscription, and each of them is called once, one after
the other. What a listener does, with all that it publishes itself, is over before the next one is
called, and whether it panics makes no difference to that. The publication comes to its end, and
counts the listeners that did not panic. -/
theorem publish_reaches_snapshot {es : List (Bus.Exchange (Notice → Script σ))} {w : World σ}
    (reached : Bus.empty.Answers es w.bus) {depth : Nat} {n : Notice}
    (terminates : ((World.publishWithin (depth + 1) n).run w).1 ≠ .error .overflow) :
    ∃ rounds v, (World.publishWithin (depth + 1) n).run w =
        (.ok (rounds.countP (·.ended)), v) ∧
      rounds.map (·.listener) = ((Bus.roll es).filter (·.1 = n.kind)).map (·.2) ∧
      (rounds.map (·.listener)).Pairwise (·.id.number < ·.id.number) ∧
      Rounds depth n ((Effect.notice n).apply w) rounds v ∧
      World.story (depth + 1) n w = .published n :: rounds.flatMap (Round.story depth n) ∧
      ∀ r ∈ rounds, Told true [] r.before.bus (r.inner depth n) r.after.bus := by
  obtain ⟨rounds, v, delivered, listeners, chained, told⟩ :=
    World.rounds_deliver (w.bus.listeners n.kind) ((Effect.notice n).apply w) terminates
  refine ⟨rounds, v, delivered, ?_, ?_, chained, congrArg _ told,
    fun r => World.told_of_rounds chained⟩
  · rw [listeners, reached.lists.listeners]
  · rw [listeners]
    exact (reached.numbered Bus.numbered_empty).ascending n.kind

def Script.usurping (n : Notice) : Script Unit :=
  .clearBus (.subscribe .declared (fun _ => .done) fun _ => .publish n fun _ => .done)

def World.unruly : World Unit :=
  { World.new .builtin .recording {} 8 () with
    bus := ((Bus.empty.subscribe .declared Script.usurping).2.subscribe .declared
      fun _ => .panic).2 }

theorem publish_reaches_snapshot_of_unruly :
    let n : Notice := .declared "x" ⟨.nil, .literal⟩
    ∃ rounds v, (World.publishWithin 8 n).run World.unruly = (.ok 1, v) ∧
      rounds.map (·.listener.id) = [⟨1⟩, ⟨2⟩] ∧
      Rounds 7 n ((Effect.notice n).apply World.unruly) rounds v := by
  intro n
  have reached : Bus.empty.Answers [(.subscribe .declared Script.usurping, .subscribed ⟨1⟩),
      (.subscribe .declared fun _ => .panic, .subscribed ⟨2⟩)] World.unruly.bus := ⟨rfl, rfl, rfl⟩
  have terminates : ((World.publishWithin 8 n).run World.unruly).1 ≠ .error .overflow := by
    decide +kernel
  obtain ⟨rounds, v, delivered, listeners, -, chained, -⟩ :=
    publish_reaches_snapshot reached terminates
  have counted : ((World.publishWithin 8 n).run World.unruly).1 = .ok 1 := by decide +kernel
  have ids := congrArg (List.map (·.id)) listeners
  rw [List.map_map] at ids
  refine ⟨rounds, v, ?_, ids, chained⟩
  rw [delivered] at counted ⊢
  exact Prod.ext counted rfl

end Replay
