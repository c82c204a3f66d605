import Replay.Proofs.Bus.Roll
import Replay.Proofs.World.Poll

/-!
What happens around the bus while foreign code runs: what the bus is asked and replies, which
notices are published, and which listeners are called with them, however deeply all this is nested.
The story of a run can be told from the states of the bus alone: a notice goes to those who listen
when it is published, one after the other, and what happens meanwhile is another such story.
-/
namespace Replay

variable {σ : Type}

inductive Happening (σ : Type) where
  | asked (e : Bus.Exchange (Notice → Script σ))
  | published (n : Notice)
  | called (l : Listener (Notice → Script σ)) (n : Notice)
  /-- A called listener is done: it has come to its end, or it has panicked. -/
  | left (l : Listener (Notice → Script σ)) (n : Notice) (ended : Bool)

abbrev Story (σ : Type) := List (Happening σ)

def Story.exchanges (story : Story σ) : List (Bus.Exchange (Notice → Script σ)) :=
  story.filterMap fun
    | .asked e => some e
    | _ => none

theorem Story.exchanges_append (first second : Story σ) :
    Story.exchanges (first ++ second) = first.exchanges ++ second.exchanges :=
  List.filterMap_append

/-- What happens while a script runs; `tell` tells what happens while a notice is published. -/
def Script.story (publish : Notice → Act σ Nat) (tell : Notice → World σ → Story σ) :
    Script σ → World σ → Story σ
  | .done, _ | .panic, _ => []
  | .consult k, w => (k w.memory).story publish tell w
  | .remember f k, w => k.story publish tell ((Effect.remember f).apply w)
  | .subscribe kind callback k, w => .asked (w.bus.ask (.subscribe kind callback)) ::
    (k (w.bus.subscribe kind callback).1).story publish tell
      ((Effect.subscribe kind callback).apply w)
  | .unsubscribe id k, w => .asked (w.bus.ask (.unsubscribe id)) ::
    (k (w.bus.unsubscribe id).1).story publish tell ((Effect.unsubscribe id).apply w)
  | .clearBus k, w =>
    .asked (w.bus.ask .clear) :: k.story publish tell (Effect.clearBus.apply w)
  | .mark k, w => .asked (w.bus.ask .mark) :: (k w.bus.mark).story publish tell w
  | .since m k, w => .asked (w.bus.ask (.since m)) :: (k (w.bus.since m)).story publish tell w
  | .count kind k, w =>
    .asked (w.bus.ask (.count kind)) :: (k (w.bus.count kind)).story publish tell w
  | .publish n k, w => tell n w ++ match (publish n).run w with
    | (.ok reached, v) => (k reached).story publish tell v
    | (.error _, _) => []
  | .registered k, w => (k w.registry.ids).story publish tell w
  | .register i k, w => k.story publish tell ((Effect.register i).apply w)
  | .clearRegistry k, w => k.story publish tell (Effect.clearRegistry.apply w)
  | .access id kind body k, w => match w.reach id kind with
    | .error e => (k (.error e)).story publish tell w
    | .ok (i, b) =>
      (body (b.view i)).story publish tell { w with busy := i :: w.busy } ++
        match (World.holding i ((body (b.view i)).exec publish)).run w with
        | (.ok _, v) => (k (.ok (b.view i))).story publish tell v
        | (.error _, _) => []
  | .createElement s spec k, w => (k (w.renderer.createElement s.id spec).1).story publish tell
    ((Effect.createElement s spec).apply w)
  | .updateElement e spec k, w => k.story publish tell ((Effect.updateElement e spec).apply w)
  | .removeElement e k, w => k.story publish tell ((Effect.removeElement e).apply w)
  | .start k, w => (k w.session.start.1).story publish tell ((Effect.command .start).apply w)
  | .resume k, w => (k w.session.resume.1).story publish tell ((Effect.command .resume).apply w)
  | .pause k, w => k.story publish tell ((Effect.command .pause).apply w)
  | .setSpeed speed k, w => k.story publish tell ((Effect.command (.setSpeed speed)).apply w)
  | .setCode code k, w => k.story publish tell ((Effect.command (.setCode code)).apply w)
  | .session k, w => (k w.session).story publish tell w

def World.deliveryStory (publish : Notice → Act σ Nat) (tell : Notice → World σ → Story σ)
    (n : Notice) : List (Listener (Notice → Script σ)) → World σ → Story σ
  | [], _ => []
  | l :: rest, w => .called l n :: (l.callback n).story publish tell w ++
    match (World.attempt ((l.callback n).exec publish)).run w with
    | (.ok ended, v) => .left l n ended :: deliveryStory publish tell n rest v
    | (.error _, _) => []

/-- What happens while a notice is published where publications may be nested so and so deep. -/
def World.story : Nat → Notice → World σ → Story σ
  | 0, _, _ => []
  | depth + 1, n, w => .published n :: World.deliveryStory (publishWithin depth) (World.story depth)
    n (w.bus.listeners n.kind) ((Effect.notice n).apply w)

/-- Stories that the states of the bus account for. From one state to another some listeners have
still to be called; then it is a script that goes on. A story that is not whole stops somewhere. -/
inductive Told : Bool → List (Listener (Notice → Script σ) × Notice) →
    Bus (Notice → Script σ) → Story σ → Bus (Notice → Script σ) → Prop
  | ended {b : Bus (Notice → Script σ)} : Told true [] b [] b
  | cut {calls : List (Listener (Notice → Script σ) × Notice)} {b : Bus (Notice → Script σ)} :
    Told false calls b [] b
  | asked {whole : Bool} {b b' : Bus (Notice → Script σ)} {story : Story σ}
    (request : Bus.Request (Notice → Script σ))
    (rest : Told whole [] (b.serve request).2 story b') :
    Told whole [] b (.asked (b.ask request) :: story) b'
  | published {whole : Bool} {b b' b'' : Bus (Notice → Script σ)} {n : Notice}
    {inner story : Story σ} (delivery : Told true ((b.listeners n.kind).map (·, n)) b inner b')
    (rest : Told whole [] b' story b'') : Told whole [] b (.published n :: inner ++ story) b''
  | publishing {b b' : Bus (Notice → Script σ)} {n : Notice} {inner : Story σ}
    (delivery : Told false ((b.listeners n.kind).map (·, n)) b inner b') :
    Told false [] b (.published n :: inner) b'
  | called {whole : Bool} {b b' b'' : Bus (Notice → Script σ)}
    {calls : List (Listener (Notice → Script σ) × Notice)} {inner story : Story σ}
    (l : Listener (Notice → Script σ)) (n : Notice) (ended : Bool)
    (call : Told true [] b inner b') (rest : Told whole calls b' story b'') :
    Told whole ((l, n) :: calls) b (.called l n :: inner ++ .left l n ended :: story) b''
  | calling {b b' : Bus (Notice → Script σ)}
    {calls : List (Listener (Notice → Script σ) × Notice)} {inner : Story σ}
    (l : Listener (Notice → Script σ)) (n : Notice) (call : Told false [] b inner b') :
    Told false ((l, n) :: calls) b (.called l n :: inner) b'

namespace Script

variable {publish : Notice → Act σ Nat} {tell : Notice → World σ → Story σ} {s rest : Script σ}
  {w : World σ} {e : Option (Effect σ)}

def request? : Script σ → Option (Bus.Request (Notice → Script σ))
  | .subscribe kind callback _ => some (.subscribe kind callback)
  | .unsubscribe id _ => some (.unsubscribe id)
  | .clearBus _ => some .clear
  | .mark _ => some .mark
  | .since m _ => some (.since m)
  | .count kind _ => some (.count kind)
  | _ => none

theorem story_of_step (h : s.next w = some (e, rest)) : s.story publish tell w =
    (s.request?.map fun request => .asked (w.bus.ask request)).toList ++
      rest.story publish tell (e.elim w (·.apply w)) := by
  cases s <;> simp only [next, Option.some.injEq, Prod.mk.injEq, reduceCtorEq] at h <;>
    obtain ⟨rfl, rfl⟩ := h <;> rfl

theorem bus_of_step (h : s.next w = some (e, rest)) : (e.elim w (·.apply w)).bus =
    s.request?.elim w.bus fun request => (w.bus.serve request).2 := by
  cases s <;> simp only [next, Option.some.injEq, Prod.mk.injEq, reduceCtorEq] at h <;>
    obtain ⟨rfl, rfl⟩ := h <;> try rfl
  case register i _ =>
    obtain ⟨registry, eq⟩ := Effect.apply_register (w := w) (i := i)
    have same : ((Effect.register i).apply w).bus = w.bus := by rw [eq]
    exact same

end Script

namespace Told

variable {whole : Bool} {b b' b'' : Bus (Notice → Script σ)} {first second : Story σ}
  {calls : List (Listener (Notice → Script σ) × Notice)}

theorem append (h : Told true [] b first b') (h' : Told whole [] b' second b'') :
    Told whole [] b (first ++ second) b'' := by
  generalize none : ([] : List (Listener (Notice → Script σ) × Notice)) = calls at h
  generalize cuts : true = done at h
  induction h with
  | ended => exact h'
  | cut => cases cuts
  | asked request rest ih => exact .asked request (ih h' none cuts)
  | @published _ _ _ _ _ inner story delivery rest _ ih =>
    rw [List.append_assoc]
    exact .published delivery (ih h' none cuts)
  | publishing => cases cuts
  | called => cases none
  | calling => cases cuts

theorem answers {story : Story σ} (h : Told whole calls b story b') :
    b.Answers story.exchanges b' := by
  induction h with
  | ended => rfl
  | cut => rfl
  | asked request rest ih => exact ⟨rfl, ih⟩
  | published delivery rest ih ih' =>
    have both := ih.append ih'
    rw [← Story.exchanges_append] at both
    exact both
  | publishing delivery ih => exact ih
  | @called _ _ _ _ _ inner story l n ended call rest ih ih' =>
    have both : Story.exchanges (inner ++ .left l n ended :: story) =
        inner.exchanges ++ story.exchanges := Story.exchanges_append _ _
    exact both ▸ ih.append ih'
  | calling l n call ih => exact ih

end Told

namespace World

variable {publish : Notice → Act σ Nat} {tell : Notice → World σ → Story σ}

/-- A story that accounts for what an action has come to. Nothing but the depth of publications has
cut the action off. -/
structure Tells {α : Type} (calls : List (Listener (Notice → Script σ) × Notice)) (w : World σ)
    (story : Story σ) (outcome : Except Halt α × World σ) : Prop where
  told : Told (survives outcome.1) calls w.bus story outcome.2.bus
  free : outcome.1 ≠ .error .deadlock

def Publishes (publish : Notice → Act σ Nat) (tell : Notice → World σ → Story σ) : Prop :=
  ∀ n w, match (publish n).run w with
    | (.ok _, v) => ∃ inner, tell n w = .published n :: inner ∧
        Told true ((w.bus.listeners n.kind).map (·, n)) w.bus inner v.bus
    | (.error h, v) => h = .overflow ∧ Told false [] w.bus (tell n w) v.bus

theorem tells_of_step {s rest : Script σ} {w : World σ} {e : Option (Effect σ)}
    (h : s.next w = some (e, rest))
    (goes : Tells [] (e.elim w (·.apply w)) (rest.story publish tell (e.elim w (·.apply w)))
      ((rest.exec publish).run (e.elim w (·.apply w)))) :
    Tells [] w (s.story publish tell w) ((s.exec publish).run w) := by
  obtain ⟨later, free⟩ := goes
  rw [Script.bus_of_step h] at later
  rw [Script.exec_of_step h, Script.story_of_step h]
  refine ⟨?_, free⟩
  cases asks : s.request? with
  | none =>
    rw [asks] at later
    exact later
  | some request =>
    rw [asks] at later
    exact .asked request later

theorem tells_exec (published : Publishes publish tell) (s : Script σ) (w : World σ) :
    Tells [] w (s.story publish tell w) ((s.exec publish).run w) := by
  induction s using Script.stepwise generalizing w with
  | done => exact ⟨.ended, nofun⟩
  | panic => exact ⟨.ended, nofun⟩
  | step s ih =>
    obtain ⟨e, rest, next, ih⟩ := ih w
    exact tells_of_step next (ih _)
  | publish n k ih =>
    have first := published n w
    simp only [Script.exec, Script.story]
    rw [Act.run_bind]
    generalize (publish n).run w = outcome at first ⊢
    obtain ⟨halt | count, v⟩ := outcome
    · obtain ⟨rfl, told⟩ := first
      dsimp only
      rw [List.append_nil]
      refine ⟨told, fun deadlock => ?_⟩
      cases deadlock
    · obtain ⟨inner, eq, told⟩ := first
      rw [eq]
      exact ⟨.published told (ih count v).told, (ih count v).free⟩
  | access id kind body k ihBody ih =>
    simp only [Script.exec, Script.story, Act.run_get_bind]
    cases w.reach id kind with
    | error e => exact ih _ w
    | ok found =>
      obtain ⟨i, b⟩ := found
      dsimp only
      rw [Act.run_bind, run_holding]
      have inside := ihBody (b.view i) { w with busy := i :: w.busy }
      generalize ((body (b.view i)).exec publish).run _ = outcome at inside ⊢
      obtain ⟨halt | _, v⟩ := outcome
      · dsimp only
        rw [List.append_nil]
        exact ⟨inside.told, inside.free⟩
      · have rest := ih (.ok (b.view i)) { v with busy := w.busy }
        exact ⟨inside.told.append rest.told, rest.free⟩

theorem attempt_cases (act : Act σ Unit) (w : World σ) :
    (∃ ended v, (attempt act).run w = (.ok ended, v) ∧
        act.run w = (if ended then .ok () else .error .panic, v)) ∨
      ∃ h v, h ≠ .panic ∧ (attempt act).run w = (.error h, v) ∧ act.run w = (.error h, v) := by
  unfold attempt
  rw [ExceptT.run_mk]
  generalize act.run w = outcome
  obtain ⟨halt | _, v⟩ := outcome
  · cases halt with
    | panic => exact .inl ⟨false, v, rfl, rfl⟩
    | overflow => exact .inr ⟨.overflow, v, nofun, rfl, rfl⟩
    | deadlock => exact .inr ⟨.deadlock, v, nofun, rfl, rfl⟩
  · exact .inl ⟨true, v, rfl, rfl⟩

theorem survives_attempted (ended : Bool) :
    survives (if ended then .ok () else .error .panic : Except Halt Unit) = true := by
  cases ended <;> rfl

theorem tells_deliver (published : Publishes publish tell) (n : Notice)
    (ls : List (Listener (Notice → Script σ))) (w : World σ) :
    Tells (ls.map (·, n)) w (deliveryStory publish tell n ls w) ((deliver publish n ls).run w) ∧
      ((deliver publish n ls).run w).1 ≠ .error .panic := by
  induction ls generalizing w with
  | nil => exact ⟨⟨.ended, nofun⟩, nofun⟩
  | cons l rest ih =>
    obtain ⟨call, free⟩ := tells_exec published (l.callback n) w
    unfold deliver deliveryStory
    rw [Act.run_bind]
    rcases attempt_cases ((l.callback n).exec publish) w with
      ⟨ended, u, attempted, ran⟩ | ⟨halt, u, ne, attempted, ran⟩
    · rw [ran, survives_attempted] at call
      obtain ⟨⟨later, free⟩, calm⟩ := ih u
      rw [attempted]
      dsimp only
      rw [Act.run_bind]
      generalize (deliver publish n rest).run u = outcome at later free calm ⊢
      obtain ⟨halt | count, v⟩ := outcome
      · refine ⟨⟨.called l n ended call later, fun eq => free ?_⟩, fun eq => calm ?_⟩ <;>
          exact congrArg Except.error (Except.error.inj eq)
      · exact ⟨⟨.called l n ended call later, nofun⟩, nofun⟩
    · rw [ran] at call free
      rw [attempted]
      dsimp only
      rw [List.append_nil]
      have overflow : halt = .overflow := by
        cases halt with
        | panic => exact absurd rfl ne
        | overflow => rfl
        | deadlock => exact absurd rfl free
      subst overflow
      exact ⟨⟨.calling l n call, nofun⟩, nofun⟩

theorem publishes_publishWithin (depth : Nat) :
    Publishes (σ := σ) (publishWithin depth) (story depth) := by
  induction depth with
  | zero => exact fun n w => ⟨rfl, .cut⟩
  | succ depth ih =>
    intro n w
    have told := tells_deliver ih n (w.bus.listeners n.kind) ((Effect.notice n).apply w)
    have same : (publishWithin (depth + 1) n).run w =
        (deliver (publishWithin depth) n (w.bus.listeners n.kind)).run
          ((Effect.notice n).apply w) := rfl
    rw [same]
    unfold story
    generalize (deliver (publishWithin depth) n _).run _ = outcome at told ⊢
    obtain ⟨⟨told, free⟩, calm⟩ := told
    obtain ⟨halt | count, v⟩ := outcome
    · cases halt with
      | panic => exact absurd rfl calm
      | overflow => exact ⟨rfl, .publishing told⟩
      | deadlock => exact absurd rfl free
    · exact ⟨_, rfl, told⟩

theorem answers_story (depth : Nat) (s : Script σ) (w : World σ) :
    w.bus.Answers (s.story (publishWithin depth) (story depth) w).exchanges
      ((s.exec (publishWithin depth)).run w).2.bus :=
  (tells_exec (publishes_publishWithin depth) s w).told.answers

end World

/-- Whatever a bus has been asked before, and whatever foreign code and the listeners that it calls
ask it now: at every moment it has the listeners that a roll of the live subscriptions has, kept
from the requests and replies alone, their numbers are in order, and the next reply is the one that
is due by that roll. -/
theorem bus_keeps_roll {es : List (Bus.Exchange (Notice → Script σ))} {w : World σ}
    (reached : Bus.empty.Answers es w.bus) (depth : Nat) (s : Script σ) :
    let all := es ++ (s.story (World.publishWithin depth) (World.story depth) w).exchanges
    let b := ((s.exec (World.publishWithin depth)).run w).2.bus
    Bus.empty.Answers all b ∧ ∀ before after, all = before ++ after →
      ∃ b', Bus.empty.Answers before b' ∧ b'.Answers after b ∧ b'.Numbered ∧
        (∀ kind, b'.listeners kind = ((Bus.roll before).filter (·.1 = kind)).map (·.2)) ∧
        ∀ e ∈ after.head?, Bus.Due before e := by
  intro all b
  have answers : Bus.empty.Answers all b := reached.append (World.answers_story depth s w)
  refine ⟨answers, fun before after split => ?_⟩
  rw [split] at answers
  obtain ⟨b', earlier, later⟩ := Bus.answers_append.mp answers
  refine ⟨b', earlier, later, earlier.numbered Bus.numbered_empty, earlier.lists.listeners, ?_⟩
  intro e next
  obtain ⟨rest, rfl⟩ := List.head?_eq_some_iff.mp next
  exact answers.due

def Script.succession : Script Unit :=
  .subscribe .declared
    (fun _ => .unsubscribe ⟨1⟩ fun _ => .subscribe .declared (fun _ => .done) fun _ => .done)
    fun _ => .publish (.declared "x" ⟨.nil, .literal⟩) fun _ => .done

theorem bus_keeps_roll_of_succession :
    let w : World Unit := .new .builtin .recording {} 8 ()
    let all := (Script.succession.story (World.publishWithin 8) (World.story 8) w).exchanges
    let b := ((Script.succession.exec (World.publishWithin 8)).run w).2.bus
    all.length = 3 ∧ (b.listeners .declared).map (·.id) = [⟨2⟩] ∧
      b.listeners .declared = ((Bus.roll all).filter (·.1 = .declared)).map (·.2) := by
  intro w all b
  have reached : Bus.empty.Answers [] w.bus := rfl
  obtain ⟨-, moments⟩ := bus_keeps_roll reached 8 Script.succession
  obtain ⟨b', -, rfl, -, listeners, -⟩ := moments all [] (List.append_nil _).symm
  exact ⟨by decide +kernel, by decide +kernel, listeners .declared⟩

end Replay
