import Replay.Proofs.World.Calm

/-!
What goes on in a world, one moment after the other. At each moment something is done, and there is
a stack of what waits for it: code for its publication, a publication for its listener, a typed
access or a call for what is done in the middle of it. Locks are taken and given back one at a time,
where an action holds an instance as a whole; the moments of an action lead to all that it comes to.
-/
namespace Replay

variable {σ α : Type}

namespace Moment

inductive Frame (σ : Type) where
  /-- Code that waits for its publication. -/
  | publication (k : Nat → Script σ)
  /-- A listener was called; others are still to be called, and so many have come to their end. -/
  | listener (n : Notice) (others : List (Listener (Notice → Script σ))) (count : Nat)
  /-- A typed access is in progress. -/
  | access (i : InstanceId) (k : Script σ)
  /-- An instance is in the middle of a call; others are still to be called. -/
  | call (i : InstanceId) (c : Call) (others : List InstanceId)

inductive Focus (σ : Type) where
  | code (s : Script σ)
  /-- These listeners are still to be called, and so many have come to their end. -/
  | listeners (n : Notice) (ls : List (Listener (Notice → Script σ))) (count : Nat)
  /-- These instances are still to be called. -/
  | instances (c : Call) (is : List InstanceId)
  /-- Something has been cut off. -/
  | halted (h : Halt)

namespace Frame

def isListener : Frame σ → Bool
  | listener .. => true
  | _ => false

def isCall : Frame σ → Bool
  | call .. => true
  | _ => false

def held? : Frame σ → Option InstanceId
  | access i _ | call i _ _ => some i
  | publication _ | listener .. => none

def release (w : World σ) (f : Frame σ) : World σ :=
  { w with busy := f.held?.elim w.busy w.busy.erase }

end Frame

def level (frames : List (Frame σ)) : Nat := frames.countP (·.isListener)

theorem level_listener {n : Notice} {ls : List (Listener (Notice → Script σ))} {count : Nat}
    {fs : List (Frame σ)} : level (.listener n ls count :: fs) = level fs + 1 :=
  List.countP_cons_of_pos rfl

end Moment

structure Moment (σ : Type) where
  focus : Moment.Focus σ
  frames : List (Moment.Frame σ)
  world : World σ

/-- What an instance does about a call, once it is entered and the variables module has answered
with its reaction to it. -/
def Body.answer (b : Body σ) (r : Renderer) (i : InstanceId) (c : Call) : Script σ :=
  match b with
  | .tracker m => (m.respond r c).notice.elim .done fun n => .publish n fun _ => .done
  | .foreign m => m.respond i c

def World.lock (w : World σ) (i : InstanceId) : World σ := { w with busy := i :: w.busy }

namespace Moment

inductive Step : Moment σ → Moment σ → Prop
  | goes {s rest : Script σ} {e : Option (Effect σ)} {fs : List (Frame σ)} {w : World σ}
      (next : s.next w = some (e, rest)) :
      Step ⟨.code s, fs, w⟩ ⟨.code rest, fs, e.elim w (·.apply w)⟩
  | panics {fs : List (Frame σ)} {w : World σ} :
      Step ⟨.code .panic, fs, w⟩ ⟨.halted .panic, fs, w⟩
  | publishes {n : Notice} {k : Nat → Script σ} {fs : List (Frame σ)} {w : World σ}
      (room : level fs < w.nesting) : Step ⟨.code (.publish n k), fs, w⟩
        ⟨.listeners n (w.bus.listeners n.kind) 0, .publication k :: fs, (Effect.notice n).apply w⟩
  | overflows {n : Notice} {k : Nat → Script σ} {fs : List (Frame σ)} {w : World σ}
      (full : w.nesting ≤ level fs) :
      Step ⟨.code (.publish n k), fs, w⟩ ⟨.halted .overflow, fs, w⟩
  | refused {id kind : String} {body : View → Script σ} {k : Except Error View → Script σ}
      {e : Error} {fs : List (Frame σ)} {w : World σ} (reach : w.reach id kind = .error e) :
      Step ⟨.code (.access id kind body k), fs, w⟩ ⟨.code (k (.error e)), fs, w⟩
  | enters {id kind : String} {body : View → Script σ} {k : Except Error View → Script σ}
      {i : InstanceId} {b : Body σ} {fs : List (Frame σ)} {w : World σ}
      (reach : w.reach id kind = .ok (i, b)) : Step ⟨.code (.access id kind body k), fs, w⟩
        ⟨.code (body (b.view i)), .access i (k (.ok (b.view i))) :: fs, w.lock i⟩
  | leaves {i : InstanceId} {k : Script σ} {fs : List (Frame σ)} {w : World σ} :
      Step ⟨.code .done, .access i k :: fs, w⟩ ⟨.code k, fs, (Frame.access i k).release w⟩
  | tells {n : Notice} {l : Listener (Notice → Script σ)}
      {ls : List (Listener (Notice → Script σ))} {count : Nat} {fs : List (Frame σ)}
      {w : World σ} : Step ⟨.listeners n (l :: ls) count, fs, w⟩
        ⟨.code (l.callback n), .listener n ls count :: fs, w⟩
  | told {n : Notice} {ls : List (Listener (Notice → Script σ))} {count : Nat}
      {fs : List (Frame σ)} {w : World σ} :
      Step ⟨.code .done, .listener n ls count :: fs, w⟩ ⟨.listeners n ls (count + 1), fs, w⟩
  | published {n : Notice} {count : Nat} {k : Nat → Script σ} {fs : List (Frame σ)}
      {w : World σ} :
      Step ⟨.listeners n [] count, .publication k :: fs, w⟩ ⟨.code (k count), fs, w⟩
  | skips {c : Call} {i : InstanceId} {is : List InstanceId} {fs : List (Frame σ)} {w : World σ}
      (nobody : w.body? i = none) :
      Step ⟨.instances c (i :: is), fs, w⟩ ⟨.instances c is, fs, w⟩
  /-- A call waits for an instance that waits for the call. -/
  | blocks {c : Call} {i : InstanceId} {is : List InstanceId} {b : Body σ} {fs : List (Frame σ)}
      {w : World σ} (there : w.body? i = some b) (busy : w.isBusy i = true) :
      Step ⟨.instances c (i :: is), fs, w⟩ ⟨.halted .deadlock, fs, w⟩
  | calls {c : Call} {i : InstanceId} {is : List InstanceId} {b : Body σ} {fs : List (Frame σ)}
      {w : World σ} (there : w.body? i = some b) (free : w.isBusy i = false) :
      Step ⟨.instances c (i :: is), fs, w⟩
        ⟨.code (b.answer w.renderer i c), .call i c is :: fs, (w.begin i b c).lock i⟩
  | returns {c : Call} {i : InstanceId} {is : List InstanceId} {fs : List (Frame σ)}
      {w : World σ} : Step ⟨.code .done, .call i c is :: fs, w⟩
        ⟨.instances c is, fs, (Frame.call i c is : Frame σ).release w⟩
  /-- What is cut off gives back what it held; a panic goes no further than the listener. -/
  | unwinds {h : Halt} {f : Frame σ} {fs : List (Frame σ)} {w : World σ}
      (passes : f.isListener = true → h ≠ .panic) :
      Step ⟨.halted h, f :: fs, w⟩ ⟨.halted h, fs, f.release w⟩
  | catches {n : Notice} {ls : List (Listener (Notice → Script σ))} {count : Nat}
      {fs : List (Frame σ)} {w : World σ} :
      Step ⟨.halted .panic, .listener n ls count :: fs, w⟩ ⟨.listeners n ls count, fs, w⟩

abbrev Steps : Moment σ → Moment σ → Prop := Relation.ReflTransGen Step

variable {w v : World σ} {fs : List (Frame σ)} {n : Notice} {i : InstanceId} {c : Call}
  {publish : Notice → Act σ Nat} {limit depth : Nat}

/-! From actions to moments -/

/-- What an action leaves as it was: the locks, and how deep publications may go. -/
structure Settled (w v : World σ) : Prop where
  busy : v.busy = w.busy
  nesting : v.nesting = w.nesting

theorem nesting_apply (e : Effect σ) : (e.apply w).nesting = w.nesting := by
  cases e with
  | register i =>
    obtain ⟨registry, eq⟩ := Effect.apply_register (w := w) (i := i)
    rw [eq]
  | _ => rfl

theorem nesting_begin {b : Body σ} : (w.begin i b c).nesting = w.nesting := by
  cases b <;> rfl

theorem settled_moves {D : Discipline σ} (moves : D.Moves c w v) : Settled w v :=
  ⟨moves.busy, moves.kept (fun _ => nesting_apply _) fun _ => nesting_begin⟩

theorem settled_steps {D : Discipline σ} (steps : D.Steps w v) : Settled w v :=
  settled_moves (steps.moves .reset)

theorem release_of_held {f : Frame σ} (held : f.held? = some i) (busy : v.busy = i :: w.busy) :
    f.release v = { v with busy := w.busy } := by
  unfold Frame.release
  rw [held, busy, Option.elim_some, List.erase_cons_head]

def Lands (m : Moment σ) (fs : List (Frame σ)) (arrive : α → Focus σ) :
    Except Halt α × World σ → Prop
  | (.ok a, v) => Steps m ⟨arrive a, fs, v⟩
  | (.error h, v) => Steps m ⟨.halted h, fs, v⟩

section Lands

variable {m m' : Moment σ} {arrive : α → Focus σ} {act : Act σ α}

theorem Lands.after {outcome : Except Halt α × World σ} (steps : Steps m m')
    (lands : Lands m' fs arrive outcome) : Lands m fs arrive outcome := by
  obtain ⟨_ | _, v⟩ := outcome
  · exact steps.trans lands
  · exact steps.trans lands

theorem Lands.bind {β : Type} {arrive' : β → Focus σ} {f : α → Act σ β}
    (first : Lands m fs arrive (act.run w)) (rest : ∀ a v, act.run w = (.ok a, v) →
      Lands ⟨arrive a, fs, v⟩ fs arrive' ((f a).run v)) :
    Lands m fs arrive' ((act >>= f).run w) := by
  rw [Act.run_bind]
  cases ran : act.run w with
  | mk result v =>
    rw [ran] at first
    cases result with
    | error h => exact first
    | ok a => exact (rest a v ran).after first

theorem Lands.holding {act : Act σ Unit} {f : Frame σ} {focus : Focus σ} (held : f.held? = some i)
    (leave : ∀ u, Step ⟨.code .done, f :: fs, u⟩ ⟨focus, fs, f.release u⟩)
    (inside : Lands m (f :: fs) (fun _ => .code .done) (act.run (w.lock i)))
    (settled : Settled (w.lock i) (act.run (w.lock i)).2) :
    Lands m fs (fun _ => focus) ((World.holding i act).run w) := by
  have deaf : f.isListener = false := by
    cases f <;> first | rfl | cases held
  have same : act.run { w with busy := i :: w.busy } = act.run (w.lock i) := rfl
  rw [World.run_holding, same]
  generalize act.run (w.lock i) = outcome at inside settled ⊢
  obtain ⟨halt | _, v⟩ := outcome
  · have back : Step ⟨.halted halt, f :: fs, v⟩ ⟨.halted halt, fs, f.release v⟩ :=
      .unwinds fun listens => absurd (deaf.symm.trans listens) nofun
    rw [release_of_held held settled.busy] at back
    exact inside.tail back
  · have back := leave v
    rw [release_of_held held settled.busy] at back
    exact inside.tail back

end Lands

/-- Whether publications go their way by `publish`, where so many are open and `limit` may be. -/
structure Enacts (publish : Notice → Act σ Nat) (limit opened : Nat) : Prop where
  lands : ∀ {n k fs w}, level fs = opened → w.nesting = limit →
    Lands ⟨.code (.publish n k), fs, w⟩ fs (fun count => .code (k count)) ((publish n).run w)
  evolves : ∀ n w, Discipline.free.Tame w → Discipline.free.Steps w ((publish n).run w).2

theorem Enacts.settled {opened : Nat} (enacts : Enacts publish limit opened) (s : Script σ)
    (w : World σ) : Settled w ((s.exec publish).run w).2 :=
  settled_steps (Discipline.free.steps_exec enacts.evolves s w trivial Discipline.tame_free)

theorem lands_exec {opened : Nat} (enacts : Enacts publish limit opened) (s : Script σ) :
    ∀ {fs w}, level fs = opened → w.nesting = limit →
      Lands ⟨.code s, fs, w⟩ fs (fun _ => .code .done) ((s.exec publish).run w) := by
  induction s using Script.stepwise with
  | done => exact fun _ _ => .refl
  | panic => exact fun _ _ => .single .panics
  | step s ih =>
    intro fs w here nests
    obtain ⟨e, rest, next, ih⟩ := ih w
    rw [Script.exec_of_step next]
    refine Lands.after (.single (.goes next)) (ih here ?_)
    cases e with
    | none => exact nests
    | some e => exact (nesting_apply e).trans nests
  | publish n k ih =>
    intro fs w here nests
    refine (enacts.lands here nests).bind fun count v ran => ih count here ?_
    have settled := settled_steps (enacts.evolves n w Discipline.tame_free)
    rw [ran] at settled
    exact settled.nesting.trans nests
  | access id kind body k ihBody ih =>
    intro fs w here nests
    simp only [Script.exec, Act.run_get_bind]
    cases reach : w.reach id kind with
    | error e => exact (ih (.error e) here nests).after (.single (.refused reach))
    | ok found =>
      obtain ⟨i, b⟩ := found
      have settled := enacts.settled (body (b.view i)) (w.lock i)
      let frames : List (Frame σ) := .access i (k (.ok (b.view i))) :: fs
      have inside : Lands ⟨.code (body (b.view i)), frames, w.lock i⟩ frames (fun _ => .code .done)
          (((body (b.view i)).exec publish).run (w.lock i)) := ihBody (b.view i) here nests
      have held := (Lands.holding rfl (fun _ => .leaves) inside settled).after
        (.single (.enters reach))
      refine held.bind fun _ v ran => ih (.ok (b.view i)) here ?_
      have same := congrArg (fun outcome => outcome.2.nesting) ran
      exact (same.symm.trans settled.nesting).trans nests

theorem lands_deliver {opened : Nat} (enacts : Enacts publish limit (opened + 1))
    (ls : List (Listener (Notice → Script σ))) : ∀ {count fs w}, level fs = opened →
      w.nesting = limit → Lands ⟨.listeners n ls count, fs, w⟩ fs
        (fun more => .listeners n [] (count + more)) ((World.deliver publish n ls).run w) := by
  induction ls with
  | nil => exact fun _ _ => .refl
  | cons l rest ih =>
    intro count fs w here nests
    have deeper : level (.listener n rest count :: fs) = opened + 1 :=
      level_listener.trans (congrArg (· + 1) here)
    have inside := lands_exec enacts (l.callback n) deeper nests
    have settled := enacts.settled (l.callback n) w
    have called : Lands ⟨.listeners n (l :: rest) count, fs, w⟩ fs
        (fun ended => .listeners n rest (if ended = true then count + 1 else count))
        ((World.attempt ((l.callback n).exec publish)).run w) := by
      rcases World.attempt_cases ((l.callback n).exec publish) w with
        ⟨ended, u, attempted, ran⟩ | ⟨halt, u, ne, attempted, ran⟩
      · rw [ran] at inside
        rw [attempted]
        cases ended with
        | true => exact .head .tells (inside.tail .told)
        | false => exact .head .tells (inside.tail .catches)
      · rw [ran] at inside
        rw [attempted]
        exact .head .tells (inside.tail (.unwinds fun _ => ne))
    unfold World.deliver
    refine called.bind fun ended u attempted => ?_
    have nests : u.nesting = limit := by
      have same := World.snd_run_attempt ((l.callback n).exec publish) w
      rw [attempted] at same
      exact (congrArg _ same).trans (settled.nesting.trans nests)
    refine (ih here nests).bind fun more v _ => ?_
    have total : (if ended = true then count + 1 else count) + more =
        count + if ended = true then more + 1 else more := by
      cases ended
      · rfl
      · simp only [if_true]
        omega
    rw [total]
    exact .refl

theorem enacts_publishWithin (depth opened : Nat) :
    Enacts (σ := σ) (World.publishWithin depth) (opened + depth) opened := by
  refine ⟨?_, Discipline.free.steps_publishWithin depth⟩
  induction depth generalizing opened with
  | zero => exact fun here nests => .single (.overflows (by omega))
  | succ depth ih =>
    intro n k fs w here nests
    have nests : w.nesting = opened + 1 + depth := by omega
    have enacts : Enacts (σ := σ) (World.publishWithin depth) (opened + 1 + depth) (opened + 1) :=
      ⟨ih (opened + 1), Discipline.free.steps_publishWithin depth⟩
    have begun : Step ⟨.code (.publish n k), fs, w⟩ ⟨.listeners n (w.bus.listeners n.kind) 0,
        .publication k :: fs, (Effect.notice n).apply w⟩ := .publishes (by omega)
    let frames : List (Frame σ) := .publication k :: fs
    let noticed : World σ := (Effect.notice n).apply w
    have delivered : Lands ⟨.listeners n (w.bus.listeners n.kind) 0, frames, noticed⟩ frames
        (fun more => .listeners n [] (0 + more))
        ((World.deliver (World.publishWithin depth) n (w.bus.listeners n.kind)).run noticed) :=
      lands_deliver enacts _ here nests
    have same : (World.publishWithin (depth + 1) n).run w =
        (World.deliver (World.publishWithin depth) n (w.bus.listeners n.kind)).run noticed := rfl
    simp only [Nat.zero_add] at delivered
    rw [same]
    generalize (World.deliver _ n _).run _ = outcome at delivered ⊢
    obtain ⟨halt | count, v⟩ := outcome
    · exact .head begun (delivered.tail (.unwinds nofun))
    · exact .head begun (delivered.tail .published)

theorem enacts_publish (limit : Nat) : Enacts (σ := σ) World.publish limit 0 := by
  refine ⟨fun {n k fs w} here nests => ?_, Discipline.free.steps_publish⟩
  have same : (World.publish n).run w = (World.publishWithin w.nesting n).run w := rfl
  rw [same, nests]
  exact (enacts_publishWithin limit 0).lands here (nests.trans (Nat.zero_add limit).symm)

/-- A call of a free instance is what the instance does about it, while it is locked. -/
theorem call_eq {b : Body σ} (there : w.body? i = some b) (free : w.isBusy i = false) :
    (World.call i c).run w =
      (World.holding i (World.run (b.answer w.renderer i c))).run (w.begin i b c) := by
  cases b with
  | foreign m => exact World.call_of_foreign there free
  | tracker m =>
    rw [World.call_of_tracker there free]
    unfold Body.answer World.tell
    dsimp only
    cases (m.respond w.renderer c).notice <;> rfl

theorem lands_run (s : Script σ) (w : World σ) :
    Lands ⟨.code s, [], w⟩ [] (fun _ => .code .done) ((World.run s).run w) :=
  lands_exec (enacts_publish w.nesting) s rfl rfl

theorem lands_callAll (c : Call) (is : List InstanceId) : ∀ {w : World σ},
    Lands ⟨.instances c is, [], w⟩ [] (fun _ => .instances c [])
      ((World.callAll c is).run w) := by
  induction is with
  | nil => exact .refl
  | cons i rest ih =>
    intro w
    have called : Lands ⟨.instances c (i :: rest), [], w⟩ [] (fun _ => .instances c rest)
        ((World.call i c).run w) := by
      cases there : w.body? i with
      | none =>
        rw [World.call_of_none there]
        exact .single (.skips there)
      | some b =>
        cases busy : w.isBusy i with
        | true =>
          rw [World.call_of_busy there busy]
          exact .single (.blocks there busy)
        | false =>
          have enacts : Enacts (σ := σ) World.publish w.nesting 0 := enacts_publish w.nesting
          have alone : level [(Frame.call i c rest : Frame σ)] = 0 := rfl
          have locked : ((w.begin i b c).lock i).nesting = w.nesting := nesting_begin
          have inside := lands_exec enacts (b.answer w.renderer i c) alone locked
          rw [call_eq there busy]
          exact (Lands.holding rfl (fun _ => .returns) inside (enacts.settled _ _)).after
            (.single (.calls there busy))
    unfold World.callAll
    exact called.bind fun _ _ _ => ih

end Moment

end Replay
