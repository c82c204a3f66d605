import Replay.Proofs.World.Operation

/-!
Worlds that nothing is drawn in. What is done in a world without a picture is what is done in one
that keeps a picture: no action looks at it, and both hand out the same ids, so whoever owns a
visualiser is told the same and finds the same in both.
-/
namespace Replay

variable {σ α β : Type}

def Renderer.blinded (r : Renderer) : Renderer := { r with picture := none }

def World.blinded (w : World σ) : World σ := { w with renderer := w.renderer.blinded }

def Act.Unseeing (act : Act σ α) : Prop :=
  ∀ w : World σ, act.run w.blinded = ((act.run w).1, (act.run w).2.blinded)

/-! The variables module -/

namespace Variables

variable (m : Variables) (r : Renderer)

def Outcome.blinded (out : Outcome) : Outcome := { out with renderer := out.renderer.blinded }

theorem change_blinded (name : String) (old : Variable) (new : Tracked) :
    m.change r.blinded name old new = (m.change r name old new).blinded := by
  unfold change
  dsimp only
  cases m.boxes[name]? <;> rfl

theorem declare_blinded (name : String) (value : Tracked) :
    m.declare r.blinded name value = (m.declare r name value).blinded := by
  unfold declare
  cases m.surface <;> rfl

theorem clear_blinded : m.clear r.blinded = ((m.clear r).1, (m.clear r).2.blinded) := by
  rw [Prod.ext_iff]
  refine ⟨rfl, ?_⟩
  unfold clear
  dsimp only
  rw [Std.TreeMap.foldl_eq_foldl_toList, Std.TreeMap.foldl_eq_foldl_toList]
  exact List.foldl_hom Renderer.blinded fun _ _ => rfl

theorem handle_blinded (event : Event) :
    m.handle r.blinded event = (m.handle r event).blinded := by
  unfold handle
  split
  · rfl
  · split
    · unfold initialise
      split
      · exact m.change_blinded r _ _ _
      · exact m.declare_blinded r _ _
    · unfold assign
      split
      · exact m.change_blinded r _ _ _
      · rfl
    · rfl

theorem respond_blinded (c : Call) : m.respond r.blinded c = (m.respond r c).blinded := by
  cases c with
  | init root own => rfl
  | handle event history => exact m.handle_blinded r event
  | reset =>
    unfold respond
    rw [clear_blinded]
    rfl
  | destroy =>
    unfold respond
    rw [clear_blinded]
    rfl
  | update elapsed => rfl

end Variables

/-! Actions in a row -/

namespace Act

theorem unseeing_pure (a : α) : (pure a : Act σ α).Unseeing := fun _ => rfl

theorem unseeing_throw (h : Halt) : (throw h : Act σ α).Unseeing := fun _ => rfl

theorem Unseeing.bind {act : Act σ α} {f : α → Act σ β} (first : act.Unseeing)
    (rest : ∀ a, (f a).Unseeing) : (act >>= f).Unseeing := by
  intro w
  rw [run_bind, run_bind, first w]
  generalize act.run w = outcome
  obtain ⟨_ | a, after⟩ := outcome
  · rfl
  · exact rest a after

theorem unseeing_get_bind {f : World σ → Act σ α} (same : ∀ w, f w.blinded = f w)
    (rest : ∀ w, (f w).Unseeing) : ((get : Act σ (World σ)) >>= f).Unseeing := by
  intro w
  rw [run_get_bind, run_get_bind, same]
  exact rest w w

theorem unseeing_modify {g : World σ → World σ} (same : ∀ w, g w.blinded = (g w).blinded) :
    (modify g : Act σ PUnit).Unseeing := by
  intro w
  have run (w : World σ) : (modify g : Act σ PUnit).run w = (.ok ⟨⟩, g w) := rfl
  rw [run, run, same]

theorem Unseeing.holding {act : Act σ Unit} (h : act.Unseeing) (i : InstanceId) :
    (World.holding i act).Unseeing := by
  intro w
  exact congrArg (fun outcome : Except Halt Unit × World σ =>
    (outcome.1, { outcome.2 with busy := w.busy })) (h { w with busy := i :: w.busy })

theorem Unseeing.attempt {act : Act σ Unit} (h : act.Unseeing) :
    (World.attempt act).Unseeing := by
  intro w
  simp only [World.attempt, ExceptT.run_mk]
  rw [h w]
  rcases act.run w with ⟨halt | _, after⟩
  · cases halt <;> rfl
  · rfl

end Act

/-! Foreign code -/

theorem World.register_blinded (w : World σ) (i : InstanceId) :
    w.blinded.register i = (w.register i).blinded := by
  unfold register
  have same : w.blinded.body? i = w.body? i := rfl
  rw [same]
  cases w.body? i <;> rfl

theorem Effect.apply_blinded (e : Effect σ) (w : World σ) :
    e.apply w.blinded = (e.apply w).blinded := by
  cases e with
  | register i => exact w.register_blinded i
  | _ => rfl

theorem Script.next_blinded (s : Script σ) (w : World σ) : s.next w.blinded = s.next w := by
  cases s <;> rfl

theorem Script.unseeing_exec {publish : Notice → Act σ Nat}
    (published : ∀ n, (publish n).Unseeing) (s : Script σ) : (s.exec publish).Unseeing := by
  have look {s : Script σ} {w : World σ} {rest : Script σ} (next : s.next w = some (none, rest))
      (ih : (rest.exec publish).Unseeing) : (s.exec publish).run w.blinded =
        (((s.exec publish).run w).1, ((s.exec publish).run w).2.blinded) := by
    rw [exec_of_look next, exec_of_look ((s.next_blinded w).trans next)]
    exact ih w
  have step {s : Script σ} {w : World σ} {e : Effect σ} {rest : Script σ}
      (next : s.next w = some (some e, rest)) (ih : (rest.exec publish).Unseeing) :
      (s.exec publish).run w.blinded =
        (((s.exec publish).run w).1, ((s.exec publish).run w).2.blinded) := by
    rw [exec_of_next next, exec_of_next ((s.next_blinded w).trans next), e.apply_blinded]
    exact ih (e.apply w)
  induction s with
  | done => exact Act.unseeing_pure ()
  | panic => exact Act.unseeing_throw .panic
  | consult k ih => exact fun w => look rfl (ih _)
  | remember f k ih => exact fun w => step rfl ih
  | subscribe kind callback k _ ih => exact fun w => step rfl (ih _)
  | unsubscribe id k ih => exact fun w => step rfl (ih _)
  | clearBus k ih => exact fun w => step rfl ih
  | mark k ih => exact fun w => look rfl (ih _)
  | since m k ih => exact fun w => look rfl (ih _)
  | count kind k ih => exact fun w => look rfl (ih _)
  | registered k ih => exact fun w => look rfl (ih _)
  | register i k ih => exact fun w => step rfl ih
  | clearRegistry k ih => exact fun w => step rfl ih
  | createElement s spec k ih => exact fun w => step rfl (ih _)
  | updateElement e spec k ih => exact fun w => step rfl ih
  | removeElement e k ih => exact fun w => step rfl ih
  | start k ih => exact fun w => step rfl (ih _)
  | resume k ih => exact fun w => step rfl (ih _)
  | pause k ih => exact fun w => step rfl ih
  | setSpeed speed k ih => exact fun w => step rfl ih
  | setCode code k ih => exact fun w => step rfl ih
  | session k ih => exact fun w => look rfl (ih _)
  | publish n k ih => exact (published n).bind ih
  | access id kind body k ihBody ih =>
    unfold exec
    refine Act.unseeing_get_bind (fun _ => rfl) fun w => ?_
    split
    · exact ih _
    · exact (Act.Unseeing.holding (ihBody _) _).bind fun _ => ih _

namespace World

theorem unseeing_deliver {publish : Notice → Act σ Nat} (published : ∀ n, (publish n).Unseeing)
    (n : Notice) (ls : List (Listener (Notice → Script σ))) :
    (deliver publish n ls).Unseeing := by
  induction ls with
  | nil => exact Act.unseeing_pure 0
  | cons l rest ih =>
    exact (Script.unseeing_exec published (l.callback n)).attempt.bind fun _ =>
      ih.bind fun _ => Act.unseeing_pure _

theorem unseeing_publishWithin (depth : Nat) (n : Notice) :
    (publishWithin depth n : Act σ Nat).Unseeing := by
  induction depth generalizing n with
  | zero => exact Act.unseeing_throw .overflow
  | succ depth ih =>
    intro w
    exact unseeing_deliver ih n (w.bus.listeners n.kind)
      { w with journal := .notice n :: w.journal }

theorem unseeing_publish (n : Notice) : (publish n : Act σ Nat).Unseeing :=
  Act.unseeing_get_bind (fun _ => rfl) fun w => unseeing_publishWithin w.nesting n

theorem unseeing_run (s : Script σ) : (run s).Unseeing := Script.unseeing_exec unseeing_publish s

theorem unseeing_tell (n : Option Notice) : (tell n : Act σ Unit).Unseeing := by
  cases n with
  | none => exact Act.unseeing_pure ()
  | some n =>
    intro w
    unfold tell
    rw [Act.run_discard, Act.run_discard, unseeing_publish n w]

/-! Calls -/

theorem begin_blinded (w : World σ) (i : InstanceId) (b : Body σ) (c : Call) :
    w.blinded.begin i b c = (w.begin i b c).blinded := by
  cases b with
  | foreign m => rfl
  | tracker m =>
    unfold begin
    have same := m.respond_blinded w.renderer c
    dsimp only [blinded] at same ⊢
    rw [same]
    rfl

theorem unseeing_call (i : InstanceId) (c : Call) : (call i c : Act σ Unit).Unseeing := by
  intro w
  have body : w.blinded.body? i = w.body? i := rfl
  have busy : w.blinded.isBusy i = w.isBusy i := rfl
  cases here : w.body? i with
  | none => rw [call_of_none here, call_of_none (body.trans here)]
  | some b =>
    cases held : w.isBusy i with
    | true => rw [call_of_busy here held, call_of_busy (body.trans here) (busy.trans held)]
    | false =>
      cases b with
      | foreign m =>
        rw [call_of_foreign here held, call_of_foreign (body.trans here) (busy.trans held),
          begin_blinded]
        exact (unseeing_run _).holding i _
      | tracker m =>
        have same := m.respond_blinded w.renderer c
        rw [call_of_tracker here held, call_of_tracker (body.trans here) (busy.trans held),
          begin_blinded]
        dsimp only [blinded]
        rw [same]
        exact (unseeing_tell _).holding i _

theorem unseeing_callAll (c : Call) (is : List InstanceId) :
    (callAll c is : Act σ Unit).Unseeing := by
  induction is with
  | nil => exact Act.unseeing_pure ()
  | cons i rest ih => exact (unseeing_call i c).bind fun _ => ih

theorem unseeing_broadcast (event : Event) (history : Trace) :
    (broadcast event history : Act σ Unit).Unseeing :=
  Act.unseeing_get_bind (fun _ => rfl) fun w => unseeing_callAll _ w.registry.all

theorem unseeing_reset : (reset : Act σ Unit).Unseeing :=
  Act.unseeing_get_bind (fun _ => rfl) fun w => unseeing_callAll _ w.registry.all

theorem unseeing_update (elapsed : UInt64) : (update elapsed : Act σ Unit).Unseeing :=
  Act.unseeing_get_bind (fun _ => rfl) fun w => unseeing_callAll _ w.registry.all

/-! Levels -/

theorem release_blinded (mount : SurfaceHandle) (r : Renderer) :
    (mount.release r.blinded).2 = (mount.release r).2.blinded := by
  unfold SurfaceHandle.release
  split <;> rfl

theorem releaseAll_blinded (r : Renderer) (mounts : List SurfaceHandle) :
    releaseAll r.blinded mounts = (releaseAll r mounts).blinded :=
  List.foldl_hom Renderer.blinded fun r mount => release_blinded mount r

theorem cleared_blinded (w : World σ) : w.blinded.cleared = w.cleared.blinded := by
  have same := releaseAll_blinded w.renderer w.visualiser.mounts
  unfold cleared
  dsimp only [blinded] at same ⊢
  rw [same]

theorem unseeing_cleanup : (cleanup : Act σ Unit).Unseeing := by
  intro w
  unfold cleanup
  rw [Act.run_get_bind, Act.run_get_bind]
  have same : w.blinded.isBare = w.isBare := rfl
  rw [same]
  cases w.isBare with
  | true => rfl
  | false =>
    exact (unseeing_callAll .destroy w.registry.all).bind
      (fun _ => Act.unseeing_modify cleared_blinded) w.unsubscribed

theorem unseeing_registerAll (bodies : List (Body σ)) : (registerAll bodies).Unseeing := by
  induction bodies with
  | nil => exact Act.unseeing_pure []
  | cons b rest ih =>
    intro w
    unfold registerAll
    rw [Act.run_get_bind, Act.run_get_bind]
    have same : (w.blinded.addInstance b).2.register (w.blinded.addInstance b).1 =
        ((w.addInstance b).2.register (w.addInstance b).1).blinded :=
      register_blinded (w.addInstance b).2 _
    dsimp only
    rw [Act.run_set_bind, Act.run_set_bind, same]
    exact ih.bind (fun _ => Act.unseeing_pure _) _

theorem unseeing_lending {mount : SurfaceHandle} {act : Act σ Unit} (h : act.Unseeing) :
    (lending mount act).Unseeing := by
  intro w
  have withdrawn (w : World σ) : w.blinded.withdrawn mount = (w.withdrawn mount).blinded := by
    unfold World.withdrawn
    dsimp only [blinded]
    rw [release_blinded]
  unfold lending
  rw [ExceptT.run_mk, h w]
  rcases act.run w with ⟨halt | _, after⟩
  · cases halt with
    | panic => exact congrArg (Prod.mk _) (withdrawn after)
    | _ => rfl
  · rfl

theorem unseeing_initialise (id : String) (i : InstanceId) :
    (initialise id i : Act σ Unit).Unseeing := by
  intro w
  have kept : (modifyVisualiser fun v => { v with mounts := v.mounts ++ [w.mount id] } :
      Act σ Unit).Unseeing := Act.unseeing_modify fun _ => rfl
  have called := unseeing_call (σ := σ) i (.init w.visualiser.root (w.mount id).surface)
  exact (unseeing_lending called).bind (fun _ => kept) (w.furnished id)

theorem unseeing_initialiseAll (modules : List (String × InstanceId)) :
    (initialiseAll modules : Act σ Unit).Unseeing := by
  induction modules with
  | nil => exact Act.unseeing_pure ()
  | cons entry rest ih => exact (unseeing_initialise entry.1 entry.2).bind fun _ => ih

theorem unseeing_initLevel (l : Level) (hook : Hook σ) : (initLevel l hook).Unseeing := by
  refine unseeing_cleanup.bind fun _ => Act.unseeing_get_bind (fun _ => rfl) fun w => ?_
  cases makeModules w.visualiser.catalog l with
  | error e => exact Act.unseeing_pure _
  | ok bodies =>
    refine (unseeing_registerAll bodies).bind fun modules => ?_
    refine (unseeing_initialiseAll modules).bind fun _ => (unseeing_run _).bind fun _ => ?_
    refine Act.Unseeing.bind ?_ fun _ => Act.unseeing_pure _
    exact Act.unseeing_modify fun _ => rfl

end World

/-! Operations -/

namespace Operation

/-- What its owner is told by a visualiser. -/
inductive Answer where
  | loaded (modules : List (String × InstanceId))
  | refused (e : Error)
  | done
  | panicked

def ask : Operation σ → Act σ Answer
  | .load l hook => do
    match ← World.initLevel l hook with
    | .ok modules => return .loaded modules
    | .error e => return .refused e
  | .cleanup => do
    World.cleanup
    return .done
  | .deliver event history => tried (World.broadcast event history)
  | .reset => tried World.reset
  | .update elapsed => tried (World.update elapsed)
  | .host s => tried (World.run s)
where
  tried (act : Act σ Unit) : Act σ Answer := do
    return if ← World.attempt act then .done else .panicked

theorem snd_run_ask (o : Operation σ) (w : World σ) : (o.ask.run w).2 = (o.act.run w).2 := by
  have tried (a : Act σ Unit) : ((ask.tried a).run w).2 = ((act.tried a).run w).2 := by
    unfold ask.tried act.tried
    rw [Act.run_bind, Act.run_bind]
    rcases (World.attempt a).run w with ⟨_ | _, v⟩ <;> rfl
  cases o with
  | load l hook =>
    unfold ask act
    rw [Act.run_bind, Act.run_bind]
    rcases (World.initLevel l hook).run w with ⟨_ | _ | _, v⟩ <;> rfl
  | cleanup =>
    unfold ask act
    rw [Act.run_bind, Act.run_bind]
    rcases World.cleanup.run w with ⟨_ | _, v⟩ <;> rfl
  | deliver | reset | update | host => exact tried _

theorem unseeing_tried {act : Act σ Unit} (h : act.Unseeing) : (ask.tried act).Unseeing :=
  h.attempt.bind fun _ => Act.unseeing_pure _

theorem unseeing_ask (o : Operation σ) : o.ask.Unseeing := by
  cases o with
  | load l hook =>
    refine (World.unseeing_initLevel l hook).bind fun result => ?_
    cases result <;> exact Act.unseeing_pure _
  | cleanup => exact World.unseeing_cleanup.bind fun _ => Act.unseeing_pure _
  | deliver event history => exact unseeing_tried (World.unseeing_broadcast event history)
  | reset => exact unseeing_tried World.unseeing_reset
  | update elapsed => exact unseeing_tried (World.unseeing_update elapsed)
  | host s => exact unseeing_tried (World.unseeing_run s)

end Operation

def Entry.notice? : Entry → Option Notice
  | .notice n => some n
  | .call .. => none

structure Glimpse where
  level : Option String
  registered : List (String × InstanceId)
  /-- The variables and how many boxes there are, by the name of the variables module. -/
  tracked : Except Error (List (String × Variable) × Nat)
  /-- The same of every variables module that was ever made, for those who kept a handle. -/
  kept : List (Option (List (String × Variable) × Nat))
  /-- All notices so far, first first. -/
  notices : List Notice
  /-- All that the renderer was asked so far, first first, with the ids it gave. -/
  requests : List Renderer.Request

namespace World

def glimpse (w : World σ) : Glimpse where
  level := w.visualiser.levelId
  registered := w.registry.entries
  tracked := w.tracker.map fun m => (m.toList, m.boxCount)
  kept := w.instances.map fun
    | .tracker m => some (m.toList, m.boxCount)
    | .foreign _ => none
  notices := w.journal.reverse.filterMap Entry.notice?
  requests := w.renderer.requests.reverse

/-- What an owner is told by each of some operations, and finds after it. -/
def watch (w : World σ) : List (Operation σ) → List (Except Halt Operation.Answer × Glimpse)
  | [] => []
  | o :: os =>
    let (answer, after) := o.ask.run w
    (answer, after.glimpse) :: after.watch os

theorem watch_blinded (os : List (Operation σ)) (w : World σ) :
    w.blinded.watch os = w.watch os := by
  induction os generalizing w with
  | nil => rfl
  | cons o os ih =>
    unfold watch
    rw [o.unseeing_ask w]
    exact congrArg _ (ih _)

/-- Whatever is asked of a visualiser, and whatever foreign code there is: without a picture its
owner is told the same by every operation as with one, and finds the same after it. -/
theorem headless_replay_agrees (catalog : Catalog σ) (config : Playback.Config) (nesting : Nat)
    (memory : σ) (os : List (Operation σ)) :
    (World.new catalog .blind config nesting memory).watch os =
      (World.new catalog .recording config nesting memory).watch os :=
  watch_blinded os (.new catalog .recording config nesting memory)

/-- Three numbers are handed out where nothing is drawn: to the root, to the surface of the module
and to a box. -/
example : (((World.new .builtin .blind {} 8 ()).watch
    [.load ⟨"level", "", "", "", [Variables.name]⟩ fun _ => .done,
      .deliver (.init (.variable "x") ⟨.boolean true, .literal⟩) [], .cleanup]).map
        fun (_, seen) => (seen.tracked.toOption.map (·.2), seen.notices.length,
          seen.requests.length)) =
    [(some 0, 0, 2), (some 1, 1, 3), (none, 1, 5)] := by decide +kernel

end World
end Replay
