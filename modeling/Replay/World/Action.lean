import Replay.World.Basic

/-!
Actions in a world. An action changes the world and comes to a result, or is cut off; what it
changed before that stays changed.
-/
namespace Replay

inductive Halt where
  | panic
  /-- Publications are nested too deeply. -/
  | overflow
  /-- A call waits for a module that waits for it. -/
  | deadlock
  deriving DecidableEq, Repr

abbrev Act (σ α : Type) := ExceptT Halt (StateM (World σ)) α

namespace World

variable {σ α : Type}

/-- Carries out an action while an instance is in the middle of a call; afterwards as many are as
before, whatever the action came to. -/
def holding (i : InstanceId) (act : Act σ α) : Act σ α :=
  ExceptT.mk fun w =>
    let (result, after) := act.run { w with busy := i :: w.busy }
    (result, { after with busy := w.busy })

end World

namespace Script

variable {σ : Type}

/-- Carries out a script in a world where publishing goes by `publish`. -/
def exec (publish : Notice → Act σ Nat) : Script σ → Act σ Unit
  | .done => pure ()
  | .panic => throw .panic
  | .consult k => do
    let w ← get
    exec publish (k w.memory)
  | .remember f k => do
    modify fun w => { w with memory := f w.memory }
    exec publish k
  | .subscribe kind callback k => do
    let w ← get
    let (id, bus) := w.bus.subscribe kind callback
    set { w with bus }
    exec publish (k id)
  | .unsubscribe id k => do
    let w ← get
    let (removed, bus) := w.bus.unsubscribe id
    set { w with bus }
    exec publish (k removed)
  | .clearBus k => do
    modify fun w => { w with bus := w.bus.clear }
    exec publish k
  | .mark k => do
    let w ← get
    exec publish (k w.bus.mark)
  | .since m k => do
    let w ← get
    exec publish (k (w.bus.since m))
  | .count kind k => do
    let w ← get
    exec publish (k (w.bus.count kind))
  | .publish n k => do
    let count ← publish n
    exec publish (k count)
  | .registered k => do
    let w ← get
    exec publish (k w.registry.ids)
  | .register i k => do
    modify (·.register i)
    exec publish k
  | .clearRegistry k => do
    modify fun w => { w with registry := .empty }
    exec publish k
  | .access id kind body k => do
    let w ← get
    match w.reach id kind with
    | .error e => exec publish (k (.error e))
    | .ok (i, b) =>
      World.holding i (exec publish (body (b.view i)))
      exec publish (k (.ok (b.view i)))
  | .createElement s spec k => do
    let w ← get
    let (e, renderer) := w.renderer.createElement s.id spec
    set { w with renderer }
    exec publish (k e)
  | .updateElement e spec k => do
    modify fun w => { w with renderer := w.renderer.updateElement e spec }
    exec publish k
  | .removeElement e k => do
    modify fun w => { w with renderer := w.renderer.removeElement e }
    exec publish k
  | .start k => do
    let w ← get
    let (r, after) := w.session.start
    set { w with session := after }
    exec publish (k r)
  | .resume k => do
    let w ← get
    let (r, after) := w.session.resume
    set { w with session := after }
    exec publish (k r)
  | .pause k => do
    modify fun w => { w with session := w.session.pause }
    exec publish k
  | .setSpeed speed k => do
    modify fun w => { w with session := w.session.setSpeed speed }
    exec publish k
  | .setCode code k => do
    modify fun w => { w with session := w.session.setCode code }
    exec publish k
  | .session k => do
    let w ← get
    exec publish (k w.session)

end Script

namespace World

variable {σ : Type}

/-- Whether an action comes to its end: a panic in it goes no further, but all else that cuts it off
does. -/
def attempt (act : Act σ Unit) : Act σ Bool :=
  ExceptT.mk fun w =>
    match act.run w with
    | (.ok _, after) => (.ok true, after)
    | (.error .panic, after) => (.ok false, after)
    | (.error h, after) => (.error h, after)

/-- Calls the listeners one after the other, and counts those that come to their end. -/
def deliver (publish : Notice → Act σ Nat) (n : Notice) :
    List (Listener (Notice → Script σ)) → Act σ Nat
  | [] => pure 0
  | l :: rest => do
    let ended ← attempt ((l.callback n).exec publish)
    let count ← deliver publish n rest
    return if ended then count + 1 else count

/-- Publishes where publications may be nested so and so deep. Who listens is settled at the
beginning, so what listeners do to the bus counts for later publications alone. -/
def publishWithin : Nat → Notice → Act σ Nat
  | 0, _ => throw .overflow
  | depth + 1, n => do
    let w ← get
    set { w with journal := .notice n :: w.journal }
    deliver (publishWithin depth) n (w.bus.listeners n.kind)

def publish (n : Notice) : Act σ Nat := do
  let w ← get
  publishWithin w.nesting n

def run (s : Script σ) : Act σ Unit := s.exec publish

/-- Calls an instance, which is in the middle of a call until it is done. -/
def call (i : InstanceId) (c : Call) : Act σ Unit := do
  let w ← get
  match w.body? i with
  | none => pure ()
  | some b =>
    if w.isBusy i then throw .deadlock
    set { w with journal := .call i c :: w.journal }
    holding i (answer b)
where
  answer : Body σ → Act σ Unit
    | .tracker m => do
      let w ← get
      let out := m.respond w.renderer c
      set { w.setBody i (.tracker out.module) with renderer := out.renderer }
      match out.notice with
      | some n => discard (publish n)
      | none => pure ()
    | .foreign m => run (m.respond i c)

/-- Calls instances one after the other; a panic cuts the rest off. -/
def callAll (c : Call) : List InstanceId → Act σ Unit
  | [] => pure ()
  | i :: rest => do
    call i c
    callAll c rest

/-- Delivers an event to every module registered at this moment. -/
def broadcast (event : Event) (history : Trace) : Act σ Unit := do
  let w ← get
  callAll (.handle event history) w.registry.all

end World

end Replay
