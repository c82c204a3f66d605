import Replay.Session.Run

/-!
Runs on a virtual clock. A run that waits for some time is polled when exactly that time has passed;
one that waits for no time at all is polled again at the same instant, behind the others that are
ready. Whatever can be done at an instant is done before the clock moves.
-/
namespace Replay

/-- What an interpreter does when it is given code: it answers after a while. -/
structure Reply where
  answer : Answer
  /-- In milliseconds. -/
  delay : Nat

/-- An interpreter with a memory of its own among the memory of foreign code. -/
abbrev Interpreting (σ : Type) := σ → String → Reply × σ

structure Sleeper where
  wake : Nat
  run : RunId

structure Clocked (σ : Type) where
  world : World σ
  now : Nat
  /-- The runs to poll at this instant, in order. -/
  ready : List RunId
  /-- The runs that wait for time to pass, in the order in which they began to. -/
  asleep : List Sleeper
  /-- The runs that look again and again, without any delay, whether they may go on. -/
  spinning : List RunId
  /-- The runs that nobody polls yet. -/
  held : List RunId
  /-- What the interpreter is going to answer. -/
  pending : List (RunId × Answer)

namespace Clocked

variable {σ : Type}

def start (w : World σ) : Clocked σ := ⟨w, 0, [], [], [], [], []⟩

/-- What an action does to the world; its result, if it comes to one. -/
def perform {α : Type} (c : Clocked σ) (act : Act σ α) : Except Halt α × Clocked σ :=
  let (result, world) := act.run c.world
  (result, { c with world })

def runsSince (s : Session) (count : Nat) : List RunId :=
  (List.range (s.runs.length - count)).map fun n => ⟨count + n⟩

/-- Does something to the world; the runs that are made by it are launched at once. -/
def launching {α : Type} (c : Clocked σ) (act : Act σ α) : Except Halt α × Clocked σ :=
  let (result, after) := c.perform act
  (result, { after with
    ready := after.ready ++ runsSince after.world.session c.world.session.runs.length })

/-- Whether a look for a generation finds the session paused, and is repeated without a wait. -/
def spins (s : Session) (generation : Option Nat) : Bool :=
  generation == some s.generation && s.index < s.events.length && s.paused &&
    s.config.pausePoll == 0

def requeue (c : Clocked σ) (r : RunId) : Clocked σ :=
  match c.world.session.run? r with
  | some ⟨purpose, .waiting delay⟩ =>
    if delay ≠ 0 then { c with asleep := c.asleep ++ [⟨c.now + delay.toNat, r⟩] }
    else if spins c.world.session (Run.generation? ⟨purpose, .waiting delay⟩) then
      { c with spinning := c.spinning ++ [r] }
    else { c with ready := c.ready ++ [r] }
  | _ => c

/-- Asks the interpreter on behalf of a run that is polled for the first time. -/
def ask (interpret : Interpreting σ) (c : Clocked σ) (r : RunId) (code : String) : Clocked σ :=
  let (reply, memory) := interpret c.world.memory code
  let c := { c with world := { c.world with memory } }
  if reply.delay = 0 then ((c.launching (World.poll r (some reply.answer))).2).requeue r
  else
    { (c.launching (World.poll r none)).2 with
      asleep := c.asleep ++ [⟨c.now + reply.delay, r⟩]
      pending := (r, reply.answer) :: c.pending }

def pollRun (interpret : Interpreting σ) (c : Clocked σ) (r : RunId) : Clocked σ :=
  match c.world.session.run? r with
  | some ⟨.start _ code, .unpolled⟩ => c.ask interpret r code
  | some ⟨_, .fetching⟩ =>
    let answer := (c.pending.find? (·.1 = r)).map (·.2)
    ((c.launching (World.poll r answer)).2).requeue r
  | _ => ((c.launching (World.poll r none)).2).requeue r

/-- Polls whatever is ready; `steps` bounds how many polls there are. -/
def drain (interpret : Interpreting σ) : (steps : Nat) → Clocked σ → Clocked σ
  | 0, c => c
  | steps + 1, c =>
    match c.ready with
    | [] => c
    | r :: rest => drain interpret steps ({ c with ready := rest }.pollRun interpret r)

def patience : Nat := 10000000

/-- Does all that can be done at this instant. Runs that spin look once more. -/
def settle (interpret : Interpreting σ) (c : Clocked σ) : Clocked σ :=
  drain interpret patience { c with ready := c.spinning ++ c.ready, spinning := [] }

def tick (interpret : Interpreting σ) (c : Clocked σ) : Clocked σ :=
  let now := c.now + 1
  let (due, later) := c.asleep.partition (·.wake ≤ now)
  settle interpret { c with now, ready := c.ready ++ due.map (·.run), asleep := later }

def wait (interpret : Interpreting σ) : (time : Nat) → Clocked σ → Clocked σ
  | 0, c => c
  | time + 1, c => wait interpret time (c.tick interpret)

def hold (c : Clocked σ) (r : RunId) : Clocked σ :=
  { c with held := c.held ++ [r], ready := c.ready.filter (· ≠ r) }

def launch (c : Clocked σ) (r : RunId) : Clocked σ :=
  if c.held.contains r then
    { c with held := c.held.filter (· ≠ r), ready := c.ready ++ [r] }
  else c

def drop (c : Clocked σ) (r : RunId) : Clocked σ :=
  { c with
    world := { c.world with session := c.world.session.drop r }
    held := c.held.filter (· ≠ r) }

end Clocked

end Replay
