import Replay.Proofs.Clock.Beat
import Replay.Proofs.World.Performing

/-!
When events are delivered. A run that nobody drops or overtakes looks at the timeline at instants
that can be told in advance: again and again after the time of the pause poll while it finds the
session paused, and after a delivery when the speed in force then has passed, whatever is done
meanwhile. Behind the last event it ends at its next look, paused or not.
-/
namespace Replay

variable {σ : Type}

structure Look (σ : Type) where
  instant : Nat
  /-- The world in which the run looks. -/
  found : World σ
  /-- The world when the run has done what it does then. -/
  left : World σ

namespace Look

def handed (l : Look σ) : List (InstanceId × Event × Trace) :=
  l.left.deliveries.drop l.found.deliveries.length

/-- A look before the end that finds the session paused does nothing. -/
structure Holds (events : Trace) (n : Nat) (l : Look σ) : Prop where
  before : n < events.length
  paused : l.found.session.paused = true
  index : l.left.session.index = n
  deliveries : l.left.deliveries = l.found.deliveries

structure Delivers (events : Trace) (n : Nat) (l : Look σ) : Prop where
  playing : l.found.session.paused = false
  index : l.left.session.index = n + 1
  delivered : ∃ event, events[n]? = some event ∧ l.left.deliveries = l.found.deliveries ++
    l.found.registry.all.map (·, event, events.take (n + 1))

structure Ends (events : Trace) (n : Nat) (q : RunId) (l : Look σ) : Prop where
  past : n = events.length
  paused : l.left.session.paused = true
  finished : l.left.session.state = .finished
  ended : ∃ purpose, l.left.session.run? q = some ⟨purpose, .finished (.ok ())⟩
  deliveries : l.left.deliveries = l.found.deliveries

def HeldUp (events : Trace) (poll n wake : Nat) (held : List (Look σ)) : Prop :=
  (∀ l ∈ held, l.Holds events n) ∧
    held.map (·.instant) = (List.range held.length).map (wake + · * poll)

end Look

/-- The timetable of a run that wakes up at some instant while so many events are delivered: until
it finds the session playing it looks again after the time of a poll, and after a delivery it wakes
up when the speed in force has passed. At the end it is told when the run wakes up next, if it has
not ended. -/
inductive Timetable (events : Trace) (poll : Nat) (q : RunId) :
    (wake n : Nat) → List (Look σ) → (next : Option Nat) → Prop
  | waits {wake n : Nat} {held : List (Look σ)} (holds : Look.HeldUp events poll n wake held) :
    Timetable events poll q wake n held (some (wake + held.length * poll))
  | delivers {wake n : Nat} {held ls : List (Look σ)} {l : Look σ} {next : Option Nat}
    (holds : Look.HeldUp events poll n wake held)
    (instant : l.instant = wake + held.length * poll) (delivers : l.Delivers events n)
    (rest : Timetable events poll q (l.instant + l.left.session.speed.toNat) (n + 1) ls next) :
    Timetable events poll q wake n (held ++ l :: ls) next
  | ends {wake n : Nat} {l : Look σ} (instant : l.instant = wake) (ends : l.Ends events n q) :
    Timetable events poll q wake n [l] none

def World.sight? (w : World σ) (q : RunId) (answer : Option Answer) : Option (World σ) :=
  match w.session.run? q with
  | none => none
  | some run =>
    if run.stage.isOutstanding ∧ run.generation? = some w.session.generation then
      if run.isFetching then
        match answer with
        | some (.ok events) => some (reset.run { w with session := w.session.load events }).2
        | _ => none
      else some w
    else none

def Beat.look? (interpret : Interpreting σ) (q : RunId) (c : Clocked σ) :
    Beat σ → Option (Look σ)
  | .poll =>
    if c.ready.head? = some q then
      ((c.tender interpret q).1.sight? q (c.tender interpret q).2).map fun found =>
        ⟨c.now, found, (Beat.act interpret c .poll).world⟩
    else none
  | _ => none

def Clocked.looks (interpret : Interpreting σ) (q : RunId) (c : Clocked σ) :
    List (Beat σ) → List (Look σ)
  | [] => []
  | b :: bs => (b.look? interpret q c).toList ++ (b.act interpret c).looks interpret q bs

namespace Look

variable {events : Trace} {poll n wake : Nat} {l : Look σ} {held : List (Look σ)} {q : RunId}
  {ls : List (Look σ)} {next : Option Nat}

theorem left_eq {xs : List (InstanceId × Event × Trace)}
    (h : l.left.deliveries = l.found.deliveries ++ xs) :
    l.left.deliveries = l.found.deliveries ++ l.handed := by
  unfold handed
  rw [h, List.drop_left]

theorem HeldUp.nil : HeldUp events poll n wake ([] : List (Look σ)) :=
  ⟨fun _ mem => absurd mem List.not_mem_nil, rfl⟩

theorem HeldUp.cons (h : HeldUp events poll n (wake + poll) held) (instant : l.instant = wake)
    (holds : l.Holds events n) : HeldUp events poll n wake (l :: held) := by
  constructor
  · intro l' mem
    rcases List.mem_cons.mp mem with rfl | mem
    · exact holds
    · exact h.1 l' mem
  · rw [List.map_cons, h.2, instant, List.length_cons, List.range_succ_eq_map, List.map_cons,
      List.map_map]
    refine List.cons_eq_cons.mpr ⟨(by omega : wake = wake + 0 * poll), ?_⟩
    refine List.map_congr_left fun j _ => ?_
    simp only [Function.comp_apply, Nat.succ_eq_add_one, Nat.add_mul]
    omega

end Look

theorem Timetable.hold {events : Trace} {poll n wake : Nat} {l : Look σ} {q : RunId}
    {ls : List (Look σ)} {next : Option Nat}
    (h : Timetable events poll q (wake + poll) n ls next) (instant : l.instant = wake)
    (holds : l.Holds events n) : Timetable events poll q wake n (l :: ls) next := by
  cases h with
  | waits heldUp =>
    have later : wake + poll + ls.length * poll = wake + (l :: ls).length * poll := by
      rw [List.length_cons, Nat.add_mul]
      omega
    rw [later]
    exact .waits (heldUp.cons instant holds)
  | delivers heldUp later delivers rest =>
    refine .delivers (heldUp.cons instant holds) ?_ delivers rest
    rw [later, List.length_cons, Nat.add_mul]
    omega
  | ends _ ends => exact absurd ends.past (Nat.ne_of_lt holds.before)

namespace World

variable {w found u : World σ} {g n t : Nat} {q : RunId} {run : Run} {stage : Run.Stage}
  {events : Trace} {answer : Option Answer}

theorem sight?_of_waits (h : w.session.Waits q) : w.sight? q answer = some w := by
  obtain ⟨⟨purpose, stage⟩, delay, hq, rfl, claims⟩ := h
  have old : Run.isFetching ⟨purpose, .waiting delay⟩ = false := by cases purpose <;> rfl
  unfold sight?
  simp [hq, claims, old, Run.Stage.isOutstanding]

theorem sight?_of_fetching (hq : w.session.run? q = some run) (new : run.isFetching = true)
    (claims : run.generation? = some w.session.generation) :
    w.sight? q (some (.ok events)) =
      some (reset.run { w with session := w.session.load events }).2 := by
  have outstanding := Run.isOutstanding_of_isFetching new
  unfold sight?
  simp [hq, new, claims, outstanding]

theorem sight?_of_idle (idle : ¬w.session.Plays q) : w.sight? q answer = none := by
  unfold sight?
  split
  · rfl
  · rename_i run hq
    rw [if_neg fun ⟨outstanding, claims⟩ => idle ⟨run, hq, outstanding, claims⟩]

/-- A run of a generation is about to look at the timeline, which stands before an event. -/
structure Faces (w : World σ) (q : RunId) (g : Nat) (events : Trace) (n : Nat) : Prop where
  sound : w.session.Sound
  formed : w.Formed
  plays : w.session.Plays q
  offers : w.session.Offers g events n

theorem Faces.ends (h : found.Faces q g events n) (past : events.length ≤ n)
    (session : w.session = found.session.pause.settle q (.finished (.ok ())))
    (deliveries : w.deliveries = found.deliveries) :
    Look.Ends events n q ⟨t, found, w⟩ ∧ w.session.Rests q events := by
  have le := h.sound.index_le
  rw [h.offers.events_eq, h.offers.index_eq] at le
  have rests : w.session.Rests q events := by
    rw [session]
    exact h.offers.rests h.sound h.plays past
  have paused : w.session.paused = true := by
    rw [session]
    exact Session.paused_settle _ _ _
  exact ⟨⟨Nat.le_antisymm le past, paused, rests.state, rests.ended, deliveries⟩, rests⟩

theorem Faces.holds {delay : UInt64} (h : found.Faces q g events n) (lt : n < events.length)
    (paused : found.session.paused = true)
    (session : w.session = found.session.settle q (.waiting delay))
    (deliveries : w.deliveries = found.deliveries) :
    Look.Holds events n ⟨t, found, w⟩ ∧ w.session.Waits q ∧ w.session.Offers g events n := by
  obtain ⟨run, hq, -, current⟩ := h.plays
  have later : w.session.Offers g events n := by
    rw [session]
    exact h.offers.settle q _
  have waits : w.session.Waits q := by
    rw [session]
    exact Session.waits_settle hq current
  exact ⟨⟨lt, paused, later.index_eq, deliveries⟩, waits, later⟩

theorem Faces.delivers {v : World σ} {event : Event} (h : found.Faces q g events n)
    (next : events[n]? = some event) (playing : found.session.paused = false)
    (told : (broadcast event (events.take (n + 1))).run found = (.ok (), v))
    (same : v.session.generation = g)
    (session : w.session = (v.session.advance g n).settle q (.waiting v.session.speed))
    (deliveries : w.deliveries = v.deliveries) :
    Look.Delivers events n ⟨t, found, w⟩ ∧ w.session.speed = v.session.speed ∧
      w.session.Waits q ∧ w.session.Offers g events (n + 1) := by
  obtain ⟨run, hq, -, current⟩ := h.plays
  have tended := tended_of_broadcast told
  have after : v.session.Offers g events n := h.offers.follows tended.session.follows same
  have later : w.session.Offers g events (n + 1) := by
    rw [session]
    exact after.advance.settle q _
  have waits : w.session.Waits q := by
    have still : (v.session.advance g n).run? q = some run := by
      rw [Session.advance_eq]
      exact tended.session.run? hq
    rw [session]
    refine Session.waits_settle still ?_
    rw [after.advance.generation_eq]
    exact current.trans (congrArg some h.offers.generation_eq)
  have speed : w.session.speed = v.session.speed := by
    rw [session, Session.settle_eq]
    exact Session.speed_advance _ _ _
  have handed : v.deliveries = found.deliveries ++
      found.registry.all.map (·, event, events.take (n + 1)) :=
    deliveries_callAll (fun _ => h.formed.there) told
  exact ⟨⟨playing, later.index_eq, event, next, deliveries.trans handed⟩, speed, waits, later⟩

/-- What a look comes to, if the run is neither overtaken nor cut off by a panic meanwhile. -/
theorem Looks.kinds (h : Looks g found stage u) (faces : found.Faces q g events n)
    (same : u.session.generation = g) (calm : stage ≠ .panicked)
    (session : w.session = u.session.settle q stage) (deliveries : w.deliveries = u.deliveries) :
    Look.Holds events n ⟨t, found, w⟩ ∧ stage = .waiting found.session.config.pausePoll ∧
        w.session.Waits q ∧ w.session.Offers g events n ∨
      Look.Delivers events n ⟨t, found, w⟩ ∧ stage = .waiting w.session.speed ∧
        w.session.Waits q ∧ w.session.Offers g events (n + 1) ∨
      Look.Ends events n q ⟨t, found, w⟩ ∧ w.session.Rests q events := by
  have offers := faces.offers
  cases h with
  | stale ne => exact absurd offers.generation_eq ne
  | ended _ past =>
    rw [offers.events_eq, offers.index_eq] at past
    exact .inr (.inr (faces.ends past session deliveries))
  | held _ lt paused =>
    rw [offers.events_eq, offers.index_eq] at lt
    obtain ⟨holds, waits, later⟩ := faces.holds lt paused session deliveries
    exact .inl ⟨holds, rfl, waits, later⟩
  | delivered _ next playing told =>
    rw [offers.events_eq, offers.index_eq] at next told
    rw [offers.index_eq] at session same
    rw [Session.advance_eq] at same
    obtain ⟨delivers, speed, waits, later⟩ :=
      faces.delivers next playing told same session deliveries
    rw [speed]
    exact .inr (.inl ⟨delivers, rfl, waits, later⟩)
  | broken => exact absurd rfl calm

/-- When the modules are reset for a trace, its run is about to look at the first event. -/
theorem faces_of_reset {result : Except Halt Unit} (orderly : w.Orderly)
    (plays : w.session.Plays q)
    (told : reset.run { w with session := w.session.load events } = (result, found))
    (same : found.session.generation = w.session.generation) :
    found.Faces q w.session.generation events 0 := by
  have tended := tended_of_reset told
  have stays : Stays w { w with session := w.session.load events } := .frame rfl rfl rfl
  have start : (w.session.load events).Offers w.session.generation events 0 :=
    ⟨rfl, rfl, rfl, rfl⟩
  obtain ⟨run, hq, outstanding, claims⟩ := plays
  exact ⟨tended.session.sound (orderly.sound.load events),
    tended.formed (stays.formed orderly.formed),
    ⟨run, tended.session.run? hq, outstanding, same ▸ claims⟩,
    start.follows tended.session.follows same⟩

end World

namespace Turn

variable {w v : World σ} {g n : Nat} {q : RunId} {run : Run} {events : Trace}

theorem Leads.looks (h : (Turn.poll q none).Leads w v) (waits : w.session.Waits q) :
    ∃ stage u, World.Looks w.session.generation w stage u ∧
      v = { u with session := u.session.settle q stage } := by
  obtain ⟨⟨purpose, stage⟩, delay, hq, rfl, claims⟩ := waits
  rcases leads_poll h with ⟨past, -⟩ | ⟨run, stage, u, hr, -, progresses, eq⟩
  · cases past _ hq
  cases hq.symm.trans hr
  cases progresses with
  | fetched _ new => rcases new with new | new <;> cases new
  | unanswered _ new => rcases new with new | new <;> cases new
  | idle nothing =>
    subst nothing
    cases claims
  | played plays _ looks =>
    cases claims.symm.trans plays
    exact ⟨stage, u, looks, eq⟩

theorem Leads.looks_of_fetching (h : (Turn.poll q (some (.ok events))).Leads w v)
    (orderly : w.Orderly) (hq : w.session.run? q = some run) (new : run.isFetching = true)
    (claims : run.generation? = some w.session.generation)
    (same : v.session.generation = w.session.generation) (spared : v.session.Spares q) :
    ∃ found stage u, w.sight? q (some (.ok events)) = some found ∧
      found.deliveries = w.deliveries ∧ found.session.config = w.session.config ∧
      found.Faces q w.session.generation events 0 ∧
      World.Looks w.session.generation found stage u ∧
      v = { u with session := u.session.settle q stage } := by
  have outstanding := Run.isOutstanding_of_isFetching new
  rcases leads_poll h with ⟨past, -⟩ | ⟨run', stage, u, hr, -, progresses, rfl⟩
  · cases outstanding.symm.trans (past _ hq)
  cases hq.symm.trans hr
  dsimp only at same spared
  rw [Session.generation_settle] at same
  have calm : stage ≠ .panicked := by
    have stands : (u.session.settle q stage).run? q = some { run with stage } := by
      rw [Session.run?_settle, if_pos rfl, progresses.progressed.run? hq]
      rfl
    exact (spared _ stands).2
  cases progresses.receives new claims with
  | stale ne => exact absurd rfl ne
  | failed _ failure => cases failure
  | broken => exact absurd rfl calm
  | @loaded _ found _ _ _ success told looks =>
    cases success
    have tended := World.tended_of_reset told
    -- the reset lies between, and generations only grow
    have current : found.session.generation = w.session.generation := by
      refine Nat.le_antisymm ?_ tended.session.follows.generation_le
      rw [← same]
      exact looks.glanced.generation_le
    have faces := World.faces_of_reset orderly ⟨run, hq, outstanding, claims⟩ told current
    refine ⟨found, stage, u, ?_, World.deliveries_of_reset told, tended.session.config, faces,
      looks, rfl⟩
    rw [World.sight?_of_fetching hq new claims, told]

end Turn

end Replay
