import Replay.Proofs.Session.Driving
import Replay.Proofs.World.Delivery

/-!
Resumptions. A resumption gets the playing going again unless nobody plays although the session is
not paused, as when the run that played was dropped in the middle. Whoever plays then, be it a run
that did before or the one that the resumption made, delivers the rest of the trace, one event a
poll, and comes to its end.
-/
namespace Replay

variable {σ : Type}

/-- Whether an effect neither touches the registry nor disturbs what is played. -/
def Effect.LetsPlay : Effect σ → Prop
  | .register _ | .clearRegistry => False
  | .command c => c.LetsPlay
  | _ => True

namespace Turn

/-- Whether a turn lets a run go on: nobody pauses or starts anew, and the run is not dropped. -/
def LetsPlay (q : RunId) (w : World σ) (t : Turn σ) : Prop :=
  t.Keeps (.within Effect.LetsPlay) w ∧ ∀ r, t = .drop r → r ≠ q

def polls (q : RunId) : Turn σ → Bool
  | .poll r _ => r = q
  | .host _ | .init .. | .drop _ => false

end Turn

namespace Session

variable {s : Session}

/-- Where a trace is left to play, a resumption ends the pause and leaves the timeline as it is. -/
theorem resume_of_lt (loaded : s.loaded = true) (lt : s.index < s.events.length) :
    s.resume.2.paused = false ∧ s.resume.2.loaded = true ∧ s.resume.2.events = s.events ∧
      s.resume.2.index = s.index := by
  rcases resume_cases s with ⟨why, eq⟩ | ⟨-, -, eq⟩ | ⟨-, -, -, -, eq⟩
  · rw [eq]
    rcases why with playing | ⟨-, unloaded | past⟩
    · exact ⟨playing, loaded, rfl, rfl⟩
    · cases loaded.symm.trans unloaded
    · omega
  · rw [eq]
    exact ⟨rfl, loaded, rfl, rfl⟩
  · rw [eq]
    exact ⟨rfl, loaded, rfl, rfl⟩

theorem plays_resume {q : RunId} (plays : s.resume.2.Plays q) : s.Plays q ∨ q = s.resume.1 := by
  rcases resume_cases s with ⟨-, eq⟩ | ⟨-, -, eq⟩ | ⟨-, -, -, -, eq⟩
  · rw [eq] at plays ⊢
    exact .inl (plays_make_nothing.mp plays)
  · rw [eq] at plays ⊢
    exact .inl (plays_make_nothing (s := { s with paused := false }).mp plays)
  · rw [eq] at plays ⊢
    exact (plays_make.mp plays).imp id And.left

theorem isRunning_resume (loaded : s.loaded = true)
    (lt : s.index < s.events.length) :
    s.resume.2.isRunning = true ↔ s.isRunning = true ∨ s.paused = true := by
  unfold isRunning
  rcases resume_cases s with ⟨why, eq⟩ | ⟨paused, player, eq⟩ | ⟨paused, -, -, -, eq⟩
  · rw [eq]
    rcases why with playing | ⟨-, unloaded | past⟩
    · simp [make, playing]
    · cases loaded.symm.trans unloaded
    · omega
  · rw [eq]
    simp [make, paused, player]
  · rw [eq]
    simp [make, paused]

theorem run?_resume (loaded : s.loaded = true) (lt : s.index < s.events.length)
    (idle : s.resume.2.isRunning = false) :
    s.resume.2.run? s.resume.1 = some ⟨.nothing, .unpolled⟩ := by
  have not : ¬(s.isRunning = true ∨ s.paused = true) := by
    rw [← isRunning_resume loaded lt, idle]
    exact Bool.false_ne_true
  rcases resume_cases s with ⟨-, eq⟩ | ⟨paused, -⟩ | ⟨paused, -⟩
  · rw [eq, run?_make]
    exact if_pos rfl
  · exact absurd (.inr paused) not
  · exact absurd (.inr paused) not

/-- When the run that plays is dropped in the middle, nobody plays behind a resumption. -/
theorem Sound.resume_drop {q : RunId} (h : s.Sound) (plays : s.Plays q)
    (playing : s.paused = false) : (s.drop q).resume.2.isRunning = false := by
  obtain ⟨run, hq, outstanding, claims⟩ := plays
  have paused : (s.drop q).paused = false := by
    rcases drop_cases s q with eq | eq <;> rw [eq]
    · exact playing
    · rw [settle_eq]
      exact playing
  have player : (s.drop q).player = none := by
    unfold Session.drop
    rw [hq]
    dsimp only
    rw [if_pos outstanding, player_close hq, if_pos]
    exact ⟨claims ▸ rfl, (h.playing ⟨run, hq, outstanding, claims⟩).trans claims.symm⟩
  unfold Session.resume isRunning
  rw [paused]
  simp [make, player]

end Session

theorem Session.Drives.current {s t : Session} {q : RunId} {events : Trace} {n : Nat}
    {allowed : Session.Command → Prop} (h : t.Drives q events n)
    (steered : Session.Steered allowed s t) : t.generation = s.generation := by
  rcases steered.follows with ⟨same, -⟩ | ⟨-, unloaded⟩
  · exact same
  · cases h.loaded.symm.trans unloaded

theorem leavesRegistry_of_letsPlay {w : World σ} {e : Effect σ}
    (may : (Discipline.within Effect.LetsPlay).may w e) : e.LeavesRegistry :=
  Discipline.leavesRegistry_of_within (fun {e} lets => by cases e <;> trivial) may

namespace World

variable {u v w : World σ} {q r : RunId} {run : Run} {answer : Option Answer} {stage : Run.Stage}
  {generation n : Nat}

theorem Looks.eq_of_stale (h : Looks generation w stage v)
    (ne : w.session.generation ≠ generation) : v = w := by
  cases h with
  | stale => rfl
  | held => rfl
  | ended current => exact absurd current ne
  | delivered current => exact absurd current ne
  | broken current => exact absurd current ne

theorem Progresses.eq_of_idle (h : Progresses run answer w stage v)
    (hr : w.session.run? r = some run) (outstanding : run.stage.isOutstanding = true)
    (idle : ¬w.session.Plays r) : v = w := by
  have stale {g : Nat} (claims : run.generation? = some g) : w.session.generation ≠ g := by
    rintro rfl
    exact idle ⟨run, hr, outstanding, claims⟩
  cases h with
  | fetched purpose _ _ receives =>
    have ne := stale (Run.generation?_of_start purpose)
    cases receives with
    | stale => rfl
    | failed current => exact absurd current ne
    | loaded current => exact absurd current ne
    | broken current => exact absurd current ne
  | unanswered => rfl
  | played claims _ looks => exact looks.eq_of_stale (stale claims)
  | idle => rfl

/-- What a look at the timeline does for the run that drives the session: it delivers the next
event, if there is one, and else it ends. -/
theorem Looks.drives {events : Trace} (h : Looks w.session.generation w stage v)
    (drives : w.session.Drives q events n) (calm : stage ≠ .panicked) :
    (∃ event u, events[n]? = some event ∧
      (broadcast event (events.take (n + 1))).run w = (.ok (), u) ∧
      stage = .waiting u.session.speed ∧
      v = { u with session := u.session.advance w.session.generation n }) ∨
    events.length ≤ n ∧ stage = .finished (.ok ()) ∧ v = { w with session := w.session.pause } := by
  cases h with
  | stale ne => exact absurd rfl ne
  | ended _ past =>
    rw [drives.events_eq, drives.index_eq] at past
    exact .inr ⟨past, rfl, rfl⟩
  | held _ _ paused => cases paused.symm.trans drives.playing
  | delivered _ next _ told =>
    rw [drives.events_eq, drives.index_eq] at next told
    rw [drives.index_eq]
    exact .inl ⟨_, _, next, told, rfl, rfl⟩
  | broken => exact absurd rfl calm

/-- All that a poll of the run that drives the session does is to look at the timeline. -/
theorem Progresses.looks {events : Trace} (h : Progresses run answer w stage v)
    (orderly : w.Orderly) (drives : w.session.Drives q events n)
    (hq : w.session.run? q = some run) : Looks w.session.generation w stage v := by
  obtain ⟨run', hq', outstanding, claims⟩ := drives.plays
  cases hq.symm.trans hq'
  have old {code : String} {g : Nat} (purpose : run.purpose = .start g code)
      (new : run.stage = .unpolled ∨ run.stage = .fetching) : False := by
    cases claims.symm.trans (Run.generation?_of_start purpose)
    have unloaded := orderly.awaits q ⟨run, code, hq, purpose, new⟩ nofun
    cases drives.loaded.symm.trans unloaded
  cases h with
  | fetched purpose new => exact (old purpose new).elim
  | unanswered purpose new => exact (old purpose new).elim
  | idle purpose => simp [Run.generation?, purpose] at claims
  | played claims' _ looks =>
    cases claims.symm.trans claims'
    exact looks

structure Going (q : RunId) (events : Trace) (first : Nat)
    (base : InstanceId → List (Event × Trace)) (known : Registry) (w : World σ) (n : Nat) :
    Prop where
  first_le : first ≤ min n events.length
  drives : n ≤ events.length → w.session.Drives q events n
  rests : events.length < n → w.session.Rests q events
  heard : ∀ i ∈ known.all, w.heard i = base i ++ (events.handed (min n events.length)).drop first

variable {events : Trace} {first : Nat} {base : InstanceId → List (Event × Trace)}
  {known : Registry}

theorem Going.kept (h : w.Going q events first base known n)
    (drives : w.session.Drives q events n → v.session.Drives q events n)
    (rests : w.session.Rests q events → v.session.Rests q events)
    (heard : ∀ i ∈ known.all, v.heard i = w.heard i) : v.Going q events first base known n where
  first_le := h.first_le
  drives := fun le => drives (h.drives le)
  rests := fun lt => rests (h.rests lt)
  heard := fun i mem => (heard i mem).trans (h.heard i mem)

/-- A poll of a run that is over changes nothing, and neither does the count behind the end. -/
theorem Going.poll_over (h : w.Going q events first base known n)
    (past : ∀ run, w.session.run? q = some run → run.stage.isOutstanding = false) :
    w.Going q events first base known (n + 1) := by
  have lt : events.length < n := by
    refine Nat.lt_of_not_le fun le => ?_
    obtain ⟨run, hq, outstanding, -⟩ := (h.drives le).plays
    cases outstanding.symm.trans (past run hq)
  have first_le := h.first_le
  have heard := h.heard
  have min_eq : min (n + 1) events.length = min n events.length := by omega
  constructor
  · omega
  · omega
  · exact fun _ => h.rests lt
  · rw [min_eq]
    exact heard

theorem Going.poll_other (h : w.Going q events first base known n) (orderly : w.Orderly)
    (ne : q ≠ r) (hr : w.session.run? r = some run) (outstanding : run.stage.isOutstanding = true)
    (progresses : Progresses run answer w stage u) :
    World.Going q events first base known { u with session := u.session.settle r stage } n := by
  have idle : ¬w.session.Plays r := by
    intro plays
    by_cases le : n ≤ events.length
    · exact ne (orderly.sound.single (h.drives le).plays plays)
    · exact (h.rests (Nat.lt_of_not_le le)).idle r plays
  cases progresses.eq_of_idle hr outstanding idle
  refine h.kept (fun drives => ?_) (fun rests => ?_) fun _ _ => rfl
  · exact drives.settle ((Session.plays_settle_of_ne ne).mpr drives.plays)
  · refine rests.settle ne fun _ run' hrun => ?_
    cases hr.symm.trans hrun
    exact outstanding

/-- A look at the timeline brings the run that drives the session one event further, or to the
end. -/
theorem Going.looks (h : w.Going q events first base known n) (sound : w.session.Sound)
    (formed : w.Formed) (rules : (Discipline.within Effect.LetsPlay).Rules known w)
    (le : n ≤ events.length) (looks : Looks w.session.generation w stage u)
    (calm : stage ≠ .panicked) :
    World.Going q events first base known { u with session := u.session.settle q stage }
      (n + 1) := by
  have drives := h.drives le
  have first_le := h.first_le
  have heard := h.heard
  rw [Nat.min_eq_left le] at first_le heard
  rcases looks.drives drives calm with ⟨event, after, next, told, rfl, rfl⟩ | ⟨past, rfl, rfl⟩
  · have lt : n < events.length := (List.getElem?_eq_some_iff.mp next).1
    have min_eq : min (n + 1) events.length = n + 1 := Nat.min_eq_left lt
    have moves := (Discipline.lasting_rules leavesRegistry_of_letsPlay known).moves_of_broadcast
      told rules
    have steered : Session.Steered Session.Command.LetsPlay w.session after.session :=
      moves.session id
    have later := drives.steered steered
    have current := later.current steered
    constructor
    · omega
    · have further := later.advance current
      have goes : (Run.Stage.waiting after.session.speed).isOutstanding = true := rfl
      have settled := further.settle (Session.plays_settle_self further.plays goes)
      exact fun _ => settled
    · omega
    · intro i mem
      have registered : i ∈ w.registry.all := by
        rw [rules.registry]
        exact mem
      have length : first ≤ (events.handed n).length := by
        rw [Trace.length_handed]
        omega
      rw [min_eq, Trace.handed_succ next, List.drop_append_of_le_length length,
        ← List.append_assoc, ← heard i mem]
      have last := heard_of_broadcast formed told registered
      exact last
  · have min_eq : min (n + 1) events.length = n := by omega
    constructor
    · omega
    · omega
    · exact fun _ => drives.rests sound past
    · intro i mem
      rw [min_eq]
      exact heard i mem

theorem Going.poll_self (h : w.Going q events first base known n) (orderly : w.Orderly)
    (rules : (Discipline.within Effect.LetsPlay).Rules known w)
    (hq : w.session.run? q = some run) (outstanding : run.stage.isOutstanding = true)
    (progresses : Progresses run answer w stage u) (calm : stage ≠ .panicked) :
    World.Going q events first base known { u with session := u.session.settle q stage }
      (n + 1) := by
  have le : n ≤ events.length := by
    refine Nat.le_of_not_lt fun lt => ?_
    obtain ⟨purpose, ended⟩ := (h.rests lt).ended
    cases hq.symm.trans ended
    cases outstanding
  exact h.looks orderly.sound orderly.formed rules le
    (progresses.looks orderly (h.drives le) hq) calm

theorem Going.leads {t : Turn σ} (h : w.Going q events first base known n) (orderly : w.Orderly)
    (rules : (Discipline.within Effect.LetsPlay).Rules known w) (lets : t.LetsPlay q w)
    (leads : t.Leads w v) (calm : w.session.Calm v.session) :
    v.Going q events first base known (n + if t.polls q then 1 else 0) := by
  cases t with
  | init l hook => exact lets.1.elim
  | host s =>
    obtain ⟨-, rfl⟩ := leads
    have steps := (Discipline.within Effect.LetsPlay).steps_run lets.1 rules.tame
    have steered {v : World σ} (steps : (Discipline.within Effect.LetsPlay).Steps w v) :
        Session.Steered Session.Command.LetsPlay w.session v.session :=
      (steps.moves .reset).session id
    exact h.kept (·.steered (steered steps)) (·.steered (steered steps)) fun _ _ => steps.heard
  | drop r =>
    obtain ⟨-, rfl⟩ := leads
    have ne : q ≠ r := Ne.symm (lets.2 r rfl)
    exact h.kept (·.drop ne) (·.drop ne) fun _ _ => rfl
  | poll r answer =>
    rcases Turn.leads_poll leads with
      ⟨past, rfl⟩ | ⟨run, stage, u, hr, outstanding, progresses, rfl⟩
    · by_cases same : r = q
      · subst same
        have counts : (Turn.poll r answer : Turn σ).polls r = true := by simp [Turn.polls]
        rw [if_pos counts]
        exact h.poll_over past
      · have counts : (Turn.poll r answer : Turn σ).polls q = false := by simp [Turn.polls, same]
        rw [counts]
        exact h
    by_cases same : r = q
    · subst same
      have counts : (Turn.poll r answer : Turn σ).polls r = true := by simp [Turn.polls]
      rw [if_pos counts]
      have calm := progresses.calm hr outstanding calm
      exact h.poll_self orderly rules hr outstanding progresses calm
    · have counts : (Turn.poll r answer : Turn σ).polls q = false := by simp [Turn.polls, same]
      rw [counts]
      exact h.poll_other orderly (Ne.symm same) hr outstanding progresses

theorem Going.course {ts : List (Turn σ)} (h : w.Going q events first base known n)
    (orderly : w.Orderly) (rules : (Discipline.within Effect.LetsPlay).Rules known w)
    (course : Course (Turn.LetsPlay q) w ts v) (calm : w.session.Calm v.session) :
    v.Going q events first base known (n + ts.countP (·.polls q)) := by
  induction course generalizing n with
  | done => exact h
  | turn lets leads rest ih =>
    have next := h.leads orderly rules lets leads (rest.calm calm)
    have lasting := Discipline.lasting_rules (leavesRegistry_of_letsPlay (σ := σ)) known
    have last := ih next (leads.orderly orderly) (lasting.leads lets.1 leads rules)
      (leads.calm calm)
    rw [List.countP_cons]
    rw [Nat.add_assoc, Nat.add_comm (ite _ _ _)] at last
    exact last

end World

/-- A resumption in the middle of a trace ends the pause. It leaves nobody playing exactly if nobody
played before and the session was not paused; then the run that it makes has nothing to do. Else
whoever plays goes through the rest of the trace, one event a poll, and ends behind the last. -/
theorem resume_drives {catalog : Catalog σ} {renderer : Renderer} {config : Playback.Config}
    {nesting : Nat} {memory : σ} {before : List (Turn σ)} {w : World σ}
    (reached : Course (fun _ _ => True) (.new catalog renderer config nesting memory) before w)
    (loaded : w.session.loaded = true) (lt : w.session.index < w.session.events.length) :
    w.session.resume.2.paused = false ∧
      (w.session.resume.2.isRunning = true ↔
        w.session.isRunning = true ∨ w.session.paused = true) ∧
      (w.session.resume.2.isRunning = true ↔ ∃ q, w.session.resume.2.Plays q) ∧
      (w.session.resume.2.isRunning = false →
        w.session.resume.2.run? w.session.resume.1 = some ⟨.nothing, .unpolled⟩) ∧
      ∀ q, w.session.resume.2.Plays q → (w.session.Plays q ∨ q = w.session.resume.1) ∧
        ∀ (ts : List (Turn σ)) (v : World σ),
          (∀ i ∈ w.registry.all, ∀ m, w.body? i = some (.foreign m) →
            ∀ c, c.isPlay = true → (m.respond i c).Within Effect.LetsPlay) →
          (∀ kind, ∀ l ∈ w.bus.listeners kind, ∀ n, (l.callback n).Within Effect.LetsPlay) →
          Course (Turn.LetsPlay q) { w with session := w.session.resume.2 } ts v →
          (∀ r run, v.session.run? r = some run → run.stage ≠ .panicked) →
          v.session.events = w.session.events ∧
            v.session.index =
              min (w.session.index + ts.countP (·.polls q)) w.session.events.length ∧
            (∀ i ∈ w.registry.all, v.heard i = w.heard i ++
              (w.session.events.handed v.session.index).drop w.session.index) ∧
            (w.session.events.length < w.session.index + ts.countP (·.polls q) →
              v.session.state = .finished ∧
                ∃ purpose, v.session.run? q = some ⟨purpose, .finished (.ok ())⟩) := by
  have orderly := reached.orderly (World.orderly_new catalog renderer config nesting memory)
  have tended : w.Tended { w with session := w.session.resume.2 } :=
    ⟨.frame rfl rfl rfl, .single ⟨.resume, trivial, rfl⟩⟩
  have orderly' := tended.orderly orderly
  obtain ⟨playing, loaded', events, index⟩ := Session.resume_of_lt loaded lt
  refine ⟨playing, Session.isRunning_resume loaded lt, orderly'.sound.isRunning_iff,
    Session.run?_resume loaded lt, fun q plays => ⟨Session.plays_resume plays, ?_⟩⟩
  intro ts v modules listeners course calm
  have rules : (Discipline.within Effect.LetsPlay).Rules w.registry w :=
    ⟨listeners, fun c running i mem m here => modules i mem m here c running, rfl⟩
  have rules' := (Discipline.lasting_rules leavesRegistry_of_letsPlay w.registry).session
    w.session.resume.2 rules
  have going : World.Going q w.session.events w.session.index w.heard w.registry
      { w with session := w.session.resume.2 } w.session.index := by
    have min_eq : min w.session.index w.session.events.length = w.session.index := by omega
    constructor
    · omega
    · exact fun _ => ⟨plays, playing, loaded', events, index⟩
    · omega
    · intro i _
      have short : (w.session.events.handed w.session.index).length ≤ w.session.index := by
        rw [Trace.length_handed]
        omega
      rw [min_eq, List.drop_of_length_le short, List.append_nil]
      rfl
  have goes := going.course orderly' rules' course (.of_none calm)
  have last : v.session.events = w.session.events ∧ v.session.index =
      min (w.session.index + ts.countP (·.polls q)) w.session.events.length := by
    by_cases le : w.session.index + ts.countP (·.polls q) ≤ w.session.events.length
    · have drives := goes.drives le
      exact ⟨drives.events_eq, drives.index_eq.trans (Nat.min_eq_left le).symm⟩
    · have lt := Nat.lt_of_not_le le
      have rests := goes.rests lt
      exact ⟨rests.events_eq, rests.index_eq.trans (Nat.min_eq_right (Nat.le_of_lt lt)).symm⟩
  refine ⟨last.1, last.2, ?_, fun past => ?_⟩
  · rw [last.2]
    exact goes.heard
  · have rests := goes.rests past
    have state : v.session.state = .finished := by
      unfold Session.state
      rw [rests.loaded, rests.events_eq, rests.index_eq]
      simp
    exact ⟨state, rests.ended⟩

def World.abandoned : World Unit :=
  (World.new .builtin .recording {} 8 ()).after
    [.init ⟨"level", "", "", "code", [Variables.name]⟩ fun _ => .done,
      .host (.start fun _ => .done), .poll ⟨0⟩ (some (.ok Trace.twice)), .drop ⟨0⟩,
      .host (.pause .done)]

def World.finished : World Unit :=
  World.after { World.abandoned with session := World.abandoned.session.resume.2 }
    [.poll ⟨1⟩ none, .poll ⟨1⟩ none]

theorem resume_drives_of_abandoned : World.finished.session.state = .finished ∧
    (∀ i ∈ World.abandoned.registry.all, World.finished.heard i =
      World.abandoned.heard i ++ (Trace.twice.handed World.finished.session.index).drop 1) ∧
    ∃ purpose, World.finished.session.run? ⟨1⟩ = some ⟨purpose, .finished (.ok ())⟩ := by
  have reached : Course (fun _ _ => True) (World.new (.builtin : Catalog Unit) .recording {} 8 ())
      _ World.abandoned := course_after (fun _ _ _ => trivial) (by decide +kernel)
  have events : World.abandoned.session.events = Trace.twice := by decide +kernel
  have index : World.abandoned.session.index = 1 := by decide +kernel
  have modules : ∀ i ∈ World.abandoned.registry.all, ∀ m,
      World.abandoned.body? i = some (.foreign m) →
      ∀ c, c.isPlay = true → (m.respond i c).Within Effect.LetsPlay := by
    intro i mem m here
    exact absurd here (World.not_foreign_of_all (by decide +kernel) mem)
  have listeners : ∀ kind, ∀ l ∈ World.abandoned.bus.listeners kind,
      ∀ n, (l.callback n).Within Effect.LetsPlay := by
    have nobody : ∀ kind, (World.abandoned.bus.listeners kind).isEmpty = true := by
      intro kind
      cases kind <;> decide +kernel
    intro kind l mem
    rw [List.isEmpty_iff.mp (nobody kind)] at mem
    cases mem
  have course : Course (Turn.LetsPlay ⟨1⟩)
      { World.abandoned with session := World.abandoned.session.resume.2 }
      [.poll ⟨1⟩ none, .poll ⟨1⟩ none] World.finished := by
    refine course_after (fun t mem v => ?_) (by decide +kernel)
    rw [List.mem_cons, List.mem_singleton, or_self] at mem
    subst mem
    exact ⟨trivial, nofun⟩
  have calm : ∀ r run, World.finished.session.run? r = some run → run.stage ≠ .panicked :=
    Session.calm_of_all (by decide +kernel)
  have loaded : World.abandoned.session.loaded = true := by decide +kernel
  have lt : World.abandoned.session.index < World.abandoned.session.events.length := by
    decide +kernel
  have plays : World.abandoned.session.resume.2.Plays ⟨1⟩ := by
    have goes : (World.abandoned.session.resume.2.run? ⟨1⟩).any (fun run =>
        run.stage.isOutstanding &&
          run.generation? == some World.abandoned.session.resume.2.generation) = true := by
      decide +kernel
    obtain ⟨run, hr, goes⟩ := (Option.any_eq_true _ _).mp goes
    obtain ⟨outstanding, claims⟩ := Bool.and_eq_true_iff.mp goes
    exact ⟨run, hr, outstanding, beq_iff_eq.mp claims⟩
  obtain ⟨-, -, -, -, drives⟩ := resume_drives reached loaded lt
  obtain ⟨-, -, heard, past⟩ := (drives ⟨1⟩ plays).2 _ _ modules listeners course calm
  rw [events] at heard past
  rw [index] at heard past
  obtain ⟨state, ended⟩ := past (by decide)
  exact ⟨state, heard, ended⟩

end Replay
