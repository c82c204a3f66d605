import Replay.Proofs.World.Breakdown
import Replay.Proofs.World.Erased
import Replay.Proofs.World.Resumption
import Replay.Proofs.World.Settings

/-!
Starts whose fetch fails. Whatever happened during the fetch, a failure of the interpreter ends the
run with the error and leaves the session paused with nothing loaded, and every module as it is
after a reset. A later start plays its trace as if nothing had been before it.
-/
namespace Replay

variable {σ : Type}

namespace Session

variable {s t : Session}

theorem Steered.generation (h : Steered Command.LeavesPaused s t) :
    t.generation = s.generation := by
  induction h with
  | refl => rfl
  | tail _ step ih =>
    obtain ⟨c, leaves, rfl⟩ := step
    cases c with
    | start | resume => exact leaves.elim
    | pause | setSpeed | setCode => exact ih

theorem fetches_of_any {r : RunId} (h : (s.run? r).any (fun run =>
    run.isFetching && run.generation? == some s.generation) = true) :
    ∃ run, s.run? r = some run ∧ run.isFetching = true ∧
      run.generation? = some s.generation := by
  obtain ⟨run, hr, goes⟩ := (Option.any_eq_true _ _).mp h
  obtain ⟨fetching, claims⟩ := Bool.and_eq_true_iff.mp goes
  exact ⟨run, hr, fetching, beq_iff_eq.mp claims⟩

theorem Sound.idle (h : s.Sound) (unloaded : s.loaded = false) :
    s.events = [] ∧ s.index = 0 ∧ s.state = .idle ∧ s.current = ∅ := by
  obtain ⟨events, index⟩ := h.unloaded unloaded
  refine ⟨events, index, ?_, ?_⟩
  · unfold state
    rw [unloaded]
    rfl
  · unfold current
    rw [events, index]
    rfl

end Session

namespace World

variable {u v w : World σ} {r q : RunId} {run : Run} {stage : Run.Stage} {e : Error}
  {events : Trace} {first n : Nat} {base : InstanceId → List (Event × Trace)} {known : Registry}

/-- Whether no registered module panics when it is reset. -/
def Resettable (w : World σ) : Prop :=
  ∀ i ∈ w.registry.all, ∀ m, w.body? i = some (.foreign m) → (m.respond i .reset).Calm

/-- The reset that a failed fetch brings about, once it has paused the session. -/
def foiled (w : World σ) : Except Halt Unit × World σ :=
  reset.run { w with session := w.session.pause }

/-- Whether that reset is over at some time, if only by a panic. -/
def ResetEnds (w : World σ) : Prop := w.foiled.1 ≠ .error .overflow

/-- Whether nobody starts or resumes in that reset: who does makes a run. -/
def ResetUndriven (w : World σ) : Prop :=
  w.foiled.2.session.runs.length = w.session.runs.length

instance (w : World σ) : Decidable w.ResetUndriven := inferInstanceAs (Decidable (_ = _))

/-- Whether the foreign code that a reset may reach confines itself to some effects. -/
def ResetWithin (P : Effect σ → Prop) (w : World σ) : Prop :=
  (∀ i ∈ w.registry.all, ∀ m, w.body? i = some (.foreign m) → (m.respond i .reset).Within P) ∧
    ∀ kind, ∀ l ∈ w.bus.listeners kind, ∀ n, (l.callback n).Within P

/-- Whether nobody has touched something about a session on the way from one world to another. -/
def Untouched {α : Type} (get : Session → α) (x : World σ) (ts : List (Turn σ)) (w : World σ) :
    Prop :=
  x.Confined (Effect.Leaves get) ∧
    Course (fun u t => t.Keeps (.within (Effect.Leaves get)) u) x ts w

/-- What comes of a start that is answered with a trace while the session is not paused, if from
then on it is let play: the trace is loaded and played from its first event, one event a poll, each
module hears it from the start, and behind the end the session and the run are finished. -/
def PlaysStarts (w : World σ) : Prop :=
  ∀ {us ts : List (Turn σ)} {z x : World σ} {q : RunId} {run : Run} {events : Trace},
    Course (fun _ _ => True) w us z →
    z.session.run? q = some run → run.isFetching = true →
    run.generation? = some z.session.generation → z.session.paused = false →
    (∀ i ∈ z.registry.all, ∀ m, z.body? i = some (.foreign m) →
      ∀ c, c.isPlay = true → (m.respond i c).Within Effect.LetsPlay) →
    (∀ kind, ∀ l ∈ z.bus.listeners kind, ∀ n, (l.callback n).Within Effect.LetsPlay) →
    Course (Turn.LetsPlay q) z (.poll q (some (.ok events)) :: ts) x →
    z.session.Calm x.session →
    x.session.loaded = true ∧ x.session.events = events ∧
      x.session.index = min (1 + ts.countP (·.polls q)) events.length ∧
      (∀ i ∈ z.registry.all, x.heard i = events.handed x.session.index) ∧
      (events.length < 1 + ts.countP (·.polls q) → x.session.state = .finished ∧
        ∃ purpose, x.session.run? q = some ⟨purpose, .finished (.ok ())⟩)

/-! Starts that are answered with a trace -/

theorem Going.outcome (h : w.Going q events first base known n) :
    w.session.loaded = true ∧ w.session.events = events ∧
      w.session.index = min n events.length ∧
      (∀ i ∈ known.all, w.heard i = base i ++ (events.handed w.session.index).drop first) ∧
      (events.length < n → w.session.state = .finished ∧
        ∃ purpose, w.session.run? q = some ⟨purpose, .finished (.ok ())⟩) := by
  have timeline : w.session.loaded = true ∧ w.session.events = events ∧
      w.session.index = min n events.length := by
    by_cases le : n ≤ events.length
    · have drives := h.drives le
      exact ⟨drives.loaded, drives.events_eq, drives.index_eq.trans (Nat.min_eq_left le).symm⟩
    · have lt := Nat.lt_of_not_le le
      have rests := h.rests lt
      exact ⟨rests.loaded, rests.events_eq,
        rests.index_eq.trans (Nat.min_eq_right (Nat.le_of_lt lt)).symm⟩
  refine ⟨timeline.1, timeline.2.1, timeline.2.2, timeline.2.2 ▸ h.heard, fun past => ?_⟩
  have rests := h.rests past
  refine ⟨?_, rests.ended⟩
  unfold Session.state
  rw [rests.loaded, rests.events_eq, rests.index_eq]
  simp

theorem going_of_loaded (orderly : w.Orderly)
    (rules : (Discipline.within Effect.LetsPlay).Rules known w)
    (plays : w.session.Plays q) (playing : w.session.paused = false)
    (told : reset.run { w with session := w.session.load events } = (.ok (), u))
    (looks : Looks w.session.generation u stage v) (calm : stage ≠ .panicked) :
    World.Going q events 0 (fun _ => []) known { v with session := v.session.settle q stage }
      1 := by
  have lasting := Discipline.lasting_rules leavesRegistry_of_letsPlay known (σ := σ)
  have begun := lasting.session (w.session.load events) rules
  have moves := lasting.moves_of_reset told begun
  have steered : Session.Steered Session.Command.LetsPlay (w.session.load events) u.session :=
    moves.session id
  have first : (w.session.load events).Drives q events 0 := ⟨plays, playing, rfl, rfl, rfl⟩
  have drives := first.steered steered
  have tended := tended_of_reset told
  have ready : World.Formed { w with session := w.session.load events } :=
    orderly.formed.extend rfl List.prefix_rfl
  have going : u.Going q events 0 (fun _ => []) known 0 := by
    refine ⟨Nat.zero_le _, fun _ => drives, fun lt => absurd lt (Nat.not_lt_zero _), ?_⟩
    intro i mem
    rw [Nat.zero_min, List.drop_zero, List.nil_append]
    exact heard_of_reset ready told (begun.registry ▸ mem)
  have current : u.session.generation = (w.session.load events).generation :=
    drives.current steered
  have looks : Looks (w.session.load events).generation u stage v := looks
  rw [← current] at looks
  exact going.looks (steered.sound (orderly.sound.load events)) (tended.formed ready)
    (lasting.of_reset told rules) (Nat.zero_le _) looks calm

theorem Orderly.playsStarts (orderly : w.Orderly) : w.PlaysStarts := by
  intro us ts z x q run events course hq fetching claims playing modules listeners played calm
  have orderly := course.orderly orderly
  have outstanding := Run.isOutstanding_of_isFetching fetching
  have rules : (Discipline.within Effect.LetsPlay).Rules z.registry z :=
    ⟨listeners, fun c running i mem m here => modules i mem m here c running, rfl⟩
  have lasting := Discipline.lasting_rules leavesRegistry_of_letsPlay z.registry (σ := σ)
  cases played with
  | turn lets leads rest =>
    have next := leads.orderly orderly
    have rules' := lasting.leads lets.1 leads rules
    have calm' := leads.calm calm
    have before := rest.calm calm
    rcases Turn.leads_poll leads with ⟨past, -⟩ | ⟨run', stage, y, hq', -, progresses, rfl⟩
    · cases outstanding.symm.trans (past run hq)
    cases hq.symm.trans hq'
    have steady := progresses.calm hq outstanding before
    cases progresses.receives fetching claims with
    | stale ne => exact absurd rfl ne
    | failed _ failure => cases failure
    | broken => exact absurd rfl steady
    | loaded _ success told looks =>
      cases success
      have plays : z.session.Plays q := ⟨run, hq, outstanding, claims⟩
      have going := going_of_loaded orderly rules plays playing told looks steady
      have goes := going.course next rules' rest calm'
      simpa using goes.outcome

/-! Starts whose fetch fails -/

/-- A failure of the fetch resets all modules, which comes to its end or is broken off. -/
theorem leads_of_failure (hr : w.session.run? r = some run) (fetching : run.isFetching = true)
    (claims : run.generation? = some w.session.generation)
    (leads : (Turn.poll r (some (.error e))).Leads w v) :
    ∃ result u stage, w.foiled = (result, u) ∧
      v = { u with session := u.session.settle r stage } ∧
      (result = .ok () ∧ stage = .finished (.error e) ∨
        result = .error .panic ∧ stage = .panicked) := by
  rcases Turn.leads_poll leads with ⟨past, -⟩ | ⟨run', stage, u, hr', -, progresses, rfl⟩
  · cases (Run.isOutstanding_of_isFetching fetching).symm.trans (past run hr)
  cases hr.symm.trans hr'
  cases progresses.receives fetching claims with
  | stale ne => exact absurd rfl ne
  | loaded _ success => cases success
  | failed _ failure told =>
    cases failure
    exact ⟨_, u, _, told, rfl, .inl ⟨rfl, rfl⟩⟩
  | broken _ taken told =>
    rcases taken with rfl | ⟨_, success, -⟩
    · exact ⟨_, u, _, told, rfl, .inr ⟨rfl, rfl⟩⟩
    · cases success

theorem unloaded_of_failure {result : Except Halt Unit} (orderly : w.Orderly)
    (hr : w.session.run? r = some run) (fetching : run.isFetching = true)
    (claims : run.generation? = some w.session.generation)
    (told : w.foiled = (result, u)) :
    u.session.loaded = false := by
  have before : w.session.loaded = false := by
    obtain ⟨starts, new⟩ := Run.isFetching_iff.mp fetching
    obtain ⟨purpose, stage⟩ := run
    cases purpose with
    | start g code =>
      cases claims
      exact orderly.awaits r ⟨_, code, hr, rfl, new⟩ nofun
    | resume | nothing => cases starts
  rcases (tended_of_reset told).session.follows with ⟨-, loaded, -⟩ | ⟨-, unloaded⟩
  · exact loaded.trans before
  · exact unloaded

/-- Where nobody starts or resumes in the reset, the session is paused and nobody plays. -/
theorem paused_of_failure {result : Except Halt Unit} (orderly : w.Orderly)
    (hr : w.session.run? r = some run) (claims : run.generation? = some w.session.generation)
    (told : w.foiled = (result, u)) (past : stage.isOutstanding = false)
    (undriven : w.ResetUndriven) :
    (u.session.settle r stage).paused = true ∧ (u.session.settle r stage).isRunning = false ∧
      (u.session.settle r stage).generation = w.session.generation := by
  have tended := tended_of_reset told
  unfold ResetUndriven at undriven
  rw [told] at undriven
  have leaves := tended.session.leavesPaused undriven
  have same : u.session.generation = w.session.generation := leaves.generation
  refine ⟨?_, ?_, Session.generation_settle.trans same⟩
  · rw [Session.paused_settle]
    exact (leaves.paused rfl).1
  · have sound : u.session.Sound := tended.session.sound orderly.sound.pause
    have closed : (u.session.close r stage).player = none :=
      sound.player_close_of_claims (tended.session.run? hr) (same ▸ claims)
    unfold Session.isRunning Session.settle
    rw [past, if_neg Bool.false_ne_true, closed]
    rfl

/-- Where neither modules in their resets nor listeners touch the settings, they stay. -/
theorem settings_of_reset {result : Except Halt Unit}
    (within : w.ResetWithin (Effect.Leaves Session.settings)) (told : w.foiled = (result, u)) :
    u.session.settings = w.session.settings := by
  have moves := (Discipline.within (Effect.Leaves Session.settings)).moves_callAll (c := .reset)
    (w := { w with session := w.session.pause }) w.registry.all within.2 within.1
  have same : (callAll .reset w.registry.all).run { w with session := w.session.pause } =
      (result, u) := told
  rw [same] at moves
  exact moves.leaves

/-- Where the modules can be reset, the run comes to its end, unless notices that are published in
the resets are nested too deeply. -/
theorem leads_of_resettable (orderly : w.Orderly) (hr : w.session.run? r = some run)
    (fetching : run.isFetching = true) (claims : run.generation? = some w.session.generation)
    (calm : w.Resettable) (finite : w.ResetEnds) :
    ∃ v, (Turn.poll r (some (.error e))).Leads w v := by
  have ends : reset.Ends { w with session := w.session.pause } :=
    ends_callAll .reset w.registry.all orderly.free calm
  obtain ⟨_, u, told⟩ := ends.result finite
  have progressed : (progress run (some (.error e))).run w = (.ok (.finished (.error e)), u) := by
    rw [progress_of_fetching fetching claims]
    unfold receive modifySession
    rw [Act.run_get_bind]
    simp only [ne_eq, not_true_eq_false, if_false]
    rw [Act.run_modify_bind, Act.run_bind, told]
    rfl
  have polled := run_poll hr (Run.isOutstanding_of_isFetching fetching) progressed
  exact ⟨_, Turn.leads_of_ok polled⟩

end World

def World.refetching : World Unit :=
  (World.new .builtin .recording {} 8 ()).after
    [.init ⟨"level", "", "", "code", [Variables.name]⟩ fun _ => .done,
      .host (.start fun _ => .done), .poll ⟨0⟩ (some (.ok Trace.twice)),
      .host (.start fun _ => .done), .host (.pause .done)]

def World.thwarted : World Unit := World.refetching.after [.poll ⟨1⟩ (some (.error (.timeout 5)))]

def World.recovering : World Unit := World.thwarted.after [.host (.start fun _ => .done)]

def World.recovered : World Unit :=
  World.recovering.after [.poll ⟨2⟩ (some (.ok Trace.twice)), .poll ⟨2⟩ none, .poll ⟨2⟩ none]

def ForeignModule.resetting (s : Script Unit) : ForeignModule Unit where
  id := "resets"
  dependencies := []
  kind := "resets"
  respond _
    | .reset => s
    | .init .. | .handle .. | .destroy | .update _ => .done

def Catalog.resetting (s : Script Unit) : Catalog Unit :=
  Catalog.builtin.insert "resets" (.foreign (.resetting s))

/-- A level is loaded with a listener that resumes; it is started, and the fetch fails. -/
def Turn.foiling : List (Turn Unit) :=
  [.init ⟨"level", "", "", "code", ["resets"]⟩
      fun _ => .subscribe .declared (fun _ => .resume fun _ => .done) fun _ => .done,
    .host (.start fun _ => .done), .poll ⟨0⟩ (some (.error (.timeout 5)))]

def World.unpaused : World Unit :=
  (World.new (.resetting (.publish (.declared "x" ⟨.boolean true, .literal⟩) fun _ => .done))
    .recording {} 8 ()).after Turn.foiling

def World.failing : World Unit :=
  (World.new (.resetting .panic) .recording {} 8 ()).after Turn.foiling

end Replay
