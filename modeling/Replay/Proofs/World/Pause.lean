import Replay.Proofs.World.Outdated

/-!
Pauses. As long as nobody resumes or starts, a paused session stays paused: runs may fetch their
trace, look at the timeline, come to the end or be dropped, but no event is delivered. A pause that
comes into a delivery lets that delivery be completed and the index count it, and no other one
begins.
-/
namespace Replay

variable {σ : Type}

namespace Session

def Command.LeavesPaused : Command → Prop
  | .start | .resume => False
  | .pause | .setSpeed _ | .setCode _ => True

def PausedAmid (s t : Session) : Prop :=
  ∃ u, Steered (fun _ => True) s u ∧ Steered Command.LeavesPaused u.pause t

variable {s t : Session} {c : Command} {allowed : Command → Prop} {r : RunId}
  {stage : Run.Stage} {run : Run}

theorem length_obey (s : Session) (c : Command) : s.runs.length ≤ (s.obey c).runs.length ∧
    ((s.obey c).runs.length = s.runs.length → c.LeavesPaused) := by
  have made (s : Session) (p : Run.Purpose) : (s.make p).2.runs.length = s.runs.length + 1 :=
    List.length_append
  cases c with
  | start =>
    have more : (s.obey .start).runs.length = s.runs.length + 1 := made _ _
    omega
  | resume =>
    have more : (s.obey .resume).runs.length = s.runs.length + 1 := by
      unfold obey
      rcases resume_cases s with ⟨-, eq⟩ | ⟨-, -, eq⟩ | ⟨-, -, -, -, eq⟩ <;> rw [eq] <;>
        exact made _ _
    omega
  | pause | setSpeed | setCode => exact ⟨Nat.le_refl _, fun _ => trivial⟩

theorem Steered.length_le (h : Steered allowed s t) : s.runs.length ≤ t.runs.length := by
  induction h with
  | refl => exact Nat.le_refl _
  | tail _ step ih =>
    obtain ⟨c, -, rfl⟩ := step
    exact Nat.le_trans ih (length_obey _ c).1

theorem Steered.leavesPaused (h : Steered allowed s t)
    (same : t.runs.length = s.runs.length) : Steered Command.LeavesPaused s t := by
  induction h with
  | refl => exact .refl
  | @tail u _ before step ih =>
    obtain ⟨c, -, rfl⟩ := step
    have le := Steered.length_le before
    obtain ⟨le', leaves⟩ := length_obey u c
    exact (ih (by omega)).tail ⟨c, leaves (by omega), rfl⟩

theorem Steered.paused (h : Steered Command.LeavesPaused s t) (paused : s.paused = true) :
    t.paused = true ∧ t.index = s.index := by
  induction h with
  | refl => exact ⟨paused, rfl⟩
  | tail _ step ih =>
    obtain ⟨c, leaves, rfl⟩ := step
    cases c with
    | start => exact leaves.elim
    | resume => exact leaves.elim
    | pause => exact ⟨rfl, ih.2⟩
    | setSpeed speed => exact ih
    | setCode code => exact ih

theorem PausedAmid.paused (h : s.PausedAmid t) : t.paused = true := by
  obtain ⟨u, -, after⟩ := h
  exact (after.paused rfl).1

/-- Where a session that was playing is found paused and no run was made, somebody paused it. -/
theorem Steered.pausedAmid (h : Steered allowed s t) (same : t.runs.length = s.runs.length)
    (playing : s.paused = false) (paused : t.paused = true) : s.PausedAmid t := by
  have quiet := h.leavesPaused same
  clear h same
  induction quiet with
  | refl => cases playing.symm.trans paused
  | @tail u _ before step ih =>
    cases still : u.paused with
    | true =>
      obtain ⟨v, earlier, later⟩ := ih still
      exact ⟨v, earlier, later.tail step⟩
    | false =>
      obtain ⟨c, leaves, rfl⟩ := step
      have any : Steered (fun _ => True) s u :=
        Relation.ReflTransGen.mono (fun _ _ ⟨c, _, eq⟩ => ⟨c, trivial, eq⟩) _ _ before
      cases c with
      | start => exact leaves.elim
      | resume => exact leaves.elim
      | pause => exact ⟨u, any, .refl⟩
      | setSpeed speed => cases still.symm.trans paused
      | setCode code => cases still.symm.trans paused

theorem length_settle (s : Session) (r : RunId) (stage : Run.Stage) :
    (s.settle r stage).runs.length = s.runs.length := by
  rw [settle_eq]
  exact List.length_modify _ _ _

theorem paused_settle (s : Session) (r : RunId) (stage : Run.Stage) :
    (s.settle r stage).paused = s.paused := by
  rw [settle_eq]
  rfl

theorem index_settle (s : Session) (r : RunId) (stage : Run.Stage) :
    (s.settle r stage).index = s.index := by
  rw [settle_eq]
  rfl

theorem Progressed.length_le (h : Progressed run s t) : s.runs.length ≤ t.runs.length := by
  obtain ⟨s₀, s₁, generation, from', steered, u, steered', eq⟩ := h
  have le : s₀.runs.length ≤ u.runs.length := Nat.le_trans steered.length_le steered'.length_le
  have same : s₀.runs = s.runs := by
    rcases from' with rfl | ⟨code, events, -, -, rfl⟩
    · rfl
    · rfl
  have same' : t.runs = u.runs := by
    rcases eq with rfl | ⟨-, -, rfl⟩
    · rfl
    · rw [advance_eq]
  rw [same', ← same]
  exact le

end Session

/-! Deliveries -/

def Call.delivers : Call → Bool
  | .handle .. => true
  | .reset | .init .. | .destroy | .update _ => false

def Entry.delivery? : Entry → Option (InstanceId × Event × Trace)
  | .call i (.handle event history) => some (i, event, history)
  | .call .. | .notice _ => none

def World.deliveries (w : World σ) : List (InstanceId × Event × Trace) :=
  w.journal.reverse.filterMap Entry.delivery?

theorem Effect.deliveries_apply {w : World σ} {e : Effect σ} :
    (e.apply w).deliveries = w.deliveries := by
  cases e with
  | register i =>
    obtain ⟨registry, eq⟩ := apply_register (w := w) (i := i)
    rw [eq]
    rfl
  | notice n =>
    unfold World.deliveries apply
    dsimp only
    rw [List.reverse_cons, List.filterMap_append]
    exact List.append_nil _
  | _ => rfl

theorem World.deliveries_begin {w : World σ} {i : InstanceId} {c : Call} {body : Body σ} :
    (w.begin i body c).deliveries = w.deliveries ++ (Entry.delivery? (.call i c)).toList := by
  have journal : (w.begin i body c).journal = .call i c :: w.journal := by cases body <;> rfl
  unfold deliveries
  rw [journal, List.reverse_cons, List.filterMap_append]
  cases c <;> rfl

namespace Discipline

variable {D : Discipline σ} {w v : World σ} {c : Call}

theorem Moves.deliveries (h : D.Moves c w v) (quiet : c.delivers = false) :
    v.deliveries = w.deliveries := by
  refine h.kept (fun _ => Effect.deliveries_apply) fun _ => ?_
  rw [World.deliveries_begin]
  cases c with
  | handle => cases quiet
  | _ => exact List.append_nil _

theorem Steps.deliveries (h : D.Steps w v) : v.deliveries = w.deliveries :=
  (h.moves .reset).deliveries rfl

end Discipline

namespace World

variable {u v w a b : World σ} {i : InstanceId} {c : Call} {is : List InstanceId} {r : RunId}
  {run : Run} {answer : Option Answer} {g : Nat} {stage : Run.Stage} {event : Event}
  {history : Trace}

/-- Calls that all come to their end hand over an event to one instance after the other. -/
theorem deliveries_callAll (there : ∀ i ∈ is, w.body? i ≠ none)
    (told : (callAll (.handle event history) is).run w = (.ok (), v)) :
    v.deliveries = w.deliveries ++ is.map (·, event, history) := by
  induction is generalizing w with
  | nil =>
    cases told
    exact (List.append_nil _).symm
  | cons i rest ih =>
    unfold callAll at told
    rw [Act.run_bind] at told
    have cases' := Discipline.call_cases (w := w) (c := .handle event history) Discipline.tame_free
      (fun _ _ _ _ => trivial) (List.mem_singleton_self i)
    have moves := Discipline.moves_call (w := w) (c := .handle event history) Discipline.tame_free
      (fun _ _ _ _ => trivial) (List.mem_singleton_self i)
    generalize (call i (.handle event history)).run w = outcome at told cases' moves
    obtain ⟨halt | _, u⟩ := outcome
    · cases told
    have still : ∀ k ∈ rest, u.body? k ≠ none := fun k mem none => by
      rw [← cast_eq_none, moves.cast, cast_eq_none] at none
      exact there k (List.mem_cons_of_mem i mem) none
    have first : u.deliveries = w.deliveries ++ [(i, event, history)] := by
      rcases cases' with ⟨none, -⟩ | eq | ⟨body, -, steps⟩
      · exact absurd none (there i List.mem_cons_self)
      · cases eq
      · rw [steps.deliveries, deliveries_begin]
        rfl
    rw [ih still told, first, List.append_assoc]
    rfl

theorem deliveries_of_reset {session : Session} {result : Except Halt Unit}
    (told : reset.run { w with session } = (result, v)) : v.deliveries = w.deliveries := by
  have moves := World.confined_true { w with session }
  have moves := moves.moves_callAll .reset w.registry.all
  have same : (callAll .reset w.registry.all).run { w with session } = (result, v) := told
  rw [same] at moves
  exact moves.deliveries rfl

theorem Stroke.deliveries {P : Effect σ → Prop} (h : Stroke P w v) :
    v.deliveries = w.deliveries := by
  cases h with
  | @called c _ _ quiet moves =>
    refine moves.deliveries ?_
    cases c <;> first | rfl | cases quiet
  | @entered _ body _ =>
    obtain ⟨registry, eq⟩ := entering_eq w body
    rw [eq]
    rfl
  | _ => rfl

theorem Strokes.deliveries {P : Effect σ → Prop} (h : Strokes P w v) :
    v.deliveries = w.deliveries := by
  induction h with
  | refl => rfl
  | tail _ stroke ih => exact stroke.deliveries.trans ih

/-! What polls do while the session is paused -/

/-- From one world to another the session stays paused, the index does not move, and no event is
handed over. -/
structure Halted (w v : World σ) : Prop where
  paused : v.session.paused = true
  index : v.session.index = w.session.index
  deliveries : v.deliveries = w.deliveries

theorem Halted.trans (h : u.Halted v) (h' : v.Halted w) : u.Halted w :=
  ⟨h'.paused, h'.index.trans h.index, h'.deliveries.trans h.deliveries⟩

theorem Looks.halted (h : Looks g w stage v) (paused : w.session.paused = true) :
    w.Halted v := by
  cases h with
  | stale => exact ⟨paused, rfl, rfl⟩
  | ended => exact ⟨rfl, rfl, rfl⟩
  | held => exact ⟨paused, rfl, rfl⟩
  | delivered _ _ playing => cases paused.symm.trans playing
  | broken _ _ playing => cases paused.symm.trans playing

/-- The reset that comes with an answer may pause, but nobody resumes or starts in it. -/
theorem halted_of_reset {session : Session} {result : Except Halt Unit}
    (told : reset.run { w with session } = (result, v)) (paused : session.paused = true)
    (index : session.index = w.session.index)
    (same : v.session.runs.length = session.runs.length) : w.Halted v := by
  have steered : Session.Steered (fun _ => True) session v.session :=
    (tended_of_reset told).session
  obtain ⟨still, there⟩ := (steered.leavesPaused same).paused paused
  exact ⟨still, there.trans index, deliveries_of_reset told⟩

theorem Receives.halted {answer : Answer} (h : Receives g answer w stage v)
    (paused : w.session.paused = true) (start : w.session.index = 0)
    (same : v.session.runs.length = w.session.runs.length) : w.Halted v := by
  cases h with
  | stale => exact ⟨paused, rfl, rfl⟩
  | failed _ _ told => exact halted_of_reset told rfl rfl same
  | @loaded events u _ _ _ _ told looks =>
    have later : u.session.runs.length ≤ v.session.runs.length := by
      obtain ⟨s, steered, eq⟩ := looks.glanced
      have runs : v.session.runs = s.runs := by
        rcases eq with eq | ⟨-, -, eq⟩
        · rw [eq]
        · rw [eq, Session.advance_eq]
      rw [runs]
      exact steered.length_le
    have steered : Session.Steered (fun _ => True) (w.session.load events) u.session :=
      (tended_of_reset told).session
    have earlier := steered.length_le
    have none : u.session.runs.length = (w.session.load events).runs.length := by
      have length : (w.session.load events).runs.length = w.session.runs.length := rfl
      omega
    have halted : w.Halted u := halted_of_reset told paused start.symm none
    exact halted.trans (looks.halted halted.paused)
  | broken _ taken told =>
    rcases taken with rfl | ⟨events, -, rfl⟩
    · exact halted_of_reset told rfl rfl same
    · exact halted_of_reset told paused start.symm same

theorem Progresses.halted (h : Progresses run answer w stage v) (orderly : w.Orderly)
    (hr : w.session.run? r = some run) (paused : w.session.paused = true)
    (same : v.session.runs.length = w.session.runs.length) : w.Halted v := by
  cases h with
  | @fetched generation code a _ _ purpose new _ receives =>
    by_cases current : w.session.generation = generation
    · -- the run waits for its trace, so none is loaded
      have unloaded := orderly.awaits r ⟨run, code, hr, current ▸ purpose, new⟩ nofun
      exact receives.halted paused (orderly.sound.unloaded unloaded).2 same
    · cases receives with
      | stale => exact ⟨paused, rfl, rfl⟩
      | _ now => exact absurd now current
  | unanswered => exact ⟨paused, rfl, rfl⟩
  | played _ _ looks => exact looks.halted paused
  | idle => exact ⟨paused, rfl, rfl⟩

end World

namespace Turn

variable {t : Turn σ} {w v : World σ}

theorem Leads.length_le (h : t.Leads w v) : w.session.runs.length ≤ v.session.runs.length := by
  rcases leads_cases h with tended | ⟨r, -, rfl⟩ | ⟨r, answer, -, rfl | progressed⟩
  · exact tended.session.length_le
  · rcases Session.drop_cases w.session r with eq | eq <;> rw [eq]
    rw [Session.length_settle]
  · exact Nat.le_refl _
  · obtain ⟨run, stage, u, -, -, progresses, rfl⟩ := progressed
    dsimp only
    rw [Session.length_settle]
    exact progresses.progressed.length_le

theorem Leads.deliveries (h : t.Leads w v) (other : ∀ r answer, t ≠ .poll r answer) :
    v.deliveries = w.deliveries := by
  cases t with
  | host s =>
    obtain ⟨-, rfl⟩ := h
    exact (Discipline.free.steps_run trivial Discipline.tame_free).deliveries
  | init l hook =>
    obtain ⟨-, rfl⟩ := h
    exact (World.strokes_init w.confined_true fun _ => Script.within_true _).deliveries
  | poll r answer => exact absurd rfl (other r answer)
  | drop r =>
    obtain ⟨-, rfl⟩ := h
    rfl

/-- Outside of polls and drops, a turn asks things of the session and delivers nothing. -/
theorem Leads.quiet_cases (h : t.Leads w v) : w.Tended v ∧ v.deliveries = w.deliveries ∨
    (∃ r, t = .drop r ∧ v = { w with session := w.session.drop r }) ∨
    ∃ r answer, t = .poll r answer ∧ (v = w ∨ ∃ run stage u, w.session.run? r = some run ∧
      run.stage.isOutstanding = true ∧ World.Progresses run answer w stage u ∧
      v = { u with session := u.session.settle r stage }) := by
  rcases leads_cases h with tended | dropped | polled
  · by_cases polls : ∃ r answer, t = .poll r answer
    · obtain ⟨r, answer, rfl⟩ := polls
      refine .inr (.inr ⟨r, answer, rfl, ?_⟩)
      exact (leads_poll h).imp And.right id
    · exact .inl ⟨tended, h.deliveries fun r answer eq => polls ⟨r, answer, eq⟩⟩
  · exact .inr (.inl dropped)
  · exact .inr (.inr polled)

theorem Leads.halted (h : t.Leads w v) (orderly : w.Orderly) (paused : w.session.paused = true)
    (same : v.session.runs.length = w.session.runs.length) : w.Halted v := by
  rcases h.quiet_cases with ⟨tended, deliveries⟩ | ⟨r, -, rfl⟩ | ⟨r, answer, -, rfl | progressed⟩
  · obtain ⟨still, there⟩ := (tended.session.leavesPaused same).paused paused
    exact ⟨still, there, deliveries⟩
  · suffices (w.session.drop r).paused = true ∧ (w.session.drop r).index = w.session.index from
      ⟨this.1, this.2, rfl⟩
    rcases Session.drop_cases w.session r with eq | eq <;> rw [eq]
    · exact ⟨paused, rfl⟩
    · exact ⟨(Session.paused_settle _ _ _).trans paused, Session.index_settle _ _ _⟩
  · exact ⟨paused, rfl, rfl⟩
  · obtain ⟨run, stage, u, hr, -, progresses, rfl⟩ := progressed
    dsimp only at same
    rw [Session.length_settle] at same
    have halted := progresses.halted orderly hr paused same
    exact ⟨(Session.paused_settle _ _ _).trans halted.paused,
      (Session.index_settle _ _ _).trans halted.index, halted.deliveries⟩

end Turn

theorem Course.length_le {allowed : World σ → Turn σ → Prop} {w v : World σ} {ts : List (Turn σ)}
    (h : Course allowed w ts v) : w.session.runs.length ≤ v.session.runs.length := by
  induction h with
  | done => exact Nat.le_refl _
  | turn _ leads _ ih => exact Nat.le_trans leads.length_le ih

theorem Course.halted {allowed : World σ → Turn σ → Prop} {w v : World σ} {ts : List (Turn σ)}
    (h : Course allowed w ts v) (orderly : w.Orderly) (paused : w.session.paused = true)
    (same : v.session.runs.length = w.session.runs.length) : w.Halted v := by
  induction h with
  | done => exact ⟨paused, rfl, rfl⟩
  | turn _ leads rest ih =>
    have first := leads.length_le
    have later := rest.length_le
    have halted := leads.halted orderly paused (by omega)
    exact halted.trans (ih (leads.orderly orderly) halted.paused (by omega))

/-! Deliveries that polls begin -/

namespace World

variable {v w a b : World σ} {r : RunId} {run : Run} {answer : Option Answer} {g : Nat}
  {stage : Run.Stage} {event : Event} {history : Trace}

theorem isFetching_of_old (old : run.purpose.code? = none ∨
    run.stage ≠ .unpolled ∧ run.stage ≠ .fetching) : run.isFetching = false := by
  rw [Bool.eq_false_iff]
  intro fetching
  obtain ⟨starts, new⟩ := Run.isFetching_iff.mp fetching
  rcases old with resumes | ⟨polled, fetched⟩
  · rw [resumes] at starts
    cases starts
  · exact new.elim polled fetched

theorem Progresses.receives {reply : Answer} (h : Progresses run (some reply) w stage v)
    (fetching : run.isFetching = true) (claims : run.generation? = some w.session.generation) :
    Receives w.session.generation reply w stage v := by
  cases h with
  | unanswered _ _ unanswered => cases unanswered
  | idle purpose => simp [Run.generation?, purpose] at claims
  | played _ old => cases fetching.symm.trans (isFetching_of_old old)
  | fetched purpose _ answered receives =>
    cases answered
    cases claims.symm.trans (Run.generation?_of_start purpose)
    exact receives

/-- A look delivers nothing, or it finds the session playing and delivers the next event. -/
theorem Looks.delivers (h : Looks g w stage v) : v.deliveries = w.deliveries ∨
    ∃ event, w.session.events[w.session.index]? = some event ∧ w.session.paused = false := by
  cases h with
  | stale => exact .inl rfl
  | ended => exact .inl rfl
  | held => exact .inl rfl
  | delivered _ next playing => exact .inr ⟨_, next, playing⟩
  | broken _ next playing => exact .inr ⟨_, next, playing⟩

/-- Events are delivered by polls that find the session playing when they come to that. -/
theorem Progresses.delivers (h : Progresses run answer w stage v) :
    v.deliveries = w.deliveries ∨ ∃ event history a,
      Reaches run answer w (.handle event history) a ∧ a.session.paused = false ∧
        a.deliveries = w.deliveries := by
  cases h with
  | unanswered => exact .inl rfl
  | idle => exact .inl rfl
  | played _ old looks =>
    refine looks.delivers.imp_right ?_
    rintro ⟨event, next, playing⟩
    exact ⟨event, _, w, .due (isFetching_of_old old) next playing, playing, rfl⟩
  | fetched purpose new answered receives =>
    have fetching : run.isFetching = true := Run.isFetching_iff.mpr ⟨by rw [purpose]; rfl, new⟩
    cases receives with
    | stale => exact .inl rfl
    | failed _ _ told => exact .inl (deliveries_of_reset told)
    | broken _ _ told => exact .inl (deliveries_of_reset told)
    | @loaded events u _ _ _ success told looks =>
      have quiet : u.deliveries = w.deliveries := deliveries_of_reset told
      subst answered success
      rcases looks.delivers with same | ⟨event, next, playing⟩
      · exact .inl (same.trans quiet)
      · exact .inr ⟨event, _, u, .first fetching rfl told next playing, playing, quiet⟩

theorem progress_of_playing (old : run.isFetching = false) (claims : run.generation? = some g) :
    (progress run answer : Act σ Run.Stage) = play g := by
  obtain ⟨purpose, stage⟩ := run
  cases purpose with
  | nothing => cases claims
  | resume =>
    cases claims
    rfl
  | start =>
    cases claims
    cases stage with
    | unpolled | fetching => cases old
    | _ => rfl

theorem progress_of_fetching {answer : Answer} (new : run.isFetching = true)
    (claims : run.generation? = some g) :
    (progress run (some answer) : Act σ Run.Stage) = receive g answer := by
  obtain ⟨purpose, stage⟩ := run
  cases purpose with
  | nothing | resume => cases new
  | start =>
    cases claims
    cases stage with
    | unpolled | fetching => rfl
    | _ => cases new

theorem receive_of_loaded {events : Trace} (current : w.session.generation = g)
    (told : reset.run { w with session := w.session.load events } = (.ok (), a)) :
    (receive g (.ok events)).run w = (play g).run a := by
  have told : reset.run
      { w with session := { w.session with events, loaded := true, index := 0 } } = (.ok (), a) :=
    told
  unfold receive modifySession
  rw [Act.run_get_bind]
  simp only [current, ne_eq, not_true_eq_false, if_false]
  rw [Act.run_modify_bind, Act.run_bind, told]

theorem play_of_delivery (current : w.session.generation = g)
    (next : w.session.events[w.session.index]? = some event)
    (playing : w.session.paused = false)
    (told : (broadcast event (w.session.events.take (w.session.index + 1))).run w = (.ok (), b)) :
    (play g).run w = (.ok (.waiting b.session.speed),
      { b with session := b.session.advance g w.session.index }) := by
  unfold play
  rw [Act.run_bind, run_look, if_pos current, next]
  dsimp only
  rw [playing, told]
  rfl

theorem run_poll (hr : w.session.run? r = some run) (outstanding : run.stage.isOutstanding = true)
    (progressed : (progress run answer).run w = (.ok stage, v)) :
    (poll r answer).run w = (.ok (), { v with session := v.session.settle r stage }) := by
  unfold poll
  rw [Act.run_get_bind, hr]
  dsimp only
  rw [if_pos outstanding, Act.run_bind, ExceptT.run_mk, progressed]
  rfl

theorem play_of_paused (g : Nat) (paused : w.session.paused = true) :
    ∃ stage v, (play g).run w = (.ok stage, v) ∧ w.Halted v := by
  have looks (stage : Run.Stage) : standing? ((play g).run w).1 = some stage →
      Looks g w stage ((play g).run w).2 := looks_play
  suffices ∃ stage, ((play g).run w).1 = .ok stage by
    obtain ⟨stage, eq⟩ := this
    exact ⟨stage, _, Prod.ext eq rfl, (looks stage (by rw [eq]; rfl)).halted paused⟩
  unfold play
  rw [Act.run_bind, run_look]
  by_cases current : w.session.generation = g
  · rw [if_pos current]
    cases w.session.events[w.session.index]? with
    | none => exact ⟨_, rfl⟩
    | some event =>
      simp only [paused, if_true]
      exact ⟨_, rfl⟩
  · rw [if_neg current]
    exact ⟨_, rfl⟩

theorem held_of_reset {events : Trace} (orderly : w.Orderly) (hr : w.session.run? r = some run)
    (new : run.isFetching = true) (claims : run.generation? = some w.session.generation)
    (told : reset.run { w with session := w.session.load events } = (.ok (), a))
    (amid : (w.session.load events).PausedAmid a.session) :
    ∃ v, (poll r (some (.ok events))).run w = (.ok (), v) ∧ v.session.paused = true ∧
      v.session.index = 0 ∧ v.deliveries = w.deliveries := by
  have outstanding := Run.isOutstanding_of_isFetching new
  have tended := tended_of_reset told
  have zero : a.session.index = 0 := by
    rcases tended.session.follows with ⟨-, -, -, index, -⟩ | ⟨-, unloaded⟩
    · exact index
    · exact ((tended.session.sound (orderly.sound.load events)).unloaded unloaded).2
  obtain ⟨stage, v, played, halted⟩ := play_of_paused w.session.generation amid.paused
  have progressed : (progress run (some (.ok events))).run w = (.ok stage, v) := by
    rw [progress_of_fetching new claims, receive_of_loaded rfl told, played]
  refine ⟨_, run_poll hr outstanding progressed, ?_, ?_, ?_⟩
  · exact (Session.paused_settle _ _ _).trans halted.paused
  · exact ((Session.index_settle _ _ _).trans halted.index).trans zero
  · exact halted.deliveries.trans (deliveries_of_reset told)

/-- Where a delivery begins the timeline is still at the event that the poll found, and nothing was
delivered before it. -/
theorem Reaches.begins (h : Reaches run answer w (.handle event history) a) (orderly : w.Orderly)
    (hr : w.session.run? r = some run) (claims : run.generation? = some w.session.generation) :
    a.session.generation = w.session.generation ∧ a.session.index = w.session.index ∧
      a.session.events[a.session.index]? = some event ∧ a.session.paused = false ∧
      history = a.session.events.take (a.session.index + 1) ∧ a.deliveries = w.deliveries ∧
      (progress run answer).run w = (play w.session.generation).run a := by
  have leaves := h.leaves orderly.sound orderly.formed
  cases h with
  | due old next playing =>
    exact ⟨rfl, rfl, next, playing, rfl, rfl, by rw [progress_of_playing old claims]⟩
  | @first events _ _ new success told next playing =>
    obtain ⟨purpose, stage⟩ := run
    obtain ⟨starts, waits⟩ := Run.isFetching_iff.mp new
    have begins : w.session.index = 0 := by
      cases purpose with
      | start g code =>
        cases claims
        exact (orderly.sound.unloaded (orderly.awaits r ⟨_, code, hr, rfl, waits⟩ nofun)).2
      | resume | nothing => cases starts
    rcases (tended_of_reset told).session.follows with ⟨same, -, -, index, -⟩ | ⟨-, unloaded⟩
    · refine ⟨same, index.trans begins.symm, next, playing, rfl, deliveries_of_reset told, ?_⟩
      rw [success, progress_of_fetching new claims, receive_of_loaded rfl told]
    · -- a start in between would have left no event
      rw [(leaves.1.unloaded unloaded).1] at next
      cases next

theorem Reaches.delivered (h : Reaches run answer w (.handle event history) a)
    (orderly : w.Orderly) (hr : w.session.run? r = some run)
    (outstanding : run.stage.isOutstanding = true)
    (claims : run.generation? = some w.session.generation)
    (told : (broadcast event history).run a = (.ok (), b)) :
    b.deliveries = w.deliveries ++ a.registry.all.map (·, event, history) ∧
      (poll r answer).run w = (.ok (), { b with session := (b.session.advance
        w.session.generation w.session.index).settle r (.waiting b.session.speed) }) := by
  obtain ⟨-, formed⟩ := h.leaves orderly.sound orderly.formed
  obtain ⟨current, index, next, playing, rfl, quiet, progressed⟩ := h.begins orderly hr claims
  constructor
  · rw [← quiet]
    exact deliveries_callAll (fun _ => formed.there) told
  · have played : (progress run answer).run w = (.ok (.waiting b.session.speed),
        { b with session := b.session.advance w.session.generation w.session.index }) := by
      rw [progressed, ← index]
      exact play_of_delivery current next playing told
    rw [run_poll hr outstanding played]

end World

/-- From any state of a session, a pause holds until somebody resumes or starts, which would make a
run: whatever else happens, no event is delivered and the index does not move. Deliveries begin only
while the session plays. Where somebody pauses in the reset that comes with a trace, the first event
is held back. Where a delivery is under way that its run is still the latest of, and somebody
pauses the session in it, that delivery reaches all modules and the index counts it; then nothing
more happens. -/
theorem pause_holds {catalog : Catalog σ} {renderer : Renderer} {config : Playback.Config}
    {nesting : Nat} {memory : σ} {before : List (Turn σ)} {w : World σ}
    (reached : Course (fun _ _ => True) (.new catalog renderer config nesting memory) before w) :
    (∀ ts v, Course (fun _ _ => True) { w with session := w.session.pause } ts v →
      v.session.runs.length = w.session.runs.length → w.Halted v) ∧
    (∀ t v, Turn.Leads t w v → v.deliveries = w.deliveries ∨
      ∃ r run answer event history a, t = .poll r answer ∧ w.session.run? r = some run ∧
        World.Reaches run answer w (.handle event history) a ∧ a.session.paused = false ∧
        a.deliveries = w.deliveries) ∧
    (∀ r run events a, w.session.run? r = some run → run.isFetching = true →
      run.generation? = some w.session.generation →
      World.reset.run { w with session := w.session.load events } = (.ok (), a) →
      (w.session.load events).PausedAmid a.session →
      ∀ v, (Turn.poll r (some (.ok events))).Leads w v → v.session.paused = true ∧
        v.session.index = 0 ∧ v.deliveries = w.deliveries) ∧
    ∀ r run answer event history a b, w.session.run? r = some run →
      run.stage.isOutstanding = true → run.generation? = some w.session.generation →
      World.Reaches run answer w (.handle event history) a →
      (World.broadcast event history).run a = (.ok (), b) → a.session.PausedAmid b.session →
      ∀ v, (Turn.poll r answer).Leads w v →
        v.deliveries = w.deliveries ++ a.registry.all.map (·, event, history) ∧
        v.session.paused = true ∧
        v.session.index = (if b.session.generation = w.session.generation then
          w.session.index + 1 else b.session.index) ∧
        ∀ ts u, Course (fun _ _ => True) v ts u →
          u.session.runs.length = v.session.runs.length → v.Halted u := by
  have orderly := reached.orderly (World.orderly_new catalog renderer config nesting memory)
  refine ⟨fun ts v course same => ?_, fun t v leads => ?_, ?_, ?_⟩
  · have tended : w.Tended { w with session := w.session.pause } :=
      ⟨.frame rfl rfl rfl, .single ⟨.pause, trivial, rfl⟩⟩
    have halted := course.halted (tended.orderly orderly) rfl same
    exact ⟨halted.paused, halted.index, halted.deliveries⟩
  · by_cases polls : ∃ r answer, t = .poll r answer
    · obtain ⟨r, answer, rfl⟩ := polls
      rcases Turn.leads_poll leads with ⟨-, rfl⟩ | ⟨run, stage, u, hr, -, progresses, rfl⟩
      · exact .inl rfl
      refine progresses.delivers.imp id ?_
      rintro ⟨event, history, a, reaches, playing, quiet⟩
      exact ⟨r, run, answer, event, history, a, rfl, hr, reaches, playing, quiet⟩
    · exact .inl (leads.deliveries fun r answer eq => polls ⟨r, answer, eq⟩)
  · intro r run events a hr new claims told amid v leads
    obtain ⟨u, polled, held⟩ := World.held_of_reset orderly hr new claims told amid
    obtain ⟨-, rfl⟩ := leads
    unfold Turn.act
    rw [polled]
    exact held
  · intro r run answer event history a b hr outstanding claims reaches told amid v leads
    obtain ⟨deliveries, polled⟩ := reaches.delivered orderly hr outstanding claims told
    have orderly' := leads.orderly orderly
    have paused : v.session.paused = true := by
      obtain ⟨-, rfl⟩ := leads
      unfold Turn.act
      rw [polled]
      dsimp only
      rw [Session.paused_settle, Session.advance_eq]
      exact amid.paused
    refine ⟨?_, paused, ?_, fun ts u course same => course.halted orderly' paused same⟩
    · obtain ⟨-, rfl⟩ := leads
      unfold Turn.act
      rw [polled]
      exact deliveries
    · obtain ⟨-, rfl⟩ := leads
      unfold Turn.act
      rw [polled]
      dsimp only
      rw [Session.index_settle, Session.advance_eq]

def World.starting : World Unit :=
  World.pausing.after [.host (.start fun _ => .done)]

def World.halted : World Unit :=
  World.starting.after [.poll ⟨0⟩ (some (.ok Trace.twice))]

def World.rewound : World Unit :=
  (World.reset.run { World.starting with
    session := World.starting.session.load Trace.twice }).2

def World.informed : World Unit :=
  ((World.broadcast (.init (.variable "x") ⟨.boolean true, .literal⟩)
    (World.rewound.session.events.take (World.rewound.session.index + 1))).run World.rewound).2

theorem pause_holds_of_pausing : World.halted.session.index = 1 ∧
    World.halted.Halted (World.halted.after [.poll ⟨0⟩ none]) := by
  have made : Course (fun _ _ => True) (World.new (.builtin : Catalog Unit) .recording {} 8 ())
      _ World.pausing := course_after (fun _ _ _ => trivial) (by decide +kernel)
  have started : Course (fun _ _ => True) World.pausing _ World.starting :=
    course_after (fun _ _ _ => trivial) (by decide +kernel)
  have first : (Turn.poll ⟨0⟩ (some (.ok Trace.twice))).Leads World.starting World.halted :=
    ⟨by decide +kernel, rfl⟩
  have second : Course (fun _ _ => True) World.halted _ (World.halted.after [.poll ⟨0⟩ none]) :=
    course_after (fun _ _ _ => trivial) (by decide +kernel)
  have here : (World.starting.session.run? ⟨0⟩).any (fun run => run.isFetching &&
      run.generation? == some World.starting.session.generation) = true := by decide +kernel
  obtain ⟨run, hr, goes⟩ := (Option.any_eq_true _ _).mp here
  rw [Bool.and_eq_true_iff, beq_iff_eq] at goes
  obtain ⟨new, claims⟩ := goes
  have outstanding : run.stage.isOutstanding = true := by
    obtain ⟨-, eq | eq⟩ := Run.isFetching_iff.mp new <;> rw [eq] <;> rfl
  have reset : World.reset.run { World.starting with
      session := World.starting.session.load Trace.twice } = (.ok (), World.rewound) :=
    Act.run_eq_of_fst (by decide +kernel)
  have next : World.rewound.session.events[World.rewound.session.index]? =
      some (.init (.variable "x") ⟨.boolean true, .literal⟩) := by decide +kernel
  have reaches := World.Reaches.first new rfl reset next (by decide +kernel)
  have told : (World.broadcast _ _).run World.rewound = (.ok (), World.informed) :=
    Act.run_eq_of_fst (by decide +kernel)
  have steered := (World.tended_of_broadcast told).session
  have amid := steered.pausedAmid (by decide +kernel) (by decide +kernel) (by decide +kernel)
  obtain ⟨-, -, index, held⟩ := (pause_holds (made.append started)).2.2.2 _ _ _ _ _ _ _ hr
    outstanding claims reaches told amid _ first
  refine ⟨?_, held _ _ second (by decide +kernel)⟩
  rw [index]
  decide +kernel

end Replay
