import Replay.Proofs.World.Resumption

/-!
Runs that are out of date. A start leaves all earlier runs behind, wherever they stand: unpolled,
fetching, waiting, or in the middle of a delivery, if it was made by a listener. From then on their
polls and drops tell the session where they stand and nothing else, and they come to an end as soon
as they are polled, those that still fetch as soon as they are answered.
-/
namespace Replay

variable {σ : Type}

namespace Run

def isFetching : Run → Bool
  | ⟨.start _ _, .unpolled⟩ | ⟨.start _ _, .fetching⟩ => true
  | _ => false

def lapse (run : Run) (answer : Option Answer) : Stage :=
  if run.stage.isOutstanding then
    if run.isFetching then match answer with
      | some a => .finished (a.map fun _ => ())
      | none => .fetching
    else .finished (.ok ())
  else run.stage

def discard (run : Run) : Stage := if run.stage.isOutstanding then .dropped else run.stage

def Outdated (run : Run) (s : Session) : Prop :=
  ∃ g, run.generation? = some g ∧ g < s.generation

variable {run : Run} {s t : Session}

theorem Outdated.mono (h : run.Outdated s) (le : s.generation ≤ t.generation) :
    run.Outdated t := by
  obtain ⟨g, claims, lt⟩ := h
  exact ⟨g, claims, Nat.lt_of_lt_of_le lt le⟩

theorem Outdated.ne (h : run.Outdated s) : run.generation? ≠ some s.generation := by
  obtain ⟨g, claims, lt⟩ := h
  intro eq
  cases claims.symm.trans eq
  exact Nat.lt_irrefl _ lt

theorem isFetching_iff : run.isFetching = true ↔
    run.purpose.code?.isSome ∧ (run.stage = .unpolled ∨ run.stage = .fetching) := by
  obtain ⟨purpose, stage⟩ := run
  cases purpose <;> cases stage <;> simp [isFetching, Purpose.code?]

theorem isOutstanding_of_isFetching (h : run.isFetching = true) :
    run.stage.isOutstanding = true := by
  obtain ⟨-, eq | eq⟩ := isFetching_iff.mp h <;> rw [eq] <;> rfl

end Run

namespace Session

variable {s t : Session} {r q : RunId} {run : Run} {stage : Run.Stage}

theorem setStage_self (hr : s.run? r = some run) : s.setStage r run.stage = s := by
  have same : (s.runs.modify r.number fun old => { old with stage := run.stage }) = s.runs := by
    apply List.ext_getElem?
    intro n
    rw [List.getElem?_modify]
    split
    · subst n
      have here : s.runs[r.number]? = some run := hr
      rw [here]
      rfl
    · exact id_map _
  unfold setStage
  rw [same]

theorem Sound.settle_eq_setStage (h : s.Sound) (hr : s.run? r = some run)
    (ne : run.generation? ≠ some s.generation) : s.settle r stage = s.setStage r stage := by
  unfold Session.settle
  split
  · rfl
  · rw [close_eq, player_close hr, if_neg]
    · rfl
    · rintro ⟨claims, eq⟩
      obtain ⟨g, claimed⟩ := Option.isSome_iff_exists.mp claims
      have current := (h.player (eq.trans claimed)).1
      exact ne (current ▸ claimed)

theorem Sound.drop_eq_setStage (h : s.Sound) (hr : s.run? r = some run)
    (ne : run.generation? ≠ some s.generation) : s.drop r = s.setStage r run.discard := by
  unfold Session.drop Run.discard
  rw [hr]
  dsimp only
  split
  · rw [← h.settle_eq_setStage hr ne]
    rfl
  · exact (setStage_self hr).symm

theorem Progressed.generation_le (h : Progressed run s t) : s.generation ≤ t.generation := by
  obtain ⟨s₀, s₁, generation, from', steered, glanced⟩ := h
  have later := Nat.le_trans steered.follows.generation_le glanced.generation_le
  rcases from' with rfl | ⟨code, events, -, -, rfl⟩
  · exact later
  · exact later

theorem run?_drop_of_ne (ne : q ≠ r) : (s.drop r).run? q = s.run? q := by
  rcases drop_cases s r with eq | eq <;> rw [eq]
  rw [run?_settle, if_neg ne]

end Session

/-! Polls of runs that are out of date -/

namespace World

variable {u v w : World σ} {r : RunId} {run : Run} {answer : Option Answer} {g : Nat}

theorem play_of_ne (ne : w.session.generation ≠ g) :
    (play g).run w = (.ok (.finished (.ok ())), w) := by
  unfold play
  rw [Act.run_bind, run_look, if_neg ne]
  rfl

theorem receive_of_ne {a : Answer} (ne : w.session.generation ≠ g) :
    (receive g a).run w = (.ok (.finished (a.map fun _ => ())), w) := by
  unfold receive
  rw [Act.run_get_bind]
  dsimp only
  rw [if_pos ne]
  rfl

theorem progress_of_outdated (outdated : run.Outdated w.session)
    (outstanding : run.stage.isOutstanding = true) :
    (progress run answer).run w = (.ok (run.lapse answer), w) := by
  obtain ⟨g, claims, lt⟩ := outdated
  have ne : w.session.generation ≠ g := Nat.ne_of_gt lt
  unfold Run.lapse
  rw [if_pos outstanding]
  obtain ⟨purpose, stage⟩ := run
  cases purpose with
  | nothing => cases claims
  | resume =>
    cases claims
    exact play_of_ne ne
  | start =>
    cases claims
    cases stage with
    | waiting => exact play_of_ne ne
    | finished | panicked | dropped => cases outstanding
    | unpolled | fetching =>
      cases answer with
      | none => rfl
      | some a => exact receive_of_ne ne

/-- Nothing is called, nothing is delivered, and nothing about the session is touched. -/
theorem poll_of_outdated (sound : w.session.Sound) (hr : w.session.run? r = some run)
    (outdated : run.Outdated w.session) : (poll r answer).run w =
      (.ok (), { w with session := w.session.setStage r (run.lapse answer) }) := by
  unfold poll
  rw [Act.run_get_bind, hr]
  dsimp only
  split
  · rename_i outstanding
    rw [Act.run_bind, ExceptT.run_mk]
    have progressed : (progress run answer).run w = (.ok (run.lapse answer), w) :=
      progress_of_outdated outdated outstanding
    rw [progressed, ← sound.settle_eq_setStage hr outdated.ne]
    rfl
  · rename_i past
    have stays : run.lapse answer = run.stage := if_neg past
    rw [stays, Session.setStage_self hr]
    rfl

end World

/-! Where a run that is out of date stands after some turns -/

namespace Turn

def lapse (r : RunId) (run : Run) : Turn σ → Run
  | .poll q answer => if q = r then { run with stage := run.lapse answer } else run
  | .drop q => if q = r then { run with stage := run.discard } else run
  | .host _ | .init .. => run

def answer? (r : RunId) : Turn σ → Option Answer
  | .poll q answer => if q = r then answer else none
  | .host _ | .init .. | .drop _ => none

variable {t : Turn σ} {w v : World σ} {r : RunId} {run : Run}

theorem purpose_lapse : (t.lapse r run).purpose = run.purpose := by
  unfold lapse
  split
  · split <;> rfl
  · split <;> rfl
  all_goals rfl

theorem outdated_lapse {s : Session} (h : run.Outdated s) : (t.lapse r run).Outdated s := by
  unfold Run.Outdated Run.generation?
  rw [purpose_lapse]
  exact h

theorem lapse_of_past (past : run.stage.isOutstanding = false) : t.lapse r run = run := by
  have stays (answer : Option Answer) : run.lapse answer = run.stage :=
    if_neg (Bool.eq_false_iff.mp past)
  have left : run.discard = run.stage := if_neg (Bool.eq_false_iff.mp past)
  unfold lapse
  split
  · rw [stays, ite_self]
  · rw [left, ite_self]
  all_goals rfl

theorem Leads.generation_le (h : t.Leads w v) : w.session.generation ≤ v.session.generation := by
  rcases leads_cases h with tended | ⟨r, -, rfl⟩ | ⟨r, answer, -, rfl | progressed⟩
  · exact tended.session.follows.generation_le
  · exact (Session.follows_drop _ r).generation_le
  · exact Nat.le_refl _
  · obtain ⟨run, stage, u, -, -, progresses, rfl⟩ := progressed
    dsimp only
    rw [Session.generation_settle]
    exact progresses.progressed.generation_le

theorem Leads.lapse (h : t.Leads w v) (orderly : w.Orderly) (hr : w.session.run? r = some run)
    (outdated : run.Outdated w.session) : v.session.run? r = some (t.lapse r run) := by
  cases t with
  | host s =>
    obtain ⟨-, rfl⟩ := h
    exact (World.tended_run s w).session.run? hr
  | init l hook =>
    rcases leads_cases h with tended | ⟨q, eq, -⟩ | ⟨q, answer, eq, -⟩
    · exact tended.session.run? hr
    · cases eq
    · cases eq
  | poll q answer =>
    unfold Turn.lapse
    dsimp only
    split
    · subst q
      obtain ⟨-, rfl⟩ := h
      have polled : (World.poll r answer).run w = _ :=
        World.poll_of_outdated orderly.sound hr outdated
      unfold Turn.act
      rw [polled, Session.run?_setStage, if_pos rfl, hr]
      rfl
    · rename_i ne
      rcases leads_poll h with ⟨-, rfl⟩ | ⟨other, stage, u, -, -, progresses, rfl⟩
      · exact hr
      · rw [Session.run?_settle, if_neg (Ne.symm ne)]
        exact progresses.progressed.run? hr
  | drop q =>
    unfold Turn.lapse
    obtain ⟨-, rfl⟩ := h
    have dropped : ((Turn.drop q : Turn σ).act.run w).2.session = w.session.drop q := rfl
    rw [dropped]
    dsimp only
    split
    · subst q
      rw [orderly.sound.drop_eq_setStage hr outdated.ne, Session.run?_setStage, if_pos rfl, hr]
      rfl
    · rename_i ne
      rw [Session.run?_drop_of_ne (Ne.symm ne)]
      exact hr

end Turn

variable {w v : World σ} {r : RunId} {run : Run} {ts : List (Turn σ)}

theorem Course.append {allowed : World σ → Turn σ → Prop} {u : World σ} {us : List (Turn σ)}
    (h : Course allowed w ts v) (h' : Course allowed v us u) : Course allowed w (ts ++ us) u := by
  induction h with
  | done => exact h'
  | turn may leads _ ih => exact .turn may leads (ih h')

theorem Course.generation_le {allowed : World σ → Turn σ → Prop} (h : Course allowed w ts v) :
    w.session.generation ≤ v.session.generation := by
  induction h with
  | done => exact Nat.le_refl _
  | turn _ leads _ ih => exact Nat.le_trans leads.generation_le ih

theorem Course.lapse {allowed : World σ → Turn σ → Prop} (h : Course allowed w ts v)
    (orderly : w.Orderly) (hr : w.session.run? r = some run) (outdated : run.Outdated w.session) :
    v.session.run? r = some (ts.foldl (Turn.lapse r) run) := by
  induction h generalizing run with
  | done => exact hr
  | turn _ leads _ ih =>
    exact ih (leads.orderly orderly) (leads.lapse orderly hr outdated)
      (Turn.outdated_lapse (outdated.mono leads.generation_le))

namespace Run

theorem foldl_lapse_of_past (past : run.stage.isOutstanding = false) :
    ts.foldl (Turn.lapse r) run = run := by
  induction ts with
  | nil => rfl
  | cons t ts ih =>
    rw [List.foldl_cons, Turn.lapse_of_past past]
    exact ih

theorem purpose_foldl_lapse : (ts.foldl (Turn.lapse r) run).purpose = run.purpose := by
  induction ts generalizing run with
  | nil => rfl
  | cons t ts ih => exact ih.trans Turn.purpose_lapse

/-- The result of a run that is out of date: what the interpreter answered first, if the run still
fetched, and nothing to complain of otherwise. -/
def Verdict (r : RunId) (run : Run) (ts : List (Turn σ)) (result : Except Error Unit) : Prop :=
  if run.isFetching then
    ∃ a, ts.findSome? (Turn.answer? r) = some a ∧ result = a.map fun _ => ()
  else result = .ok ()

/-- A turn leaves a run where it was, or lets it wait on for its trace, or drops or ends it. -/
theorem lapse_cases (t : Turn σ) (r : RunId) (outstanding : run.stage.isOutstanding = true) :
    ((t.lapse r run).stage.isOutstanding = true ∧ (t.lapse r run).isFetching = run.isFetching ∧
        t.answer? r = none) ∨
      (t.lapse r run).stage = .dropped ∨
      ∃ result, (t.lapse r run).stage = .finished result ∧ run.Verdict r [t] result := by
  cases t with
  | host | init => exact .inl ⟨outstanding, rfl, rfl⟩
  | drop q =>
    unfold Turn.lapse discard
    dsimp only
    rw [if_pos outstanding]
    split
    · exact .inr (.inl rfl)
    · exact .inl ⟨outstanding, rfl, rfl⟩
  | poll q answer =>
    by_cases same : q = r
    · have polled : (Turn.poll q answer : Turn σ).lapse r run =
          { run with stage := run.lapse answer } := if_pos same
      have said : (Turn.poll q answer : Turn σ).answer? r = answer := if_pos same
      unfold Verdict
      rw [polled, List.findSome?_singleton, said]
      unfold lapse
      rw [if_pos outstanding]
      cases fetching : run.isFetching with
      | false => exact .inr (.inr ⟨_, rfl, rfl⟩)
      | true =>
        cases answer with
        | some a => exact .inr (.inr ⟨_, rfl, a, rfl, rfl⟩)
        | none =>
          have starts := (isFetching_iff.mp fetching).1
          exact .inl ⟨rfl, isFetching_iff.mpr ⟨starts, .inr rfl⟩, rfl⟩
    · have still : (Turn.poll q answer : Turn σ).lapse r run = run := if_neg same
      rw [still]
      exact .inl ⟨outstanding, rfl, if_neg same⟩

/-- A run that is out of date never panics, and ends with its verdict if it is not dropped. -/
theorem verdict_of_foldl (r : RunId) (ts : List (Turn σ))
    (outstanding : run.stage.isOutstanding = true) :
    (ts.foldl (Turn.lapse r) run).stage ≠ .panicked ∧
      ∀ result, (ts.foldl (Turn.lapse r) run).stage = .finished result →
        run.Verdict r ts result := by
  induction ts generalizing run with
  | nil =>
    rw [List.foldl_nil]
    constructor
    · intro panicked
      rw [panicked] at outstanding
      cases outstanding
    · intro result finished
      rw [finished] at outstanding
      cases outstanding
  | cons t ts ih =>
    rw [List.foldl_cons]
    rcases lapse_cases t r outstanding with ⟨goes, same, silent⟩ | dropped | ⟨ended, finished, fits⟩
    · obtain ⟨calm, fits⟩ := ih goes
      refine ⟨calm, fun result finished => ?_⟩
      have verdict := fits result finished
      unfold Verdict at verdict ⊢
      rw [List.findSome?_cons, silent, ← same]
      exact verdict
    · have past : (t.lapse r run).stage.isOutstanding = false := by rw [dropped]; rfl
      rw [foldl_lapse_of_past past, dropped]
      exact ⟨nofun, nofun⟩
    · have past : (t.lapse r run).stage.isOutstanding = false := by rw [finished]; rfl
      rw [foldl_lapse_of_past past, finished]
      refine ⟨nofun, ?_⟩
      rintro _ ⟨⟩
      unfold Verdict at fits ⊢
      split at fits
      · obtain ⟨a, said, eq⟩ := fits
        rw [List.findSome?_singleton] at said
        rw [if_pos ‹_›, List.findSome?_cons, said]
        exact ⟨a, rfl, eq⟩
      · rw [if_neg ‹_›]
        exact fits

def overtaken (speed : UInt64) (answer : Option Answer) (c : Call) : Except Halt Unit → Stage
  | .error _ => .panicked
  | .ok _ => match c, answer with
    | .reset, some a => .finished (a.map fun _ => ())
    | _, _ => .waiting speed

end Run

/-! Runs that are overtaken in a poll of their own -/

namespace World

variable {u v w : World σ} {r : RunId} {run : Run} {answer : Option Answer} {g : Nat}
  {stage : Run.Stage} {c : Call}

/-- How far a poll gets before it calls all modules: to the next event, if the trace is there, or to
the reset that comes with the answer, or through that to the first event. -/
inductive Reaches (run : Run) (answer : Option Answer) (w : World σ) : Call → World σ → Prop
  | due {event : Event} (old : run.isFetching = false)
      (next : w.session.events[w.session.index]? = some event)
      (playing : w.session.paused = false) :
      Reaches run answer w (.handle event (w.session.events.take (w.session.index + 1))) w
  | answered {a : Answer} {session : Session} (new : run.isFetching = true)
      (answered : answer = some a) (taken : session = w.session.pause ∨
        ∃ events, a = .ok events ∧ session = w.session.load events) :
      Reaches run answer w .reset { w with session }
  | first {events : Trace} {event : Event} {v : World σ} (new : run.isFetching = true)
      (success : answer = some (.ok events))
      (told : reset.run { w with session := w.session.load events } = (.ok (), v))
      (next : v.session.events[v.session.index]? = some event)
      (playing : v.session.paused = false) :
      Reaches run answer w (.handle event (v.session.events.take (v.session.index + 1))) v

/-- The reset that comes with an answer may be over by the time that a run is called on. -/
theorem Reaches.leaves (h : Reaches run answer w c v) (sound : w.session.Sound)
    (formed : w.Formed) : v.session.Sound ∧ v.Formed := by
  have begun {session : Session} : Stays w { w with session } := .frame rfl rfl rfl
  cases h with
  | due => exact ⟨sound, formed⟩
  | answered _ _ taken =>
    refine ⟨?_, begun.formed formed⟩
    rcases taken with rfl | ⟨events, -, rfl⟩
    · exact sound.pause
    · exact sound.load events
  | @first events _ _ _ _ told =>
    have tended := tended_of_reset told
    exact ⟨tended.session.sound (sound.load events), tended.formed (begun.formed formed)⟩

/-- A look that a start comes into is in the middle of a delivery, and nothing follows on it. -/
theorem Looks.overtaken (h : Looks g w stage v) (current : w.session.generation = g)
    (ne : v.session.generation ≠ g) : ∃ event result,
      w.session.events[w.session.index]? = some event ∧ w.session.paused = false ∧
      (broadcast event (w.session.events.take (w.session.index + 1))).run w = (result, v) ∧
      stage = Run.overtaken v.session.speed answer
        (.handle event (w.session.events.take (w.session.index + 1))) result := by
  cases h with
  | stale stale => exact absurd current stale
  | ended => exact absurd current ne
  | held => exact absurd current ne
  | @delivered event u _ next playing told =>
    have left : u.session.generation ≠ g := by
      rwa [Session.advance_eq] at ne
    have stays : u.session.advance g w.session.index = u.session := if_neg left
    rw [stays]
    exact ⟨event, _, next, playing, told, rfl⟩
  | broken _ next playing told => exact ⟨_, _, next, playing, told, rfl⟩

theorem Progresses.overtaken (h : Progresses run answer w stage v)
    (claims : run.generation? = some w.session.generation)
    (lt : w.session.generation < v.session.generation) : ∃ c a result, Reaches run answer w c a ∧
      a.session.generation = w.session.generation ∧
      (callAll c a.registry.all).run a = (result, v) ∧
      stage = Run.overtaken v.session.speed answer c result := by
  have ne := Nat.ne_of_gt lt
  cases h with
  | idle purpose => simp [Run.generation?, purpose] at claims
  | unanswered => exact absurd rfl ne
  | played plays old looks =>
    cases claims.symm.trans plays
    obtain ⟨event, result, next, playing, told, stands⟩ := looks.overtaken rfl ne
    refine ⟨_, w, result, .due ?_ next playing, rfl, told, stands⟩
    rw [Bool.eq_false_iff]
    intro fetching
    obtain ⟨starts, new⟩ := Run.isFetching_iff.mp fetching
    rcases old with resumes | ⟨polled, fetched⟩
    · rw [resumes] at starts
      cases starts
    · exact new.elim polled fetched
  | fetched purpose new answered receives =>
    cases claims.symm.trans (Run.generation?_of_start purpose)
    have fetching : run.isFetching = true := Run.isFetching_iff.mpr ⟨by rw [purpose]; rfl, new⟩
    subst answered
    cases receives with
    | stale stale => exact absurd rfl stale
    | failed _ failure told =>
      subst failure
      exact ⟨.reset, _, _, .answered fetching rfl (.inl rfl), rfl, told, rfl⟩
    | @loaded events u _ _ _ success told looks =>
      subst success
      by_cases left : u.session.generation = w.session.generation
      · obtain ⟨event, result, next, playing, told', stands⟩ := looks.overtaken left ne
        exact ⟨_, u, result, .first fetching rfl told next playing, left, told', stands⟩
      -- a start has come into the reset already
      · cases looks with
        | stale => exact ⟨.reset, _, _, .answered fetching rfl (.inr ⟨_, rfl, rfl⟩), rfl, told, rfl⟩
        | _ current => exact absurd current left
    | broken _ taken told =>
      refine ⟨.reset, _, _, .answered fetching rfl taken, ?_, told, rfl⟩
      rcases taken with rfl | ⟨_, -, rfl⟩
      · rfl
      · rfl

/-- Calls that all come to their end reach every registered instance once, and nobody else. -/
theorem calls_of_callAll (formed : w.Formed)
    (told : (callAll c w.registry.all).run w = (.ok (), v)) (i : InstanceId) :
    v.calls i = w.calls i ++ if i ∈ w.registry.all then [c] else [] := by
  obtain ⟨n, eq, -, all⟩ := calls_callAll (j := i) told
  rw [eq, all rfl fun _ => formed.there, formed.all_nodup.count]
  split <;> rfl

end World

/-- A run that was made for a generation before the current one is inert: whatever happens later,
its polls and its drop tell the session where it stands and change nothing else in the world. A run
of the current generation becomes such a one in a poll of its own only while it calls all modules;
these calls are completed, unless one of them panics, and nothing follows on them. -/
theorem outdated_runs_are_inert {catalog : Catalog σ} {renderer : Renderer}
    {config : Playback.Config} {nesting : Nat} {memory : σ} {before : List (Turn σ)} {w : World σ}
    {r : RunId} {run : Run} {g : Nat}
    (reached : Course (fun _ _ => True) (.new catalog renderer config nesting memory) before w)
    (hr : w.session.run? r = some run) (outstanding : run.stage.isOutstanding = true)
    (claims : run.generation? = some g) :
    (g < w.session.generation → ∀ (ts : List (Turn σ)) (u : World σ),
      Course (fun _ _ => True) w ts u → ∃ now, u.session.run? r = some now ∧
        now.purpose = run.purpose ∧
        (∀ answer, (Turn.poll r answer).act.run u =
          (.ok (), { u with session := u.session.setStage r (now.lapse answer) })) ∧
        (Turn.drop r).act.run u =
          (.ok (), { u with session := u.session.setStage r now.discard }) ∧
        now.stage ≠ .panicked ∧
        ∀ result, now.stage = .finished result → run.Verdict r ts result) ∧
      (g = w.session.generation → ∀ (answer : Option Answer) (v : World σ),
        (Turn.poll r answer).Leads w v → g < v.session.generation →
        ∃ c a b result, World.Reaches run answer w c a ∧ a.session.generation = g ∧
          (World.callAll c a.registry.all).run a = (result, b) ∧
          Session.Steered (fun _ => True) a.session b.session ∧
          (result = .ok () → ∀ i, b.calls i = a.calls i ++
            if i ∈ a.registry.all then [c] else []) ∧
          v = { b with session :=
            b.session.setStage r (Run.overtaken b.session.speed answer c result) }) := by
  have orderly := reached.orderly (World.orderly_new catalog renderer config nesting memory)
  constructor
  · intro lt ts u course
    have outdated : run.Outdated w.session := ⟨g, claims, lt⟩
    have now := course.lapse orderly hr outdated
    have late : (ts.foldl (Turn.lapse r) run).Outdated u.session := by
      unfold Run.Outdated Run.generation?
      rw [Run.purpose_foldl_lapse]
      exact outdated.mono course.generation_le
    have sound := (course.orderly orderly).sound
    obtain ⟨calm, verdict⟩ := Run.verdict_of_foldl r ts outstanding
    refine ⟨_, now, Run.purpose_foldl_lapse, fun answer => ?_, ?_, calm, verdict⟩
    · exact World.poll_of_outdated sound now late
    · rw [← sound.drop_eq_setStage now late.ne]
      rfl
  · rintro rfl answer v leads lt
    rcases Turn.leads_poll leads with ⟨past, rfl⟩ | ⟨run', stage, b, hr', -, progresses, rfl⟩
    · exact absurd lt (Nat.lt_irrefl _)
    cases hr.symm.trans hr'
    dsimp only at lt
    rw [Session.generation_settle] at lt
    obtain ⟨c, a, result, reaches, current, told, rfl⟩ := progresses.overtaken claims lt
    obtain ⟨sound, formed⟩ := reaches.leaves orderly.sound orderly.formed
    have tended : a.Tended b := by
      have called := World.tended_callAll c a.registry.all a
      rwa [told] at called
    have still := progresses.progressed.run? hr
    have ne : run.generation? ≠ some b.session.generation := by
      rw [claims]
      exact fun eq => Nat.ne_of_lt lt (Option.some.inj eq)
    refine ⟨c, a, b, result, reaches, current, told, tended.session, ?_, ?_⟩
    · rintro rfl
      exact World.calls_of_callAll formed told
    · rw [(tended.session.sound sound).settle_eq_setStage still ne]

def World.restarting : World Unit :=
  (World.new .builtin .recording {} 8 ()).after
    [.init ⟨"level", "", "", "code", [Variables.name]⟩
      fun _ => .subscribe .declared (fun _ => .start fun _ => .done) fun _ => .done,
      .host (.start fun _ => .done)]

def World.restarted : World Unit :=
  ((Turn.poll ⟨0⟩ (some (.ok Trace.twice))).act.run World.restarting).2

def World.restartedTwice : World Unit :=
  ((Turn.poll ⟨1⟩ (some (.ok Trace.twice))).act.run World.restarted).2

theorem outdated_runs_are_inert_of_restarting :
    (Turn.poll ⟨0⟩ none).act.run World.restartedTwice = (.ok (), { World.restartedTwice with
      session := World.restartedTwice.session.setStage ⟨0⟩ (.finished (.ok ())) }) ∧
      ∃ run c a, World.Reaches run (some (.ok Trace.twice)) World.restarting c a ∧
        ∀ i, World.restarted.calls i = a.calls i ++ if i ∈ a.registry.all then [c] else [] := by
  have reached : Course (fun _ _ => True) (World.new (.builtin : Catalog Unit) .recording {} 8 ())
      _ World.restarting := course_after (fun _ _ _ => trivial) (by decide +kernel)
  have first : (Turn.poll ⟨0⟩ (some (.ok Trace.twice))).Leads World.restarting World.restarted :=
    ⟨by decide +kernel, rfl⟩
  have second : (Turn.poll ⟨1⟩ (some (.ok Trace.twice))).Leads World.restarted
      World.restartedTwice := ⟨by decide +kernel, rfl⟩
  have stands (w : World Unit) (fetching : Bool) (h : (w.session.run? ⟨0⟩).any (fun run =>
        run.stage.isOutstanding && run.generation? == some 1 &&
          run.isFetching == fetching) = true) :
      ∃ run, w.session.run? ⟨0⟩ = some run ∧ run.stage.isOutstanding = true ∧
        run.generation? = some 1 ∧ run.isFetching = fetching := by
    obtain ⟨run, hr, goes⟩ := (Option.any_eq_true _ _).mp h
    rw [Bool.and_eq_true_iff, Bool.and_eq_true_iff, beq_iff_eq, beq_iff_eq] at goes
    exact ⟨run, hr, goes.1.1, goes.1.2, goes.2⟩
  obtain ⟨started, hs, starts, current, -⟩ := stands World.restarting true (by decide +kernel)
  obtain ⟨waiting, hw, waits, stale, -⟩ := stands World.restarted false (by decide +kernel)
  obtain ⟨last, hl, goes, -, fetched⟩ :=
    stands World.restartedTwice false (by decide +kernel)
  constructor
  · have inert := outdated_runs_are_inert (reached.append (.turn trivial first (.done _))) hw waits
      stale
    obtain ⟨now, hn, -, polled, -⟩ :=
      inert.1 (by decide +kernel) _ _ (.turn trivial second (.done _))
    cases hl.symm.trans hn
    have ends : last.lapse none = .finished (.ok ()) := by
      unfold Run.lapse
      rw [if_pos goes, fetched]
      rfl
    rw [polled, ends]
  · have inert := outdated_runs_are_inert reached hs starts current
    obtain ⟨c, a, b, result, reaches, -, -, -, called, eq⟩ :=
      inert.2 (by decide +kernel) _ _ first (by decide +kernel)
    have journal : World.restarted.journal = b.journal := by rw [eq]
    -- the first run has not panicked, so every module was called
    have ended : result = .ok () := by
      have stage : World.restarted.session.run? ⟨0⟩ = (b.session.run? ⟨0⟩).map fun run =>
          ⟨run.purpose, Run.overtaken b.session.speed (some (.ok Trace.twice)) c result⟩ := by
        rw [eq]
        exact Session.run?_setStage.trans (if_pos rfl)
      obtain ⟨old, -, rfl⟩ := Option.map_eq_some_iff.mp (stage.symm.trans hw)
      cases result with
      | error => cases waits
      | ok => rfl
    refine ⟨started, c, a, reaches, fun i => ?_⟩
    rw [← called ended i]
    unfold World.calls
    rw [journal]

end Replay
