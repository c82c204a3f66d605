import Replay.Proofs.World.Call
import Replay.Session.Run

/-!
What a poll comes to. A look at the timeline finds one of a few things and acts on it; the answer of
an interpreter is too late, a failure, or a trace to play. Only panics are met: what is cut off for
another reason never comes back to the one who polls.
-/
namespace Replay.World

variable {σ : Type}

def standing? : Except Halt Run.Stage → Option Run.Stage
  | .ok stage => some stage
  | .error .panic => some .panicked
  | .error .overflow | .error .deadlock => none

def survives {α : Type} : Except Halt α → Bool
  | .ok _ | .error .panic => true
  | .error .overflow | .error .deadlock => false

/-- What a look at the timeline for a generation does, and where the run stands that looks. -/
inductive Looks (generation : Nat) (w : World σ) : Run.Stage → World σ → Prop
  | stale (ne : w.session.generation ≠ generation) : Looks generation w (.finished (.ok ())) w
  | ended (current : w.session.generation = generation)
      (past : w.session.events.length ≤ w.session.index) :
      Looks generation w (.finished (.ok ())) { w with session := w.session.pause }
  | held (current : w.session.generation = generation)
      (lt : w.session.index < w.session.events.length) (paused : w.session.paused = true) :
      Looks generation w (.waiting w.session.config.pausePoll) w
  | delivered {event : Event} {v : World σ} (current : w.session.generation = generation)
      (next : w.session.events[w.session.index]? = some event) (playing : w.session.paused = false)
      (told : (broadcast event (w.session.events.take (w.session.index + 1))).run w = (.ok (), v)) :
      Looks generation w (.waiting v.session.speed)
        { v with session := v.session.advance generation w.session.index }
  | broken {event : Event} {v : World σ} (current : w.session.generation = generation)
      (next : w.session.events[w.session.index]? = some event) (playing : w.session.paused = false)
      (told : (broadcast event (w.session.events.take (w.session.index + 1))).run w =
        (.error .panic, v)) : Looks generation w .panicked v

/-- What taking an answer of the interpreter does, and where the run stands then. -/
inductive Receives (generation : Nat) (answer : Answer) (w : World σ) : Run.Stage → World σ → Prop
  | stale (ne : w.session.generation ≠ generation) :
      Receives generation answer w (.finished (answer.map fun _ => ())) w
  | failed {e : Error} {v : World σ} (current : w.session.generation = generation)
      (failure : answer = .error e)
      (told : reset.run { w with session := w.session.pause } = (.ok (), v)) :
      Receives generation answer w (.finished (.error e)) v
  | loaded {events : Trace} {v u : World σ} {stage : Run.Stage}
      (current : w.session.generation = generation) (success : answer = .ok events)
      (told : reset.run { w with session := w.session.load events } = (.ok (), v))
      (looks : Looks generation v stage u) : Receives generation answer w stage u
  | broken {session : Session} {v : World σ} (current : w.session.generation = generation)
      (taken : session = w.session.pause ∨
        ∃ events, answer = .ok events ∧ session = w.session.load events)
      (told : reset.run { w with session } = (.error .panic, v)) :
      Receives generation answer w .panicked v

/-- What a poll of an outstanding run does, before the session is told where the run stands. -/
inductive Progresses (run : Run) (answer : Option Answer) (w : World σ) :
    Run.Stage → World σ → Prop
  | fetched {generation : Nat} {code : String} {a : Answer} {stage : Run.Stage} {v : World σ}
      (purpose : run.purpose = .start generation code)
      (new : run.stage = .unpolled ∨ run.stage = .fetching) (answered : answer = some a)
      (receives : Receives generation a w stage v) : Progresses run answer w stage v
  | unanswered {generation : Nat} {code : String} (purpose : run.purpose = .start generation code)
      (new : run.stage = .unpolled ∨ run.stage = .fetching) (unanswered : answer = none) :
      Progresses run answer w .fetching w
  | played {generation : Nat} {stage : Run.Stage} {v : World σ}
      (plays : run.generation? = some generation)
      (old : run.purpose.code? = none ∨ run.stage ≠ .unpolled ∧ run.stage ≠ .fetching)
      (looks : Looks generation w stage v) : Progresses run answer w stage v
  | idle (purpose : run.purpose = .nothing) : Progresses run answer w (.finished (.ok ())) w

variable {w v : World σ} {generation : Nat} {stage : Run.Stage}

theorem run_look : (look generation).run w =
    if w.session.generation = generation then
      match w.session.events[w.session.index]? with
      | none => (.ok none, { w with session := w.session.pause })
      | some event =>
        if w.session.paused then (.ok (some w.session.config.pausePoll), w)
        else match (broadcast event (w.session.events.take (w.session.index + 1))).run w with
          | (.ok _, v) => (.ok (some v.session.speed),
              { v with session := v.session.advance generation w.session.index })
          | (.error h, v) => (.error h, v)
    else (.ok none, w) := by
  unfold look
  rw [Act.run_get_bind]
  by_cases current : w.session.generation = generation
  · simp only [current, ne_eq, not_true_eq_false, if_false, if_true]
    cases next : w.session.events[w.session.index]? with
    | none => rfl
    | some event =>
      cases paused : w.session.paused with
      | true => rfl
      | false =>
        simp only [Bool.false_eq_true, if_false]
        rw [Act.run_bind]
        generalize (broadcast event _).run w = outcome
        obtain ⟨_ | _, v⟩ := outcome
        · rfl
        · dsimp only
          rw [← Session.speed_advance v.session generation w.session.index]
          rfl
  · simp only [current, ne_eq, not_false_eq_true, if_true, if_false]
    rfl

theorem looks_play (h : standing? ((play generation).run w).1 = some stage) :
    Looks generation w stage ((play generation).run w).2 := by
  unfold play at h ⊢
  rw [Act.run_bind, run_look] at h ⊢
  by_cases current : w.session.generation = generation
  · simp only [current, if_true] at h ⊢
    cases next : w.session.events[w.session.index]? with
    | none =>
      simp only [next] at h ⊢
      cases h
      exact .ended current (List.getElem?_eq_none_iff.mp next)
    | some event =>
      cases paused : w.session.paused with
      | true =>
        simp only [next, paused, if_true] at h ⊢
        cases h
        exact .held current (List.getElem?_eq_some_iff.mp next).1 paused
      | false =>
        simp only [next, paused, Bool.false_eq_true, if_false] at h ⊢
        generalize told : (broadcast event _).run w = outcome at h ⊢
        obtain ⟨halt | _, v⟩ := outcome
        · cases halt <;> cases h
          exact .broken current next paused told
        · cases h
          exact .delivered current next paused told
  · simp only [current, if_false] at h ⊢
    cases h
    exact .stale current

theorem receives_receive {answer : Answer}
    (h : standing? ((receive generation answer).run w).1 = some stage) :
    Receives generation answer w stage ((receive generation answer).run w).2 := by
  unfold receive at h ⊢
  rw [Act.run_get_bind] at h ⊢
  by_cases current : w.session.generation = generation
  · cases answer with
    | error e =>
      simp only [current, ne_eq, not_true_eq_false, if_false] at h ⊢
      unfold modifySession at h ⊢
      rw [Act.run_modify_bind, Act.run_bind] at h ⊢
      generalize told : reset.run _ = outcome at h ⊢
      obtain ⟨halt | _, v⟩ := outcome
      · cases halt <;> cases h
        exact .broken current (.inl rfl) told
      · cases h
        exact .failed current rfl told
    | ok events =>
      simp only [current, ne_eq, not_true_eq_false, if_false] at h ⊢
      unfold modifySession at h ⊢
      rw [Act.run_modify_bind, Act.run_bind] at h ⊢
      generalize told : reset.run _ = outcome at h ⊢
      obtain ⟨halt | _, v⟩ := outcome
      · cases halt <;> cases h
        exact .broken current (.inr ⟨events, rfl, rfl⟩) told
      · exact .loaded current rfl told (looks_play h)
  · simp only [current, ne_eq, not_false_eq_true, if_true] at h ⊢
    cases h
    exact .stale current

theorem progresses_progress {run : Run} {answer : Option Answer}
    (h : standing? ((progress run answer).run w).1 = some stage) :
    Progresses run answer w stage ((progress run answer).run w).2 := by
  obtain ⟨purpose, before⟩ := run
  cases purpose with
  | nothing =>
    cases h
    exact .idle rfl
  | resume generation => exact .played rfl (.inl rfl) (looks_play h)
  | start generation code =>
    cases before with
    | unpolled =>
      cases answer with
      | none =>
        cases h
        exact .unanswered rfl (.inl rfl) rfl
      | some a => exact .fetched rfl (.inl rfl) rfl (receives_receive h)
    | fetching =>
      cases answer with
      | none =>
        cases h
        exact .unanswered rfl (.inr rfl) rfl
      | some a => exact .fetched rfl (.inr rfl) rfl (receives_receive h)
    | _ => exact .played rfl (.inr ⟨nofun, nofun⟩) (looks_play h)

/-- A poll of a run that is not outstanding does nothing; any other one makes progress and tells the
session where the run stands. -/
theorem poll_cases {r : RunId} {answer : Option Answer}
    (h : survives ((poll r answer).run w).1 = true) :
    (∀ run, w.session.run? r = some run → run.stage.isOutstanding = false) ∧
        ((poll r answer).run w).2 = w ∨
      ∃ run stage v, w.session.run? r = some run ∧ run.stage.isOutstanding = true ∧
        Progresses run answer w stage v ∧
        ((poll r answer).run w).2 = { v with session := v.session.settle r stage } := by
  unfold poll at h ⊢
  rw [Act.run_get_bind] at h ⊢
  cases hr : w.session.run? r with
  | none => exact .inl ⟨nofun, rfl⟩
  | some run =>
    cases outstanding : run.stage.isOutstanding with
    | false =>
      refine .inl ⟨?_, ?_⟩
      · rintro _ ⟨⟩
        exact outstanding
      · simp only [outstanding, Bool.false_eq_true, if_false]
        rfl
    | true =>
      simp only [hr, outstanding, if_true] at h ⊢
      rw [Act.run_bind] at h ⊢
      rw [ExceptT.run_mk] at h ⊢
      have progresses {stage : Run.Stage}
          (h : standing? ((progress run answer).run w).1 = some stage) := progresses_progress h
      generalize (progress run answer).run w = outcome at h progresses ⊢
      obtain ⟨halt | stage, v⟩ := outcome
      · cases halt with
        | panic => exact .inr ⟨run, .panicked, v, rfl, outstanding, progresses rfl, rfl⟩
        | overflow => cases h
        | deadlock => cases h
      · refine .inr ⟨run, stage, v, rfl, outstanding, progresses rfl, ?_⟩
        unfold Session.settle
        rfl

end Replay.World
