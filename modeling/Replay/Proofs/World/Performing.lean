import Replay.Proofs.World.Pause

/-!
A run that performs its trace. Until a new generation begins, nobody else moves the timeline on or
delivers events, whatever is asked of the session: that is done by the looks of the run alone.
Behind the end nobody does it any more.
-/
namespace Replay

variable {σ : Type}

namespace Session

structure Offers (s : Session) (generation : Nat) (events : Trace) (index : Nat) : Prop where
  generation_eq : s.generation = generation
  loaded : s.loaded = true
  events_eq : s.events = events
  index_eq : s.index = index

def Waits (s : Session) (q : RunId) : Prop :=
  ∃ run delay, s.run? q = some run ∧ run.stage = .waiting delay ∧
    run.generation? = some s.generation

def Spares (s : Session) (q : RunId) : Prop :=
  ∀ run, s.run? q = some run → run.stage ≠ .dropped ∧ run.stage ≠ .panicked

variable {s t : Session} {q r : RunId} {events : Trace} {g n : Nat} {stage : Run.Stage}
  {run : Run}

theorem spares_of_all (h : (s.run? q).all (fun run =>
    !(run.stage matches .dropped | .panicked)) = true) : s.Spares q := by
  intro run hq
  rw [hq] at h
  constructor <;> intro eq <;> simp [eq] at h

theorem Waits.plays (h : s.Waits q) : s.Plays q := by
  obtain ⟨run, delay, hq, stands, claims⟩ := h
  exact ⟨run, hq, by rw [stands]; rfl, claims⟩

theorem Offers.follows (h : s.Offers g events n) (follows : s.Follows t)
    (same : t.generation = g) : t.Offers g events n := by
  rcases follows with ⟨-, loaded, events_eq, index_eq, -⟩ | ⟨lt, -⟩
  · exact ⟨same, loaded.trans h.loaded, events_eq.trans h.events_eq, index_eq.trans h.index_eq⟩
  · have generation := h.generation_eq
    omega

theorem Waits.kept (h : s.Waits q) (hq : t.run? q = s.run? q)
    (same : t.generation = s.generation) : t.Waits q := by
  obtain ⟨run, delay, stands, waits, claims⟩ := h
  exact ⟨run, delay, hq.trans stands, waits, same ▸ claims⟩

theorem Waits.not_spares_drop (h : s.Waits q) : ¬(s.drop q).Spares q := by
  obtain ⟨run, delay, hq, stage, -⟩ := h
  have eq : s.drop q = s.settle q .dropped := by
    unfold drop
    rw [hq]
    dsimp only
    rw [stage]
    rfl
  have dropped : (s.settle q .dropped).run? q = some { run with stage := .dropped } := by
    rw [run?_settle, if_pos rfl, hq]
    rfl
  rw [eq]
  exact fun spared => (spared _ dropped).1 rfl

theorem Offers.settle (h : s.Offers g events n) (r : RunId) (stage : Run.Stage) :
    (s.settle r stage).Offers g events n := by
  rw [settle_eq]
  exact ⟨h.generation_eq, h.loaded, h.events_eq, h.index_eq⟩

theorem Offers.advance (h : s.Offers g events n) :
    (s.advance g n).Offers g events (n + 1) := by
  rw [advance_eq, if_pos h.generation_eq]
  exact ⟨h.generation_eq, h.loaded, h.events_eq, rfl⟩

theorem run?_settle_of_ne (ne : q ≠ r) : (s.settle r stage).run? q = s.run? q := by
  rw [run?_settle, if_neg ne]

theorem waits_settle {delay : UInt64} (hq : s.run? q = some run)
    (claims : run.generation? = some s.generation) :
    (s.settle q (.waiting delay)).Waits q := by
  refine ⟨{ run with stage := .waiting delay }, delay, ?_, rfl, ?_⟩
  · rw [run?_settle, if_pos rfl, hq]
    rfl
  · rw [generation_settle]
    exact claims

theorem Offers.rests (h : s.Offers g events n) (sound : s.Sound) (plays : s.Plays q)
    (past : events.length ≤ n) : (s.pause.settle q (.finished (.ok ()))).Rests q events := by
  let playing : Session := { s with paused := false }
  have drives : playing.Drives q events n :=
    ⟨plays, rfl, h.loaded, h.events_eq, h.index_eq⟩
  exact drives.rests (sound.congr rfl rfl rfl sound.index_le sound.unloaded) past

theorem Rests.state (h : s.Rests q events) : s.state = .finished := by
  unfold Session.state
  rw [h.loaded, h.events_eq, h.index_eq]
  simp

/-! The configuration -/

theorem Steered.config {allowed : Command → Prop} (h : Steered allowed s t) :
    t.config = s.config := by
  induction h with
  | refl => rfl
  | tail _ step ih =>
    obtain ⟨c, -, rfl⟩ := step
    refine Eq.trans ?_ ih
    cases c with
    | resume =>
      unfold obey
      rcases resume_cases _ with ⟨-, eq⟩ | ⟨-, -, eq⟩ | ⟨-, -, -, -, eq⟩ <;> rw [eq] <;> rfl
    | start | pause | setSpeed | setCode => rfl

theorem config_settle : (s.settle r stage).config = s.config := by
  rw [settle_eq]
  rfl

theorem Progressed.config (h : Progressed run s t) : t.config = s.config := by
  obtain ⟨s₀, s₁, generation, start, steered, u, steered', last⟩ := h
  have first : s₀.config = s.config := by
    rcases start with rfl | ⟨code, events, -, -, rfl⟩ <;> rfl
  have end' : t.config = u.config := by
    rcases last with rfl | ⟨-, -, rfl⟩
    · rfl
    · rw [advance_eq]
  exact end'.trans (steered'.config.trans (steered.config.trans first))

end Session

namespace Turn

variable {t : Turn σ} {w v : World σ} {q : RunId} {events : Trace} {g n : Nat}

theorem Leads.config (h : t.Leads w v) : v.session.config = w.session.config := by
  rcases leads_cases h with tended | ⟨r, -, rfl⟩ | ⟨r, answer, -, rfl | progressed⟩
  · exact tended.session.config
  · dsimp only
    rcases Session.drop_cases w.session r with eq | eq <;> rw [eq]
    exact Session.config_settle
  · rfl
  · obtain ⟨run, stage, u, -, -, progresses, rfl⟩ := progressed
    exact Session.config_settle.trans progresses.progressed.config

/-- While a run waits, other turns of its generation leave it and its timeline as they are. -/
theorem Leads.waits (h : t.Leads w v) (orderly : w.Orderly) (waits : w.session.Waits q)
    (offers : w.session.Offers g events n) (unpolled : t.polls q = false)
    (kept : t ≠ .drop q) (same : v.session.generation = g) :
    v.session.Waits q ∧ v.session.Offers g events n ∧ v.deliveries = w.deliveries := by
  have current := same.trans offers.generation_eq.symm
  rcases h.quiet_cases with
    ⟨tended, deliveries⟩ | ⟨r, rfl, rfl⟩ | ⟨r, answer, rfl, rfl | progressed⟩
  · obtain ⟨run, delay, hq, -⟩ := id waits
    have still : v.session.run? q = w.session.run? q := (tended.session.run? hq).trans hq.symm
    exact ⟨waits.kept still current, offers.follows tended.session.follows same, deliveries⟩
  · have ne : q ≠ r := fun eq => kept (by rw [eq])
    have there := offers.follows (Session.follows_drop w.session r) same
    exact ⟨waits.kept (Session.run?_drop_of_ne ne) current, there, rfl⟩
  · exact ⟨waits, offers, rfl⟩
  · obtain ⟨run, stage, u, hr, outstanding, progresses, rfl⟩ := progressed
    have ne : q ≠ r := by
      rintro rfl
      simp [Turn.polls] at unpolled
    have idle : ¬w.session.Plays r := fun plays => ne (orderly.sound.single waits.plays plays)
    cases progresses.eq_of_idle hr outstanding idle
    have still : (w.session.settle r stage).Waits q :=
      waits.kept (Session.run?_settle_of_ne ne) Session.generation_settle
    exact ⟨still, offers.settle r stage, rfl⟩

theorem Leads.rests (h : t.Leads w v) (rests : w.session.Rests q events)
    (same : v.session.generation = w.session.generation) :
    v.session.Rests q events ∧ v.deliveries = w.deliveries := by
  obtain ⟨purpose, ended⟩ := id rests.ended
  rcases h.quiet_cases with ⟨tended, deliveries⟩ | ⟨r, -, rfl⟩ | ⟨r, answer, -, rfl | progressed⟩
  · exact ⟨rests.lasts tended.session same, deliveries⟩
  · refine ⟨?_, rfl⟩
    by_cases eq : q = r
    · subst eq
      have still : w.session.drop q = w.session := by
        unfold Session.drop
        rw [ended]
        rfl
      dsimp only
      rw [still]
      exact rests
    · exact rests.drop eq
  · exact ⟨rests, rfl⟩
  · obtain ⟨run, stage, u, hr, outstanding, progresses, rfl⟩ := progressed
    cases progresses.eq_of_idle hr outstanding (rests.idle r)
    have ne : q ≠ r := by
      rintro rfl
      cases hr.symm.trans ended
      cases outstanding
    refine ⟨rests.settle ne fun _ run' hrun => ?_, rfl⟩
    cases hr.symm.trans hrun
    exact outstanding

end Turn

end Replay
