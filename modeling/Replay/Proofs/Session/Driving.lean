import Replay.Proofs.Session.Timeline

/-!
A run that drives the session to the end of its trace, as long as nobody pauses, starts anew or
drops
it: before the end it plays and the session is not paused, and behind the end nobody plays.
-/
namespace Replay.Session

/-- Commands that neither hold up what is played nor begin anew. -/
def Command.LetsPlay : Command → Prop
  | .start | .pause => False
  | .resume | .setSpeed _ | .setCode _ => True

structure Drives (s : Session) (q : RunId) (events : Trace) (count : Nat) : Prop where
  plays : s.Plays q
  playing : s.paused = false
  loaded : s.loaded = true
  events_eq : s.events = events
  index_eq : s.index = count

structure Rests (s : Session) (q : RunId) (events : Trace) : Prop where
  idle : ∀ r, ¬s.Plays r
  ended : ∃ purpose, s.run? q = some ⟨purpose, .finished (.ok ())⟩
  loaded : s.loaded = true
  events_eq : s.events = events
  index_eq : s.index = events.length

variable {s t : Session} {q r : RunId} {events : Trace} {count : Nat} {run : Run}
  {stage : Run.Stage}

theorem plays_make_nothing : (s.make .nothing).2.Plays r ↔ s.Plays r := by
  rw [plays_make]
  simp [Run.generation?]

theorem Drives.obey (h : s.Drives q events count) {c : Command} (lets : c.LetsPlay) :
    (s.obey c).Drives q events count := by
  cases c with
  | start => exact lets.elim
  | pause => exact lets.elim
  | setSpeed speed => exact ⟨h.plays, h.playing, h.loaded, h.events_eq, h.index_eq⟩
  | setCode code => exact ⟨h.plays, h.playing, h.loaded, h.events_eq, h.index_eq⟩
  | resume =>
    unfold Session.obey
    rcases resume_cases s with ⟨-, eq⟩ | ⟨paused, -⟩ | ⟨paused, -⟩
    · rw [eq]
      exact ⟨plays_make_nothing.mpr h.plays, h.playing, h.loaded, h.events_eq, h.index_eq⟩
    · cases paused.symm.trans h.playing
    · cases paused.symm.trans h.playing

theorem Rests.obey (h : s.Rests q events) {c : Command} (goes : c ≠ .start) :
    (s.obey c).Rests q events := by
  obtain ⟨purpose, ended⟩ := h.ended
  have still := run?_obey c ended
  cases c with
  | start => exact absurd rfl goes
  | pause => exact ⟨h.idle, h.ended, h.loaded, h.events_eq, h.index_eq⟩
  | setSpeed speed => exact ⟨h.idle, h.ended, h.loaded, h.events_eq, h.index_eq⟩
  | setCode code => exact ⟨h.idle, h.ended, h.loaded, h.events_eq, h.index_eq⟩
  | resume =>
    unfold Session.obey at still ⊢
    rcases resume_cases s with ⟨-, eq⟩ | ⟨-, -, eq⟩ | ⟨-, -, -, lt, -⟩
    · rw [eq] at still ⊢
      exact ⟨fun r plays => h.idle r (plays_make_nothing.mp plays), ⟨_, still⟩, h.loaded,
        h.events_eq, h.index_eq⟩
    · rw [eq] at still ⊢
      refine ⟨fun r plays => ?_, ⟨_, still⟩, h.loaded, h.events_eq, h.index_eq⟩
      exact h.idle r (plays_make_nothing (s := { s with paused := false }).mp plays)
    -- there is nothing left to play
    · rw [h.events_eq, h.index_eq] at lt
      exact absurd lt (Nat.lt_irrefl _)

theorem Drives.steered (h : s.Drives q events count) (steered : Steered Command.LetsPlay s t) :
    t.Drives q events count := by
  induction steered with
  | refl => exact h
  | tail _ step ih =>
    obtain ⟨c, lets, rfl⟩ := step
    exact ih.obey lets

theorem Rests.lasts {allowed : Command → Prop} (h : s.Rests q events)
    (steered : Steered allowed s t) (same : t.generation = s.generation) : t.Rests q events := by
  induction steered with
  | refl => exact h
  | @tail u _ before step ih =>
    obtain ⟨c, -, rfl⟩ := step
    have le := (Steered.follows before).generation_le
    have le' := (follows_obey u c).generation_le
    refine (ih (by omega)).obey ?_
    rintro rfl
    have later : (u.obey .start).generation = u.generation + 1 := rfl
    omega

theorem Rests.steered (h : s.Rests q events) (steered : Steered Command.LetsPlay s t) :
    t.Rests q events := by
  induction steered with
  | refl => exact h
  | tail _ step ih =>
    obtain ⟨c, lets, rfl⟩ := step
    refine ih.obey ?_
    rintro rfl
    exact lets

/-! Where runs stand -/

theorem generation_settle : (s.settle r stage).generation = s.generation := by
  rw [settle_eq]
  rfl

theorem plays_settle_of_ne (ne : q ≠ r) : (s.settle r stage).Plays q ↔ s.Plays q := by
  simp only [Plays, run?_settle, if_neg ne, generation_settle]

theorem plays_settle_self (plays : s.Plays q) (goes : stage.isOutstanding = true) :
    (s.settle q stage).Plays q := by
  obtain ⟨run, hq, -, current⟩ := plays
  refine ⟨{ run with stage }, ?_, goes, ?_⟩
  · rw [run?_settle, if_pos rfl, hq]
    rfl
  · rw [generation_settle]
    exact current

theorem plays_of_settle (before : stage.isOutstanding = true →
      ∀ run, s.run? r = some run → run.stage.isOutstanding = true)
    (plays : (s.settle r stage).Plays q) : s.Plays q := by
  by_cases same : q = r
  · subst same
    obtain ⟨run, hq, goes, current⟩ := plays
    rw [run?_settle, if_pos rfl] at hq
    obtain ⟨old, hold, rfl⟩ := Option.map_eq_some_iff.mp hq
    rw [generation_settle] at current
    exact ⟨old, hold, before goes old hold, current⟩
  · exact (plays_settle_of_ne same).mp plays

theorem Drives.settle (h : s.Drives q events count) (plays : (s.settle r stage).Plays q) :
    (s.settle r stage).Drives q events count := by
  rw [settle_eq] at plays ⊢
  exact ⟨plays, h.playing, h.loaded, h.events_eq, h.index_eq⟩

theorem Rests.settle (h : s.Rests q events) (ne : q ≠ r) (before : stage.isOutstanding = true →
      ∀ run, s.run? r = some run → run.stage.isOutstanding = true) :
    (s.settle r stage).Rests q events := by
  have idle (r' : RunId) : ¬(s.settle r stage).Plays r' :=
    fun plays => h.idle r' (plays_of_settle before plays)
  have ended : ∃ purpose, (s.settle r stage).run? q = some ⟨purpose, .finished (.ok ())⟩ := by
    rw [run?_settle, if_neg ne]
    exact h.ended
  rw [settle_eq] at idle ended ⊢
  exact ⟨idle, ended, h.loaded, h.events_eq, h.index_eq⟩

theorem Drives.drop (h : s.Drives q events count) (ne : q ≠ r) :
    (s.drop r).Drives q events count := by
  rcases drop_cases s r with eq | eq <;> rw [eq]
  · exact h
  · exact h.settle ((plays_settle_of_ne ne).mpr h.plays)

theorem Rests.drop (h : s.Rests q events) (ne : q ≠ r) : (s.drop r).Rests q events := by
  rcases drop_cases s r with eq | eq <;> rw [eq]
  · exact h
  · exact h.settle ne nofun

theorem Drives.advance (h : s.Drives q events count) {generation : Nat}
    (current : s.generation = generation) :
    (s.advance generation count).Drives q events (count + 1) := by
  unfold Session.advance
  rw [if_pos current]
  exact ⟨h.plays, h.playing, h.loaded, h.events_eq, rfl⟩

theorem Drives.rests (h : s.Drives q events count) (sound : s.Sound)
    (past : events.length ≤ count) :
    (s.pause.settle q (.finished (.ok ()))).Rests q events := by
  have le := sound.index_le
  rw [h.events_eq, h.index_eq] at le
  obtain ⟨run, hq, -⟩ := h.plays
  have idle (r : RunId) : ¬(s.pause.settle q (.finished (.ok ()))).Plays r := by
    intro plays
    have same : r = q := sound.single
          (plays_of_settle (s := s.pause) (fun goes => by cases goes) plays)
      h.plays
    subst same
    obtain ⟨run', hrun, goes, -⟩ := plays
    rw [run?_settle, if_pos rfl] at hrun
    obtain ⟨old, -, rfl⟩ := Option.map_eq_some_iff.mp hrun
    cases goes
  have ended : ∃ purpose, (s.pause.settle q (.finished (.ok ()))).run? q =
      some ⟨purpose, .finished (.ok ())⟩ := by
    rw [run?_settle, if_pos rfl]
    have hq' : s.pause.run? q = some run := hq
    rw [hq']
    exact ⟨run.purpose, rfl⟩
  rw [settle_eq] at idle ended ⊢
  exact ⟨idle, ended, h.loaded, h.events_eq, h.index_eq.trans (Nat.le_antisymm le past)⟩

end Replay.Session
