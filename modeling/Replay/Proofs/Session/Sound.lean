import Replay.Proofs.Session.Command

/-!
The invariant of sessions. At most one run plays the current generation, the session knows whether
one does, and the index stays within the trace. Every single change of a session keeps it: what is
asked of it, and each of the things that polls and drops do.
-/
namespace Replay.Session

structure Sound (s : Session) : Prop where
  older : ∀ {r run g}, s.run? r = some run → run.generation? = some g → g ≤ s.generation
  single : ∀ {r q}, s.Plays r → s.Plays q → r = q
  playing : ∀ {r}, s.Plays r → s.player = some s.generation
  player : ∀ {g}, s.player = some g → g = s.generation ∧ ∃ r, s.Plays r
  index_le : s.index ≤ s.events.length
  unloaded : s.loaded = false → s.events = [] ∧ s.index = 0
  /-- Only one run was made by the start of the current generation: the latest. -/
  latest : ∀ {r run code}, s.run? r = some run → run.purpose = .start s.generation code →
    s.lastStart? = some (r, code)

variable {s t : Session} {r q : RunId} {p : Run.Purpose} {stage : Run.Stage}

/-- What the invariant says of the runs of a session, its generation, its player and its timeline
does not hang on anything else. -/
theorem Sound.congr (h : s.Sound) (runs : t.runs = s.runs)
    (generation : t.generation = s.generation) (player : t.player = s.player)
    (index_le : t.index ≤ t.events.length)
    (unloaded : t.loaded = false → t.events = [] ∧ t.index = 0) : t.Sound := by
  have run?_eq : t.run? = s.run? := by
    funext r
    simp only [run?, runs]
  have plays_eq : t.Plays = s.Plays := by
    funext r
    simp only [Plays, run?_eq, generation]
  have last_eq : t.lastStart? = s.lastStart? := by simp only [lastStart?, runs]
  constructor
  · rw [run?_eq, generation]
    exact h.older
  · rw [plays_eq]
    exact h.single
  · rw [plays_eq, player, generation]
    exact h.playing
  · rw [plays_eq, player, generation]
    exact h.player
  · exact index_le
  · exact unloaded
  · rw [run?_eq, generation, last_eq]
    exact h.latest

theorem Sound.loaded_of_lt (h : s.Sound) (lt : s.index < s.events.length) : s.loaded = true := by
  cases loaded : s.loaded with
  | true => rfl
  | false =>
    rw [(h.unloaded loaded).1] at lt
    exact absurd lt (Nat.not_lt_zero _)

theorem sound_new (config : Playback.Config) : (Session.new config).Sound := by
  have none (r : RunId) : (Session.new config).run? r = none := rfl
  have idle (r : RunId) : ¬(Session.new config).Plays r := by
    rintro ⟨run, h, -⟩
    cases (none r).symm.trans h
  constructor
  · intro r run g h
    cases (none r).symm.trans h
  · exact fun h => absurd h (idle _)
  · exact fun h => absurd h (idle _)
  · intro g h
    cases h
  · exact Nat.le_refl 0
  · exact fun _ => ⟨rfl, rfl⟩
  · intro r run code h
    cases (none r).symm.trans h

/-! Making runs -/

theorem plays_make : (s.make p).2.Plays r ↔ s.Plays r ∨
    r = ⟨s.runs.length⟩ ∧ Run.generation? ⟨p, .unpolled⟩ = some s.generation := by
  simp only [Plays, run?_make]
  by_cases h : r = ⟨s.runs.length⟩
  · subst h
    simp [run?_fresh, Run.Stage.isOutstanding, make]
  · simp [h, make]

theorem purposes_make : (s.make p).2.runs.map (·.purpose) = s.runs.map (·.purpose) ++ [p] := by
  simp [make]

theorem lastStart?_make : (s.make p).2.lastStart? = match p.code? with
    | some code => some (⟨s.runs.length⟩, code)
    | none => s.lastStart? := by
  unfold lastStart?
  rw [purposes_make, List.zipIdx_append, List.filterMap_append]
  cases h : p.code? <;> simp [h]

theorem lastStart?_setStage : (s.setStage r stage).lastStart? = s.lastStart? := by
  have purposes : (s.setStage r stage).runs.map (·.purpose) = s.runs.map (·.purpose) := by
    apply List.ext_getElem?
    intro n
    simp only [setStage, List.getElem?_map, List.getElem?_modify]
    split <;> simp [Function.comp_def]
  unfold lastStart?
  rw [purposes]

theorem Sound.make_nothing (h : s.Sound) : (s.make .nothing).2.Sound := by
  have plays_eq : ∀ r, (s.make .nothing).2.Plays r ↔ s.Plays r := by
    intro r
    rw [plays_make]
    simp [Run.generation?]
  constructor
  · intro r run g hr hg
    rw [run?_make] at hr
    split at hr
    · cases hr
      cases hg
    · exact h.older hr hg
  · intro r q hr hq
    exact h.single ((plays_eq r).mp hr) ((plays_eq q).mp hq)
  · intro r hr
    exact h.playing ((plays_eq r).mp hr)
  · intro g hg
    obtain ⟨eq, r, hr⟩ := h.player hg
    exact ⟨eq, r, (plays_eq r).mpr hr⟩
  · exact h.index_le
  · exact h.unloaded
  · intro r run code hr hp
    rw [lastStart?_make]
    rw [run?_make] at hr
    split at hr
    · cases hr
      cases hp
    · exact h.latest hr hp

/-- A run may be made for the current generation if none plays it; where it is a start, it has to be
the first of its generation. -/
theorem sound_make_claim (claims : Run.generation? ⟨p, .unpolled⟩ = some s.generation)
    (player : s.player = some s.generation)
    (older : ∀ {r run g}, s.run? r = some run → run.generation? = some g → g ≤ s.generation)
    (idle : ∀ r, ¬s.Plays r) (index_le : s.index ≤ s.events.length)
    (unloaded : s.loaded = false → s.events = [] ∧ s.index = 0)
    (latest : ∀ {r run code}, s.run? r = some run → run.purpose = .start s.generation code →
      p.code? = none ∧ s.lastStart? = some (r, code)) : (s.make p).2.Sound := by
  have plays_eq (r : RunId) : (s.make p).2.Plays r ↔ r = ⟨s.runs.length⟩ := by
    rw [plays_make]
    exact ⟨fun hr => hr.elim (fun hr => absurd hr (idle r)) And.left, fun hr => .inr ⟨hr, claims⟩⟩
  constructor
  · intro r run g hr hg
    rw [run?_make] at hr
    split at hr
    · cases hr
      cases claims.symm.trans hg
      exact Nat.le_refl _
    · exact older hr hg
  · intro r q hr hq
    rw [(plays_eq r).mp hr, (plays_eq q).mp hq]
  · exact fun _ => player
  · intro g hg
    cases player.symm.trans hg
    exact ⟨rfl, _, (plays_eq _).mpr rfl⟩
  · exact index_le
  · exact unloaded
  · intro r run code hr hp
    rw [lastStart?_make]
    rw [run?_make] at hr
    split at hr
    · cases hr
      subst r
      dsimp only at hp
      rw [hp]
      rfl
    · obtain ⟨none, last⟩ := latest hr hp
      rw [none]
      exact last

theorem Sound.start (h : s.Sound) : s.start.2.Sound := by
  have newer {r : RunId} {run : Run} {g : Nat} (hr : s.run? r = some run)
      (hg : run.generation? = some g) : g ≠ s.generation + 1 :=
    Nat.ne_of_lt (Nat.lt_succ_of_le (h.older hr hg))
  refine sound_make_claim rfl rfl (fun hr hg => Nat.le_succ_of_le (h.older hr hg)) ?_
    (Nat.le_refl 0) (fun _ => ⟨rfl, rfl⟩) ?_
  · rintro r ⟨run, hr, -, hg⟩
    exact newer hr hg rfl
  · intro r run code hr hp
    exact absurd rfl (newer hr (Run.generation?_of_start hp))

theorem Sound.resume (h : s.Sound) : s.resume.2.Sound := by
  unfold Session.resume
  split
  · exact h.make_nothing
  split
  · exact (h.congr (t := { s with paused := false }) rfl rfl rfl h.index_le h.unloaded).make_nothing
  split
  · exact h.make_nothing
  rename_i idle _
  have none_plays (r : RunId) : ¬s.Plays r := fun hr => idle (h.playing hr ▸ rfl)
  exact sound_make_claim rfl rfl h.older none_plays h.index_le h.unloaded
    fun hr hp => ⟨rfl, h.latest hr hp⟩

theorem Sound.pause (h : s.Sound) : s.pause.Sound :=
  h.congr rfl rfl rfl h.index_le h.unloaded

theorem Sound.obey (h : s.Sound) (c : Command) : (s.obey c).Sound := by
  cases c with
  | start => exact h.start
  | resume => exact h.resume
  | pause => exact h.pause
  | setSpeed speed => exact h.congr rfl rfl rfl h.index_le h.unloaded
  | setCode code => exact h.congr rfl rfl rfl h.index_le h.unloaded

/-! What polls do -/

theorem Sound.load (h : s.Sound) (events : Trace) : (s.load events).Sound :=
  h.congr rfl rfl rfl (Nat.zero_le _) nofun

theorem Sound.advance (h : s.Sound) {generation index : Nat}
    (lt : s.generation = generation → index < s.events.length ∧ s.loaded = true) :
    (s.advance generation index).Sound := by
  unfold Session.advance
  split
  · obtain ⟨lt, loaded⟩ := lt ‹_›
    refine h.congr rfl rfl rfl lt fun unloaded => ?_
    cases loaded.symm.trans unloaded
  · exact h

theorem purpose_of_setStage {run : Run} (h : (s.setStage r stage).run? q = some run) :
    ∃ old, s.run? q = some old ∧ old.purpose = run.purpose := by
  rw [run?_setStage] at h
  split at h
  · subst q
    obtain ⟨old, hold, rfl⟩ := Option.map_eq_some_iff.mp h
    exact ⟨old, hold, rfl⟩
  · exact ⟨run, h, rfl⟩

theorem Sound.of_setStage (h : s.Sound) (runs : t.runs = (s.setStage r stage).runs)
    (generation : t.generation = s.generation) (single : ∀ {r q}, t.Plays r → t.Plays q → r = q)
    (playing : ∀ {r}, t.Plays r → t.player = some t.generation)
    (player : ∀ {g}, t.player = some g → g = t.generation ∧ ∃ r, t.Plays r)
    (index_le : t.index ≤ t.events.length)
    (unloaded : t.loaded = false → t.events = [] ∧ t.index = 0) : t.Sound := by
  have run?_eq : t.run? = (s.setStage r stage).run? := by
    funext q
    simp only [run?, runs]
  refine ⟨?_, single, playing, player, index_le, unloaded, ?_⟩
  · intro q run g hq hg
    obtain ⟨old, hold, purpose⟩ := purpose_of_setStage (run?_eq ▸ hq)
    rw [generation]
    refine h.older hold (g := g) ?_
    simp only [Run.generation?, purpose] at hg ⊢
    exact hg
  · intro q run code hq hp
    obtain ⟨old, hold, purpose⟩ := purpose_of_setStage (run?_eq ▸ hq)
    have last : t.lastStart? = (s.setStage r stage).lastStart? := by
      simp only [lastStart?, runs]
    rw [last, lastStart?_setStage]
    exact h.latest hold (purpose.trans (generation ▸ hp))

theorem Sound.setStage (h : s.Sound) {run : Run} (hr : s.run? r = some run)
    (before : run.stage.isOutstanding = true) (after : stage.isOutstanding = true) :
    (s.setStage r stage).Sound := by
  have plays_eq (q : RunId) : (s.setStage r stage).Plays q ↔ s.Plays q := by
    simp only [Plays, run?_setStage]
    split
    · subst q
      simp only [hr, Option.map_some, Option.some.injEq, exists_eq_left', before, after, true_and]
      rfl
    · rfl
  refine h.of_setStage rfl rfl ?_ ?_ ?_ h.index_le h.unloaded
  · intro a b ha hb
    exact h.single ((plays_eq a).mp ha) ((plays_eq b).mp hb)
  · intro q hq
    exact h.playing ((plays_eq q).mp hq)
  · intro g hg
    obtain ⟨eq, q, hq⟩ := h.player hg
    exact ⟨eq, q, (plays_eq q).mpr hq⟩

theorem runs_close : (s.close r stage).runs = (s.setStage r stage).runs := by
  unfold close
  dsimp only
  split
  · rw [release_eq]
  · rfl

theorem close_eq : s.close r stage =
    { s.setStage r stage with player := (s.close r stage).player } := by
  unfold close
  dsimp only
  split
  · rw [release_eq]
  · rfl

theorem plays_close {run : Run} (hr : s.run? r = some run) (after : stage.isOutstanding = false) :
    (s.close r stage).Plays q ↔ s.Plays q ∧ q ≠ r := by
  have run?_eq : (s.close r stage).run? q = (s.setStage r stage).run? q := by
    simp only [run?, runs_close]
  have generation : (s.close r stage).generation = s.generation := by rw [close_eq]; rfl
  simp only [Plays, run?_eq, generation, run?_setStage]
  split
  · subst q
    simp [hr, after]
  · simp [*]

theorem player_close {run : Run} (hr : s.run? r = some run) : (s.close r stage).player =
    if run.generation?.isSome ∧ s.player = run.generation? then none else s.player := by
  rw [close_of_run? hr]
  split
  · rename_i g hg
    rw [release_eq, hg]
    by_cases same : s.player = some g <;> simp [Session.setStage, same]
  · rename_i hg
    simp [hg, Session.setStage]

theorem Sound.close (h : s.Sound) {run : Run} (hr : s.run? r = some run)
    (before : run.stage.isOutstanding = true) (after : stage.isOutstanding = false) :
    (s.close r stage).Sound := by
  have same : (s.close r stage).generation = s.generation := by rw [close_eq]; rfl
  have index_le : (s.close r stage).index ≤ (s.close r stage).events.length := by
    rw [close_eq]
    exact h.index_le
  have unloaded : (s.close r stage).loaded = false →
      (s.close r stage).events = [] ∧ (s.close r stage).index = 0 := by
    rw [close_eq]
    exact h.unloaded
  refine h.of_setStage runs_close same ?_ ?_ ?_ index_le unloaded
  · intro a b ha hb
    exact h.single ((plays_close hr after).mp ha).1 ((plays_close hr after).mp hb).1
  · intro q hq
    obtain ⟨plays, ne⟩ := (plays_close hr after).mp hq
    rw [player_close hr, same, if_neg]
    · exact h.playing plays
    -- the closed run would be playing as well
    · rintro ⟨-, eq⟩
      exact ne (h.single plays ⟨run, hr, before, eq ▸ h.playing plays⟩)
  · intro g hg
    rw [player_close hr] at hg
    split at hg
    · cases hg
    rename_i other
    obtain ⟨eq, q, hq⟩ := h.player hg
    refine ⟨eq.trans same.symm, q, (plays_close hr after).mpr ⟨hq, ?_⟩⟩
    rintro rfl
    obtain ⟨run', hr', -, gen⟩ := hq
    cases hr.symm.trans hr'
    exact other ⟨gen ▸ rfl, hg.trans (eq ▸ gen.symm)⟩

theorem settle_eq : s.settle r stage =
    { s.setStage r stage with player := (s.settle r stage).player } := by
  unfold Session.settle
  split
  · rfl
  · exact close_eq

theorem run?_settle : (s.settle r stage).run? q =
    if q = r then (s.run? r).map fun run => { run with stage } else s.run? q := by
  rw [settle_eq, ← run?_setStage]
  rfl

theorem lastStart?_settle : (s.settle r stage).lastStart? = s.lastStart? := by
  rw [settle_eq]
  exact lastStart?_setStage

theorem Sound.settle (h : s.Sound) {run : Run} (hr : s.run? r = some run)
    (before : run.stage.isOutstanding = true) : (s.settle r stage).Sound := by
  unfold Session.settle
  split
  · exact h.setStage hr before ‹_›
  · exact h.close hr before (Bool.eq_false_iff.mpr ‹_›)

theorem Sound.drop (h : s.Sound) (r : RunId) : (s.drop r).Sound := by
  unfold Session.drop
  split
  · rename_i run hr
    split
    · exact h.close hr ‹_› rfl
    · exact h
  · exact h

/-! What the player says -/

theorem Sound.player_drop (h : s.Sound) (idle : ¬s.Plays r) : (s.drop r).player = s.player := by
  unfold Session.drop
  split
  · rename_i run hr
    split
    · rename_i outstanding
      rw [player_close hr, if_neg]
      rintro ⟨claims, eq⟩
      obtain ⟨g, claimed⟩ := Option.isSome_iff_exists.mp claims
      have current := (h.player (eq.trans claimed)).1
      exact idle ⟨run, hr, outstanding, current ▸ claimed⟩
    · rfl
  · rfl

theorem Sound.player_iff (h : s.Sound) (g : Nat) :
    s.player = some g ↔ g = s.generation ∧ ∃ r, s.Plays r := by
  constructor
  · exact h.player
  · rintro ⟨rfl, r, plays⟩
    exact h.playing plays

theorem Sound.isRunning_iff (h : s.Sound) : s.isRunning = true ↔ ∃ r, s.Plays r := by
  unfold isRunning
  rw [Option.isSome_iff_exists]
  constructor
  · rintro ⟨g, player⟩
    exact (h.player player).2
  · rintro ⟨r, plays⟩
    exact ⟨_, h.playing plays⟩

end Replay.Session
