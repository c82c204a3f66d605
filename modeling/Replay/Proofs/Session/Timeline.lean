import Replay.Proofs.Session.Sound

/-!
What becomes of the timeline. Nothing that is asked of a session changes the events or the index,
except a start, which empties both and begins a new generation. While a run waits for the trace of
the current generation, none is loaded.
-/
namespace Replay.Session

def Steered (allowed : Command → Prop) : Session → Session → Prop :=
  Relation.ReflTransGen fun s t => ∃ c, allowed c ∧ t = s.obey c

def Follows (s t : Session) : Prop :=
  t.generation = s.generation ∧ t.loaded = s.loaded ∧ t.events = s.events ∧ t.index = s.index ∧
      t.lastStart? = s.lastStart? ∨
    s.generation < t.generation ∧ t.loaded = false

def Fetches (s : Session) (r : RunId) : Prop :=
  ∃ run code, s.run? r = some run ∧ run.purpose = .start s.generation code ∧
    (run.stage = .unpolled ∨ run.stage = .fetching)

/-- Where a run waits for the trace of the current generation, none is loaded. A run that is being
polled may be left out, for it has taken its trace before it is told where it stands. -/
def Awaits (s : Session) (polled : Option RunId) : Prop :=
  ∀ r, s.Fetches r → some r ≠ polled → s.loaded = false

variable {s t u : Session} {r q : RunId} {p : Run.Purpose} {stage : Run.Stage}
  {allowed : Command → Prop} {polled : Option RunId}

theorem Follows.refl (s : Session) : s.Follows s := .inl ⟨rfl, rfl, rfl, rfl, rfl⟩

theorem Follows.trans (h : s.Follows t) (h' : t.Follows u) : s.Follows u := by
  rcases h with ⟨generation, loaded, events, index, last⟩ | ⟨lt, unloaded⟩
  · unfold Follows
    rw [← generation, ← loaded, ← events, ← index, ← last]
    exact h'
  · rcases h' with ⟨generation, loaded, -⟩ | ⟨lt', unloaded'⟩
    · exact .inr ⟨generation ▸ lt, loaded.trans unloaded⟩
    · exact .inr ⟨Nat.lt_trans lt lt', unloaded'⟩

theorem follows_make (h : p.code? = none) : s.Follows (s.make p).2 := by
  refine .inl ⟨rfl, rfl, rfl, rfl, ?_⟩
  rw [lastStart?_make, h]

theorem resume_cases (s : Session) :
    (s.paused = false ∨ s.player = none ∧ (s.loaded = false ∨ s.events.length ≤ s.index)) ∧
        s.resume = s.make .nothing ∨
      s.paused = true ∧ s.player.isSome ∧ s.resume = { s with paused := false }.make .nothing ∨
      s.paused = true ∧ s.player = none ∧ s.loaded = true ∧ s.index < s.events.length ∧
        s.resume = { s with paused := false, player := some s.generation }.make
          (.resume s.generation) := by
  unfold resume
  by_cases paused : s.paused = true
  · by_cases player : s.player.isSome = true
    · exact .inr (.inl ⟨paused, player, by simp [paused, player]⟩)
    have none : s.player = none := by simpa using player
    by_cases past : s.loaded = false ∨ s.events.length ≤ s.index
    · refine .inl ⟨.inr ⟨none, past⟩, ?_⟩
      rcases past with past | past <;> simp [paused, none, past]
    · obtain ⟨loaded, lt⟩ := not_or.mp past
      refine .inr (.inr ⟨paused, none, by simpa using loaded, Nat.lt_of_not_le lt, ?_⟩)
      simp [paused, none, lt, Bool.not_eq_false _ ▸ loaded]
  · exact .inl ⟨.inl (by simpa using paused), by simp [paused]⟩

theorem follows_obey (s : Session) (c : Command) : s.Follows (s.obey c) := by
  cases c with
  | start => exact .inr ⟨Nat.lt_succ_self _, rfl⟩
  | resume =>
    unfold obey
    rcases resume_cases s with ⟨-, eq⟩ | ⟨-, -, eq⟩ | ⟨-, -, -, -, eq⟩ <;> rw [eq]
    · exact follows_make rfl
    · exact follows_make (s := { s with paused := false }) rfl
    · exact follows_make (s := { s with paused := false, player := some s.generation }) rfl
  | pause => exact .refl s
  | setSpeed speed => exact .refl s
  | setCode code => exact .refl s

theorem Steered.follows (h : Steered allowed s t) : s.Follows t := by
  induction h with
  | refl => exact .refl s
  | tail _ step ih =>
    obtain ⟨c, -, rfl⟩ := step
    exact ih.trans (follows_obey _ c)

theorem Steered.sound (h : Steered allowed s t) (sound : s.Sound) : t.Sound := by
  induction h with
  | refl => exact sound
  | tail _ step ih =>
    obtain ⟨c, -, rfl⟩ := step
    exact ih.obey c

/-- What is asked of a session makes at most one run, and leaves those there are as they stand. -/
theorem run?_obey_cases (s : Session) (c : Command) (r : RunId) : (s.obey c).run? r = s.run? r ∨
    r = ⟨s.runs.length⟩ ∧ ∃ p, (s.obey c).run? r = some ⟨p, .unpolled⟩ ∧
      (p.code? = none ∨ (s.obey c).loaded = false) := by
  have made {t u : Session} {p : Run.Purpose} (eq : u = (t.make p).2) (runs : t.runs = s.runs)
      (new : p.code? = none ∨ u.loaded = false) : u.run? r = s.run? r ∨
        r = ⟨s.runs.length⟩ ∧ ∃ p, u.run? r = some ⟨p, .unpolled⟩ ∧
          (p.code? = none ∨ u.loaded = false) := by
    have old : t.run? r = s.run? r := by simp only [Session.run?, runs]
    rw [eq, run?_make, runs, old]
    split
    · exact .inr ⟨‹_›, p, rfl, eq ▸ new⟩
    · exact .inl rfl
  cases c with
  | start => exact made rfl rfl (.inr rfl)
  | resume =>
    rcases resume_cases s with ⟨-, eq⟩ | ⟨-, -, eq⟩ | ⟨-, -, -, -, eq⟩ <;>
      exact made (congrArg Prod.snd eq) rfl (.inl rfl)
  | pause => exact .inl rfl
  | setSpeed speed => exact .inl rfl
  | setCode code => exact .inl rfl

theorem run?_obey {run : Run} (c : Command) (h : s.run? r = some run) :
    (s.obey c).run? r = some run := by
  rcases run?_obey_cases s c r with eq | ⟨eq, -⟩
  · exact eq.trans h
  · exact absurd eq (ne_of_run? h)

theorem Steered.run? {run : Run} (h : Steered allowed s t) (hr : s.run? r = some run) :
    t.run? r = some run := by
  induction h with
  | refl => exact hr
  | tail _ step ih =>
    obtain ⟨c, -, rfl⟩ := step
    exact run?_obey c ih

/-! Runs that wait for their trace -/

theorem awaits_new (config : Playback.Config) : (Session.new config).Awaits none := by
  rintro r ⟨run, code, hr, -⟩
  cases hr

theorem Awaits.weaken (h : s.Awaits none) (polled : Option RunId) : s.Awaits polled :=
  fun r hr _ => h r hr nofun

theorem Awaits.obey (h : s.Awaits polled) (c : Command) : (s.obey c).Awaits polled := by
  rintro r ⟨run, code, hr, purpose, stage⟩ ne
  rcases follows_obey s c with ⟨generation, loaded, -⟩ | ⟨-, unloaded⟩
  · rw [generation] at purpose
    rcases run?_obey_cases s c r with eq | ⟨-, p, eq, other | unloaded⟩
    · rw [loaded]
      exact h r ⟨run, code, eq ▸ hr, purpose, stage⟩ ne
    · cases eq.symm.trans hr
      cases purpose
      cases other
    · exact unloaded
  · exact unloaded

theorem Awaits.steered (h : s.Awaits polled) (steered : Steered allowed s t) :
    t.Awaits polled := by
  induction steered with
  | refl => exact h
  | tail _ step ih =>
    obtain ⟨c, -, rfl⟩ := step
    exact ih.obey c

theorem plays_of_new {run : Run} {code : String} (hr : s.run? r = some run)
    (purpose : run.purpose = .start s.generation code)
    (new : run.stage = .unpolled ∨ run.stage = .fetching) : s.Plays r := by
  refine ⟨run, hr, ?_, Run.generation?_of_start purpose⟩
  rcases new with new | new <;> rw [new] <;> rfl

/-- A trace is taken by the run that plays the current generation, so no other one waits for it. -/
theorem Awaits.load (sound : s.Sound) (plays : s.Plays r) (events : Trace) :
    (s.load events).Awaits (some r) := by
  rintro q ⟨run, code, hq, purpose, stage⟩ ne
  exact absurd (congrArg some (sound.single (plays_of_new hq purpose stage) plays)) ne

theorem Awaits.advance (h : s.Awaits polled) (generation index : Nat) :
    (s.advance generation index).Awaits polled := by
  unfold Session.advance
  split
  · exact h
  · exact h

theorem Awaits.settle (h : s.Awaits (some r)) (polled : stage ≠ .unpolled)
    (fetching : stage = .fetching → ∀ run code, s.run? r = some run →
      run.purpose = .start s.generation code → s.loaded = false) :
    (s.settle r stage).Awaits none := by
  rintro q ⟨run, code, hq, purpose, stands⟩ -
  have generation : (s.settle r stage).generation = s.generation := by rw [settle_eq]; rfl
  have loaded : (s.settle r stage).loaded = s.loaded := by rw [settle_eq]; rfl
  rw [generation] at purpose
  rw [loaded]
  rw [run?_settle] at hq
  split at hq
  · obtain ⟨old, hold, rfl⟩ := Option.map_eq_some_iff.mp hq
    rcases stands with stands | stands
    · exact absurd stands polled
    · exact fetching stands old code hold purpose
  · refine h q ⟨run, code, hq, purpose, stands⟩ fun eq => ?_
    cases eq
    exact absurd rfl ‹_›

/-! What a poll leaves of a session -/

def Glanced (generation : Nat) (s t : Session) : Prop :=
  ∃ u, Steered (fun _ => True) s u ∧ (t = u ∨ s.generation = generation ∧
    s.index < s.events.length ∧ t = u.advance generation s.index)

def Progressed (run : Run) (s t : Session) : Prop :=
  ∃ s₀ s₁ generation, (s₀ = s ∨ ∃ code events, run.purpose = .start s.generation code ∧
      (run.stage = .unpolled ∨ run.stage = .fetching) ∧ s₀ = s.load events) ∧
    Steered (fun _ => True) s₀ s₁ ∧ s₁.Glanced generation t

/-- As long as no start comes in between, a loaded trace stays, and is gone through event by
event. -/
def Proceeds (s t : Session) : Prop :=
  t.generation = s.generation → s.loaded = true →
    t.loaded = true ∧ t.events = s.events ∧ (t.index = s.index ∨ t.index = s.index + 1)

variable {generation : Nat} {run : Run}

theorem Follows.generation_le (h : s.Follows t) : s.generation ≤ t.generation := by
  rcases h with ⟨eq, -⟩ | ⟨lt, -⟩
  · exact Nat.le_of_eq eq.symm
  · exact Nat.le_of_lt lt

theorem advance_eq (s : Session) (generation index : Nat) : s.advance generation index =
    { s with index := if s.generation = generation then index + 1 else s.index } := by
  unfold advance
  split <;> rfl

theorem Glanced.sound (h : s.Glanced generation t) (sound : s.Sound) : t.Sound := by
  obtain ⟨u, steered, rfl | ⟨current, lt, rfl⟩⟩ := h
  · exact steered.sound sound
  refine (steered.sound sound).advance fun same => ?_
  rcases steered.follows with ⟨-, loaded, events, -⟩ | ⟨grown, -⟩
  · exact ⟨events ▸ lt, loaded.trans (sound.loaded_of_lt lt)⟩
  · omega

theorem Glanced.awaits (h : s.Glanced generation t) (awaits : s.Awaits polled) :
    t.Awaits polled := by
  obtain ⟨u, steered, rfl | ⟨-, -, rfl⟩⟩ := h
  · exact awaits.steered steered
  · exact (awaits.steered steered).advance _ _

theorem Glanced.run? (h : s.Glanced generation t) (hr : s.run? r = some run) :
    t.run? r = some run := by
  obtain ⟨u, steered, rfl | ⟨-, -, rfl⟩⟩ := h
  · exact steered.run? hr
  · rw [advance_eq]
    exact steered.run? hr

theorem Glanced.generation_le (h : s.Glanced generation t) : s.generation ≤ t.generation := by
  obtain ⟨u, steered, rfl | ⟨-, -, rfl⟩⟩ := h
  · exact steered.follows.generation_le
  · rw [advance_eq]
    exact steered.follows.generation_le

theorem Glanced.proceeds (h : s.Glanced generation t) : s.Proceeds t := by
  intro same loaded
  obtain ⟨u, steered, eq⟩ := h
  rcases steered.follows with ⟨-, loaded', events, index, -⟩ | ⟨grown, -⟩
  · rcases eq with rfl | ⟨-, -, rfl⟩
    · exact ⟨loaded'.trans loaded, events, .inl index⟩
    · rw [advance_eq]
      refine ⟨loaded'.trans loaded, events, ?_⟩
      dsimp only
      split
      · exact .inr rfl
      · exact .inl index
  · have same' : t.generation = u.generation := by
      rcases eq with rfl | ⟨-, -, rfl⟩
      · rfl
      · rw [advance_eq]
    omega

theorem Follows.proceeds_trans (h : s.Follows t) (h' : t.Proceeds u)
    (le : t.generation ≤ u.generation) : s.Proceeds u := by
  intro same loaded
  rcases h with ⟨generation, loaded', events, index, -⟩ | ⟨grown, -⟩
  · rw [← events, ← index]
    exact h' (same.trans generation.symm) (loaded'.trans loaded)
  · omega

theorem Follows.proceeds (h : s.Follows t) : s.Proceeds t := by
  intro same loaded
  rcases h with ⟨-, loaded', events, index, -⟩ | ⟨grown, -⟩
  · exact ⟨loaded'.trans loaded, events, .inl index⟩
  · omega

theorem Progressed.sound (h : Progressed run s t) (sound : s.Sound) : t.Sound := by
  obtain ⟨s₀, s₁, generation, from', steered, glanced⟩ := h
  refine glanced.sound (steered.sound ?_)
  rcases from' with rfl | ⟨code, events, -, -, rfl⟩
  · exact sound
  · exact sound.load events

theorem Progressed.awaits (h : Progressed run s t) (sound : s.Sound) (awaits : s.Awaits none)
    (hr : s.run? r = some run) : t.Awaits (some r) := by
  obtain ⟨s₀, s₁, generation, from', steered, glanced⟩ := h
  refine glanced.awaits (Awaits.steered ?_ steered)
  rcases from' with rfl | ⟨code, events, purpose, new, rfl⟩
  · exact awaits.weaken _
  · exact Awaits.load sound (plays_of_new hr purpose new) events

theorem Progressed.run? {other : Run} (h : Progressed run s t) (hr : s.run? r = some other) :
    t.run? r = some other := by
  obtain ⟨s₀, s₁, generation, from', steered, glanced⟩ := h
  refine glanced.run? (steered.run? ?_)
  rcases from' with rfl | ⟨code, events, -, -, rfl⟩
  · exact hr
  · exact hr

theorem Progressed.proceeds (h : Progressed run s t) (awaits : s.Awaits none)
    (hr : s.run? r = some run) : s.Proceeds t := by
  obtain ⟨s₀, s₁, generation, from', steered, glanced⟩ := h
  rcases from' with rfl | ⟨code, events, purpose, new, rfl⟩
  · exact steered.follows.proceeds_trans glanced.proceeds glanced.generation_le
  · -- the run waits for its trace, so none is loaded before
    intro same loaded
    have unloaded := awaits r ⟨run, code, hr, purpose, new⟩ nofun
    cases loaded.symm.trans unloaded

/-! Drops -/

theorem drop_cases (s : Session) (r : RunId) : s.drop r = s ∨ s.drop r = s.settle r .dropped := by
  unfold drop
  split
  · split
    · exact .inr rfl
    · exact .inl rfl
  · exact .inl rfl

theorem run?_drop (hr : s.run? r = some run) (past : run.stage.isOutstanding = false) :
    (s.drop q).run? r = some run := by
  unfold drop
  split
  · rename_i other hq
    split
    · have same : (s.close q .dropped).run? r = (s.setStage q .dropped).run? r := by
        simp only [Session.run?, runs_close]
      rw [same, run?_setStage, if_neg]
      · exact hr
      · rintro rfl
        cases hr.symm.trans hq
        cases past.symm.trans ‹_›
    · exact hr
  · exact hr

theorem Awaits.drop (h : s.Awaits none) (r : RunId) : (s.drop r).Awaits none := by
  rcases drop_cases s r with eq | eq <;> rw [eq]
  · exact h
  · exact (h.weaken _).settle nofun nofun

theorem follows_settle (s : Session) (r : RunId) (stage : Run.Stage) :
    s.Follows (s.settle r stage) := by
  refine .inl ⟨?_, ?_, ?_, ?_, lastStart?_settle⟩ <;> rw [settle_eq] <;> rfl

theorem follows_drop (s : Session) (r : RunId) : s.Follows (s.drop r) := by
  rcases drop_cases s r with eq | eq <;> rw [eq]
  · exact .refl s
  · exact follows_settle s r .dropped

end Replay.Session
