import Replay.Proofs.World.Formed
import Replay.Proofs.World.Poll

/-!
Courses of events: the host does something, loads a level, polls a run or drops one, in any order
and as often as it likes. Whatever foreign code there is, every turn keeps the session sound, the
registry well formed and all instances free.
-/
namespace Replay

variable {σ : Type}

/-- What a host does from the outside. -/
inductive Turn (σ : Type) where
  | host (s : Script σ)
  | init (l : Level) (hook : Hook σ)
  /-- Polls a run; `answer` is what the interpreter has answered it, if it has. -/
  | poll (r : RunId) (answer : Option Answer)
  | drop (r : RunId)

namespace Turn

def act : Turn σ → Act σ Unit
  | .host s => World.run s
  | .init l hook => discard (World.initSession l hook)
  | .poll r answer => World.poll r answer
  | .drop r => World.modifySession (·.drop r)

/-- Where a turn gets, unless the world does not go on after it. -/
def Leads (t : Turn σ) (w v : World σ) : Prop :=
  World.survives (t.act.run w).1 = true ∧ (t.act.run w).2 = v

end Turn

/-- Turns one after the other, each of which is allowed in the world it comes to. -/
inductive Course (allowed : World σ → Turn σ → Prop) : World σ → List (Turn σ) → World σ → Prop
  | done (w : World σ) : Course allowed w [] w
  | turn {t : Turn σ} {u v w : World σ} {ts : List (Turn σ)} (may : allowed u t)
      (leads : t.Leads u v) (rest : Course allowed v ts w) : Course allowed u (t :: ts) w

def World.after (w : World σ) : List (Turn σ) → World σ
  | [] => w
  | t :: ts => (t.act.run w).2.after ts

def World.outlives (w : World σ) : List (Turn σ) → Bool
  | [] => true
  | t :: ts => World.survives (t.act.run w).1 && (t.act.run w).2.outlives ts

def Session.Calm (s t : Session) : Prop :=
  ∀ r run, t.run? r = some run → run.stage = .panicked → s.run? r = some run

theorem Session.Calm.of_none {s t : Session}
    (h : ∀ r run, t.run? r = some run → run.stage ≠ .panicked) : s.Calm t :=
  fun r run hr panicked => absurd panicked (h r run hr)

theorem Session.calm_of_all {s : Session}
    (h : s.runs.all (!·.stage matches .panicked) = true) :
    ∀ r run, s.run? r = some run → run.stage ≠ .panicked := by
  intro r run hr panicked
  have goes := List.all_eq_true.mp h run (List.mem_of_getElem? hr)
  rw [panicked] at goes
  cases goes

theorem World.not_foreign_of_all {w : World σ} {i : InstanceId} {m : ForeignModule σ}
    (h : w.registry.all.all (fun i => (w.body? i).all (·.foreign?.isNone)) = true)
    (mem : i ∈ w.registry.all) : w.body? i ≠ some (.foreign m) := by
  intro here
  have tracker := List.all_eq_true.mp h i mem
  rw [here] at tracker
  cases tracker

theorem course_after_cons {allowed : World σ → Turn σ → Prop} {t : Turn σ} {ts : List (Turn σ)}
    {w : World σ} (may : allowed w t) (survives : World.survives (t.act.run w).1 = true)
    (rest : Course allowed (t.act.run w).2 ts ((t.act.run w).2.after ts)) :
    Course allowed w (t :: ts) (w.after (t :: ts)) :=
  .turn may ⟨survives, rfl⟩ rest

theorem course_after {allowed : World σ → Turn σ → Prop} {ts : List (Turn σ)} {w : World σ}
    (may : ∀ t ∈ ts, ∀ v, allowed v t) (outlives : w.outlives ts = true) :
    Course allowed w ts (w.after ts) := by
  induction ts generalizing w with
  | nil => exact .done w
  | cons t ts ih =>
    unfold World.outlives at outlives
    obtain ⟨survives, outlives⟩ := Bool.and_eq_true_iff.mp outlives
    exact .turn (may t List.mem_cons_self w) ⟨survives, rfl⟩
      (ih (fun t mem => may t (List.mem_cons_of_mem _ mem)) outlives)

namespace World

variable {u v w : World σ} {generation : Nat} {stage : Run.Stage} {r : RunId} {run : Run}
  {answer : Option Answer} {polled : Option RunId}

structure Orderly (w : World σ) : Prop where
  sound : w.session.Sound
  awaits : w.session.Awaits none
  formed : w.Formed
  free : w.busy = []

theorem tended_of_broadcast {event : Event} {history : Trace} {result : Except Halt Unit}
    (told : (broadcast event history).run w = (result, v)) : Tended w v := by
  have tended := tended_callAll (.handle event history) w.registry.all w
  have same : (callAll (.handle event history) w.registry.all).run w = (result, v) := told
  rwa [same] at tended

theorem tended_of_reset {result : Except Halt Unit} (told : reset.run w = (result, v)) :
    Tended w v := by
  have tended := tended_callAll .reset w.registry.all w
  have same : (callAll .reset w.registry.all).run w = (result, v) := told
  rwa [same] at tended

/-! What the progress of a run leaves -/

theorem Looks.stays (h : Looks generation w stage v) : Stays w v := by
  cases h with
  | stale => exact .frame rfl rfl rfl
  | ended => exact .frame rfl rfl rfl
  | held => exact .frame rfl rfl rfl
  | delivered _ _ _ told => exact (tended_of_broadcast told).toStays.trans (.frame rfl rfl rfl)
  | broken _ _ _ told => exact (tended_of_broadcast told).toStays

theorem Looks.glanced (h : Looks generation w stage v) :
    w.session.Glanced generation v.session := by
  cases h with
  | stale => exact ⟨_, .refl, .inl rfl⟩
  | ended => exact ⟨_, .single ⟨.pause, trivial, rfl⟩, .inl rfl⟩
  | held => exact ⟨_, .refl, .inl rfl⟩
  | delivered current next _ told =>
    have lt := (List.getElem?_eq_some_iff.mp next).1
    exact ⟨_, (tended_of_broadcast told).session, .inr ⟨current, lt, rfl⟩⟩
  | broken _ _ _ told => exact ⟨_, (tended_of_broadcast told).session, .inl rfl⟩

theorem Receives.stays {answer : Answer} (h : Receives generation answer w stage v) :
    Stays w v := by
  have taken {session : Session} {u : World σ} {result : Except Halt Unit}
      (told : reset.run { w with session } = (result, u)) : Stays w u := by
    have begun : Stays w { w with session } := .frame rfl rfl rfl
    exact begun.trans (tended_of_reset told).toStays
  cases h with
  | stale => exact .frame rfl rfl rfl
  | failed _ _ told => exact taken told
  | loaded _ _ told looks => exact (taken told).trans looks.stays
  | broken _ _ told => exact taken told

theorem Receives.progressed {answer : Answer} {code : String}
    (h : Receives generation answer w stage v) (purpose : run.purpose = .start generation code)
    (new : run.stage = .unpolled ∨ run.stage = .fetching) :
    Session.Progressed run w.session v.session := by
  have paused : Session.Steered (fun _ => True) w.session w.session.pause :=
    .single ⟨.pause, trivial, rfl⟩
  cases h with
  | stale => exact ⟨_, _, generation, .inl rfl, .refl, _, .refl, .inl rfl⟩
  | failed _ _ told =>
    exact ⟨_, _, generation, .inl rfl, paused.trans (tended_of_reset told).session, _, .refl,
      .inl rfl⟩
  | loaded current success told looks =>
    refine ⟨_, _, generation, .inr ⟨code, _, ?_, new, rfl⟩, (tended_of_reset told).session,
      looks.glanced⟩
    rw [current]
    exact purpose
  | broken current taken told =>
    have steered := (tended_of_reset told).session
    rcases taken with rfl | ⟨events, -, rfl⟩
    · exact ⟨_, _, generation, .inl rfl, paused.trans steered, _, .refl, .inl rfl⟩
    · refine ⟨_, _, generation, .inr ⟨code, events, ?_, new, rfl⟩, steered, _, .refl, .inl rfl⟩
      rw [current]
      exact purpose

theorem Progresses.stays (h : Progresses run answer w stage v) : Stays w v := by
  cases h with
  | fetched _ _ _ receives => exact receives.stays
  | unanswered => exact .frame rfl rfl rfl
  | played _ _ looks => exact looks.stays
  | idle => exact .frame rfl rfl rfl

theorem Progresses.progressed (h : Progresses run answer w stage v) :
    Session.Progressed run w.session v.session := by
  cases h with
  | fetched purpose new _ receives => exact receives.progressed purpose new
  | unanswered => exact ⟨_, _, 0, .inl rfl, .refl, _, .refl, .inl rfl⟩
  | played _ _ looks => exact ⟨_, _, _, .inl rfl, .refl, looks.glanced⟩
  | idle => exact ⟨_, _, 0, .inl rfl, .refl, _, .refl, .inl rfl⟩

theorem Looks.stage_ne (h : Looks generation w stage v) :
    stage ≠ .unpolled ∧ stage ≠ .fetching := by
  cases h <;> exact ⟨nofun, nofun⟩

theorem Receives.stage_ne {answer : Answer} (h : Receives generation answer w stage v) :
    stage ≠ .unpolled ∧ stage ≠ .fetching := by
  cases h with
  | loaded _ _ _ looks => exact looks.stage_ne
  | _ => exact ⟨nofun, nofun⟩

/-- A run waits for its trace after a poll only if nothing has happened. -/
theorem Progresses.stage_ne (h : Progresses run answer w stage v) : stage ≠ .unpolled ∧
    (stage = .fetching → v = w ∧ (run.stage = .unpolled ∨ run.stage = .fetching)) := by
  cases h with
  | fetched _ _ _ receives =>
    exact ⟨receives.stage_ne.1, fun eq => absurd eq receives.stage_ne.2⟩
  | unanswered _ new => exact ⟨nofun, fun _ => ⟨rfl, new⟩⟩
  | played _ _ looks => exact ⟨looks.stage_ne.1, fun eq => absurd eq looks.stage_ne.2⟩
  | idle => exact ⟨nofun, nofun⟩

/-! What a turn leaves -/

theorem orderly_new (catalog : Catalog σ) (renderer : Renderer) (config : Playback.Config)
    (nesting : Nat) (memory : σ) :
    (World.new catalog renderer config nesting memory).Orderly where
  sound := Session.sound_new config
  awaits := Session.awaits_new config
  formed := formed_empty rfl
  free := rfl

theorem Tended.orderly (h : Tended w v) (orderly : w.Orderly) : v.Orderly where
  sound := h.session.sound orderly.sound
  awaits := orderly.awaits.steered h.session
  formed := h.formed orderly.formed
  free := h.busy.trans orderly.free

theorem Progresses.calm (h : Progresses run answer w stage v) (hr : w.session.run? r = some run)
    (outstanding : run.stage.isOutstanding = true)
    (calm : w.session.Calm (v.session.settle r stage)) : stage ≠ .panicked := by
  rintro rfl
  have after : (v.session.settle r .panicked).run? r = some { run with stage := .panicked } := by
    rw [Session.run?_settle, if_pos rfl, h.progressed.run? hr]
    rfl
  have same := Option.some.inj (hr.symm.trans (calm r _ after rfl))
  rw [same] at outstanding
  cases outstanding

theorem Progresses.orderly (h : Progresses run answer w stage v) (orderly : w.Orderly)
    (hr : w.session.run? r = some run) (outstanding : run.stage.isOutstanding = true) :
    World.Orderly { v with session := v.session.settle r stage } := by
  have progressed := h.progressed
  have stays := h.stays
  have hr' := progressed.run? hr
  constructor
  · exact (progressed.sound orderly.sound).settle hr' outstanding
  · refine (progressed.awaits orderly.sound orderly.awaits hr).settle h.stage_ne.1 ?_
    rintro rfl run' code hrun purpose
    obtain ⟨rfl, new⟩ := h.stage_ne.2 rfl
    cases hr'.symm.trans hrun
    exact orderly.awaits r ⟨run, code, hr, purpose, new⟩ nofun
  · exact (stays.formed orderly.formed).extend rfl List.prefix_rfl
  · exact stays.busy.trans orderly.free

theorem Orderly.drop (h : w.Orderly) (r : RunId) :
    World.Orderly { w with session := w.session.drop r } where
  sound := h.sound.drop r
  awaits := h.awaits.drop r
  formed := h.formed.extend rfl List.prefix_rfl
  free := h.free

end World

namespace Turn

variable {t : Turn σ} {w v : World σ}

theorem leads_poll {r : RunId} {answer : Option Answer}
    (h : (Turn.poll r answer : Turn σ).Leads w v) :
    (∀ run, w.session.run? r = some run → run.stage.isOutstanding = false) ∧ v = w ∨
      ∃ run stage u, w.session.run? r = some run ∧ run.stage.isOutstanding = true ∧
        World.Progresses run answer w stage u ∧
        v = { u with session := u.session.settle r stage } := by
  obtain ⟨survives, rfl⟩ := h
  exact World.poll_cases survives

/-- Outside of polls and drops, a turn asks things of the session and tends the rest. -/
theorem leads_cases (h : t.Leads w v) : w.Tended v ∨
    (∃ r, t = .drop r ∧ v = { w with session := w.session.drop r }) ∨
    ∃ r answer, t = .poll r answer ∧ (v = w ∨ ∃ run stage u, w.session.run? r = some run ∧
      run.stage.isOutstanding = true ∧ World.Progresses run answer w stage u ∧
      v = { u with session := u.session.settle r stage }) := by
  cases t with
  | host s =>
    obtain ⟨-, rfl⟩ := h
    exact .inl (World.tended_run s w)
  | init l hook =>
    obtain ⟨-, rfl⟩ := h
    exact .inl (Act.bind_of_trans .trans (World.tended_initSession l hook w) fun _ => .refl _)
  | drop r =>
    obtain ⟨-, rfl⟩ := h
    exact .inr (.inl ⟨r, rfl, rfl⟩)
  | poll r answer =>
    refine .inr (.inr ⟨r, answer, rfl, ?_⟩)
    rcases leads_poll h with ⟨-, eq⟩ | progressed
    · exact .inl eq
    · exact .inr progressed

theorem Leads.orderly (h : t.Leads w v) (orderly : w.Orderly) : v.Orderly := by
  rcases leads_cases h with tended | ⟨r, -, rfl⟩ | ⟨r, answer, -, rfl | progressed⟩
  · exact tended.orderly orderly
  · exact orderly.drop r
  · exact orderly
  · obtain ⟨run, stage, u, hr, outstanding, progresses, rfl⟩ := progressed
    exact progresses.orderly orderly hr outstanding

theorem Leads.proceeds (h : t.Leads w v) (orderly : w.Orderly) :
    w.session.Proceeds v.session := by
  rcases leads_cases h with tended | ⟨r, -, rfl⟩ | ⟨r, answer, -, rfl | progressed⟩
  · exact tended.session.follows.proceeds
  · exact (Session.follows_drop _ r).proceeds
  · exact (Session.Follows.refl _).proceeds
  · obtain ⟨run, stage, u, hr, outstanding, progresses, rfl⟩ := progressed
    have proceeds := progresses.progressed.proceeds orderly.awaits hr
    dsimp only
    rw [Session.settle_eq]
    exact proceeds

theorem Leads.past (h : t.Leads w v) {r : RunId} {run : Run} (hr : w.session.run? r = some run)
    (past : run.stage.isOutstanding = false) : v.session.run? r = some run := by
  rcases leads_cases h with tended | ⟨q, -, rfl⟩ | ⟨q, answer, -, rfl | progressed⟩
  · exact tended.session.run? hr
  · exact Session.run?_drop hr past
  · exact hr
  · obtain ⟨run', stage, u, hq, outstanding, progresses, rfl⟩ := progressed
    dsimp only
    rw [Session.run?_settle, if_neg]
    · exact progresses.progressed.run? hr
    -- the polled run is not over
    · rintro rfl
      cases hr.symm.trans hq
      cases past.symm.trans outstanding

end Turn

theorem Course.past {allowed : World σ → Turn σ → Prop} {w v : World σ} {ts : List (Turn σ)}
    (h : Course allowed w ts v) {r : RunId} {run : Run} (hr : w.session.run? r = some run)
    (past : run.stage.isOutstanding = false) : v.session.run? r = some run := by
  induction h with
  | done => exact hr
  | turn _ leads _ ih => exact ih (leads.past hr past)

theorem Course.calm {allowed : World σ → Turn σ → Prop} {w v : World σ} {ts : List (Turn σ)}
    {s : Session} (h : Course allowed w ts v) (calm : s.Calm v.session) : s.Calm w.session :=
  fun r run hr panicked => calm r run (h.past hr (by rw [panicked]; rfl)) panicked

theorem Turn.Leads.calm {t : Turn σ} {w v : World σ} {s : Session} (h : t.Leads w v)
    (calm : w.session.Calm s) : v.session.Calm s := by
  intro r run hr panicked
  have before := calm r run hr panicked
  exact h.past before (by rw [panicked]; rfl)

theorem Course.orderly {allowed : World σ → Turn σ → Prop} {w v : World σ} {ts : List (Turn σ)}
    (h : Course allowed w ts v) (orderly : w.Orderly) : v.Orderly := by
  induction h with
  | done => exact orderly
  | turn _ leads _ ih => exact ih (leads.orderly orderly)

end Replay
