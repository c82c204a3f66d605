import Replay.Proofs.World.Lasting

/-!
The settings of a session. How fast it plays and what code it runs is up to those who set it: runs
may be polled and dropped, and traces loaded and played, and nothing of that touches the settings.
-/
namespace Replay

variable {σ α : Type}

namespace Session

def settings (s : Session) : UInt64 × String := (s.speed, s.code)

def Setting (get : Session → α) : Prop := ∀ {s t}, t.settings = s.settings → get t = get s

theorem setting_speed : Setting speed := fun same => congrArg Prod.fst same

theorem setting_code : Setting code := fun same => congrArg Prod.snd same

variable {get : Session → α} {s t : Session}

theorem settings_settle (s : Session) (r : RunId) (stage : Run.Stage) :
    (s.settle r stage).settings = s.settings := by
  rw [settle_eq]
  rfl

theorem settings_drop (s : Session) (r : RunId) : (s.drop r).settings = s.settings := by
  rcases drop_cases s r with eq | eq <;> rw [eq]
  exact settings_settle s r .dropped

theorem settings_advance (s : Session) (generation index : Nat) :
    (s.advance generation index).settings = s.settings := by
  unfold advance
  split <;> rfl

theorem Steered.leaves (h : Steered (fun c => ∀ s, get (s.obey c) = get s) s t) :
    get t = get s := by
  induction h with
  | refl => rfl
  | tail _ step ih =>
    obtain ⟨c, leaves, rfl⟩ := step
    exact (leaves _).trans ih

end Session

/-- Whether an effect leaves something about the session as it is. -/
def Effect.Leaves (get : Session → α) : Effect σ → Prop
  | .command c => ∀ s, get (s.obey c) = get s
  | _ => True

theorem Discipline.Moves.leaves {get : Session → α} {w v : World σ} {c : Call}
    (h : (within (Effect.Leaves get)).Moves c w v) : get v.session = get w.session := by
  have steered : Session.Steered (fun c => ∀ s, get (s.obey c) = get s) w.session v.session :=
    h.session id
  exact steered.leaves

namespace World

variable {get : Session → α} {v w : World σ} {run : Run} {answer : Option Answer}
  {stage : Run.Stage} {generation : Nat}

theorem Looks.leaves (h : Looks generation w stage v) (setting : Session.Setting get)
    (confined : w.Confined (Effect.Leaves get)) : get v.session = get w.session := by
  have lasting := Discipline.lasting_confined (Effect.Leaves get (σ := σ))
  cases h with
  | stale => rfl
  | ended => exact setting rfl
  | held => rfl
  | delivered _ _ _ told =>
    refine (setting ?_).trans (lasting.moves_of_broadcast told confined).leaves
    exact Session.settings_advance _ _ _
  | broken _ _ _ told => exact (lasting.moves_of_broadcast told confined).leaves

theorem Receives.leaves {a : Answer} (h : Receives generation a w stage v)
    (setting : Session.Setting get) (confined : w.Confined (Effect.Leaves get)) :
    get v.session = get w.session := by
  have lasting := Discipline.lasting_confined (Effect.Leaves get (σ := σ))
  have reset {session : Session} {u : World σ} {result : Except Halt Unit}
      (told : World.reset.run { w with session } = (result, u))
      (same : session.settings = w.session.settings) :
      get u.session = get w.session ∧ u.Confined (Effect.Leaves get) := by
    have begun := lasting.session session confined
    have moves := lasting.moves_of_reset told begun
    exact ⟨moves.leaves.trans (setting same), begun.moves moves⟩
  cases h with
  | stale => rfl
  | failed _ _ told => exact (reset told rfl).1
  | loaded _ _ told looks =>
    obtain ⟨same, still⟩ := reset told rfl
    exact (looks.leaves setting still).trans same
  | broken _ taken told =>
    rcases taken with rfl | ⟨events, -, rfl⟩
    · exact (reset told rfl).1
    · exact (reset told rfl).1

theorem Progresses.leaves (h : Progresses run answer w stage v) (setting : Session.Setting get)
    (confined : w.Confined (Effect.Leaves get)) : get v.session = get w.session := by
  cases h with
  | fetched _ _ _ receives => exact receives.leaves setting confined
  | unanswered => rfl
  | played _ _ looks => exact looks.leaves setting confined
  | idle => rfl

end World

variable {get : Session → α} {v w : World σ}

theorem Turn.Leads.leaves {t : Turn σ} (h : t.Leads w v)
    (keeps : t.Keeps (.within (Effect.Leaves get)) w) (setting : Session.Setting get)
    (confined : w.Confined (Effect.Leaves get)) : get v.session = get w.session := by
  cases t with
  | init l hook => exact keeps.elim
  | host s =>
    obtain ⟨-, rfl⟩ := h
    exact ((confined.steps_run keeps).moves .reset).leaves
  | drop r =>
    obtain ⟨-, rfl⟩ := h
    exact setting (Session.settings_drop _ r)
  | poll r answer =>
    rcases Turn.leads_poll h with ⟨-, rfl⟩ | ⟨run, stage, u, -, -, progresses, rfl⟩
    · rfl
    · refine (setting ?_).trans (progresses.leaves setting confined)
      exact Session.settings_settle _ r stage

/-- A setting is as it was set last, whatever was played in the meantime. -/
theorem Course.leaves {ts : List (Turn σ)}
    (course : Course (fun u t => t.Keeps (.within (Effect.Leaves get)) u) w ts v)
    (setting : Session.Setting get) (confined : w.Confined (Effect.Leaves get)) :
    get v.session = get w.session := by
  have lasting := Discipline.lasting_confined (Effect.Leaves get (σ := σ))
  induction course with
  | done => rfl
  | turn keeps leads _ ih =>
    exact (ih (lasting.leads keeps leads confined)).trans (leads.leaves keeps setting confined)

end Replay
