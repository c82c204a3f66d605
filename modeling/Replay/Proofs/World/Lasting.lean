import Replay.Proofs.World.Confined
import Replay.Proofs.World.Turn

/-!
Facts that last. What allowed effects, the calls that playing a trace makes, and changes of the
session leave true of a world is true after every course of events in which no level is loaded,
provided that foreign code keeps to the discipline.
-/
namespace Replay

variable {σ : Type}

abbrev Interpretation := RunId → String → Answer

namespace Turn

def Keeps (D : Discipline σ) (w : World σ) : Turn σ → Prop
  | .host s => D.ok w s
  | .init .. => False
  | .poll .. | .drop _ => True

/-- Whether a start is polled with what the interpreter answers it, if it answers yet. -/
def Answers (interpret : Interpretation) (w : World σ) : Turn σ → Prop
  | .poll r answer => ∀ a, answer = some a → ∀ run generation code, w.session.run? r = some run →
      run.purpose = .start generation code → a = interpret r code
  | .host _ | .init .. | .drop _ => True

def Plain (D : Discipline σ) (interpret : Interpretation) (w : World σ) (t : Turn σ) : Prop :=
  t.Keeps D w ∧ t.Answers interpret w

end Turn

namespace Discipline

structure Lasting (D : Discipline σ) (J : World σ → Prop) : Prop where
  tame : ∀ {w}, J w → D.Tame w
  answers : ∀ {w c}, J w → c.isPlay = true → D.Answers w.registry.all w c
  apply : ∀ {w e}, J w → D.may w e → J (e.apply w)
  begun : ∀ {w i b c}, J w → w.body? i = some b → c.isPlay = true → J (w.begin i b c)
  session : ∀ {w} session, J w → J { w with session }

variable {D : Discipline σ} {J : World σ → Prop} {u v w : World σ} {c : Call} {generation : Nat}
  {stage : Run.Stage} {run : Run}

theorem Lasting.moves (lasting : D.Lasting J) (running : c.isPlay = true) (h : D.Moves c w v)
    (now : J w) : J v := by
  induction h with
  | refl => exact now
  | tail _ step ih =>
    rcases step with ⟨e, may, rfl⟩ | ⟨i, b, here, rfl⟩
    · exact lasting.apply ih may
    · exact lasting.begun ih here running

theorem Lasting.moves_of_broadcast (lasting : D.Lasting J) {event : Event} {history : Trace}
    {result : Except Halt Unit} (told : (World.broadcast event history).run w = (result, v))
    (now : J w) : D.Moves (.handle event history) w v := by
  have moves := D.moves_callAll w.registry.all (lasting.tame now)
    (lasting.answers (c := .handle event history) now rfl)
  have same : (World.callAll (.handle event history) w.registry.all).run w = (result, v) := told
  rwa [same] at moves

theorem Lasting.moves_of_reset (lasting : D.Lasting J) {result : Except Halt Unit}
    (told : World.reset.run w = (result, v)) (now : J w) : D.Moves .reset w v := by
  have moves := D.moves_callAll w.registry.all (lasting.tame now)
    (lasting.answers (c := .reset) now rfl)
  have same : (World.callAll .reset w.registry.all).run w = (result, v) := told
  rwa [same] at moves

theorem Lasting.looks (lasting : D.Lasting J) (h : World.Looks generation w stage v)
    (now : J w) : J v := by
  cases h with
  | stale => exact now
  | ended => exact lasting.session _ now
  | held => exact now
  | delivered _ _ _ told =>
    exact lasting.session _ (lasting.moves rfl (lasting.moves_of_broadcast told now) now)
  | broken _ _ _ told => exact lasting.moves rfl (lasting.moves_of_broadcast told now) now

theorem Lasting.of_reset (lasting : D.Lasting J) {session : Session} {result : Except Halt Unit}
    (told : World.reset.run { w with session } = (result, v)) (now : J w) : J v := by
  have begun := lasting.session session now
  exact lasting.moves rfl (lasting.moves_of_reset told begun) begun

theorem Lasting.receives (lasting : D.Lasting J) {answer : Answer}
    (h : World.Receives generation answer w stage v) (now : J w) : J v := by
  cases h with
  | stale => exact now
  | failed _ _ told => exact lasting.of_reset told now
  | loaded _ _ told looks => exact lasting.looks looks (lasting.of_reset told now)
  | broken _ _ told => exact lasting.of_reset told now

theorem Lasting.progresses (lasting : D.Lasting J) {answer : Option Answer}
    (h : World.Progresses run answer w stage v) (now : J w) : J v := by
  cases h with
  | fetched _ _ _ receives => exact lasting.receives receives now
  | unanswered => exact now
  | played _ _ looks => exact lasting.looks looks now
  | idle => exact now

theorem Lasting.steps (lasting : D.Lasting J) (h : D.Steps w v) (now : J w) : J v :=
  lasting.moves rfl (h.moves .reset) now

theorem Lasting.leads (lasting : D.Lasting J) {t : Turn σ} (keeps : t.Keeps D w)
    (h : t.Leads w v) (now : J w) : J v := by
  cases t with
  | host s =>
    obtain ⟨-, rfl⟩ := h
    exact lasting.steps (D.steps_run keeps (lasting.tame now)) now
  | init l hook => exact keeps.elim
  | drop r =>
    obtain ⟨-, rfl⟩ := h
    exact lasting.session _ now
  | poll r answer =>
    rcases Turn.leads_poll h with ⟨-, rfl⟩ | ⟨run, stage, u, -, -, progresses, rfl⟩
    · exact now
    · exact lasting.session _ (lasting.progresses progresses now)

theorem Lasting.course (lasting : D.Lasting J) {allowed allowed' : World σ → Turn σ → Prop}
    (keeps : ∀ {w t}, J w → allowed w t → t.Keeps D w)
    (also : ∀ {w t}, J w → allowed w t → allowed' w t) {ts : List (Turn σ)}
    (h : Course allowed w ts v) (now : J w) : J v ∧ Course allowed' w ts v := by
  induction h with
  | done => exact ⟨now, .done _⟩
  | turn may leads _ ih =>
    obtain ⟨after, rest⟩ := ih (lasting.leads (keeps now may) leads now)
    exact ⟨after, .turn (also now may) leads rest⟩

theorem Lasting.and {K : World σ → Prop} (lasting : D.Lasting J)
    (apply : ∀ {w e}, K w → D.may w e → K (e.apply w))
    (begun : ∀ {w i b c}, K w → w.body? i = some b → c.isPlay = true → K (w.begin i b c))
    (session : ∀ {w} session, K w → K { w with session }) :
    D.Lasting fun w => J w ∧ K w where
  tame now := lasting.tame now.1
  answers now := lasting.answers now.1
  apply now may := ⟨lasting.apply now.1 may, apply now.2 may⟩
  begun now there play := ⟨lasting.begun now.1 there play, begun now.2 there play⟩
  session now' now := ⟨lasting.session now' now.1, session now' now.2⟩

/-! Foreign code that confines itself to some effects, levels that are loaded included -/

theorem lasting_confined (P : Effect σ → Prop) :
    (within P).Lasting (World.Confined P) where
  tame confined := confined.tame
  answers confined _ := confined.answers _ _
  apply {w e} confined may := by
    have moves : (within P).Moves .reset w (e.apply w) := .single (.inl ⟨e, may, rfl⟩)
    exact confined.moves moves
  begun {w i b c} confined here _ := by
    have moves : (within P).Moves c w (w.begin i b c) := .single (.inr ⟨i, b, here, rfl⟩)
    exact confined.moves moves
  session _ confined := ⟨confined.tame, confined.instances, confined.catalog⟩

end Discipline

/-- Whether all foreign code that comes with a turn confines itself to some effects. -/
def Turn.Within (P : Effect σ → Prop) : Turn σ → Prop
  | .host s => s.Within P
  | .init _ hook => ∀ ids, (hook ids).Within P
  | .poll .. | .drop _ => True

variable {P : Effect σ → Prop} {w v : World σ}

theorem World.strokes_init {l : Level} {hook : Hook σ} (h : w.Confined P)
    (hooked : ∀ ids, (hook ids).Within P) :
    World.Strokes P w ((Turn.init l hook).act.run w).2 :=
  Act.bind_of_trans .trans (h.strokes_initSession hooked) fun _ => .refl

theorem Turn.Leads.confined {t : Turn σ} (leads : t.Leads w v) (within : t.Within P)
    (h : w.Confined P) : v.Confined P := by
  have lasting := Discipline.lasting_confined P
  cases t with
  | init l hook =>
    obtain ⟨-, rfl⟩ := leads
    exact (World.strokes_init h within).confined h
  | host s => exact lasting.leads (t := .host s) within leads h
  | poll r answer => exact lasting.leads (t := .poll r answer) trivial leads h
  | drop r => exact lasting.leads (t := .drop r) trivial leads h

theorem Course.confined {ts : List (Turn σ)} (course : Course (fun _ t => t.Within P) w ts v)
    (h : w.Confined P) : v.Confined P := by
  induction course with
  | done => exact h
  | turn within leads _ ih => exact ih (leads.confined within h)

/-- What the moves of calls, the strokes of loading and changes of the session all keep is kept in
every course of events. -/
theorem Course.keeps {I : World σ → Prop} {allowed : World σ → Turn σ → Prop}
    (moves : ∀ {c w v}, (Discipline.within fun _ => True).Moves c w v → I w → I v)
    (stroke : ∀ {w v}, World.Stroke (fun _ => True) w v → I w → I v)
    (session : ∀ {w} session, I w → I { w with session }) {ts : List (Turn σ)}
    (course : Course allowed w ts v) (now : I w) : I v := by
  have lasting : (Discipline.within fun _ => True).Lasting I :=
    { tame := fun {w} _ => w.confined_true.tame
      answers := fun {w _} _ _ => w.confined_true.answers _ _
      apply := fun {w e} now may =>
        moves (c := .reset) (.single (.inl ⟨e, may, rfl⟩)) now
      begun := fun now here _ => moves (.single (.inr ⟨_, _, here, rfl⟩)) now
      session := session }
  induction course with
  | done => exact now
  | @turn t u _ _ _ _ leads _ ih =>
    refine ih ?_
    cases t with
    | init l hook =>
      obtain ⟨-, rfl⟩ := leads
      have strokes := World.strokes_init (l := l) u.confined_true fun ids => (hook ids).within_true
      exact strokes.keeps stroke now
    | host s => exact lasting.leads (t := .host s) s.within_true leads now
    | poll r answer => exact lasting.leads (t := .poll r answer) trivial leads now
    | drop r => exact lasting.leads (t := .drop r) trivial leads now

namespace Discipline

variable {D : Discipline σ} {w v : World σ}

/-! Nobody but known modules is called -/

/-- From here on foreign code keeps to the discipline, whoever calls it, and the registry is
known. -/
structure Rules (D : Discipline σ) (known : Registry) (w : World σ) : Prop where
  tame : D.Tame w
  answers : ∀ c, c.isPlay = true → D.Answers known.all w c
  registry : w.registry = known

theorem lasting_rules (leave : ∀ {w e}, D.may w e → e.LeavesRegistry) (known : Registry) :
    D.Lasting (D.Rules known) where
  tame rules := rules.tame
  answers rules running := by
    rw [rules.registry]
    exact rules.answers _ running
  apply {w e} rules may := by
    have moves : D.Moves .reset w (e.apply w) := .single (.inl ⟨e, may, rfl⟩)
    exact ⟨moves.tame rules.tame, fun c running => moves.answers (rules.answers c running),
      (moves.registry leave).trans rules.registry⟩
  begun {w i b c} rules here _ := by
    have moves : D.Moves c w (w.begin i b c) := .single (.inr ⟨i, b, here, rfl⟩)
    exact ⟨moves.tame rules.tame, fun c running => moves.answers (rules.answers c running),
      (moves.registry leave).trans rules.registry⟩
  session {w} session rules := by
    have grow := D.grow_session w session
    exact ⟨rules.tame.grow rfl grow,
      fun c running i mem m here => D.ok_grow grow (rules.answers c running i mem m here),
      rules.registry⟩

end Discipline

end Replay
