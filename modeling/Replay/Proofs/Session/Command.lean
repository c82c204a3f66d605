import Mathlib.Logic.Relation
import Replay.Session.Basic

/-!
What hosts and foreign code may ask of a session, and what the single changes of a session, those
that polls make included, do to its runs.
-/
namespace Replay

namespace Run

def Purpose.code? : Purpose → Option String
  | .start _ code => some code
  | .resume _ | .nothing => none

theorem generation?_of_start {run : Run} {generation : Nat} {code : String}
    (purpose : run.purpose = .start generation code) : run.generation? = some generation := by
  unfold generation?
  rw [purpose]

end Run

namespace Session

inductive Command where
  | start
  | resume
  | pause
  | setSpeed (speed : UInt64)
  | setCode (code : String)

def obey (s : Session) : Command → Session
  | .start => s.start.2
  | .resume => s.resume.2
  | .pause => s.pause
  | .setSpeed speed => s.setSpeed speed
  | .setCode code => s.setCode code

def lastStart? (s : Session) : Option (RunId × String) :=
  ((s.runs.map (·.purpose)).zipIdx.filterMap fun (p, n) => p.code?.map fun code =>
    (RunId.mk n, code)).getLast?

def load (s : Session) (events : Trace) : Session := { s with events, loaded := true, index := 0 }

def advance (s : Session) (generation index : Nat) : Session :=
  if s.generation = generation then { s with index := index + 1 } else s

def settle (s : Session) (r : RunId) (stage : Run.Stage) : Session :=
  if stage.isOutstanding then s.setStage r stage else s.close r stage

/-- A run that was made for the current generation and is not over. -/
def Plays (s : Session) (r : RunId) : Prop :=
  ∃ run, s.run? r = some run ∧ run.stage.isOutstanding = true ∧
    run.generation? = some s.generation

variable {s : Session} {r q : RunId} {p : Run.Purpose} {stage : Run.Stage}

theorem run?_make : (s.make p).2.run? r =
    if r = ⟨s.runs.length⟩ then some ⟨p, .unpolled⟩ else s.run? r := by
  obtain ⟨n⟩ := r
  simp only [make, run?, RunId.mk.injEq]
  split
  · simp_all
  · rcases Nat.lt_or_gt_of_ne ‹_› with h | h
    · exact List.getElem?_append_left h
    · rw [List.getElem?_eq_none (by simp; omega), List.getElem?_eq_none (by omega)]

theorem run?_fresh : s.run? ⟨s.runs.length⟩ = none :=
  List.getElem?_eq_none (Nat.le_refl _)

theorem ne_of_run? {run : Run} (h : s.run? r = some run) : r ≠ ⟨s.runs.length⟩ := by
  rintro rfl
  rw [run?_fresh] at h
  cases h

theorem run?_setStage : (s.setStage r stage).run? q =
    if q = r then (s.run? r).map fun run => { run with stage } else s.run? q := by
  obtain ⟨m⟩ := q
  obtain ⟨n⟩ := r
  simp only [setStage, run?, RunId.mk.injEq, List.getElem?_modify]
  by_cases h : m = n
  · simp [h]
  · simp [h, Ne.symm h]

theorem close_of_run? {run : Run} (h : s.run? r = some run) : s.close r stage =
    match run.generation? with
    | some g => (s.setStage r stage).release g
    | none => s.setStage r stage := by
  unfold close
  simp only [run?_setStage, if_true, h, Option.map_some, Option.bind_some]
  rfl

theorem release_eq (s : Session) (g : Nat) : s.release g =
    { s with player := if s.player = some g then none else s.player } := by
  unfold release
  split <;> rfl

theorem speed_advance (s : Session) (generation index : Nat) :
    (s.advance generation index).speed = s.speed := by
  unfold advance
  split <;> rfl

end Session

end Replay
