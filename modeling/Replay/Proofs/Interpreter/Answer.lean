import Replay.Workbench.Launch
import Replay.Proofs.Text.Raw

/-!
What is told of a run of an interpreter's program. Several things can go wrong in one run, each for
itself; the answer is the first of them in a fixed order, and a trace only where nothing does.
-/
namespace Replay.Interpreter

open Replay.Text (Trims utf8 utf8Lossy trims_iff trims_trim utf8Lossy_utf8)

/-- An exchange with a program: what came of sending the code, what was collected, and whether all
that was before the deadline. -/
structure Exchange where
  written : Except WriteFault Unit
  output : Except SystemFault Output
  inTime : Bool

/-- A program cannot be started, or there is an exchange with it. -/
abbrev Course := Except SystemFault Exchange

def Outcome.of : Course → Outcome
  | .error f => .notSpawned f
  | .ok x => if x.inTime then .exchanged x.written x.output else .late

inductive Trouble where
  | starting (f : SystemFault)
  | deadline
  | collecting (f : SystemFault)
  | sending (f : SystemFault)
  | ending (e : Ending) (complaint : String)
  | trace (e : Json.ReadError)

namespace Trouble

def place : Trouble → Nat
  | starting _ => 0
  | deadline => 1
  | collecting _ => 2
  | sending _ => 3
  | ending .. => 4
  | trace _ => 5

def report (c : Config) : Trouble → Error
  | starting f => .interpreter ("Failed to spawn " ++ c.program) (some (.system f))
  | deadline => .timeout c.timeout
  | collecting f => .interpreter "Failed to read interpreter output" (some (.system f))
  | sending f => .interpreter "Failed to send code to interpreter" (some (.system f))
  | ending e complaint =>
    .interpreter ("Interpreter exited with " ++ e.describe ++ ": " ++ complaint) none
  | trace e => .interpreter "Interpreter produced an invalid trace" (some (.error (.malformed e)))

/-- Which troubles there are in a course. Code that is not sent is trouble only where the program
does not stop reading, and ends well nevertheless. -/
inductive Befalls : Course → Trouble → Prop
  | starting {f : SystemFault} : Befalls (.error f) (starting f)
  | deadline {written : Except WriteFault Unit} {output : Except SystemFault Output} :
      Befalls (.ok ⟨written, output, false⟩) deadline
  | collecting {written : Except WriteFault Unit} {f : SystemFault} {inTime : Bool} :
      Befalls (.ok ⟨written, .error f, inTime⟩) (collecting f)
  | sending {f : SystemFault} {stdout stderr : List UInt8} {inTime : Bool} :
      Befalls (.ok ⟨.error (.other f), .ok ⟨.exit 0, stdout, stderr⟩, inTime⟩) (sending f)
  | ending {written : Except WriteFault Unit} {e : Ending} {stdout stderr : List UInt8}
      {inTime : Bool} {complaint : String} (bad : e ≠ .exit 0)
      (trims : Trims (utf8Lossy stderr) complaint) :
      Befalls (.ok ⟨written, .ok ⟨e, stdout, stderr⟩, inTime⟩) (ending e complaint)
  | trace {written : Except WriteFault Unit} {ending : Ending} {stdout stderr : List UInt8}
      {inTime : Bool} {e : Json.ReadError} (ill : Trace.parse (utf8Lossy stdout) = .error e) :
      Befalls (.ok ⟨written, .ok ⟨ending, stdout, stderr⟩, inTime⟩) (trace e)

structure First (course : Course) (t : Trouble) : Prop where
  befalls : Befalls course t
  least : ∀ t', Befalls course t' → t.place ≤ t'.place

variable {course : Course} {t t' : Trouble}

theorem Befalls.unique (h : Befalls course t) (h' : Befalls course t')
    (same : t.place = t'.place) : t = t' := by
  cases h with
  | starting => cases h'; rfl
  | deadline => cases h' <;> first | rfl | cases same
  | collecting => cases h' <;> first | rfl | cases same
  | sending => cases h' <;> first | rfl | cases same
  | ending _ trims =>
    cases h' with
    | ending _ trims' => rw [(trims_iff.mp trims).symm.trans (trims_iff.mp trims')]
    | _ => cases same
  | trace ill =>
    cases h' with
    | trace ill' =>
      obtain rfl := Except.error.inj (ill.symm.trans ill')
      rfl
    | _ => cases same

theorem First.unique (first : First course t) (first' : First course t') : t = t' :=
  first.befalls.unique first'.befalls
    ((first.least _ first'.befalls).antisymm (first'.least _ first.befalls))

end Trouble

/-- A course with nothing to tell but its trace. A program need not read its code to the end. -/
inductive Succeeds : Course → Trace → Prop
  | intro {written : Except WriteFault Unit} {stdout stderr : List UInt8} {events : Trace}
      (sent : written = .ok () ∨ written = .error .brokenPipe)
      (parsed : Trace.parse (utf8Lossy stdout) = .ok events) :
      Succeeds (.ok ⟨written, .ok ⟨.exit 0, stdout, stderr⟩, true⟩) events

theorem Succeeds.not_befalls {course : Course} {events : Trace} {t : Trouble}
    (succeeds : Succeeds course events) : ¬Trouble.Befalls course t := by
  obtain ⟨sent, parsed⟩ := succeeds
  intro befalls
  cases befalls with
  | sending => rcases sent with sent | sent <;> cases sent
  | ending bad => exact bad rfl
  | trace ill => cases parsed.symm.trans ill

def Tells (c : Config) (course : Course) : Answer → Prop
  | .ok events => Succeeds course events
  | .error e => ∃ t, Trouble.First course t ∧ Trouble.report c t = e

section Answer

variable {c : Config} {written : Except WriteFault Unit} {ending : Ending}
  {stdout stderr : List UInt8}

theorem tells_of_failing (bad : ending ≠ .exit 0) :
    Tells c (.ok ⟨written, .ok ⟨ending, stdout, stderr⟩, true⟩)
      (c.answer (.exchanged written (.ok ⟨ending, stdout, stderr⟩))) := by
  have failing : ending.isSuccess = false := beq_eq_false_iff_ne.mpr bad
  have answer : c.answer (.exchanged written (.ok ⟨ending, stdout, stderr⟩)) =
      .error (Trouble.report c (.ending ending (Replay.Text.trim (utf8Lossy stderr)))) := by
    unfold Config.answer
    dsimp only
    rw [failing]
    rfl
  rw [answer]
  refine ⟨_, ⟨.ending bad (trims_trim _), fun t befalls => ?_⟩, rfl⟩
  cases befalls with
  | sending => exact absurd rfl bad
  | ending => simp only [Trouble.place, Nat.le_refl]
  | trace => exact Nat.le_add_left _ _

theorem tells_traceOf (sent : written = .ok () ∨ written = .error .brokenPipe) :
    Tells c (.ok ⟨written, .ok ⟨.exit 0, stdout, stderr⟩, true⟩) (traceOf stdout) := by
  unfold traceOf
  cases parsed : Trace.parse (utf8Lossy stdout) with
  | ok events => exact .intro sent parsed
  | error e =>
    refine ⟨_, ⟨.trace parsed, fun t befalls => ?_⟩, rfl⟩
    cases befalls with
    | sending => rcases sent with sent | sent <;> cases sent
    | ending bad => exact absurd rfl bad
    | trace => exact Nat.le_refl _

theorem tells_of_unsent {f : SystemFault} :
    Tells c (.ok ⟨.error (.other f), .ok ⟨.exit 0, stdout, stderr⟩, true⟩)
      (.error (Trouble.report c (.sending f))) := by
  refine ⟨_, ⟨.sending, fun t befalls => ?_⟩, rfl⟩
  cases befalls with
  | sending => exact Nat.le_refl _
  | ending bad => exact absurd rfl bad
  | trace => exact Nat.le_add_left _ _

end Answer

theorem tells_answer (c : Config) : ∀ course : Course, Tells c course (c.answer (.of course))
  | .error _ => ⟨_, ⟨.starting, fun _ _ => Nat.zero_le _⟩, rfl⟩
  | .ok ⟨_, _, false⟩ => ⟨_, ⟨.deadline, fun _ h => by cases h <;> simp [Trouble.place]⟩, rfl⟩
  | .ok ⟨_, .error _, true⟩ => ⟨_, ⟨.collecting, fun _ h => by cases h; exact Nat.le_refl _⟩, rfl⟩
  | .ok ⟨written, .ok ⟨ending, stdout, stderr⟩, true⟩ => by
    by_cases good : ending = .exit 0
    · subst good
      match written with
      | .ok () => exact tells_traceOf (.inl rfl)
      | .error .brokenPipe => exact tells_traceOf (.inr rfl)
      | .error (.other _) => exact tells_of_unsent
    · exact tells_of_failing good

/-- A program's answer is a trace exactly if nothing goes wrong in its run, and then it is the trace
that the program has printed. Otherwise it tells the first trouble. -/
theorem answer_tells_first_trouble (c : Config) :
    (∀ text, utf8Lossy (utf8 text) = text) ∧
    ∀ (runs : Config → String → Course) (code : String),
      let course := runs c code
      let answer := c.interpret (fun c code => .of (runs c code)) code
      ((∃ events, Succeeds course events) ↔ ¬∃ t, Trouble.Befalls course t) ∧
      (∀ events, answer = .ok events ↔ Succeeds course events) ∧
      ∀ e, answer = .error e ↔ ∃ t, Trouble.First course t ∧ Trouble.report c t = e := by
  refine ⟨utf8Lossy_utf8, fun runs code => ?_⟩
  intro course answer
  have tells := tells_answer c course
  have same : answer = c.answer (.of course) := rfl
  rw [← same] at tells
  clear same
  clear_value answer course
  cases answer with
  | ok events =>
    have calm (t : Trouble) : ¬Trouble.Befalls course t := tells.not_befalls
    refine ⟨⟨fun _ ⟨t, h⟩ => calm t h, fun _ => ⟨events, tells⟩⟩, fun events' => ⟨?_, ?_⟩,
      fun e => ⟨nofun, fun ⟨t, first, _⟩ => absurd first.befalls (calm t)⟩⟩
    · rintro ⟨⟩
      exact tells
    · rintro ⟨sent, parsed⟩
      obtain ⟨_, parsed'⟩ := tells
      cases parsed'.symm.trans parsed
      rfl
  | error e =>
    obtain ⟨t, first, rfl⟩ := tells
    have fails (events : Trace) : ¬Succeeds course events :=
      fun succeeds => succeeds.not_befalls first.befalls
    refine ⟨⟨fun ⟨events, h⟩ => absurd h (fails events),
        fun none => absurd ⟨t, first.befalls⟩ none⟩,
      fun events => ⟨nofun, fun h => absurd h (fails events)⟩, fun e => ⟨?_, ?_⟩⟩
    · rintro ⟨⟩
      exact ⟨t, first, rfl⟩
    · rintro ⟨t', first', rfl⟩
      rw [first.unique first']

end Replay.Interpreter
