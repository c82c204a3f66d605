import Replay.Proofs.Session.Timeline

/-!
How sessions come about, one change after the other, and which start was the latest on the way.
-/
namespace Replay.Session

/-- A single change of a session: what is asked of it, as far as that is allowed, or what polls and
drops of its runs do to it. -/
inductive Change (allowed : Command → Prop) (s : Session) : Session → Prop
  | obeyed {c : Command} (may : allowed c) : Change allowed s (s.obey c)
  | loaded (events : Trace) : Change allowed s (s.load events)
  | advanced (generation index : Nat) : Change allowed s (s.advance generation index)
  | settled (r : RunId) (stage : Run.Stage) : Change allowed s (s.settle r stage)

def Evolves (allowed : Command → Prop) : Session → Session → Prop :=
  Relation.ReflTransGen (Change allowed)

/-- From one session another one comes about by way of a start, and of no later one. -/
structure LatestStart (origin s t : Session) : Prop where
  before : origin.Evolves (fun _ => True) s
  since : s.start.2.Evolves (· ≠ .start) t

variable {o s t : Session} {r : RunId} {run : Run} {generation : Nat} {c : Command}
  {allowed : Command → Prop}

theorem lastStart?_obey (ne : c ≠ .start) : (s.obey c).lastStart? = s.lastStart? := by
  cases c with
  | start => exact absurd rfl ne
  | resume =>
    unfold obey
    rcases resume_cases s with ⟨-, eq⟩ | ⟨-, -, eq⟩ | ⟨-, -, -, -, eq⟩ <;> rw [eq] <;>
      exact lastStart?_make
  | pause | setSpeed | setCode => rfl

theorem Change.lastStart? (h : Change (· ≠ .start) s t) : t.lastStart? = s.lastStart? := by
  cases h with
  | obeyed ne => exact lastStart?_obey ne
  | loaded => rfl
  | advanced =>
    rw [advance_eq]
    rfl
  | settled => exact lastStart?_settle

theorem Evolves.lastStart? (h : s.Evolves (· ≠ .start) t) : t.lastStart? = s.lastStart? := by
  induction h with
  | refl => rfl
  | tail _ change ih => exact change.lastStart?.trans ih

theorem LatestStart.lastStart? (h : LatestStart o s t) :
    t.lastStart? = some (s.start.1, s.code) :=
  h.since.lastStart?.trans lastStart?_make

theorem Change.start_or (h : Change allowed s t) : t = s.start.2 ∨ Change (· ≠ .start) s t := by
  cases h with
  | @obeyed c =>
    cases c with
    | start => exact .inl rfl
    | _ => exact .inr (.obeyed nofun)
  | loaded events => exact .inr (.loaded events)
  | advanced generation index => exact .inr (.advanced generation index)
  | settled r stage => exact .inr (.settled r stage)

theorem Evolves.latestStart (h : o.Evolves (fun _ => True) t) :
    o.Evolves (· ≠ .start) t ∨ ∃ s, LatestStart o s t := by
  induction h with
  | refl => exact .inl .refl
  | @tail u _ before change ih =>
    rcases change.start_or with rfl | quiet
    · exact .inr ⟨u, before, .refl⟩
    · exact ih.imp (·.tail quiet) fun ⟨s, latest⟩ => ⟨s, latest.before, latest.since.tail quiet⟩

/-! What polls, drops and requests come to -/

theorem Steered.evolves (h : Steered allowed s t) : s.Evolves allowed t :=
  Relation.ReflTransGen.mono (fun _ _ ⟨_, may, eq⟩ => eq ▸ .obeyed may) _ _ h

theorem Glanced.evolves (h : s.Glanced generation t) : s.Evolves (fun _ => True) t := by
  obtain ⟨u, steered, rfl | ⟨-, -, rfl⟩⟩ := h
  · exact steered.evolves
  · exact steered.evolves.tail (.advanced _ _)

theorem Progressed.evolves (h : Progressed run s t) : s.Evolves (fun _ => True) t := by
  obtain ⟨s₀, s₁, generation, from', steered, glanced⟩ := h
  have taken : s.Evolves (fun _ => True) s₀ := by
    rcases from' with rfl | ⟨_, events, -, -, rfl⟩
    · exact .refl
    · exact .single (.loaded events)
  exact taken.trans (steered.evolves.trans glanced.evolves)

theorem evolves_drop (s : Session) (r : RunId) : s.Evolves allowed (s.drop r) := by
  rcases drop_cases s r with eq | eq <;> rw [eq]
  · exact .refl
  · exact .single (.settled r _)

end Replay.Session
