import Replay.Proofs.World.Turn

/-!
Who plays. In every world that a course of events can come to, at most one run plays, the session
knows whether one does, and a loaded trace is gone through event by event until the next start.
-/
namespace Replay

variable {σ : Type}

/-- Whatever the host and the foreign code do, and in whatever order runs are polled and dropped. -/
theorem single_player {catalog : Catalog σ} {renderer : Renderer} {config : Playback.Config}
    {nesting : Nat} {memory : σ} {ts : List (Turn σ)} {w : World σ}
    (h : Course (fun _ _ => True) (.new catalog renderer config nesting memory) ts w) :
    (∀ r q, w.session.Plays r → w.session.Plays q → r = q) ∧
      (∀ g, w.session.player = some g ↔ g = w.session.generation ∧ ∃ r, w.session.Plays r) ∧
      (w.session.isRunning = true ↔ ∃ r, w.session.Plays r) ∧
      (∀ r, ¬w.session.Plays r → (w.session.drop r).player = w.session.player) ∧
      w.session.index ≤ w.session.events.length ∧
      (w.session.loaded = false → w.session.events = [] ∧ w.session.index = 0) ∧
      ∀ (t : Turn σ) (v : World σ), t.Leads w v → w.session.Proceeds v.session := by
  have orderly := h.orderly (World.orderly_new catalog renderer config nesting memory)
  have sound := orderly.sound
  exact ⟨fun _ _ => sound.single, sound.player_iff, sound.isRunning_iff,
    fun _ => sound.player_drop, sound.index_le, sound.unloaded,
    fun _ _ leads => leads.proceeds orderly⟩

theorem single_player_of_two_starts : ∃ w : World Unit,
    Course (fun _ _ => True) (.new ∅ .blind {} 0 ())
      [.host (.start fun _ => .start fun _ => .done), .poll ⟨1⟩ (some (.ok [])), .drop ⟨0⟩] w ∧
      w.session.generation = 2 ∧ w.session.index ≤ w.session.events.length ∧
      ∀ r q, w.session.Plays r → w.session.Plays q → r = q := by
  have h : Course (fun _ _ => True) (World.new (∅ : Catalog Unit) .blind {} 0 ())
      [.host (.start fun _ => .start fun _ => .done), .poll ⟨1⟩ (some (.ok [])), .drop ⟨0⟩] _ :=
    course_after (fun _ _ _ => trivial) rfl
  exact ⟨_, h, rfl, (single_player h).2.2.2.2.1, (single_player h).1⟩

end Replay
