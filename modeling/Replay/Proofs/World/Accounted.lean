import Replay.Proofs.World.Operation

/-!
What becomes of the boxes of the variables module, whatever foreign code there is. A module is blank
when it is made, and gets no call before; from then on it keeps its accounts through all that is
asked of a visualiser.
-/
namespace Replay

variable {σ : Type}

theorem Effect.draws (e : Effect σ) (w : World σ) : w.renderer.Draws (e.apply w).renderer := by
  cases e with
  | register i =>
    obtain ⟨registry, eq⟩ := apply_register (w := w) (i := i)
    rw [eq]
    exact .refl
  | createElement s spec => exact .single (.create _ s.id spec)
  | updateElement e spec => exact .single (.update _ e spec)
  | removeElement e => exact .single (.remove _ e)
  | _ => exact .refl

theorem World.draws_begin (w : World σ) (i : InstanceId) (b : Body σ) (c : Call) :
    w.renderer.Draws (w.begin i b c).renderer := by
  cases b with
  | foreign m => exact .refl
  | tracker m => exact (Variables.reacts_respond c).draws

/-- Whatever instances are called with, all that is done to the renderer is drawing. -/
theorem Discipline.Moves.draws {D : Discipline σ} {c : Call} {w v : World σ} (h : D.Moves c w v) :
    w.renderer.Draws v.renderer := by
  induction h with
  | refl => exact .refl
  | tail _ step ih =>
    rcases step with ⟨e, -, rfl⟩ | ⟨i, b, -, rfl⟩
    · exact ih.trans (e.draws _)
    · exact ih.trans (World.draws_begin _ i b c)

namespace World

variable {P : Effect σ → Prop} {u v w : World σ} {i : InstanceId} {b : Body σ} {c : Call}
  {o : Operation σ} {os : List (Operation σ)} {loaded : Option String}

/-- Each variables module keeps its accounts, from its first call on. -/
structure Accounted (w : World σ) : Prop where
  blank : ∀ {name : String} {m : Variables}, w.visualiser.catalog[name]? = some (.tracker m) →
    m = .blank
  unborn : ∀ {i : InstanceId}, w.body? i = none → w.calls i = []
  drew : ∀ {i : InstanceId} {m : Variables}, w.body? i = some (.tracker m) →
    ∃ mine, Variables.Drew (w.calls i) mine m w.renderer

theorem Accounted.frame (h : w.Accounted)
    (catalog : v.visualiser.catalog = w.visualiser.catalog) (instances : v.instances = w.instances)
    (journal : v.journal = w.journal) (later : w.renderer.Later v.renderer) : v.Accounted := by
  have body (i : InstanceId) : v.body? i = w.body? i := congrArg (·[i.number]?) instances
  have calls (i : InstanceId) : v.calls i = w.calls i := by
    unfold World.calls
    rw [journal]
  refine ⟨fun there => h.blank (catalog ▸ there), fun {i} none => ?_, fun {i m} here => ?_⟩
  · rw [calls, h.unborn (body i ▸ none)]
  · rw [calls]
    exact (h.drew (body i ▸ here)).imp fun _ drew => drew.others later

theorem Accounted.apply (h : w.Accounted) (e : Effect σ) : (e.apply w).Accounted := by
  refine ⟨fun there => h.blank (Effect.visualiser_apply ▸ there), fun {i} none => ?_,
    fun {i m} here => ?_⟩
  · rw [Effect.calls_apply, h.unborn (Effect.body?_apply ▸ none)]
  · rw [Effect.calls_apply]
    exact (h.drew (Effect.body?_apply ▸ here)).imp fun _ drew => drew.others (e.draws w).later

theorem Accounted.begin (h : w.Accounted) (there : w.body? i = some b) :
    (w.begin i b c).Accounted := by
  have later := (w.draws_begin i b c).later
  have same : (w.begin i b c).visualiser = w.visualiser := by cases b <;> rfl
  refine ⟨fun made => h.blank (same ▸ made), fun {j} none => ?_, fun {j m} here => ?_⟩
  · have ne : i ≠ j := by
      rintro rfl
      rw [← cast_eq_none, cast_begin there, cast_eq_none, there] at none
      cases none
    rw [calls_begin, if_neg ne]
    exact h.unborn (body?_begin_of_ne ne ▸ none)
  · rw [calls_begin]
    by_cases same : i = j
    · subst same
      rw [if_pos rfl]
      cases b with
      | foreign m' => cases there.symm.trans here
      | tracker m' =>
        cases here.symm.trans (body?_begin there)
        obtain ⟨mine, drew⟩ := h.drew there
        obtain ⟨asked, asks⟩ := later.requests
        exact ⟨asked ++ mine, drew.answers c asks.symm⟩
    · rw [if_neg same]
      exact (h.drew (body?_begin_of_ne same ▸ here)).imp fun _ drew => drew.others later

theorem Accounted.moves {D : Discipline σ} (h : w.Accounted) (moves : D.Moves c w v) :
    v.Accounted := by
  induction moves with
  | refl => exact h
  | tail _ step ih =>
    rcases step with ⟨e, -, rfl⟩ | ⟨i, b, there, rfl⟩
    · exact ih.apply e
    · exact ih.begin there

theorem later_release (mount : SurfaceHandle) (r : Renderer) : r.Later (mount.release r).2 := by
  unfold SurfaceHandle.release
  split
  · exact .refl r
  · exact Renderer.later_removeSurface r mount.surface.id

theorem later_releaseAll (mounts : List SurfaceHandle) : ∀ r : Renderer,
    r.Later (releaseAll r mounts) := by
  induction mounts with
  | nil => exact .refl
  | cons mount rest ih => exact fun r => (later_release mount r).trans (ih (mount.release r).2)

theorem Accounted.stroke (h : w.Accounted) (stroke : Stroke P w v) : v.Accounted := by
  cases stroke with
  | called _ moves => exact h.moves moves
  | cleared => exact h.frame rfl rfl rfl (later_releaseAll _ _)
  | furnished _ id => exact h.frame rfl rfl rfl (Renderer.later_createSurface _ _ _)
  | withdrawn _ mount => exact h.frame rfl rfl rfl (later_release mount _)
  | @entered _ b made =>
    obtain ⟨registry, eq⟩ := entering_eq w b
    rw [eq]
    refine ⟨h.blank, fun {i} missing => h.unborn ?_, fun {i m} here => ?_⟩
    · have missing : (w.instances ++ [b])[i.number]? = none := missing
      rw [List.getElem?_eq_none_iff, List.length_append] at missing
      exact List.getElem?_eq_none (Nat.le_of_add_right_le missing)
    · rcases body?_addInstance here with old | ⟨none, rfl⟩
      · exact h.drew old
      · obtain ⟨name, made⟩ := made
        cases h.blank made
        have calls := h.unborn none
        exact ⟨[], calls ▸ .blank w.renderer⟩
  | _ => exact h.frame rfl rfl rfl (.refl _)

theorem Accounted.leads (h : w.Accounted) (leads : o.Leads w loaded v) : v.Accounted :=
  leads.keeps (fun stroke h => h.stroke stroke) (fun moves h => h.moves moves) h

theorem Accounted.performance {allowed : World σ → Operation σ → Prop} (h : w.Accounted)
    (run : Performance allowed w os v) : v.Accounted := by
  induction run with
  | done => exact h
  | step _ leads _ ih => exact ih (h.leads leads)

end World

end Replay
