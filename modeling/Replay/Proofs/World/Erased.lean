import Replay.Proofs.Render.Subtree
import Replay.Proofs.World.Accounted
import Replay.Proofs.World.Lasting

/-!
Elements that are gone. Numbers are given out once, so an element that was removed after it had been
made does not come back, whatever is asked of the renderer later on. Of the boxes of a variables
module that was reset last, none is there any more.
-/
namespace Replay

variable {σ : Type}

namespace Renderer

/-- Whether the number of an element was given out, and the picture, if one is kept, does not have
it. -/
structure Gone (r : Renderer) (e : ElementId) : Prop where
  issued : e.number ≤ r.issued
  hidden : ∀ p, r.picture = some p → ∀ entry ∈ p.elements, entry.1 ≠ e

structure Forgets (r : Renderer) : Prop where
  issued : ∀ e ∈ made r.requests, e.number ≤ r.issued
  gone : ∀ e after before, r.requests = after ++ .removeElement e :: before → e ∈ made before →
    r.Gone e

variable {r r' : Renderer} {q : Request} {e : ElementId} {f : Picture → Picture}

theorem Gone.draw (h : r.Gone e) (issued : r.issued ≤ r'.issued)
    (picture : r'.picture = r.picture.map f)
    (old : ∀ p, ∀ entry ∈ (f p).elements,
      r.issued < entry.1.number ∨ entry.1 ∈ p.elements.map Prod.fst) : r'.Gone e := by
  refine ⟨Nat.le_trans h.issued issued, fun p shown entry mem => ?_⟩
  rw [picture] at shown
  obtain ⟨before, kept, rfl⟩ := Option.map_eq_some_iff.mp shown
  rcases old before entry mem with new | was
  · rintro rfl
    exact absurd h.issued (Nat.not_le_of_lt new)
  · obtain ⟨same, there, eq⟩ := List.mem_map.mp was
    rw [← eq]
    exact h.hidden before kept same there

/-- One more request: it makes elements only under a new number, and what it removes is gone. -/
theorem Forgets.ask (h : r.Forgets) (asks : r'.requests = q :: r.requests)
    (issued : r.issued ≤ r'.issued) (picture : r'.picture = r.picture.map f)
    (new : ∀ e s spec, q = .createElement e s spec → e.number ≤ r'.issued)
    (old : ∀ p, ∀ entry ∈ (f p).elements,
      r.issued < entry.1.number ∨ entry.1 ∈ p.elements.map Prod.fst)
    (removed : ∀ e, q = .removeElement e → ∀ p, ∀ entry ∈ (f p).elements, entry.1 ≠ e) :
    r'.Forgets := by
  constructor
  · intro e mem
    obtain ⟨s, spec, mem⟩ := mem_made.mp mem
    rw [asks] at mem
    rcases List.mem_cons.mp mem with here | before
    · exact new e s spec here.symm
    · exact Nat.le_trans (h.issued e (mem_made.mpr ⟨s, spec, before⟩)) issued
  · intro e after before split there
    rw [asks] at split
    cases after with
    | nil =>
      obtain ⟨rfl, rfl⟩ := List.cons.inj split
      refine ⟨Nat.le_trans (h.issued e there) issued, fun p shown entry mem => ?_⟩
      rw [picture] at shown
      obtain ⟨p, -, rfl⟩ := Option.map_eq_some_iff.mp shown
      exact removed e rfl p entry mem
    | cons last after =>
      exact (h.gone e after before (List.cons.inj split).2 there).draw issued picture old

theorem Draw.forgets (h : r.Draw r') (forgets : r.Forgets) : r'.Forgets := by
  cases h with
  | create s spec =>
    refine forgets.ask rfl (Nat.le_succ _) rfl ?_ (fun p entry mem => ?_) nofun
    · rintro e _ _ ⟨⟩
      exact Nat.le_refl _
    · rcases List.mem_append.mp mem with old | new
      · exact .inr (List.mem_map_of_mem old)
      · rw [List.mem_singleton.mp new]
        exact .inl (Nat.lt_succ_self _)
  | update e spec =>
    refine forgets.ask rfl (Nat.le_refl _) rfl nofun (fun p entry mem => .inr ?_) nofun
    obtain ⟨old, was, rfl⟩ := List.mem_map.mp mem
    split
    · exact List.mem_map.mpr ⟨old, was, ‹_›⟩
    · exact List.mem_map_of_mem was
  | remove e =>
    refine forgets.ask rfl (Nat.le_refl _) rfl nofun (fun p entry mem => ?_) ?_
    · exact .inr (List.mem_map_of_mem (List.mem_filter.mp mem).1)
    · rintro _ ⟨⟩ p entry mem
      exact of_decide_eq_true (List.mem_filter.mp mem).2

theorem Draws.forgets (h : r.Draws r') (forgets : r.Forgets) : r'.Forgets := by
  induction h with
  | refl => exact forgets
  | tail _ draw ih => exact draw.forgets ih

theorem Forgets.createSurface (h : r.Forgets) (parent : Option SurfaceId) (scope : String) :
    (r.createSurface parent scope).2.Forgets :=
  h.ask rfl (Nat.le_succ _) rfl nofun (fun _ _ mem => .inr (List.mem_map_of_mem mem)) nofun

theorem Forgets.removeSurface (h : r.Forgets) (s : SurfaceId) : (r.removeSurface s).Forgets := by
  refine h.ask rfl (Nat.le_refl _) rfl nofun (fun p entry mem => .inr ?_) nofun
  rw [Picture.removeSurface_eq] at mem
  exact List.mem_map_of_mem (List.mem_filter.mp mem).1

theorem forgets_recording : recording.Forgets :=
  ⟨nofun, fun _ after _ split => by cases after <;> cases split⟩

theorem forgets_blind : blind.Forgets :=
  ⟨nofun, fun _ after _ split => by cases after <;> cases split⟩

end Renderer

namespace Variables

variable {calls : List Call} {mine asked : List Renderer.Request} {m m' : Variables}
  {r r' : Renderer} {e : ElementId}

theorem Reacts.removes (h : m.Reacts r m' r') (asks : r'.requests = asked ++ r.requests)
    (mem : .removeElement e ∈ asked) : e ∈ m.shown := by
  have only (qs : List Renderer.Request) (asks' : r'.requests = qs ++ r.requests) :
      .removeElement e ∈ qs := by
    rwa [← List.append_cancel_right (asks.symm.trans asks')]
  cases h with
  | kept => cases only [] rfl
  | renewed box spec => simpa using only [.updateElement box spec] rfl
  | boxed s spec => simpa using only [.createElement ⟨r.issued + 1⟩ s spec] rfl
  | cleared =>
    obtain ⟨e, there, ⟨⟩⟩ := List.mem_map.mp
      (List.mem_reverse.mp (only _ (Renderer.requests_removeAll m.shown r)))
    exact there

theorem Drew.ordered (h : Drew calls mine m r) : ∀ e after before,
    mine = after ++ .removeElement e :: before → e ∈ Renderer.made before := by
  induction h with
  | blank => exact fun _ after _ split => by cases after <;> cases split
  | others _ _ ih => exact ih
  | @answers _ mine m r asked drew c asks ih =>
    intro e after before split
    rcases List.append_eq_append_iff.mp split with ⟨between, -, old⟩ | ⟨last, now, rest⟩
    · exact ih e between before old
    · cases last with
      | nil => exact ih e [] before rest.symm
      | cons q last =>
        obtain ⟨rfl, rfl⟩ := List.cons.inj rest
        have removed : .removeElement e ∈ asked := by
          rw [now]
          exact List.mem_append_right _ List.mem_cons_self
        have shown := (reacts_respond c).removes asks removed
        refine Renderer.made_append ▸ List.mem_append_right _ ?_
        exact drew.accounts.perm.mem_iff.mpr (List.mem_append_right _ shown)

theorem Drew.cleared (h : Drew calls mine m r) (last : calls.getLast? = some .reset) :
    m.data = ∅ ∧ m.boxes = ∅ := by
  induction h with
  | blank r => cases last
  | others _ _ ih => exact ih last
  | answers _ c _ _ =>
    rw [List.getLast?_concat] at last
    cases last
    exact ⟨rfl, rfl⟩

/-- The boxes that a module made until it was reset were removed, each once, and are gone. -/
theorem Drew.erased (h : Drew calls mine m r) (last : calls.getLast? = some .reset)
    (forgets : r.Forgets) (made : e ∈ Renderer.made mine) :
    mine.count (.removeElement e) = 1 ∧ r.Gone e := by
  have accounts := h.accounts
  have perm := accounts.perm
  have bare : m.shown = [] := by
    unfold shown
    rw [(h.cleared last).2]
    rfl
  rw [bare, List.append_nil] at perm
  have once : mine.count (.removeElement e) = 1 := by
    rw [← Renderer.count_unmade, ← perm.count_eq]
    exact List.count_eq_one_of_mem accounts.nodup made
  have removed : .removeElement e ∈ mine := List.count_pos_iff.mp (once ▸ Nat.one_pos)
  obtain ⟨after, before, split⟩ := List.append_of_mem removed
  have first := h.ordered e after before split
  -- among the requests of all, the removal is behind the making too
  have asked := accounts.asked
  rw [split] at asked
  obtain ⟨later, others, eq, -, asked⟩ := List.append_sublist_iff.mp asked
  obtain ⟨around, earlier, rfl, here, rest⟩ := List.cons_sublist_iff.mp asked
  obtain ⟨behind, ahead, rfl⟩ := List.append_of_mem here
  refine ⟨once, forgets.gone e (later ++ behind) (ahead ++ earlier) ?_ ?_⟩
  · rw [eq]
    simp
  · rw [Renderer.made_append]
    exact List.mem_append_right _ ((rest.filterMap _).subset first)

end Variables

namespace World

variable {P : Effect σ → Prop} {w v : World σ}

theorem forgets_release (mount : SurfaceHandle) {r : Renderer} (h : r.Forgets) :
    (mount.release r).2.Forgets := by
  unfold SurfaceHandle.release
  split
  · exact h
  · exact h.removeSurface mount.surface.id

theorem forgets_releaseAll (mounts : List SurfaceHandle) : ∀ {r : Renderer}, r.Forgets →
    (releaseAll r mounts).Forgets := by
  induction mounts with
  | nil => exact id
  | cons mount rest ih => exact fun h => ih (forgets_release mount h)

theorem Stroke.forgets (h : Stroke P w v) (forgets : w.renderer.Forgets) : v.renderer.Forgets := by
  cases h with
  | called _ moves => exact moves.draws.forgets forgets
  | cleared => exact forgets_releaseAll _ forgets
  | furnished _ id => exact forgets.createSurface _ _
  | withdrawn _ mount => exact forgets_release mount forgets
  | @entered _ b _ =>
    obtain ⟨registry, eq⟩ := entering_eq w b
    rw [eq]
    exact forgets
  | _ => exact forgets

theorem forgets_new {catalog : Catalog σ} {renderer : Renderer} {config : Playback.Config}
    {nesting : Nat} {memory : σ} (draws : renderer = .recording ∨ renderer = .blind) :
    (World.new catalog renderer config nesting memory).renderer.Forgets := by
  rcases draws with rfl | rfl
  · exact Renderer.forgets_recording.createSurface none rootScope
  · exact Renderer.forgets_blind.createSurface none rootScope

theorem Accounted.erased {i : InstanceId} {m : Variables} (h : w.Accounted)
    (forgets : w.renderer.Forgets) (here : w.body? i = some (.tracker m))
    (last : (w.calls i).getLast? = some .reset) :
    m.data = ∅ ∧ m.boxes = ∅ ∧ ∃ mine, Variables.Drew (w.calls i) mine m w.renderer ∧
      ∀ box ∈ Renderer.made mine,
        mine.count (.removeElement box) = 1 ∧ w.renderer.Gone box := by
  obtain ⟨mine, drew⟩ := h.drew here
  obtain ⟨data, boxes⟩ := drew.cleared last
  exact ⟨data, boxes, mine, drew, fun box made => drew.erased last forgets made⟩

end World

variable {allowed : World σ → Turn σ → Prop} {w v : World σ} {ts : List (Turn σ)}

theorem Course.accounted (course : Course allowed w ts v) (h : w.Accounted) : v.Accounted :=
  course.keeps (fun moves h => h.moves moves) (fun stroke h => h.stroke stroke)
    (fun _ h => h.frame rfl rfl rfl (.refl _)) h

theorem Course.forgets (course : Course allowed w ts v) (h : w.renderer.Forgets) :
    v.renderer.Forgets :=
  course.keeps (I := fun w => w.renderer.Forgets) (fun moves h => moves.draws.forgets h)
    World.Stroke.forgets (fun _ => id) h

end Replay
