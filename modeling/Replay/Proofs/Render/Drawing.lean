import Mathlib.Data.List.Nodup
import Mathlib.Logic.Relation
import Replay.Render.Renderer

/-!
What a renderer was asked for. Those who draw on surfaces neither create nor remove any. Where all
surfaces are mounted on one root, removing one takes its elements with it and no other surface; what
is drawn on it afterwards is drawn on nothing, and nobody takes that away.
-/
namespace Replay

theorem Picture.removeSurface_of_leaf {p : Picture} {s : SurfaceId} (live : p.isLive s = true)
    (leaf : ∀ entry ∈ p.surfaces, entry.2.parent = some s → entry.1 = s) :
    p.removeSurface s = p.withoutSurface s := by
  have none : (p.withoutSurface s).children s = [] := by
    unfold children withoutSurface
    rw [List.map_eq_nil_iff, List.filter_filter, List.filter_eq_nil_iff]
    intro entry mem both
    obtain ⟨mounted, other⟩ := Bool.and_eq_true_iff.mp both
    exact of_decide_eq_true other (leaf entry mem (of_decide_eq_true mounted))
  unfold removeSurface
  rw [removeSurfaces, if_pos live]
  dsimp only
  rw [none]
  exact removeSurfaces.eq_1 _

namespace Renderer

/-- The surfaces that were created, first first, each with what it is mounted on and its scope. -/
def raised (r : Renderer) : List (SurfaceId × Option SurfaceId × String) :=
  r.requests.reverse.filterMap fun
    | .createSurface s parent scope => some (s, parent, scope)
    | _ => none

def razed (r : Renderer) : List SurfaceId :=
  r.requests.reverse.filterMap fun
    | .removeSurface s => some s
    | _ => none

inductive Draw : Renderer → Renderer → Prop
  | create (r : Renderer) (s : SurfaceId) (spec : Element.Spec) : Draw r (r.createElement s spec).2
  | update (r : Renderer) (e : ElementId) (spec : Element.Spec) : Draw r (r.updateElement e spec)
  | remove (r : Renderer) (e : ElementId) : Draw r (r.removeElement e)

def Draws : Renderer → Renderer → Prop := Relation.ReflTransGen Draw

structure Later (r r' : Renderer) : Prop where
  requests : r.requests <:+ r'.requests
  issued : r.issued ≤ r'.issued

variable {r r' r'' : Renderer} {s : SurfaceId} {e : ElementId} {spec : Element.Spec}
  {parent : Option SurfaceId} {scope : String}

theorem raised_createSurface :
    (r.createSurface parent scope).2.raised = r.raised ++ [(⟨r.issued + 1⟩, parent, scope)] := by
  unfold raised createSurface
  dsimp only
  rw [List.reverse_cons, List.filterMap_append]
  rfl

theorem razed_createSurface : (r.createSurface parent scope).2.razed = r.razed := by
  unfold razed createSurface
  dsimp only
  rw [List.reverse_cons, List.filterMap_append]
  exact List.append_nil _

theorem raised_removeSurface : (r.removeSurface s).raised = r.raised := by
  unfold raised removeSurface
  dsimp only
  rw [List.reverse_cons, List.filterMap_append]
  exact List.append_nil _

theorem razed_removeSurface : (r.removeSurface s).razed = r.razed ++ [s] := by
  unfold razed removeSurface
  dsimp only
  rw [List.reverse_cons, List.filterMap_append]
  rfl

theorem mem_razed : s ∈ r.razed ↔ .removeSurface s ∈ r.requests := by
  unfold razed
  rw [List.mem_filterMap]
  constructor
  · rintro ⟨q, mem, eq⟩
    cases q <;> cases eq
    exact List.mem_reverse.mp mem
  · exact fun mem => ⟨_, List.mem_reverse.mpr mem, rfl⟩

theorem Draw.surfaces (h : r.Draw r') : r'.raised = r.raised ∧ r'.razed = r.razed := by
  unfold raised razed
  cases h <;>
    refine ⟨(congrArg _ List.reverse_cons).trans ?_, (congrArg _ List.reverse_cons).trans ?_⟩ <;>
    exact List.filterMap_append.trans (List.append_nil _)

theorem Draws.surfaces (h : r.Draws r') : r'.raised = r.raised ∧ r'.razed = r.razed := by
  induction h with
  | refl => exact ⟨rfl, rfl⟩
  | tail _ draw ih => exact ⟨draw.surfaces.1.trans ih.1, draw.surfaces.2.trans ih.2⟩

theorem Later.refl (r : Renderer) : r.Later r := ⟨List.suffix_rfl, Nat.le_refl _⟩

theorem Later.trans (h : r.Later r') (h' : r'.Later r'') : r.Later r'' :=
  ⟨h.requests.trans h'.requests, Nat.le_trans h.issued h'.issued⟩

theorem later_createSurface (r : Renderer) (parent : Option SurfaceId) (scope : String) :
    r.Later (r.createSurface parent scope).2 :=
  ⟨List.suffix_cons _ _, Nat.le_succ _⟩

theorem later_removeSurface (r : Renderer) (s : SurfaceId) : r.Later (r.removeSurface s) :=
  ⟨List.suffix_cons _ _, Nat.le_refl _⟩

theorem Draw.later (h : r.Draw r') : r.Later r' := by
  cases h with
  | create => exact ⟨List.suffix_cons _ _, Nat.le_succ _⟩
  | update | remove => exact ⟨List.suffix_cons _ _, Nat.le_refl _⟩

theorem Draws.later (h : r.Draws r') : r.Later r' := by
  induction h with
  | refl => exact .refl r
  | tail _ draw ih => exact ih.trans draw.later

/-! Pictures of a root and surfaces on it -/

def Sweeps (r : Renderer) (p : Picture) : Prop :=
  ∀ entry ∈ p.elements, entry.2.surface ∈ r.razed → ∃ later spec earlier,
    r.requests = later ++ .createElement entry.1 entry.2.surface spec :: earlier ∧
      .removeSurface entry.2.surface ∈ earlier

/-- A renderer keeps a picture whose surfaces are a root and some others on it, one removed surface
after the other having taken along what was on it. -/
structure Pictures (root : Surface) (live : List Surface) (r : Renderer) (p : Picture) : Prop where
  picture : r.picture = some p
  surfaces : p.surfaces = (root.id, ⟨none, root.scope⟩) ::
    live.map fun s => (s.id, ⟨some root.id, s.scope⟩)
  sweeps : r.Sweeps p

variable {root own : Surface} {live : List Surface} {p p' : Picture}

theorem Sweeps.mono (h : r.Sweeps p) (later : r.Later r') (razed : r'.razed = r.razed)
    (old : ∀ entry ∈ p'.elements, ∃ entry' ∈ p.elements, entry'.1 = entry.1 ∧
      entry'.2.surface = entry.2.surface) : r'.Sweeps p' := by
  intro entry mem gone
  obtain ⟨entry', mem', same, on⟩ := old entry mem
  rw [razed, ← on] at gone
  obtain ⟨newer, spec, earlier, eq, before⟩ := h entry' mem' gone
  obtain ⟨newest, split⟩ := later.requests
  rw [same, on] at eq
  rw [on] at before
  exact ⟨newest ++ newer, spec, earlier, by rw [← split, eq, List.append_assoc], before⟩

theorem Pictures.draw (h : r.Pictures root live p) (draw : r.Draw r') :
    ∃ p', r'.Pictures root live p' := by
  have later := draw.later
  have razed := draw.surfaces.2
  cases draw with
  | create s spec =>
    refine ⟨p.addElement ⟨r.issued + 1⟩ ⟨s, spec⟩, congrArg (Option.map _) h.picture,
      h.surfaces, ?_⟩
    intro entry mem gone
    rcases List.mem_append.mp mem with mem | mem
    · refine Sweeps.mono h.sweeps later razed (fun entry mem => ?_) entry mem gone
      exact ⟨entry, mem, rfl, rfl⟩
    · obtain rfl := List.mem_singleton.mp mem
      rw [razed] at gone
      exact ⟨[], spec, r.requests, rfl, mem_razed.mp gone⟩
  | update e spec =>
    refine ⟨p.updateElement e spec, congrArg (Option.map _) h.picture, h.surfaces, ?_⟩
    refine h.sweeps.mono later razed fun entry mem => ?_
    obtain ⟨old, here, rfl⟩ := List.mem_map.mp mem
    refine ⟨old, here, ?_⟩
    split
    · exact ⟨‹_›, rfl⟩
    · exact ⟨rfl, rfl⟩
  | remove e =>
    refine ⟨p.removeElement e, congrArg (Option.map _) h.picture, h.surfaces, ?_⟩
    refine h.sweeps.mono later razed fun entry mem => ?_
    exact ⟨entry, (List.mem_filter.mp mem).1, rfl, rfl⟩

theorem Pictures.draws (h : r.Pictures root live p) (draws : r.Draws r') :
    ∃ p', r'.Pictures root live p' := by
  induction draws with
  | refl => exact ⟨p, h⟩
  | tail _ draw ih =>
    obtain ⟨p', h'⟩ := ih
    exact h'.draw draw

theorem Pictures.createSurface (h : r.Pictures root live p) (scope : String) :
    (r.createSurface (some root.id) scope).2.Pictures root (live ++ [⟨⟨r.issued + 1⟩, scope⟩])
      (p.addSurface ⟨r.issued + 1⟩ ⟨some root.id, scope⟩) where
  picture := congrArg (Option.map _) h.picture
  surfaces := by
    unfold Picture.addSurface
    rw [h.surfaces, List.map_append]
    rfl
  sweeps := h.sweeps.mono (later_createSurface r _ scope) razed_createSurface
    fun entry mem => ⟨entry, mem, rfl, rfl⟩

theorem Sweeps.removeSurface (h : r.Sweeps p) (s : SurfaceId) :
    (r.removeSurface s).Sweeps (p.withoutSurface s) := by
  intro entry mem gone
  obtain ⟨mem, other⟩ := List.mem_filter.mp mem
  rw [razed_removeSurface, List.mem_append, List.mem_singleton] at gone
  have gone := gone.resolve_right (of_decide_eq_true other)
  obtain ⟨later, spec, earlier, eq, before⟩ := h entry mem gone
  exact ⟨.removeSurface s :: later, spec, earlier, congrArg _ eq, before⟩

theorem Pictures.removeSurface (h : r.Pictures root (own :: live) p)
    (once : (root.id :: (own :: live).map (·.id)).Nodup) :
    (r.removeSurface own.id).Pictures root live (p.withoutSurface own.id) := by
  obtain ⟨apart, once⟩ := List.nodup_cons.mp once
  obtain ⟨fresh, -⟩ := List.nodup_cons.mp once
  have ne : root.id ≠ own.id := fun eq => apart (eq ▸ List.mem_cons_self)
  have there : p.isLive own.id = true := by
    unfold Picture.isLive
    rw [h.surfaces]
    simp
  have leaf : ∀ entry ∈ p.surfaces, entry.2.parent = some own.id → entry.1 = own.id := by
    intro entry mem mounted
    rw [h.surfaces] at mem
    rcases List.mem_cons.mp mem with rfl | mem
    · cases mounted
    · obtain ⟨s, -, rfl⟩ := List.mem_map.mp mem
      exact absurd (Option.some.inj mounted) ne
  refine ⟨?_, ?_, h.sweeps.removeSurface own.id⟩
  · unfold Renderer.removeSurface
    rw [h.picture]
    exact congrArg some (Picture.removeSurface_of_leaf there leaf)
  · unfold Picture.withoutSurface
    dsimp only
    have others : ∀ entry ∈ live.map fun s => (s.id, SurfaceRecord.mk (some root.id) s.scope),
        decide (entry.1 ≠ own.id) = true := by
      intro entry mem
      obtain ⟨s, there, rfl⟩ := List.mem_map.mp mem
      exact decide_eq_true fun same => fresh (List.mem_map.mpr ⟨s, there, same⟩)
    rw [h.surfaces, List.map_cons, List.filter_cons_of_pos (by simpa using ne),
      List.filter_cons_of_neg (by simp), List.filter_eq_self.mpr others]

theorem Pictures.removeRoot (h : r.Pictures root [] p) :
    (r.removeSurface root.id).picture = some (p.withoutSurface root.id) ∧
      (p.withoutSurface root.id).surfaces = [] ∧
      (r.removeSurface root.id).Sweeps (p.withoutSurface root.id) := by
  have there : p.isLive root.id = true := by
    unfold Picture.isLive
    rw [h.surfaces]
    simp
  have leaf : ∀ entry ∈ p.surfaces, entry.2.parent = some root.id → entry.1 = root.id := by
    intro entry mem _
    rw [h.surfaces] at mem
    rw [List.mem_singleton.mp mem]
  refine ⟨?_, ?_, h.sweeps.removeSurface root.id⟩
  · unfold Renderer.removeSurface
    rw [h.picture]
    exact congrArg some (Picture.removeSurface_of_leaf there leaf)
  · unfold Picture.withoutSurface
    dsimp only
    rw [h.surfaces]
    simp

end Renderer

end Replay
