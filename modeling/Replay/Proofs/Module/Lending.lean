import Replay.Proofs.Module.Handles

/-!
Who may draw where. Surfaces and elements are numbered together. A number may be in anyone's hands
unless it is that of the surface of the variables module, or of something on it; and what is done to
a picture with such numbers leaves that surface as it is.
-/
namespace Replay

namespace Renderer

/-- A renderer keeps a picture in which no element stands twice, and nothing that is still to be
numbered. -/
structure Keeps (r : Renderer) (p : Picture) : Prop where
  picture : r.picture = some p
  nodup : (p.elements.map (·.1)).Nodup
  issued : ∀ entry ∈ p.elements, entry.1.number ≤ r.issued
  mounted : ∀ entry ∈ p.surfaces, entry.1.number ≤ r.issued

def Open (r : Renderer) (p : Picture) (number : Nat) : Prop :=
  number ≤ r.issued ∧
    ∀ entry ∈ p.surfaces, entry.1.number = number → entry.2.scope ≠ Variables.name

def Lends (r : Renderer) (number : Nat) : Prop :=
  ∃ p, r.Keeps p ∧ r.Open p number ∧
    ∀ entry ∈ p.elements, entry.1.number = number → r.Open p entry.2.surface.number

def Evolves (r r' : Renderer) : Prop :=
  ∀ p, r.Keeps p → ∃ p', r'.Keeps p' ∧ r.issued ≤ r'.issued ∧
    (∀ entry ∈ p'.surfaces, entry ∈ p.surfaces ∨ r.issued < entry.1.number) ∧
    ∀ entry ∈ p'.elements, entry.1.number ≤ r.issued →
      ∃ old ∈ p.elements, old.1 = entry.1 ∧ old.2.surface = entry.2.surface

variable {r r' r'' : Renderer} {p q : Picture} {e : ElementId} {s t : SurfaceId}
  {spec : Element.Spec} {parent : Option SurfaceId} {scope : String} {number : Nat}

theorem Keeps.unique (h : r.Keeps p) (h' : r.Keeps q) : p = q :=
  Option.some.inj (h.picture.symm.trans h'.picture)

theorem Keeps.fresh (h : r.Keeps p) : ∀ entry ∈ p.elements, entry.1 ≠ ⟨r.issued + 1⟩ := by
  intro entry mem eq
  have le := h.issued entry mem
  rw [eq] at le
  exact absurd le (Nat.not_succ_le_self _)

theorem keeps_createElement (h : r.Keeps p) (s : SurfaceId) (spec : Element.Spec) :
    (r.createElement s spec).2.Keeps (p.addElement ⟨r.issued + 1⟩ ⟨s, spec⟩) := by
  unfold createElement Picture.addElement
  constructor
  · dsimp only
    rw [h.picture]
    rfl
  · dsimp only
    rw [List.map_append]
    refine List.nodup_append.mpr ⟨h.nodup, List.pairwise_singleton _ _, ?_⟩
    intro a mem b mem' eq
    obtain ⟨entry, old, rfl⟩ := List.mem_map.mp mem
    exact h.fresh entry old (eq.trans (List.mem_singleton.mp mem'))
  · intro entry mem
    rcases List.mem_append.mp mem with mem | mem
    · exact Nat.le_succ_of_le (h.issued entry mem)
    · obtain rfl := List.mem_singleton.mp mem
      exact Nat.le_refl _
  · exact fun entry mem => Nat.le_succ_of_le (h.mounted entry mem)

theorem keeps_updateElement (h : r.Keeps p) (e : ElementId) (spec : Element.Spec) :
    (r.updateElement e spec).Keeps (p.updateElement e spec) := by
  have same : (p.updateElement e spec).elements.map (·.1) = p.elements.map (·.1) := by
    unfold Picture.updateElement
    rw [List.map_map]
    refine List.map_congr_left fun entry _ => ?_
    dsimp only [Function.comp]
    split
    · exact Eq.symm ‹_›
    · rfl
  constructor
  · unfold updateElement
    rw [h.picture]
    rfl
  · rw [same]
    exact h.nodup
  · intro entry mem
    have mem' := List.mem_map_of_mem (f := Prod.fst) mem
    rw [same] at mem'
    obtain ⟨old, here, eq⟩ := List.mem_map.mp mem'
    rw [← eq]
    exact h.issued old here
  · exact h.mounted

theorem keeps_removeElement (h : r.Keeps p) (e : ElementId) :
    (r.removeElement e).Keeps (p.removeElement e) := by
  constructor
  · unfold removeElement
    rw [h.picture]
    rfl
  · exact h.nodup.sublist (List.filter_sublist.map _)
  · exact fun entry mem => h.issued entry (List.mem_filter.mp mem).1
  · exact h.mounted

theorem keeps_createSurface (h : r.Keeps p) (parent : Option SurfaceId) (scope : String) :
    (r.createSurface parent scope).2.Keeps (p.addSurface ⟨r.issued + 1⟩ ⟨parent, scope⟩) := by
  unfold createSurface Picture.addSurface
  constructor
  · dsimp only
    rw [h.picture]
    rfl
  · exact h.nodup
  · exact fun entry mem => Nat.le_succ_of_le (h.issued entry mem)
  · intro entry mem
    rcases List.mem_append.mp mem with mem | mem
    · exact Nat.le_succ_of_le (h.mounted entry mem)
    · obtain rfl := List.mem_singleton.mp mem
      exact Nat.le_refl _

theorem keeps_recording : recording.Keeps .empty where
  picture := rfl
  nodup := List.nodup_nil
  issued := nofun
  mounted := nofun

/-! Whoever draws -/

theorem Evolves.refl (r : Renderer) : r.Evolves r :=
  fun p h => ⟨p, h, Nat.le_refl _, fun _ => .inl, fun entry mem _ => ⟨entry, mem, rfl, rfl⟩⟩

theorem Evolves.trans (h : r.Evolves r') (h' : r'.Evolves r'') : r.Evolves r'' := by
  intro p keeps
  obtain ⟨p', keeps', le, surfaces, elements⟩ := h p keeps
  obtain ⟨p'', keeps'', le', surfaces', elements'⟩ := h' p' keeps'
  refine ⟨p'', keeps'', Nat.le_trans le le', ?_, ?_⟩
  · intro entry mem
    rcases surfaces' entry mem with mem | lt
    · exact surfaces entry mem
    · exact .inr (Nat.lt_of_le_of_lt le lt)
  · intro entry mem old
    obtain ⟨entry', mem', same', surface'⟩ := elements' entry mem (Nat.le_trans old le)
    obtain ⟨first, here, same, surface⟩ := elements entry' mem' (same' ▸ old)
    exact ⟨first, here, same.trans same', surface.trans surface'⟩

theorem Evolves.lends (h : r.Evolves r') (lends : r.Lends number) : r'.Lends number := by
  obtain ⟨p, keeps, opens, elements⟩ := lends
  obtain ⟨p', keeps', le, surfaces', elements'⟩ := h p keeps
  have still {n : Nat} (opens : r.Open p n) : r'.Open p' n := by
    refine ⟨Nat.le_trans opens.1 le, fun entry mem eq => ?_⟩
    rcases surfaces' entry mem with mem | lt
    · exact opens.2 entry mem eq
    · rw [eq] at lt
      exact absurd opens.1 (Nat.not_le_of_lt lt)
  refine ⟨p', keeps', still opens, fun entry mem eq => ?_⟩
  obtain ⟨old, here, same, surface⟩ := elements' entry mem (eq ▸ opens.1)
  rw [← surface]
  exact still (elements old here (same ▸ eq))

theorem evolves_createElement (r : Renderer) (s : SurfaceId) (spec : Element.Spec) :
    r.Evolves (r.createElement s spec).2 := by
  intro p h
  refine ⟨_, keeps_createElement h s spec, Nat.le_succ _, fun _ => .inl, fun entry mem old => ?_⟩
  rcases List.mem_append.mp mem with mem | mem
  · exact ⟨entry, mem, rfl, rfl⟩
  · rw [List.mem_singleton.mp mem] at old
    exact absurd old (Nat.not_succ_le_self _)

theorem evolves_updateElement (r : Renderer) (e : ElementId) (spec : Element.Spec) :
    r.Evolves (r.updateElement e spec) := by
  intro p h
  refine ⟨_, keeps_updateElement h e spec, Nat.le_refl _, fun _ => .inl, fun entry mem _ => ?_⟩
  obtain ⟨old, here, rfl⟩ := List.mem_map.mp mem
  refine ⟨old, here, ?_⟩
  split
  · exact ⟨‹_›, rfl⟩
  · exact ⟨rfl, rfl⟩

theorem evolves_removeElement (r : Renderer) (e : ElementId) : r.Evolves (r.removeElement e) :=
  fun _ h => ⟨_, keeps_removeElement h e, Nat.le_refl _, fun _ => .inl,
    fun entry mem _ => ⟨entry, (List.mem_filter.mp mem).1, rfl, rfl⟩⟩

theorem evolves_createSurface (r : Renderer) (parent : Option SurfaceId) (scope : String) :
    r.Evolves (r.createSurface parent scope).2 := by
  intro p h
  refine ⟨_, keeps_createSurface h parent scope, Nat.le_succ _, fun entry mem => ?_,
    fun entry mem _ => ⟨entry, mem, rfl, rfl⟩⟩
  rcases List.mem_append.mp mem with mem | mem
  · exact .inl mem
  · rw [List.mem_singleton.mp mem]
    exact .inr (Nat.lt_succ_self _)

theorem Draws.evolves (h : r.Draws r') : r.Evolves r' := by
  induction h with
  | refl => exact .refl r
  | tail _ draw ih =>
    refine ih.trans ?_
    cases draw with
    | create s spec => exact evolves_createElement _ s spec
    | update e spec => exact evolves_updateElement _ e spec
    | remove e => exact evolves_removeElement _ e

/-! New numbers -/

theorem lends_createElement (lends : r.Lends s.number) :
    (r.createElement s spec).2.Lends (r.createElement s spec).1.number := by
  obtain ⟨p, keeps, opens, -⟩ := lends
  have last : (r.createElement s spec).2.Open (p.addElement ⟨r.issued + 1⟩ ⟨s, spec⟩)
      (r.issued + 1) :=
    ⟨Nat.le_refl _, fun entry mem eq => absurd (eq ▸ keeps.mounted entry mem)
      (Nat.not_succ_le_self _)⟩
  refine ⟨_, keeps_createElement keeps s spec, last, fun entry mem eq => ?_⟩
  rcases List.mem_append.mp mem with mem | mem
  · exact absurd (eq ▸ keeps.issued entry mem) (Nat.not_succ_le_self _)
  · rw [List.mem_singleton.mp mem]
    exact ⟨Nat.le_succ_of_le opens.1, opens.2⟩

theorem lends_createSurface (keeps : r.Keeps p) (other : scope ≠ Variables.name) :
    (r.createSurface parent scope).2.Lends (r.createSurface parent scope).1.number := by
  refine ⟨_, keeps_createSurface keeps parent scope, ⟨Nat.le_refl _, fun entry mem eq => ?_⟩,
    fun entry mem eq => ?_⟩
  · rcases List.mem_append.mp mem with mem | mem
    · exact absurd (eq ▸ keeps.mounted entry mem) (Nat.not_succ_le_self _)
    · rw [List.mem_singleton.mp mem]
      exact other
  · exact absurd (eq ▸ keeps.issued entry mem) (Nat.not_succ_le_self _)

/-! What is on other surfaces -/

theorem on_addElement (lends : r.Lends s.number) (keeps : r.Keeps p) (closed : ¬r.Open p t.number) :
    (p.addElement e ⟨s, spec⟩).elements.filter (·.2.surface = t) =
      p.elements.filter (·.2.surface = t) := by
  obtain ⟨q, keeps', opens, -⟩ := lends
  cases keeps.unique keeps'
  have ne : s ≠ t := fun eq => closed (eq ▸ opens)
  unfold Picture.addElement
  rw [List.filter_append, List.filter_singleton, decide_eq_false ne]
  exact List.append_nil _

theorem filter_updateElement : (p.updateElement e spec).elements.filter (·.2.surface = t) =
    (p.elements.filter (·.2.surface = t)).map fun entry =>
      if entry.1 = e then (e, { entry.2 with spec }) else entry := by
  have there (entry : ElementId × ElementRecord) :
      (if entry.1 = e then (e, { entry.2 with spec }) else entry).2.surface = entry.2.surface := by
    split <;> rfl
  unfold Picture.updateElement
  rw [List.filter_map]
  simp only [Function.comp_def, there]

theorem on_updateElement (lends : r.Lends e.number) (keeps : r.Keeps p)
    (closed : ¬r.Open p t.number) :
    (p.updateElement e spec).elements.filter (·.2.surface = t) =
      p.elements.filter (·.2.surface = t) := by
  obtain ⟨q, keeps', -, elements⟩ := lends
  cases keeps.unique keeps'
  rw [filter_updateElement]
  refine (List.map_congr_left fun entry mem => if_neg ?_).trans (List.map_id' _)
  rintro rfl
  obtain ⟨mem, surface⟩ := List.mem_filter.mp mem
  exact closed (of_decide_eq_true surface ▸ elements entry mem rfl)

theorem on_removeElement (lends : r.Lends e.number) (keeps : r.Keeps p)
    (closed : ¬r.Open p t.number) :
    (p.removeElement e).elements.filter (·.2.surface = t) =
      p.elements.filter (·.2.surface = t) := by
  obtain ⟨q, keeps', -, elements⟩ := lends
  cases keeps.unique keeps'
  unfold Picture.removeElement
  rw [List.filter_filter]
  refine List.filter_congr fun entry mem => ?_
  by_cases on : entry.2.surface = t
  · have ne : entry.1 ≠ e := by
      rintro rfl
      exact closed (on ▸ elements entry mem rfl)
    simp [on, ne]
  · simp [on]

structure Steady (R : Renderer → Prop) : Prop where
  create : ∀ {r s spec}, R r → r.Lends s.number → R (r.createElement s spec).2
  update : ∀ {r e spec}, R r → r.Lends e.number → R (r.updateElement e spec)
  remove : ∀ {r e}, R r → r.Lends e.number → R (r.removeElement e)
  mount : ∀ {r parent scope}, R r → scope ≠ Variables.name → R (r.createSurface parent scope).2

def Unclaimed (r : Renderer) : Prop :=
  ∃ p, r.Keeps p ∧ (∀ entry ∈ p.surfaces, entry.2.scope ≠ Variables.name) ∧
    ∀ entry ∈ p.elements, entry.2.surface.number ≤ r.issued

theorem unclaimed_recording : recording.Unclaimed :=
  ⟨_, keeps_recording, nofun, nofun⟩

theorem steady_unclaimed : Steady Unclaimed where
  create {r s spec} h lends := by
    obtain ⟨p, keeps, scopes, surfaces⟩ := h
    obtain ⟨q, keeps', opens, -⟩ := lends
    refine ⟨_, keeps_createElement keeps s spec, scopes, fun entry mem => ?_⟩
    rcases List.mem_append.mp mem with mem | mem
    · exact Nat.le_succ_of_le (surfaces entry mem)
    · rw [List.mem_singleton.mp mem]
      exact Nat.le_succ_of_le opens.1
  update {r e spec} h _ := by
    obtain ⟨p, keeps, scopes, surfaces⟩ := h
    refine ⟨_, keeps_updateElement keeps e spec, scopes, fun entry mem => ?_⟩
    obtain ⟨old, here, rfl⟩ := List.mem_map.mp mem
    split <;> exact surfaces old here
  remove {r e} h _ := by
    obtain ⟨p, keeps, scopes, surfaces⟩ := h
    exact ⟨_, keeps_removeElement keeps e, scopes,
      fun entry mem => surfaces entry (List.mem_filter.mp mem).1⟩
  mount {r parent scope} h other := by
    obtain ⟨p, keeps, scopes, surfaces⟩ := h
    refine ⟨_, keeps_createSurface keeps parent scope, fun entry mem => ?_,
      fun entry mem => Nat.le_succ_of_le (surfaces entry mem)⟩
    rcases List.mem_append.mp mem with mem | mem
    · exact scopes entry mem
    · rw [List.mem_singleton.mp mem]
      exact other

end Renderer

theorem Variables.evolves_respond {m : Variables} {r : Renderer} (c : Call) :
    r.Evolves (m.respond r c).renderer :=
  (reacts_respond c).draws.evolves

end Replay
