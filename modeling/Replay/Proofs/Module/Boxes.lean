import Mathlib.Data.List.Forall2
import Replay.Proofs.Module.Declared
import Replay.Proofs.Module.Lending

/-!
The boxes of the variables module. What is on its surface is one box for each variable it holds, in
the order of their declarations, and nothing else.
-/
namespace Replay.Variables

def box (m : Variables) (s : Surface) (name : String) : ElementId × ElementRecord :=
  (m.boxes[name]?.getD default,
    ⟨s.id, (Variable.mk name (m.data[name]?.getD default)).spec⟩)

/-- Some variables are shown, and nothing else, on the surface with the scope of the module. -/
structure Shows (m : Variables) (s : Surface) (names : List String) (p : Picture) : Prop where
  scope : p.byScope Variables.name = some s.id
  boxed : p.elements.filter (·.2.surface = s.id) = names.map (m.box s)
  held : ∀ name, name ∈ names ↔ (m.boxes[name]?).isSome = true

def Shown (m : Variables) (s : Surface) (names : List String) (r : Renderer) : Prop :=
  ∃ p, r.Keeps p ∧ m.Shows s names p

structure Boxed (m : Variables) (s : Surface) (names : List String) (p : Picture) : Prop where
  boxed : p.elements.filter (·.2.surface = s.id) = names.map (m.box s)
  held : ∀ name, name ∈ names ↔ (m.boxes[name]?).isSome = true

def Exhibits (m : Variables) (s : Surface) (names : List String)
    (surfaces : List (SurfaceId × SurfaceRecord)) (r : Renderer) : Prop :=
  ∃ p, r.Keeps p ∧ p.surfaces = surfaces ∧ m.Boxed s names p

variable {m : Variables} {s : Surface} {names : List String} {r : Renderer} {p : Picture}
  {name : String} {value old : Tracked} {e : Event} {events : Trace}
  {surfaces : List (SurfaceId × SurfaceRecord)}

theorem Boxed.inj (h : m.Boxed s names p) (keeps : r.Keeps p) {other : String} (mem : name ∈ names)
    (mem' : other ∈ names) (same : (m.box s name).1 = (m.box s other).1) : name = other := by
  have ids : (names.map fun name => (m.box s name).1).Nodup := by
    have sub : ((p.elements.filter (·.2.surface = s.id)).map (·.1)).Nodup :=
      keeps.nodup.sublist (List.filter_sublist.map _)
    rw [h.boxed, List.map_map] at sub
    exact sub
  exact List.inj_on_of_nodup_map ids mem mem' same

theorem fst_box {box : ElementId} (held : m.boxes[name]? = some box) :
    (m.box s name).1 = box := by
  unfold Variables.box
  rw [held]
  rfl

theorem Boxed.elementsOn (h : m.Boxed s names p) : p.elementsOn s.id =
    names.map fun name => (Variable.mk name (m.data[name]?.getD default)).spec := by
  unfold Picture.elementsOn
  rw [h.boxed, List.map_map]
  rfl

theorem Exhibits.declare (h : m.Exhibits s names surfaces r) (surface : m.surface = some s)
    (fresh : name ∉ names) : (m.declare r name value).module.Exhibits s (names ++ [name]) surfaces
      (m.declare r name value).renderer := by
  obtain ⟨p, keeps, same, h⟩ := h
  have data (other : String) : (m.declare r name value).module.data[other]? =
      if name = other then some value else m.data[other]? := getElem?_data_declare
  have boxes : (m.declare r name value).module.boxes = m.boxes.insert name ⟨r.issued + 1⟩ := by
    unfold Variables.declare
    rw [surface]
    rfl
  have drawn : (m.declare r name value).renderer =
      (r.createElement s.id (Variable.mk name value).spec).2 := by
    unfold Variables.declare
    rw [surface]
  rw [drawn]
  refine ⟨_, Renderer.keeps_createElement keeps s.id (Variable.mk name value).spec, same, ?_, ?_⟩
  · unfold Picture.addElement
    rw [List.filter_append, h.boxed, List.map_append]
    congr 1
    · refine List.map_congr_left fun other mem => ?_
      have ne : name ≠ other := fun eq => fresh (eq ▸ mem)
      unfold box
      rw [boxes, data, getElem?_insert_eq, if_neg ne, if_neg ne]
    · simp [box, boxes, data]
  · intro other
    rw [boxes, List.mem_append, List.mem_singleton, getElem?_insert_eq, h.held]
    by_cases eq : name = other
    · simp [eq]
    · simp [eq, Ne.symm eq]

theorem Exhibits.change (h : m.Exhibits s names surfaces r) (mem : name ∈ names)
    (there : m.data[name]? = some old) :
    (m.change r name ⟨name, old⟩ value).module.Exhibits s names surfaces
      (m.change r name ⟨name, old⟩ value).renderer := by
  obtain ⟨p, keeps, same, h⟩ := h
  obtain ⟨e, held⟩ := Option.isSome_iff_exists.mp ((h.held name).mp mem)
  have shown := fst_box (s := s) held
  have data (other : String) : (m.change r name ⟨name, old⟩ value).module.data[other]? =
      if name = other then some value else m.data[other]? := getElem?_data_change_of_held there
  have boxes : (m.change r name ⟨name, old⟩ value).module.boxes = m.boxes := rfl
  have drawn : (m.change r name ⟨name, old⟩ value).renderer =
      r.updateElement e (Variable.mk name value).spec := by
    unfold Variables.change
    dsimp only
    rw [held]
  rw [drawn]
  refine ⟨_, Renderer.keeps_updateElement keeps e (Variable.mk name value).spec, same, ?_, h.held⟩
  rw [Renderer.filter_updateElement, h.boxed, List.map_map]
  refine List.map_congr_left fun other mem' => ?_
  dsimp only [Function.comp]
  split
  · rename_i its
    cases h.inj keeps mem' mem (its.trans shown.symm)
    simp [box, boxes, data, held]
  · rename_i apart
    have ne : name ≠ other := fun eq => apart (eq ▸ shown)
    unfold box
    rw [boxes, data, if_neg ne]

theorem Exhibits.remove (h : m.Exhibits s names surfaces r) (name : String) :
    (m.remove r name).2.1.Exhibits s (names.filter (· ≠ name)) surfaces (m.remove r name).2.2 := by
  obtain ⟨p, keeps, same, h⟩ := h
  have held (other : String) : other ∈ names.filter (· ≠ name) ↔
      ((m.boxes.erase name)[other]?).isSome = true := by
    rw [List.mem_filter, h.held, getElem?_erase_eq]
    by_cases eq : name = other
    · simp [eq]
    · simp [eq, Ne.symm eq]
  have others : (names.filter (· ≠ name)).map ((m.remove r name).2.1.box s) =
      (names.filter (· ≠ name)).map (m.box s) := by
    refine List.map_congr_left fun other mem => ?_
    have ne : name ≠ other := (of_decide_eq_true (List.mem_filter.mp mem).2).symm
    have boxes : (m.remove r name).2.1.boxes = m.boxes.erase name := rfl
    unfold box
    rw [boxes, getElem?_data_remove, getElem?_erase_eq, if_neg ne, if_neg ne]
  cases box? : m.boxes[name]? with
  | some e =>
    have shown := fst_box (s := s) box?
    have mem : name ∈ names := (h.held name).mpr (box? ▸ rfl)
    have kept : (m.remove r name).2.2.Keeps (p.removeElement e) := by
      unfold Variables.remove
      dsimp only
      rw [box?]
      exact Renderer.keeps_removeElement keeps e
    refine ⟨_, kept, same, ?_, held⟩
    unfold Picture.removeElement
    rw [others, List.filter_comm, h.boxed, List.filter_map]
    congr 1
    refine List.filter_congr fun other mem' => decide_eq_decide.mpr (not_congr ⟨fun its => ?_, ?_⟩)
    · exact h.inj keeps mem' mem (its.trans shown.symm)
    · rintro rfl
      exact shown
  | none =>
    have kept : (m.remove r name).2.2.Keeps p := by
      unfold Variables.remove
      dsimp only
      rw [box?]
      exact keeps
    have absent : name ∉ names := by
      rw [h.held, box?]
      exact Bool.false_ne_true
    have all : names.filter (· ≠ name) = names :=
      List.filter_eq_self.mpr fun other mem =>
        decide_eq_true fun (eq : other = name) => absent (eq ▸ mem)
    refine ⟨p, kept, same, ?_, held⟩
    rw [others, all]
    exact h.boxed

theorem keeps_removeAll (elements : List ElementId) : ∀ {r : Renderer} {p : Picture}, r.Keeps p →
    (r.removeAll elements).Keeps { p with elements := p.elements.filter (·.1 ∉ elements) } := by
  induction elements with
  | nil =>
    intro r p keeps
    simpa [Renderer.removeAll] using keeps
  | cons e rest ih =>
    intro r p keeps
    have both : p.elements.filter (·.1 ∉ e :: rest) =
        (p.removeElement e).elements.filter (·.1 ∉ rest) := by
      unfold Picture.removeElement
      rw [List.filter_filter]
      refine List.filter_congr fun one _ => ?_
      simp only [List.mem_cons, not_or, Bool.decide_and, Bool.and_comm, ne_eq]
    rw [both]
    exact ih (Renderer.keeps_removeElement keeps e)

theorem Exhibits.clear (h : m.Exhibits s names surfaces r) :
    (m.clear r).1.Exhibits s [] surfaces (m.clear r).2 := by
  obtain ⟨p, keeps, same, h⟩ := h
  rw [clear_renderer]
  unfold Variables.clear
  refine ⟨_, keeps_removeAll m.shown keeps, same, ?_, fun name => by simp⟩
  dsimp only
  rw [List.filter_filter, List.map_nil, List.filter_eq_nil_iff]
  intro entry mem both
  obtain ⟨on, kept⟩ := Bool.and_eq_true_iff.mp both
  have boxed : entry ∈ names.map (m.box s) := by
    rw [← h.boxed]
    exact List.mem_filter.mpr ⟨mem, on⟩
  obtain ⟨name, shown, rfl⟩ := List.mem_map.mp boxed
  obtain ⟨e, held⟩ := Option.isSome_iff_exists.mp ((h.held name).mp shown)
  refine of_decide_eq_true kept (List.mem_map.mpr ⟨(name, e), ?_, (fst_box held).symm⟩)
  exact Std.TreeMap.mem_toList_iff_getElem?_eq_some.mpr held

/-! On the surface with the scope of the module -/

theorem shown_iff : m.Shown s names r ↔ ∃ surfaces, m.Exhibits s names surfaces r ∧
    (surfaces.find? (·.2.scope = Variables.name)).map (·.1) = some s.id := by
  constructor
  · rintro ⟨p, keeps, h⟩
    exact ⟨p.surfaces, ⟨p, keeps, rfl, h.boxed, h.held⟩, h.scope⟩
  · rintro ⟨_, ⟨p, keeps, rfl, h⟩, scope⟩
    exact ⟨p, keeps, scope, h.boxed, h.held⟩

theorem Shown.declare (h : m.Shown s names r) (surface : m.surface = some s)
    (fresh : name ∉ names) :
    (m.declare r name value).module.Shown s (names ++ [name])
      (m.declare r name value).renderer := by
  obtain ⟨surfaces, h, scope⟩ := shown_iff.mp h
  exact shown_iff.mpr ⟨surfaces, h.declare surface fresh, scope⟩

theorem Shown.change (h : m.Shown s names r) (mem : name ∈ names)
    (there : m.data[name]? = some old) :
    (m.change r name ⟨name, old⟩ value).module.Shown s names
      (m.change r name ⟨name, old⟩ value).renderer := by
  obtain ⟨surfaces, h, scope⟩ := shown_iff.mp h
  exact shown_iff.mpr ⟨surfaces, h.change mem there, scope⟩

theorem Shown.clear (h : m.Shown s names r) : (m.clear r).1.Shown s [] (m.clear r).2 := by
  obtain ⟨surfaces, h, scope⟩ := shown_iff.mp h
  exact shown_iff.mpr ⟨surfaces, h.clear, scope⟩

theorem Shows.elementsInScope (h : m.Shows s names p) : p.elementsInScope Variables.name =
    names.map fun name => (Variable.mk name (m.data[name]?.getD default)).spec := by
  unfold Picture.elementsInScope
  rw [h.scope]
  exact Boxed.elementsOn ⟨h.boxed, h.held⟩

theorem Shows.closed (h : m.Shows s names p) : ¬r.Open p s.id.number := by
  rintro ⟨-, others⟩
  obtain ⟨entry, found, eq⟩ := Option.map_eq_some_iff.mp h.scope
  have named := List.find?_some found
  exact others entry (List.mem_of_find?_eq_some found) (congrArg _ eq) (of_decide_eq_true named)

theorem steady_shown : Renderer.Steady (m.Shown s names) where
  create h lends := by
    obtain ⟨p, keeps, h⟩ := h
    refine ⟨_, Renderer.keeps_createElement keeps _ _, h.scope, ?_, h.held⟩
    exact (Renderer.on_addElement lends keeps h.closed).trans h.boxed
  update h lends := by
    obtain ⟨p, keeps, h⟩ := h
    refine ⟨_, Renderer.keeps_updateElement keeps _ _, h.scope, ?_, h.held⟩
    exact (Renderer.on_updateElement lends keeps h.closed).trans h.boxed
  remove h lends := by
    obtain ⟨p, keeps, h⟩ := h
    refine ⟨_, Renderer.keeps_removeElement keeps _, h.scope, ?_, h.held⟩
    exact (Renderer.on_removeElement lends keeps h.closed).trans h.boxed
  mount h _ := by
    obtain ⟨p, keeps, h⟩ := h
    obtain ⟨entry, found, eq⟩ := Option.map_eq_some_iff.mp h.scope
    refine ⟨_, Renderer.keeps_createSurface keeps _ _, ?_, h.boxed, h.held⟩
    unfold Picture.byScope Picture.addSurface
    rw [List.find?_append, found]
    exact congrArg some eq

def mounted (s : Surface) : Variables := { blank with surface := some s }

theorem shown_mounted (h : r.Unclaimed) (parent : Option SurfaceId) :
    (mounted (SurfaceHandle.create r parent Variables.name).1.surface).Shown
      (SurfaceHandle.create r parent Variables.name).1.surface []
      (SurfaceHandle.create r parent Variables.name).2 := by
  obtain ⟨p, keeps, scopes, surfaces⟩ := h
  refine ⟨_, Renderer.keeps_createSurface keeps parent Variables.name, ?_, ?_, ?_⟩
  · have unclaimed : p.surfaces.find? (·.2.scope = Variables.name) = none :=
      List.find?_eq_none.mpr fun entry mem same => scopes entry mem (of_decide_eq_true same)
    unfold Picture.byScope Picture.addSurface
    rw [List.find?_append, unclaimed]
    simp [SurfaceHandle.create, Renderer.createSurface]
  · refine List.filter_eq_nil_iff.mpr fun entry mem same => ?_
    have le := surfaces entry mem
    rw [of_decide_eq_true same] at le
    exact absurd le (Nat.not_succ_le_self _)
  · intro name
    simp [mounted, blank]

/-- A module with a surface is in step with a trace: it holds what is declared, and shows it. -/
structure Mirrors (m : Variables) (s : Surface) (events : Trace) (r : Renderer) : Prop where
  live : m.destroyed = false
  surface : m.surface = some s
  tracks : m.Tracks events
  shown : m.Shown s events.declared r

theorem Mirrors.elementsInScope (h : m.Mirrors s events r) : ∃ p, r.picture = some p ∧
    List.Forall₂ (fun name spec => ∃ value, events.ending[Location.variable name]? = some value ∧
        spec = ⟨.variableBox, name, value.value.display, some value.source.display⟩)
      events.declared (p.elementsInScope Variables.name) := by
  obtain ⟨p, keeps, shows⟩ := h.shown
  refine ⟨p, keeps.picture, ?_⟩
  rw [shows.elementsInScope, List.forall₂_map_right_iff, List.forall₂_same]
  intro name declared
  obtain ⟨value, held⟩ := Option.isSome_iff_exists.mp (h.tracks.mem_iff.mp declared)
  refine ⟨value, (h.tracks.getElem?_eq_some.mp held).1, ?_⟩
  rw [held]
  rfl

theorem Mirrors.handle (h : m.Mirrors s events r) (e : Event) :
    (m.handle r e).module.Mirrors s (events ++ [e]) (m.handle r e).renderer := by
  rcases handle_cases (e := e) (r := r) h.live with ⟨name, old, value, held, writes, eq⟩ |
    ⟨name, value, rfl, fresh, eq⟩ | ⟨ignored, eq⟩
  · obtain ⟨tracks, same⟩ := h.tracks.change (r := r) held writes
    have declared : name ∈ events.declared := h.tracks.mem_iff.mpr (held ▸ rfl)
    rw [eq]
    exact ⟨h.live, h.surface, tracks, same ▸ h.shown.change declared held⟩
  · obtain ⟨tracks, more⟩ := h.tracks.declare (r := r) value fresh
    have undeclared : name ∉ events.declared := by
      rw [h.tracks.mem_iff, fresh]
      exact Bool.false_ne_true
    rw [eq]
    exact ⟨h.live, h.surface, tracks, more ▸ h.shown.declare h.surface undeclared⟩
  · obtain ⟨tracks, same⟩ := h.tracks.ignore ignored
    rw [eq]
    exact ⟨h.live, h.surface, tracks, same ▸ h.shown⟩

theorem tracks_nil (h : m.data = ∅) : m.Tracks [] := by
  intro name
  rw [h]
  rfl

theorem mirrors_mounted (h : (mounted s).Shown s [] r) : (mounted s).Mirrors s [] r :=
  ⟨rfl, rfl, tracks_nil rfl, h⟩

theorem Mirrors.clear (h : m.Mirrors s events r) :
    (m.clear r).1.Mirrors s [] (m.clear r).2 :=
  ⟨h.live, h.surface, tracks_nil rfl, h.shown.clear⟩

end Replay.Variables
