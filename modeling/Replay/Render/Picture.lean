import Replay.Render.Element

/-! Pictures: the live surfaces, as a tree, and the live elements on them. -/
namespace Replay

structure SurfaceRecord where
  parent : Option SurfaceId
  scope : String
  deriving DecidableEq, Repr

structure ElementRecord where
  surface : SurfaceId
  spec : Element.Spec
  deriving DecidableEq, Repr

/-- Surfaces and elements in the order of their creation. -/
structure Picture where
  surfaces : List (SurfaceId × SurfaceRecord)
  elements : List (ElementId × ElementRecord)
  /-- How many elements were ever created. -/
  created : Nat
  deriving DecidableEq, Repr

namespace Picture

def empty : Picture := ⟨[], [], 0⟩

def isLive (p : Picture) (s : SurfaceId) : Bool := p.surfaces.any (·.1 = s)

def addSurface (p : Picture) (s : SurfaceId) (record : SurfaceRecord) : Picture :=
  { p with surfaces := p.surfaces ++ [(s, record)] }

def addElement (p : Picture) (e : ElementId) (record : ElementRecord) : Picture :=
  { p with elements := p.elements ++ [(e, record)], created := p.created + 1 }

def updateElement (p : Picture) (e : ElementId) (spec : Element.Spec) : Picture :=
  { p with elements := p.elements.map fun entry =>
      if entry.1 = e then (e, { entry.2 with spec }) else entry }

def removeElement (p : Picture) (e : ElementId) : Picture :=
  { p with elements := p.elements.filter (·.1 ≠ e) }

def withoutSurface (p : Picture) (s : SurfaceId) : Picture :=
  { p with
    surfaces := p.surfaces.filter (·.1 ≠ s)
    elements := p.elements.filter (·.2.surface ≠ s) }

def children (p : Picture) (s : SurfaceId) : List SurfaceId :=
  (p.surfaces.filter (·.2.parent = some s)).map (·.1)

theorem length_withoutSurface_lt {p : Picture} {s : SurfaceId} (h : p.isLive s = true) :
    (p.withoutSurface s).surfaces.length < p.surfaces.length := by
  obtain ⟨entry, mem, rfl⟩ : ∃ entry ∈ p.surfaces, entry.1 = s := by
    simpa [isLive] using h
  exact List.length_filter_lt_length_iff_exists.mpr ⟨entry, mem, by simp⟩

/-- Removes the surfaces of a list that are live, and in turn the children of each: a removed
surface does not come back, so this ends also where the parents run in a circle. -/
def removeSurfaces (p : Picture) (doomed : List SurfaceId) : Picture :=
  match doomed with
  | [] => p
  | s :: rest =>
    if p.isLive s then
      let q := p.withoutSurface s
      q.removeSurfaces (q.children s ++ rest)
    else p.removeSurfaces rest
  termination_by (p.surfaces.length, doomed.length)
  decreasing_by
    · exact Prod.Lex.left _ _ (length_withoutSurface_lt ‹_›)
    · exact Prod.Lex.right _ (Nat.lt_succ_self _)

/-- Removes a live surface with all that is mounted on it. -/
def removeSurface (p : Picture) (s : SurfaceId) : Picture := p.removeSurfaces [s]

def byScope (p : Picture) (scope : String) : Option SurfaceId :=
  (p.surfaces.find? (·.2.scope = scope)).map (·.1)

/-- The contents of the elements on a surface, oldest first. -/
def elementsOn (p : Picture) (s : SurfaceId) : List Element.Spec :=
  (p.elements.filter (·.2.surface = s)).map (·.2.spec)

def elementsInScope (p : Picture) (scope : String) : List Element.Spec :=
  match p.byScope scope with
  | some s => p.elementsOn s
  | none => []

end Picture

end Replay
