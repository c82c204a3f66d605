import Replay.Render.Renderer
import Replay.Report

/-! A host that owns surfaces and elements by labels. A label that is used again lets go of what it
named before, after the new thing is made. -/
namespace Replay.Scenario

structure Drawing where
  renderer : Renderer
  surfaces : List (String × SurfaceHandle)
  elements : List (String × ElementHandle)

inductive DrawStep where
  /-- The parent is what a label names, if it names anything. -/
  | surface (label scope parent : String)
  | releaseSurface (label : String)
  | dropSurface (label : String)
  | element (label surface : String) (spec : Element.Spec)
  | update (label : String) (spec : Element.Spec)
  | release (label : String)
  | drop (label : String)
  | rawSurface (parent : Option SurfaceId) (scope : String)
  | rawElement (surface : SurfaceId) (spec : Element.Spec)
  | rawUpdate (element : ElementId) (spec : Element.Spec)
  | rawRemove (element : ElementId)
  | rawRemoveSurface (surface : SurfaceId)
  | byScope (scope : String)
  | inScope (scope : String)
  | summary (label : String)

namespace Drawing

def start (renderer : Renderer) : Drawing := ⟨renderer, [], []⟩

variable {α : Type}

def label (name : String) (a : α) (table : List (String × α)) : Option α × List (String × α) :=
  (table.lookup name, (name, a) :: table.filter (·.1 ≠ name))

def setSurface (d : Drawing) (name : String) (h : SurfaceHandle) : Drawing :=
  { d with surfaces := (label name h d.surfaces).2 }

def setElement (d : Drawing) (name : String) (h : ElementHandle) : Drawing :=
  { d with elements := (label name h d.elements).2 }

def letGoSurface (r : Renderer) : Option SurfaceHandle → Renderer
  | some h => (h.release r).2
  | none => r

def letGoElement (r : Renderer) : Option ElementHandle → Renderer
  | some h => (h.release r).2
  | none => r

/-- Carries out a step; none if it names a handle that has to be there and is not. -/
def step (d : Drawing) : DrawStep → Option Json × Drawing
  | .surface name scope parent =>
    let parent := (d.surfaces.lookup parent).map (·.surface.id)
    let (h, renderer) := SurfaceHandle.create d.renderer parent scope
    let (old, surfaces) := label name h d.surfaces
    (some h.surface.id.toJson, { d with renderer := letGoSurface renderer old, surfaces })
  | .releaseSurface name =>
    match d.surfaces.lookup name with
    | none => (some .null, d)
    | some h =>
      let (h, renderer) := h.release d.renderer
      (some (.bool h.released), { d with renderer }.setSurface name h)
  | .dropSurface name =>
    match d.surfaces.lookup name with
    | none => (some (.bool false), d)
    | some h =>
      (some (.bool true), { d with
        renderer := (h.release d.renderer).2
        surfaces := d.surfaces.filter (·.1 ≠ name) })
  | .element name surface spec =>
    match d.surfaces.lookup surface with
    | none => (none, d)
    | some s =>
      let (h, renderer) := ElementHandle.create d.renderer s.surface spec
      let (old, elements) := label name h d.elements
      (some h.id.toJson, { d with renderer := letGoElement renderer old, elements })
  | .update name spec =>
    match d.elements.lookup name with
    | none => (some .null, d)
    | some h => (some (.bool h.released), { d with renderer := h.update spec d.renderer })
  | .release name =>
    match d.elements.lookup name with
    | none => (some .null, d)
    | some h =>
      let (h, renderer) := h.release d.renderer
      (some (.bool h.released), { d with renderer }.setElement name h)
  | .drop name =>
    match d.elements.lookup name with
    | none => (some (.bool false), d)
    | some h =>
      (some (.bool true), { d with
        renderer := (h.release d.renderer).2
        elements := d.elements.filter (·.1 ≠ name) })
  | .rawSurface parent scope =>
    let (s, renderer) := d.renderer.createSurface parent scope
    (some s.toJson, { d with renderer })
  | .rawElement surface spec =>
    let (e, renderer) := d.renderer.createElement surface spec
    (some e.toJson, { d with renderer })
  | .rawUpdate e spec => (some .null, { d with renderer := d.renderer.updateElement e spec })
  | .rawRemove e => (some .null, { d with renderer := d.renderer.removeElement e })
  | .rawRemoveSurface s => (some .null, { d with renderer := d.renderer.removeSurface s })
  | .byScope scope =>
    match d.renderer.picture.bind (·.byScope scope) with
    | some s => (some s.toJson, d)
    | none => (some .null, d)
  | .inScope scope =>
    let specs := (d.renderer.picture.map (·.elementsInScope scope)).getD []
    (some (.text (Json.list (specs.map (·.toJson))).print), d)
  | .summary name =>
    match d.surfaces.lookup name, d.elements.lookup name with
    | some h, _ => (some (.text h.surface.summary), d)
    | none, some h => (some (.text h.summary), d)
    | none, none => (none, d)

end Drawing

end Replay.Scenario
