import Replay.Render.Picture

/-!
Renderers hand out surfaces and elements. Both kinds of ids come from one count. A renderer may keep
a picture of what is live; one without a picture hands out the same ids.
-/
namespace Replay

/-- What a renderer was asked to do. -/
inductive Renderer.Request where
  | createSurface (s : SurfaceId) (parent : Option SurfaceId) (scope : String)
  | removeSurface (s : SurfaceId)
  | createElement (e : ElementId) (s : SurfaceId) (spec : Element.Spec)
  | updateElement (e : ElementId) (spec : Element.Spec)
  | removeElement (e : ElementId)
  deriving DecidableEq

structure Renderer where
  issued : Nat
  picture : Option Picture
  /-- All requests, last first: laws about the life of surfaces and elements speak of these. -/
  requests : List Renderer.Request

namespace Renderer

/-- A renderer that draws nothing. -/
def blind : Renderer := ⟨0, none, []⟩

/-- A renderer that keeps a picture. -/
def recording : Renderer := ⟨0, some .empty, []⟩

def createSurface (r : Renderer) (parent : Option SurfaceId) (scope : String) :
    SurfaceId × Renderer :=
  let s : SurfaceId := ⟨r.issued + 1⟩
  (s, ⟨r.issued + 1, r.picture.map (·.addSurface s ⟨parent, scope⟩),
    .createSurface s parent scope :: r.requests⟩)

def removeSurface (r : Renderer) (s : SurfaceId) : Renderer :=
  { r with
    picture := r.picture.map (·.removeSurface s)
    requests := .removeSurface s :: r.requests }

def createElement (r : Renderer) (s : SurfaceId) (spec : Element.Spec) : ElementId × Renderer :=
  let e : ElementId := ⟨r.issued + 1⟩
  (e, ⟨r.issued + 1, r.picture.map (·.addElement e ⟨s, spec⟩),
    .createElement e s spec :: r.requests⟩)

def updateElement (r : Renderer) (e : ElementId) (spec : Element.Spec) : Renderer :=
  { r with
    picture := r.picture.map (·.updateElement e spec)
    requests := .updateElement e spec :: r.requests }

def removeElement (r : Renderer) (e : ElementId) : Renderer :=
  { r with
    picture := r.picture.map (·.removeElement e)
    requests := .removeElement e :: r.requests }

end Renderer

/-- A surface as modules see it: they may put elements on it, but not remove it. -/
structure Surface where
  id : SurfaceId
  scope : String
  deriving DecidableEq, Repr

def Surface.summary (s : Surface) : String :=
  "RenderSurface \x7b id: SurfaceId(" ++ String.ofList (Json.naturalChars s.id.number) ++
    "), scope: " ++ Text.quoted s.scope ++ " \x7d"

/-- An owned surface; it is released once. -/
structure SurfaceHandle where
  surface : Surface
  released : Bool
  deriving DecidableEq, Repr

namespace SurfaceHandle

def create (r : Renderer) (parent : Option SurfaceId) (scope : String) :
    SurfaceHandle × Renderer :=
  let (id, r) := r.createSurface parent scope
  (⟨⟨id, scope⟩, false⟩, r)

def release (h : SurfaceHandle) (r : Renderer) : SurfaceHandle × Renderer :=
  if h.released then (h, r) else ({ h with released := true }, r.removeSurface h.surface.id)

end SurfaceHandle

/-- An owned element; it is released once, and not updated afterwards. -/
structure ElementHandle where
  id : ElementId
  released : Bool
  deriving DecidableEq, Repr

namespace ElementHandle

def create (r : Renderer) (s : Surface) (spec : Element.Spec) : ElementHandle × Renderer :=
  let (id, r) := r.createElement s.id spec
  (⟨id, false⟩, r)

def update (h : ElementHandle) (spec : Element.Spec) (r : Renderer) : Renderer :=
  if h.released then r else r.updateElement h.id spec

def release (h : ElementHandle) (r : Renderer) : ElementHandle × Renderer :=
  if h.released then (h, r) else ({ h with released := true }, r.removeElement h.id)

def summary (h : ElementHandle) : String :=
  "ElementHandle \x7b id: ElementId(" ++ String.ofList (Json.naturalChars h.id.number) ++
    "), released: " ++ (if h.released then "true" else "false") ++ " \x7d"

end ElementHandle

end Replay
