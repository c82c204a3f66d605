import Replay.Proofs.Module.Declared
import Replay.Proofs.Render.Drawing

/-!
The boxes that the variables module makes. Between one call and the next others may do to the
renderer what they like; of the requests of the module itself each box that it made is removed once,
or it is still kept.
-/
namespace Replay

namespace Renderer

def made (requests : List Request) : List ElementId :=
  requests.filterMap fun
    | .createElement e _ _ => some e
    | _ => none

def unmade (requests : List Request) : List ElementId :=
  requests.filterMap fun
    | .removeElement e => some e
    | _ => none

variable {requests : List Request} {e : ElementId}

theorem mem_made : e ∈ made requests ↔ ∃ s spec, .createElement e s spec ∈ requests := by
  unfold made
  rw [List.mem_filterMap]
  constructor
  · rintro ⟨q, mem, eq⟩
    cases q <;> cases eq
    exact ⟨_, _, mem⟩
  · rintro ⟨s, spec, mem⟩
    exact ⟨_, mem, rfl⟩

theorem count_unmade : (unmade requests).count e = requests.count (.removeElement e) := by
  unfold unmade
  rw [List.count_filterMap, List.count]
  refine List.countP_congr fun q _ => ?_
  cases q <;> simp

def removeAll (r : Renderer) (elements : List ElementId) : Renderer :=
  elements.foldl (fun r e => r.removeElement e) r

theorem draws_removeAll (elements : List ElementId) : ∀ r : Renderer,
    r.Draws (r.removeAll elements) := by
  induction elements with
  | nil => exact fun _ => .refl
  | cons e rest ih => exact fun r => .head (.remove r e) (ih (r.removeElement e))

def removals (elements : List ElementId) : List Request :=
  (elements.map Request.removeElement).reverse

theorem requests_removeAll (elements : List ElementId) : ∀ r : Renderer,
    (r.removeAll elements).requests = removals elements ++ r.requests := by
  unfold removals
  induction elements with
  | nil => exact fun _ => rfl
  | cons e rest ih =>
    intro r
    refine (ih (r.removeElement e)).trans ?_
    rw [List.map_cons, List.reverse_cons, List.append_assoc]
    rfl

theorem made_removals (elements : List ElementId) : made (removals elements) = [] := by
  refine List.filterMap_eq_nil_iff.mpr fun q mem => ?_
  obtain ⟨e, -, rfl⟩ := List.mem_map.mp (List.mem_reverse.mp mem)
  rfl

theorem unmade_removals (elements : List ElementId) :
    unmade (removals elements) = elements.reverse := by
  unfold unmade removals
  rw [List.filterMap_reverse, List.filterMap_map]
  exact congrArg _ List.filterMap_some

theorem made_append {others : List Request} :
    made (others ++ requests) = made others ++ made requests := List.filterMap_append

theorem unmade_append {others : List Request} :
    unmade (others ++ requests) = unmade others ++ unmade requests := List.filterMap_append

end Renderer

namespace Variables

def shown (m : Variables) : List ElementId := m.boxes.toList.map (·.2)

def Retains (m m' : Variables) : Prop :=
  ∀ name : String, m'.data[name]? = none → m.data[name]? = none

/-- What a call does to the boxes of the module: nothing, or it changes one, or makes one for a
variable that was not there, or removes all. -/
inductive Reacts (m : Variables) (r : Renderer) : Variables → Renderer → Prop
  | kept {m' : Variables} (boxes : m'.boxes = m.boxes) (data : m.Retains m') : Reacts m r m' r
  | renewed {m' : Variables} (box : ElementId) (spec : Element.Spec) (boxes : m'.boxes = m.boxes)
      (data : m.Retains m') : Reacts m r m' (r.updateElement box spec)
  | boxed {m' : Variables} {name : String} (s : SurfaceId) (spec : Element.Spec)
      (new : m.data[name]? = none) (boxes : m'.boxes = m.boxes.insert name ⟨r.issued + 1⟩)
      (there : m'.data[name]? ≠ none) (data : m.Retains m') :
      Reacts m r m' (r.createElement s spec).2
  | cleared {m' : Variables} (boxes : m'.boxes = ∅) : Reacts m r m' (r.removeAll m.shown)

variable {m m' : Variables} {r r' : Renderer} {name : String} {old value : Tracked} {e : Event}

theorem retains_change {existing : Variable} :
    m.Retains (m.change r name existing value).module := by
  intro other none
  rw [getElem?_data_change] at none
  split at none
  · exact Option.map_eq_none_iff.mp none
  · exact none

theorem retains_declare : m.Retains (m.declare r name value).module := by
  intro other none
  rw [getElem?_data_declare] at none
  split at none
  · cases none
  · exact none

theorem reacts_change {existing : Variable} : m.Reacts r
    (m.change r name existing value).module (m.change r name existing value).renderer := by
  have retains : m.Retains (m.change r name existing value).module := retains_change
  unfold change at retains ⊢
  dsimp only at retains ⊢
  split
  · exact .renewed _ _ rfl retains
  · exact .kept rfl retains

theorem reacts_declare (new : m.data[name]? = none) :
    m.Reacts r (m.declare r name value).module (m.declare r name value).renderer := by
  have retains : m.Retains (m.declare r name value).module := retains_declare
  have there : (m.declare r name value).module.data[name]? ≠ none := by
    rw [getElem?_data_declare, if_pos rfl]
    nofun
  unfold declare at retains there ⊢
  cases surface : m.surface with
  | none =>
    simp only [surface] at retains ⊢
    exact .kept rfl retains
  | some s =>
    simp only [surface] at retains there ⊢
    exact .boxed s.id _ new rfl there retains

theorem reacts_handle : m.Reacts r (m.handle r e).module (m.handle r e).renderer := by
  unfold handle
  split
  · exact .kept rfl fun _ => id
  split
  · unfold initialise
    rw [get?_eq]
    split
    · exact reacts_change
    · exact reacts_declare (Option.map_eq_none_iff.mp ‹_›)
  · unfold assign
    split
    · exact reacts_change
    · exact .kept rfl fun _ => id
  · exact .kept rfl fun _ => id

theorem clear_renderer : (m.clear r).2 = r.removeAll m.shown := by
  unfold clear shown Renderer.removeAll
  rw [Std.TreeMap.foldl_eq_foldl_toList, List.foldl_map]

theorem reacts_respond (c : Call) :
    m.Reacts r (m.respond r c).module (m.respond r c).renderer := by
  cases c with
  | init root own => exact .kept rfl fun _ => id
  | handle event history => exact reacts_handle
  | update elapsed => exact .kept rfl fun _ => id
  | reset =>
    unfold respond
    dsimp only
    rw [clear_renderer]
    exact .cleared rfl
  | destroy =>
    unfold respond
    dsimp only
    rw [clear_renderer]
    exact .cleared rfl

theorem Reacts.draws (h : m.Reacts r m' r') : r.Draws r' := by
  cases h with
  | kept => exact .refl
  | renewed box spec => exact .single (.update r box spec)
  | boxed s spec => exact .single (.create r s spec)
  | cleared => exact Renderer.draws_removeAll m.shown r

/-- A module, blank at first, got some calls, and some requests, last first, are its own. Others may
have asked the renderer for other things in between. -/
inductive Drew : List Call → List Renderer.Request → Variables → Renderer → Prop
  | blank (r : Renderer) : Drew [] [] .blank r
  | others {calls : List Call} {mine : List Renderer.Request} {m : Variables} {r r' : Renderer}
      (drew : Drew calls mine m r) (later : r.Later r') : Drew calls mine m r'
  | answers {calls : List Call} {mine : List Renderer.Request} {m : Variables} {r : Renderer}
      {asked : List Renderer.Request} (drew : Drew calls mine m r) (c : Call)
      (asks : (m.respond r c).renderer.requests = asked ++ r.requests) :
      Drew (calls ++ [c]) (asked ++ mine) (m.respond r c).module (m.respond r c).renderer

structure Accounts (mine : List Renderer.Request) (m : Variables) (r : Renderer) : Prop where
  asked : mine.Sublist r.requests
  perm : (Renderer.made mine).Perm (Renderer.unmade mine ++ m.shown)
  nodup : (Renderer.made mine).Nodup
  issued : ∀ e ∈ Renderer.made mine, e.number ≤ r.issued
  /-- A box is that of a variable that is there. -/
  boxed : ∀ name : String, m.data[name]? = none → m.boxes[name]? = none

variable {calls : List Call} {mine : List Renderer.Request}

theorem Accounts.later (h : Accounts mine m r) (later : r.Later r') : Accounts mine m r' where
  asked := h.asked.trans later.requests.sublist
  perm := h.perm
  nodup := h.nodup
  issued e mem := Nat.le_trans (h.issued e mem) later.issued
  boxed := h.boxed

theorem shown_insert {box : ElementId} (new : m.boxes[name]? = none)
    (boxes : m'.boxes = m.boxes.insert name box) : m'.shown.Perm (box :: m.shown) := by
  have others : m.boxes.toList.filter (fun entry => decide ¬(name == entry.1) = true) =
      m.boxes.toList := by
    refine List.filter_eq_self.mpr fun entry mem => decide_eq_true fun same => ?_
    have here := Std.TreeMap.mem_toList_iff_getElem?_eq_some.mp mem
    rw [← eq_of_beq same, new] at here
    cases here
  have perm := (Std.TreeMap.toList_insert_perm (t := m.boxes) (k := name) (v := box)).map (·.2)
  rw [others] at perm
  unfold shown
  rw [boxes]
  exact perm

theorem Accounts.kept (h : Accounts mine m r) {asked : List Renderer.Request}
    (asks : r'.requests = asked ++ r.requests) (made : Renderer.made asked = [])
    (unmade : Renderer.unmade asked = []) (issued : r.issued ≤ r'.issued)
    (boxes : m'.boxes = m.boxes) (data : m.Retains m') : Accounts (asked ++ mine) m' r' := by
  have same : Renderer.made (asked ++ mine) = Renderer.made mine := by
    rw [Renderer.made_append, made, List.nil_append]
  constructor
  · rw [asks]
    exact h.asked.append_left _
  · rw [same, Renderer.unmade_append, unmade, List.nil_append]
    unfold shown
    rw [boxes]
    exact h.perm
  · rw [same]
    exact h.nodup
  · rw [same]
    exact fun e mem => Nat.le_trans (h.issued e mem) issued
  · rw [boxes]
    exact fun name none => h.boxed name (data name none)

theorem Accounts.made (h : Accounts mine m r) {s : SurfaceId} {spec : Element.Spec}
    (new : m.data[name]? = none) (boxes : m'.boxes = m.boxes.insert name ⟨r.issued + 1⟩)
    (there : m'.data[name]? ≠ none) (data : m.Retains m') :
    Accounts (.createElement ⟨r.issued + 1⟩ s spec :: mine) m' (r.createElement s spec).2 where
  asked := h.asked.cons_cons _
  perm := by
    have more := (shown_insert (h.boxed name new) boxes).append_left (Renderer.unmade mine)
    exact (h.perm.cons _).trans (List.perm_middle.symm.trans more.symm)
  nodup := List.nodup_cons.mpr ⟨fun mem => Nat.not_succ_le_self _ (h.issued _ mem), h.nodup⟩
  issued e mem := by
    rcases List.mem_cons.mp mem with rfl | mem
    · exact Nat.le_refl _
    · exact Nat.le_succ_of_le (h.issued e mem)
  boxed other none := by
    have ne : name ≠ other := by
      rintro rfl
      exact there none
    rw [boxes, getElem?_insert_eq, if_neg ne]
    exact h.boxed other (data other none)

theorem Accounts.cleared (h : Accounts mine m r) (boxes : m'.boxes = ∅) :
    Accounts (Renderer.removals m.shown ++ mine) m' (r.removeAll m.shown) := by
  have same : Renderer.made (Renderer.removals m.shown ++ mine) = Renderer.made mine := by
    rw [Renderer.made_append, Renderer.made_removals, List.nil_append]
  have none : m'.shown = [] := by
    unfold shown
    rw [boxes]
    rfl
  constructor
  · rw [Renderer.requests_removeAll]
    exact h.asked.append_left _
  · rw [same, none, List.append_nil, Renderer.unmade_append, Renderer.unmade_removals]
    exact h.perm.trans (List.perm_append_comm.trans (m.shown.reverse_perm.symm.append_right _))
  · rw [same]
    exact h.nodup
  · rw [same]
    exact fun e mem => Nat.le_trans (h.issued e mem) (Renderer.draws_removeAll _ r).later.issued
  · rw [boxes]
    exact fun _ _ => rfl

theorem Reacts.accounts (h : m.Reacts r m' r') : ∃ asked : List Renderer.Request,
    r'.requests = asked ++ r.requests ∧
      ∀ {mine}, Accounts mine m r → Accounts (asked ++ mine) m' r' := by
  cases h with
  | kept boxes data => exact ⟨[], rfl, fun h => h.kept rfl rfl rfl (Nat.le_refl _) boxes data⟩
  | renewed box spec boxes data =>
    exact ⟨[.updateElement box spec], rfl,
      fun h => h.kept rfl rfl rfl (Nat.le_refl _) boxes data⟩
  | @boxed name s spec new boxes there data =>
    exact ⟨[.createElement ⟨r.issued + 1⟩ s spec], rfl, fun h => h.made new boxes there data⟩
  | cleared boxes => exact ⟨_, Renderer.requests_removeAll m.shown r, fun h => h.cleared boxes⟩

theorem Drew.accounts (h : Drew calls mine m r) : Accounts mine m r := by
  induction h with
  | blank r => exact ⟨List.nil_sublist _, .refl _, List.nodup_nil, nofun, fun _ _ => rfl⟩
  | others _ later ih => exact ih.later later
  | answers _ c asks ih =>
    obtain ⟨asked, asks', settled⟩ := (reacts_respond c).accounts
    cases List.append_cancel_right (asks.symm.trans asks')
    exact settled ih

theorem Drew.bare (h : Drew calls mine m r) (last : calls.getLast? = some .destroy) :
    m.shown = [] := by
  induction h with
  | blank r => cases last
  | others _ _ ih => exact ih last
  | answers _ c _ _ =>
    rw [List.getLast?_concat] at last
    cases last
    rfl

theorem Drew.removed_once (h : Drew calls mine m r) (last : calls.getLast? = some .destroy)
    {e : ElementId} {s : SurfaceId} {spec : Element.Spec} (mem : .createElement e s spec ∈ mine) :
    mine.count (.removeElement e) = 1 := by
  have accounts := h.accounts
  have perm := accounts.perm
  rw [h.bare last, List.append_nil] at perm
  rw [← Renderer.count_unmade, ← perm.count_eq]
  exact List.count_eq_one_of_mem accounts.nodup (Renderer.mem_made.mpr ⟨s, spec, mem⟩)

end Variables

end Replay
