import Mathlib.Data.List.Permutation
import Replay.Proofs.Render.Drawing

/-!
What goes with a surface. Surfaces name the surface they are mounted on, live or not, and also in
circles; a surface is under another if its parents lead there through live surfaces. Taking one out
takes all that is under it and what is mounted there, and nothing else.
-/
namespace Replay

namespace Picture

/-- Whether a live surface is `s`, or has parents that lead to `s` through live surfaces. -/
inductive Under (p : Picture) (s : SurfaceId) : SurfaceId → Prop
  | itself {record : SurfaceRecord} (live : (s, record) ∈ p.surfaces) : Under p s s
  | mounted {t u : SurfaceId} {record : SurfaceRecord} (up : Under p s u)
      (live : (t, record) ∈ p.surfaces) (parent : record.parent = some u) : Under p s t

/-- The picture without some surfaces and what is mounted on them. -/
def without (p : Picture) (gone : SurfaceId → Prop) [DecidablePred gone] : Picture :=
  { p with
    surfaces := p.surfaces.filter fun entry => !decide (gone entry.1)
    elements := p.elements.filter fun entry => !decide (gone entry.2.surface) }

/-- One round of a removal: one of the surfaces to remove is taken, whichever. If it is live, it
goes, and its children are to be removed too. -/
inductive Round : Picture × List SurfaceId → Picture × List SurfaceId → Prop
  | take {p : Picture} {s : SurfaceId} {doomed rest : List SurfaceId}
      (taken : doomed.Perm (s :: rest)) (live : p.isLive s = true) :
      Round (p, doomed) (p.withoutSurface s, (p.withoutSurface s).children s ++ rest)
  | skip {p : Picture} {s : SurfaceId} {doomed rest : List SurfaceId}
      (taken : doomed.Perm (s :: rest)) (gone : p.isLive s ≠ true) : Round (p, doomed) (p, rest)

inductive Rounds : Nat → Picture × List SurfaceId → Picture × List SurfaceId → Prop
  | none (now : Picture × List SurfaceId) : Rounds 0 now now
  | more {n : Nat} {now next last : Picture × List SurfaceId} (first : Round now next)
      (later : Rounds n next last) : Rounds (n + 1) now last

variable {p : Picture} {s t u : SurfaceId} {doomed rest : List SurfaceId}

theorem isLive_iff : p.isLive s = true ↔ ∃ record, (s, record) ∈ p.surfaces := by
  unfold isLive
  simp

theorem mem_withoutSurface {record : SurfaceRecord} :
    (t, record) ∈ (p.withoutSurface s).surfaces ↔ (t, record) ∈ p.surfaces ∧ t ≠ s := by
  unfold withoutSurface
  simp

theorem mem_children : t ∈ p.children s ↔
    ∃ record, (t, record) ∈ p.surfaces ∧ record.parent = some s := by
  unfold children
  simp

theorem Under.live (h : p.Under s t) : p.isLive t = true := by
  cases h with
  | itself live => exact isLive_iff.mpr ⟨_, live⟩
  | mounted _ live => exact isLive_iff.mpr ⟨_, live⟩

theorem Under.live_top (h : p.Under s t) : p.isLive s = true := by
  induction h with
  | itself live => exact isLive_iff.mpr ⟨_, live⟩
  | mounted _ _ _ ih => exact ih

theorem Under.trans (h : p.Under s t) (h' : p.Under t u) : p.Under s u := by
  induction h' with
  | itself _ => exact h
  | mounted _ live parent ih => exact .mounted ih live parent

theorem Under.of_withoutSurface (h : (p.withoutSurface s).Under t u) : p.Under t u := by
  induction h with
  | itself live => exact .itself (mem_withoutSurface.mp live).1
  | mounted _ live parent ih => exact .mounted ih (mem_withoutSurface.mp live).1 parent

/-- Without `s`, all that was under another surface is still there, unless it was under `s`. -/
theorem Under.without_or (h : p.Under t u) : p.Under s u ∨ (p.withoutSurface s).Under t u := by
  induction h with
  | @itself record live =>
    by_cases same : t = s
    · exact .inl (same ▸ .itself live)
    · exact .inr (.itself (mem_withoutSurface.mpr ⟨live, same⟩))
  | @mounted v u record _ live parent ih =>
    rcases ih with under | kept
    · exact .inl (.mounted under live parent)
    · by_cases same : v = s
      · exact .inl (same ▸ .itself live)
      · exact .inr (.mounted kept (mem_withoutSurface.mpr ⟨live, same⟩) parent)

/-- What is under a surface is the surface, and what is under its children once it has gone. -/
theorem under_iff (live : p.isLive s = true) : p.Under s t ↔
    t = s ∨ ∃ c ∈ (p.withoutSurface s).children s, (p.withoutSurface s).Under c t := by
  constructor
  · intro h
    induction h with
    | itself _ => exact .inl rfl
    | @mounted v u record _ live parent ih =>
      by_cases same : v = s
      · exact .inl same
      have kept := mem_withoutSurface.mpr ⟨live, same⟩
      rcases ih with rfl | ⟨c, child, under⟩
      · exact .inr ⟨v, mem_children.mpr ⟨record, kept, parent⟩, .itself kept⟩
      · exact .inr ⟨c, child, .mounted under kept parent⟩
  · obtain ⟨top, there⟩ := isLive_iff.mp live
    rintro (rfl | ⟨c, child, under⟩)
    · exact .itself there
    · obtain ⟨record, kept, parent⟩ := mem_children.mp child
      have mounted : p.Under s c := .mounted (.itself there) (mem_withoutSurface.mp kept).1 parent
      exact mounted.trans under.of_withoutSurface

/-! Removing -/

def Falls (p : Picture) (doomed : List SurfaceId) (t : SurfaceId) : Prop :=
  ∃ s ∈ doomed, p.Under s t

theorem falls_cons (live : p.isLive s = true) : p.Falls (s :: rest) t ↔
    t = s ∨ (p.withoutSurface s).Falls ((p.withoutSurface s).children s ++ rest) t := by
  unfold Falls
  constructor
  · rintro ⟨u, mem, under⟩
    rcases under.without_or (s := s) with below | kept
    · rcases (under_iff live).mp below with same | ⟨c, child, under⟩
      · exact .inl same
      · exact .inr ⟨c, List.mem_append_left _ child, under⟩
    · rcases List.mem_cons.mp mem with rfl | mem
      · exact absurd (kept.live_top) (by simp [isLive, withoutSurface])
      · exact .inr ⟨u, List.mem_append_right _ mem, kept⟩
  · rintro (same | ⟨u, mem, under⟩)
    · exact ⟨s, List.mem_cons_self, (under_iff live).mpr (.inl same)⟩
    · rcases List.mem_append.mp mem with child | mem
      · exact ⟨s, List.mem_cons_self, (under_iff live).mpr (.inr ⟨u, child, under⟩)⟩
      · exact ⟨u, List.mem_cons_of_mem _ mem, under.of_withoutSurface⟩

theorem falls_cons_of_gone (gone : p.isLive s ≠ true) :
    p.Falls (s :: rest) t ↔ p.Falls rest t := by
  constructor
  · rintro ⟨u, mem, under⟩
    rcases List.mem_cons.mp mem with rfl | mem
    · exact absurd under.live_top gone
    · exact ⟨u, mem, under⟩
  · rintro ⟨u, mem, under⟩
    exact ⟨u, List.mem_cons_of_mem _ mem, under⟩

theorem without_congr {gone gone' : SurfaceId → Prop} [DecidablePred gone] [DecidablePred gone']
    (same : ∀ t, gone t ↔ gone' t) : p.without gone = p.without gone' := by
  obtain rfl : gone = gone' := funext fun t => propext (same t)
  congr

theorem without_withoutSurface {gone : SurfaceId → Prop} [DecidablePred gone] :
    (p.withoutSurface s).without gone = p.without fun t => t = s ∨ gone t := by
  unfold without withoutSurface
  simp only [List.filter_filter, Bool.decide_or, Bool.not_or, decide_not, Bool.and_comm]

theorem without_of_none {gone : SurfaceId → Prop} [DecidablePred gone] (none : ∀ t, ¬gone t) :
    p.without gone = p := by
  unfold without
  simp [none]

open Classical in
/-- Removing several surfaces takes out what is under one of them, whatever the picture. -/
theorem removeSurfaces_eq (p : Picture) (doomed : List SurfaceId) :
    p.removeSurfaces doomed = p.without (p.Falls doomed) := by
  -- the induction follows the rounds of the removal
  induction p, doomed using removeSurfaces.induct with
  | case1 p =>
    rw [removeSurfaces]
    exact (without_of_none fun t falls => absurd falls.choose_spec.1 List.not_mem_nil).symm
  | case2 p s rest live q ih =>
    rw [removeSurfaces, if_pos live]
    refine ih.trans (without_withoutSurface.trans (without_congr fun t => ?_))
    exact (falls_cons live).symm
  | case3 p s rest gone ih =>
    rw [removeSurfaces, if_neg gone]
    exact ih.trans (without_congr fun t => (falls_cons_of_gone gone).symm)

open Classical in
theorem removeSurface_eq (p : Picture) (s : SurfaceId) :
    p.removeSurface s = p.without (p.Under s) :=
  (removeSurfaces_eq p [s]).trans (without_congr fun _ => by unfold Falls; simp)

/-- Two surfaces that are mounted on each other go together. -/
example : ((empty.addSurface ⟨1⟩ ⟨some ⟨2⟩, "a"⟩).addSurface ⟨2⟩
    ⟨some ⟨1⟩, "b"⟩).removeSurface ⟨1⟩ = empty := by cbv

theorem removeSurface_of_gone (gone : p.isLive s = false) : p.removeSurface s = p := by
  classical
  rw [removeSurface_eq]
  exact without_of_none fun t under => Bool.false_ne_true (gone.symm.trans under.live_top)

/-! How long a removal takes -/

def waits (p : Picture) (entry : SurfaceId × SurfaceRecord) : Bool := entry.2.parent.any p.isLive

def ahead (p : Picture) (doomed : List SurfaceId) : Nat :=
  doomed.length + p.surfaces.countP p.waits

/-- A surface that goes brings no more surfaces to remove than those that were waiting for it. -/
theorem ahead_withoutSurface (live : p.isLive s = true) :
    (p.withoutSurface s).ahead ((p.withoutSurface s).children s ++ rest) < p.ahead (s :: rest) := by
  have gone : (p.withoutSurface s).isLive s = false := by simp [isLive, withoutSurface]
  have still {t : SurfaceId} (h : (p.withoutSurface s).isLive t = true) : p.isLive t = true := by
    obtain ⟨record, mem⟩ := isLive_iff.mp h
    exact isLive_iff.mpr ⟨record, (mem_withoutSurface.mp mem).1⟩
  have fewer : (p.withoutSurface s).surfaces.countP p.waits ≤ p.surfaces.countP p.waits :=
    List.filter_sublist.countP_le
  -- of what waits for a live parent, some wait for `s`, and the others still wait
  rw [List.countP_eq_countP_filter_add _ _ fun entry => decide (entry.2.parent = some s)] at fewer
  have mounted : ((p.withoutSurface s).children s).length =
      ((p.withoutSurface s).surfaces.filter fun entry =>
        decide (entry.2.parent = some s)).countP p.waits := by
    unfold children
    rw [List.length_map, eq_comm, List.countP_eq_length]
    intro entry mem
    unfold waits
    rw [of_decide_eq_true (List.mem_filter.mp mem).2]
    exact live
  have others : (p.withoutSurface s).surfaces.countP (p.withoutSurface s).waits ≤
      ((p.withoutSurface s).surfaces.filter fun entry =>
        !decide (entry.2.parent = some s)).countP p.waits := by
    rw [List.countP_filter]
    refine List.countP_mono_left fun entry _ waiting => ?_
    unfold waits at waiting ⊢
    cases parent : entry.2.parent with
    | none => rw [parent] at waiting; exact absurd waiting Bool.false_ne_true
    | some u =>
      rw [parent] at waiting
      have ne : u ≠ s := fun same => Bool.false_ne_true (gone.symm.trans (same ▸ waiting))
      simpa [ne] using still waiting
  unfold ahead
  rw [List.length_append, List.length_cons]
  omega

theorem ahead_singleton_le (p : Picture) (s : SurfaceId) : p.ahead [s] ≤ p.surfaces.length + 1 := by
  have := List.countP_le_length (p := p.waits) (l := p.surfaces)
  unfold ahead
  rw [List.length_singleton]
  omega

theorem falls_perm (same : doomed.Perm rest) : p.Falls doomed t ↔ p.Falls rest t :=
  exists_congr fun _ => and_congr_left' same.mem_iff

theorem removeSurfaces_perm (same : doomed.Perm rest) :
    p.removeSurfaces doomed = p.removeSurfaces rest := by
  classical
  rw [removeSurfaces_eq, removeSurfaces_eq]
  exact without_congr fun _ => falls_perm same

variable {n : Nat} {now next last : Picture × List SurfaceId}

theorem Round.ahead_lt (h : Round now next) : next.1.ahead next.2 < now.1.ahead now.2 := by
  have same {doomed rest : List SurfaceId} {p : Picture} (perm : doomed.Perm rest) :
      p.ahead doomed = p.ahead rest := congrArg (· + _) perm.length_eq
  cases h with
  | take taken live => exact same taken ▸ ahead_withoutSurface live
  | skip taken _ => exact same taken ▸ Nat.add_lt_add_right (Nat.lt_succ_self _) _

theorem Round.removes (h : Round now next) :
    now.1.removeSurfaces now.2 = next.1.removeSurfaces next.2 := by
  cases h with
  | take taken live =>
    refine (removeSurfaces_perm taken).trans ?_
    rw [removeSurfaces, if_pos live]
  | skip taken gone =>
    refine (removeSurfaces_perm taken).trans ?_
    rw [removeSurfaces, if_neg gone]

theorem Rounds.ahead_le (h : Rounds n now last) :
    n + last.1.ahead last.2 ≤ now.1.ahead now.2 := by
  induction h with
  | none => exact Nat.le_of_eq (Nat.zero_add _)
  | more first _ ih =>
    have := first.ahead_lt
    omega

/-- In whatever order surfaces are taken, what is left is the same. -/
theorem Rounds.removes (h : Rounds n now last) :
    now.1.removeSurfaces now.2 = last.1.removeSurfaces last.2 := by
  induction h with
  | none => rfl
  | more first _ ih => exact first.removes.trans ih

theorem exists_rounds (p : Picture) (doomed : List SurfaceId) :
    ∃ n, Rounds n (p, doomed) (p.removeSurfaces doomed, []) := by
  induction p, doomed using removeSurfaces.induct with
  | case1 p =>
    rw [removeSurfaces]
    exact ⟨0, .none _⟩
  | case2 p s rest live q ih =>
    rw [removeSurfaces, if_pos live]
    exact ih.imp' _ fun _ later => .more (.take (.refl _) live) later
  | case3 p s rest gone ih =>
    rw [removeSurfaces, if_neg gone]
    exact ih.imp' _ fun _ later => .more (.skip (.refl _) gone) later

theorem Rounds.of_removeSurface (h : Rounds n (p, [s]) last) :
    n ≤ p.surfaces.length + 1 ∧ (last.2 = [] → last.1 = p.removeSurface s) := by
  refine ⟨Nat.le_trans (Nat.le_of_add_right_le h.ahead_le) (ahead_singleton_le p s), fun done => ?_⟩
  have left := h.removes
  rw [done, removeSurfaces.eq_1] at left
  exact left.symm

/-! Numbers and orphans -/

/-- Surfaces and elements stand in the order of their numbers, which are among the first `n`. -/
structure Numbered (p : Picture) (n : Nat) : Prop where
  surfaces : p.surfaces.Pairwise (·.1.number < ·.1.number)
  elements : p.elements.Pairwise (·.1.number < ·.1.number)
  raised : ∀ entry ∈ p.surfaces, 0 < entry.1.number ∧ entry.1.number ≤ n
  made : ∀ entry ∈ p.elements, 0 < entry.1.number ∧ entry.1.number ≤ n

/-- Whether all is mounted on live surfaces. -/
structure Sheltered (p : Picture) : Prop where
  surfaces : ∀ entry ∈ p.surfaces, ∀ u, entry.2.parent = some u → p.isLive u = true
  elements : ∀ entry ∈ p.elements, p.isLive entry.2.surface = true

variable {record : SurfaceRecord}

theorem numbered_empty : Numbered .empty 0 := ⟨.nil, .nil, nofun, nofun⟩

theorem sheltered_empty : Sheltered .empty := ⟨nofun, nofun⟩

theorem Numbered.addSurface (h : p.Numbered n) (record : SurfaceRecord) :
    (p.addSurface ⟨n + 1⟩ record).Numbered (n + 1) := by
  unfold Picture.addSurface
  refine ⟨List.pairwise_append.mpr ⟨h.surfaces, List.pairwise_singleton _ _, ?_⟩, h.elements, ?_,
    fun entry mem => (h.made entry mem).imp_right Nat.le_succ_of_le⟩
  · intro entry mem last same
    rw [List.mem_singleton.mp same]
    exact Nat.lt_succ_of_le (h.raised entry mem).2
  · intro entry mem
    rcases List.mem_append.mp mem with mem | mem
    · exact (h.raised entry mem).imp_right Nat.le_succ_of_le
    · rw [List.mem_singleton.mp mem]
      exact ⟨Nat.succ_pos n, Nat.le_refl _⟩

theorem Numbered.addElement (h : p.Numbered n) (record : ElementRecord) :
    (p.addElement ⟨n + 1⟩ record).Numbered (n + 1) := by
  unfold Picture.addElement
  refine ⟨h.surfaces, List.pairwise_append.mpr ⟨h.elements, List.pairwise_singleton _ _, ?_⟩,
    fun entry mem => (h.raised entry mem).imp_right Nat.le_succ_of_le, ?_⟩
  · intro entry mem last same
    rw [List.mem_singleton.mp same]
    exact Nat.lt_succ_of_le (h.made entry mem).2
  · intro entry mem
    rcases List.mem_append.mp mem with mem | mem
    · exact (h.made entry mem).imp_right Nat.le_succ_of_le
    · rw [List.mem_singleton.mp mem]
      exact ⟨Nat.succ_pos n, Nat.le_refl _⟩

theorem Numbered.updateElement (h : p.Numbered n) (e : ElementId) (spec : Element.Spec) :
    (p.updateElement e spec).Numbered n := by
  have same (entry : ElementId × ElementRecord) :
      (if entry.1 = e then (e, { entry.2 with spec }) else entry).1 = entry.1 := by
    split
    · exact Eq.symm ‹_›
    · rfl
  unfold Picture.updateElement
  refine ⟨h.surfaces, List.pairwise_map.mpr ?_, h.raised, ?_⟩
  · simp only [same]
    exact h.elements
  · intro entry mem
    obtain ⟨old, here, rfl⟩ := List.mem_map.mp mem
    rw [same]
    exact h.made old here

theorem Numbered.removeElement (h : p.Numbered n) (e : ElementId) :
    (p.removeElement e).Numbered n :=
  ⟨h.surfaces, h.elements.sublist List.filter_sublist, h.raised,
    fun entry mem => h.made entry (List.mem_filter.mp mem).1⟩

theorem Numbered.removeSurface (h : p.Numbered n) (s : SurfaceId) :
    (p.removeSurface s).Numbered n := by
  classical
  rw [removeSurface_eq]
  exact ⟨h.surfaces.sublist List.filter_sublist, h.elements.sublist List.filter_sublist,
    fun entry mem => h.raised entry (List.mem_filter.mp mem).1,
    fun entry mem => h.made entry (List.mem_filter.mp mem).1⟩

theorem isLive_addSurface (h : p.isLive t = true) : (p.addSurface s record).isLive t = true := by
  obtain ⟨top, mem⟩ := isLive_iff.mp h
  exact isLive_iff.mpr ⟨top, List.mem_append_left _ mem⟩

theorem Sheltered.addSurface (h : p.Sheltered) (record : SurfaceRecord)
    (mounted : ∀ u, record.parent = some u → p.isLive u = true) :
    (p.addSurface s record).Sheltered := by
  refine ⟨fun entry mem u parent => isLive_addSurface ?_,
    fun entry mem => isLive_addSurface (h.elements entry mem)⟩
  rcases List.mem_append.mp mem with mem | mem
  · exact h.surfaces entry mem u parent
  · rw [List.mem_singleton.mp mem] at parent
    exact mounted u parent

theorem Sheltered.addElement (h : p.Sheltered) (e : ElementId) (spec : Element.Spec)
    (mounted : p.isLive s = true) : (p.addElement e ⟨s, spec⟩).Sheltered := by
  refine ⟨h.surfaces, fun entry mem => ?_⟩
  rcases List.mem_append.mp mem with mem | mem
  · exact h.elements entry mem
  · rw [List.mem_singleton.mp mem]
    exact mounted

theorem Sheltered.updateElement (h : p.Sheltered) (e : ElementId) (spec : Element.Spec) :
    (p.updateElement e spec).Sheltered := by
  refine ⟨h.surfaces, fun entry mem => ?_⟩
  obtain ⟨old, here, rfl⟩ := List.mem_map.mp mem
  split <;> exact h.elements old here

theorem Sheltered.removeElement (h : p.Sheltered) (e : ElementId) :
    (p.removeElement e).Sheltered :=
  ⟨h.surfaces, fun entry mem => h.elements entry (List.mem_filter.mp mem).1⟩

/-- What stays is mounted on what stays: the parent of a surface that is not under `s` is not. -/
theorem Sheltered.removeSurface (h : p.Sheltered) (s : SurfaceId) :
    (p.removeSurface s).Sheltered := by
  classical
  rw [removeSurface_eq]
  have stays {t : SurfaceId} (live : p.isLive t = true) (apart : ¬p.Under s t) :
      (p.without (p.Under s)).isLive t = true := by
    obtain ⟨record, mem⟩ := isLive_iff.mp live
    exact isLive_iff.mpr ⟨record, List.mem_filter.mpr ⟨mem, by simpa using apart⟩⟩
  constructor
  · intro entry mem u parent
    obtain ⟨mem, apart⟩ := List.mem_filter.mp mem
    refine stays (h.surfaces entry mem u parent) fun under => ?_
    exact absurd (Under.mounted under mem parent) (by simpa using apart)
  · intro entry mem
    obtain ⟨mem, apart⟩ := List.mem_filter.mp mem
    exact stays (h.elements entry mem) (by simpa using apart)

end Picture

namespace Renderer

/-- What a renderer may be asked. -/
inductive Ask where
  | createSurface (parent : Option SurfaceId) (scope : String)
  | removeSurface (s : SurfaceId)
  | createElement (s : SurfaceId) (spec : Element.Spec)
  | updateElement (e : ElementId) (spec : Element.Spec)
  | removeElement (e : ElementId)

/-- The number that is handed out, if any, and the renderer afterwards. -/
def answer (r : Renderer) : Ask → Option Nat × Renderer
  | .createSurface parent scope =>
    (some (r.createSurface parent scope).1.number, (r.createSurface parent scope).2)
  | .removeSurface s => (none, r.removeSurface s)
  | .createElement s spec => (some (r.createElement s spec).1.number, (r.createElement s spec).2)
  | .updateElement e spec => (none, r.updateElement e spec)
  | .removeElement e => (none, r.removeElement e)

/-- All the numbers that are handed out, and the renderer afterwards. -/
def answers (r : Renderer) : List Ask → List Nat × Renderer
  | [] => ([], r)
  | ask :: rest =>
    let later := (r.answer ask).2.answers rest
    ((r.answer ask).1.toList ++ later.1, later.2)

def shows (r : Renderer) (s : SurfaceId) : Bool := r.picture.any (·.isLive s)

def mounts (r : Renderer) : Ask → Bool
  | .createSurface parent _ => parent.all r.shows
  | .createElement s _ => r.shows s
  | .removeSurface _ | .updateElement .. | .removeElement _ => true

/-- Whether all that is mounted is mounted on surfaces that are live then. -/
def mountsAll (r : Renderer) : List Ask → Bool
  | [] => true
  | ask :: rest => r.mounts ask && (r.answer ask).2.mountsAll rest

structure Charts (r : Renderer) (p : Picture) : Prop where
  picture : r.picture = some p
  numbered : p.Numbered r.issued

variable {r : Renderer} {p : Picture}

theorem charts_recording : recording.Charts .empty := ⟨rfl, Picture.numbered_empty⟩

theorem Charts.shows (h : r.Charts p) (s : SurfaceId) : r.shows s = p.isLive s := by
  unfold Renderer.shows
  rw [h.picture]
  rfl

/-- Where all is mounted on live surfaces, it stays so as long as nothing is mounted elsewhere. -/
theorem charts_answer (h : r.Charts p) (ask : Ask) : ∃ q, (r.answer ask).2.Charts q ∧
    (p.Sheltered → r.mounts ask = true → q.Sheltered) := by
  cases ask with
  | createSurface parent scope =>
    refine ⟨p.addSurface ⟨r.issued + 1⟩ ⟨parent, scope⟩,
      ⟨congrArg (Option.map _) h.picture, h.numbered.addSurface _⟩, fun sheltered mounts => ?_⟩
    refine sheltered.addSurface _ fun u eq => ?_
    rw [← h.shows]
    dsimp only [Renderer.mounts] at mounts
    rw [show parent = some u from eq] at mounts
    exact mounts
  | removeSurface s =>
    exact ⟨p.removeSurface s, ⟨congrArg (Option.map _) h.picture, h.numbered.removeSurface s⟩,
      fun sheltered _ => sheltered.removeSurface s⟩
  | createElement s spec =>
    refine ⟨p.addElement ⟨r.issued + 1⟩ ⟨s, spec⟩,
      ⟨congrArg (Option.map _) h.picture, h.numbered.addElement _⟩, fun sheltered mounts => ?_⟩
    exact sheltered.addElement _ spec ((h.shows s).symm.trans mounts)
  | updateElement e spec =>
    exact ⟨p.updateElement e spec,
      ⟨congrArg (Option.map _) h.picture, h.numbered.updateElement e spec⟩,
      fun sheltered _ => sheltered.updateElement e spec⟩
  | removeElement e =>
    exact ⟨p.removeElement e, ⟨congrArg (Option.map _) h.picture, h.numbered.removeElement e⟩,
      fun sheltered _ => sheltered.removeElement e⟩

theorem charts_answers (h : r.Charts p) (asks : List Ask) : ∃ q, (r.answers asks).2.Charts q ∧
    (p.Sheltered → r.mountsAll asks = true → q.Sheltered) := by
  induction asks generalizing r p with
  | nil => exact ⟨p, h, fun sheltered _ => sheltered⟩
  | cons ask rest ih =>
    obtain ⟨q, charts, keeps⟩ := charts_answer h ask
    obtain ⟨q', charts', keeps'⟩ := ih charts
    refine ⟨q', charts', fun sheltered mounts => ?_⟩
    obtain ⟨first, later⟩ := Bool.and_eq_true_iff.mp mounts
    exact keeps' (keeps sheltered first) later

theorem counts_answer (r : Renderer) (ask : Ask) :
    List.range' 1 r.issued ++ (r.answer ask).1.toList = List.range' 1 (r.answer ask).2.issued := by
  cases ask with
  | createSurface | createElement =>
    have one := @List.range'_1_concat 1 r.issued
    rw [Nat.add_comm 1] at one
    exact one.symm
  | removeSurface | updateElement | removeElement => exact List.append_nil _

theorem counts_answers (r : Renderer) (asks : List Ask) :
    List.range' 1 r.issued ++ (r.answers asks).1 = List.range' 1 (r.answers asks).2.issued := by
  induction asks generalizing r with
  | nil => exact List.append_nil _
  | cons ask rest ih =>
    unfold answers
    rw [← List.append_assoc, counts_answer]
    exact ih _

theorem elementsOn_numbered (h : r.Charts p) (s : SurfaceId) :
    ∃ on : List (ElementId × Element.Spec), p.elementsOn s = on.map (·.2) ∧
      on.Pairwise (·.1.number < ·.1.number) ∧
      ∀ e spec, (e, spec) ∈ on ↔ (e, ⟨s, spec⟩) ∈ p.elements := by
  refine ⟨(p.elements.filter (·.2.surface = s)).map fun entry => (entry.1, entry.2.spec),
    ?_, ?_, ?_⟩
  · unfold Picture.elementsOn
    rw [List.map_map]
    rfl
  · exact List.pairwise_map.mpr (h.numbered.elements.sublist List.filter_sublist)
  · intro e spec
    rw [List.mem_map]
    constructor
    · rintro ⟨⟨e, s', spec⟩, mem, eq⟩
      cases eq
      obtain ⟨mem, on⟩ := List.mem_filter.mp mem
      exact of_decide_eq_true on ▸ mem
    · exact fun mem => ⟨_, List.mem_filter.mpr ⟨mem, decide_eq_true rfl⟩, rfl⟩

open Classical in
/-- Whatever a recording renderer was asked, it handed out the numbers from 1 on, each once.
Removing a surface then ends, in whatever order it goes through the surfaces, after at most one
round for each live surface and one more; it takes out the surfaces under it and what is mounted on
them, and nothing where it is not live. Where all was mounted on live surfaces, it is now; and a
surface lists its elements in the order they were made. -/
theorem surface_takes_subtree (asks : List Ask) {numbers : List Nat}
    (answers : recording.answers asks = (numbers, r)) :
    numbers = List.range' 1 r.issued ∧
    ∃ p, r.picture = some p ∧ p.Numbered r.issued ∧
      (∀ s, (∃ n, Picture.Rounds n (p, [s]) (p.removeSurface s, [])) ∧
        (∀ n last, Picture.Rounds n (p, [s]) last →
          n ≤ p.surfaces.length + 1 ∧ (last.2 = [] → last.1 = p.removeSurface s)) ∧
        (r.removeSurface s).picture = some (p.without (p.Under s)) ∧
        (r.removeSurface s).issued = r.issued ∧
        (p.isLive s = false → (r.removeSurface s).picture = r.picture)) ∧
      (recording.mountsAll asks = true → p.Sheltered) ∧
      ∀ s, ∃ on : List (ElementId × Element.Spec), p.elementsOn s = on.map (·.2) ∧
        on.Pairwise (·.1.number < ·.1.number) ∧
        ∀ e spec, (e, spec) ∈ on ↔ (e, ⟨s, spec⟩) ∈ p.elements := by
  have counted := counts_answers recording asks
  obtain ⟨p, charts, shelters⟩ := charts_answers charts_recording asks
  rw [answers] at counted charts
  refine ⟨counted, p, charts.picture, charts.numbered, fun s =>
    ⟨p.exists_rounds [s], fun _ _ rounds => rounds.of_removeSurface, ?_, rfl, ?_⟩,
    shelters Picture.sheltered_empty, elementsOn_numbered charts⟩
  · unfold removeSurface
    rw [charts.picture, ← Picture.removeSurface_eq]
    rfl
  · intro gone
    unfold removeSurface
    rw [charts.picture]
    exact congrArg some (Picture.removeSurface_of_gone gone)

/-- A root with a surface on it, and another on that one; the one in the middle is removed with what
is drawn on it, and the root is drawn on. -/
def stacked : List Ask :=
  [.createSurface none "visualiser", .createSurface (some ⟨1⟩) "variables",
    .createElement ⟨2⟩ ⟨.variableBox, "x", "1", none⟩, .createSurface (some ⟨2⟩) "detail",
    .createElement ⟨1⟩ ⟨.variableBox, "y", "2", none⟩, .removeSurface ⟨2⟩,
    .createElement ⟨1⟩ ⟨.variableBox, "z", "3", none⟩]

theorem surface_takes_subtree_of_stacked : ∃ numbers r,
    recording.answers stacked = (numbers, r) ∧ recording.mountsAll stacked = true ∧
    numbers = [1, 2, 3, 4, 5, 6] ∧ ∃ p, r.picture = some p ∧ p.Numbered 6 ∧ p.Sheltered ∧
      p.surfaces = [(⟨1⟩, ⟨none, "visualiser"⟩)] ∧
      p.elementsOn ⟨1⟩ = [⟨.variableBox, "y", "2", none⟩, ⟨.variableBox, "z", "3", none⟩] := by
  have mounts : recording.mountsAll stacked = true := by cbv
  have issued : (recording.answers stacked).2.issued = 6 := by decide +kernel
  have shown : (recording.answers stacked).2.picture = some ⟨[(⟨1⟩, ⟨none, "visualiser"⟩)],
      [(⟨5⟩, ⟨⟨1⟩, .variableBox, "y", "2", none⟩),
        (⟨6⟩, ⟨⟨1⟩, .variableBox, "z", "3", none⟩)], 3⟩ := by
    cbv
  have answers : recording.answers stacked =
    ((recording.answers stacked).1, (recording.answers stacked).2) := rfl
  obtain ⟨counted, p, picture, numbered, -, sheltered, -⟩ := surface_takes_subtree stacked answers
  rw [issued] at counted numbered
  cases shown.symm.trans picture
  exact ⟨_, _, rfl, mounts, counted, _, shown, numbered, sheltered mounts, rfl, rfl⟩

end Renderer

end Replay
