import Mathlib.Data.Fintype.Pigeonhole
import Mathlib.Data.List.Permutation
import Mathlib.Logic.Function.Iterate
import Mathlib.Logic.Relation
import Replay.Proofs.World.Order

/-!
What modules need, and the order in which they are initialised. Where no module leads to others
that need each other in a circle there is an order that puts every module behind all it needs. Of
all such orders the one that is taken keeps to the order of the level the longest. Otherwise the
modules that cannot be placed are just those that lead to such a circle.
-/
namespace Replay.LoadOrder

variable {α : Type} (id : α → String) (needs : α → List String)

/-- Whether every module stands behind all that it needs, some modules being placed before. -/
def Respects (placed : List String) (order : List α) : Prop :=
  ∀ front m back, order = front ++ m :: back → ∀ need ∈ needs m, need ∈ placed ++ front.map id

/-- The places that the modules of an order have in the level. -/
def places (modules order : List α) : List Nat :=
  order.map fun m => (modules.map id).idxOf (id m)

/-- Whether the module with an id needs the one with another id. -/
def Needs (modules : List α) (name need : String) : Prop :=
  ∃ m ∈ modules, id m = name ∧ need ∈ needs m

def Circles (modules : List α) (name : String) : Prop :=
  ∃ other, Relation.ReflTransGen (Needs id needs modules) name other ∧
    Relation.TransGen (Needs id needs modules) other other

variable {id needs} {m : α} {modules order other waiting rest : List α} {placed : List String}
  {steps : Nat} {level name : String}

theorem isReady_iff : isReady needs placed m = true ↔ ∀ need ∈ needs m, need ∈ placed := by
  unfold isReady
  simp only [List.all_eq_true, List.contains_iff_mem]

theorem respects_nil : Respects id needs placed [] := by
  intro front m back split
  cases front <;> cases split

theorem respects_cons : Respects id needs placed (m :: rest) ↔
    isReady needs placed m = true ∧ Respects id needs (placed ++ [id m]) rest := by
  rw [isReady_iff]
  constructor
  · intro h
    refine ⟨fun need mem => ?_, fun front n back split need mem => ?_⟩
    · simpa using h [] m rest rfl need mem
    · simpa using h (m :: front) n back (congrArg _ split) need mem
  · rintro ⟨ready, h⟩ front n back split need mem
    cases front with
    | nil =>
      cases split
      exact List.mem_append_left _ (ready need mem)
    | cons first front =>
      cases split
      simpa using h front n back rfl need mem

variable (id needs) in
theorem place_cases : ∀ (placed : List String) {waiting : List α}, waiting.length ≤ steps →
    (∃ order, place id needs placed waiting steps = .ok order ∧ Respects id needs placed order) ∨
    ∃ first stuck, place id needs placed waiting steps = .error stuck ∧ stuck ≠ [] ∧
      (first ++ stuck).Perm waiting ∧ stuck.Sublist waiting ∧ Respects id needs placed first ∧
      ∀ m ∈ stuck, isReady needs (placed ++ first.map id) m = false := by
  induction steps with
  | zero =>
    intro placed waiting le
    obtain rfl := List.eq_nil_of_length_eq_zero (Nat.le_zero.mp le)
    exact .inl ⟨[], rfl, respects_nil⟩
  | succ steps ih =>
    intro placed waiting le
    unfold place
    cases empty : waiting.isEmpty with
    | true => exact .inl ⟨[], rfl, respects_nil⟩
    | false =>
      simp only [Bool.false_eq_true, if_false]
      cases found : waiting.find? (isReady needs placed) with
      | none =>
        refine .inr ⟨[], waiting, rfl, ?_, .refl _, .refl _, respects_nil, fun m mem => ?_⟩
        · rintro rfl
          cases empty
        · simpa using List.find?_eq_none.mp found m mem
      | some next =>
        obtain ⟨before, after, rfl, erased, ready, -⟩ := eraseP_of_find? found
        have fewer : (before ++ after).length ≤ steps := by
          rw [List.length_append, List.length_cons] at le
          rw [List.length_append]
          omega
        dsimp only
        rw [erased]
        rcases ih (placed ++ [id next]) fewer with
          ⟨later, eq, respects⟩ | ⟨first, stuck, eq, some, perm, sub, respects, unready⟩
        · rw [eq]
          exact .inl ⟨next :: later, rfl, respects_cons.mpr ⟨ready, respects⟩⟩
        · rw [eq]
          refine .inr ⟨next :: first, stuck, rfl, some, ?_, ?_,
            respects_cons.mpr ⟨ready, respects⟩, ?_⟩
          · exact (perm.cons next).trans List.perm_middle.symm
          · exact sub.trans ((List.sublist_cons_self next after).append_left before)
          · simpa using unready

theorem lex_of_place {rank : α → Nat} : ∀ {placed : List String} {waiting order other : List α},
    place id needs placed waiting steps = .ok order →
      waiting.Pairwise (rank · < rank ·) → other.Perm waiting → Respects id needs placed other →
      other = order ∨ List.Lex (· < ·) (order.map rank) (other.map rank) := by
  induction steps with
  | zero =>
    intro placed waiting order other h _ perm _
    unfold place at h
    split at h
    · rename_i empty
      cases h
      rw [List.isEmpty_iff.mp empty] at perm
      exact .inl perm.eq_nil
    · cases h
  | succ steps ih =>
    intro placed waiting order other h ascends perm respects
    unfold place at h
    split at h
    · rename_i empty
      cases h
      rw [List.isEmpty_iff.mp empty] at perm
      exact .inl perm.eq_nil
    split at h
    · cases h
    rename_i next found
    split at h
    · rename_i later placed_later
      cases h
      obtain ⟨before, after, rfl, erased, -, unready⟩ := eraseP_of_find? found
      rw [erased] at placed_later
      cases other with
      | nil => exact absurd perm.symm.eq_nil (by simp)
      | cons o rest =>
        obtain ⟨ready, respects⟩ := respects_cons.mp respects
        obtain ⟨-, behind, -⟩ := List.pairwise_append.mp ascends
        rcases List.mem_append.mp (perm.subset List.mem_cons_self) with mem | mem
        · cases (unready o mem).symm.trans ready
        · rcases List.mem_cons.mp mem with rfl | mem
          · have perm := (perm.trans List.perm_middle).cons_inv
            have ascends := ascends.sublist ((List.sublist_cons_self o after).append_left before)
            rcases ih placed_later ascends perm respects with rfl | lex
            · exact .inl rfl
            · exact .inr (.cons lex)
          · exact .inr (.rel ((List.pairwise_cons.mp behind).1 o mem))
    · cases h

theorem place_of_respects : ∀ {placed : List String} {waiting : List α}, waiting.length ≤ steps →
    Respects id needs placed waiting → place id needs placed waiting steps = .ok waiting := by
  induction steps with
  | zero =>
    intro placed waiting le _
    obtain rfl := List.eq_nil_of_length_eq_zero (Nat.le_zero.mp le)
    rfl
  | succ steps ih =>
    intro placed waiting le respects
    cases waiting with
    | nil => rfl
    | cons m rest =>
      obtain ⟨ready, respects⟩ := respects_cons.mp respects
      have later := ih (Nat.le_of_succ_le_succ le) respects
      unfold place
      simp only [List.isEmpty_cons, Bool.false_eq_true, if_false, List.find?_cons_of_pos ready,
        List.eraseP_cons_of_pos ready, later]

/-! Circles -/

theorem circles_iff : Circles id needs modules name ↔
    ∃ need, Needs id needs modules name need ∧ Circles id needs modules need := by
  constructor
  · rintro ⟨other, path, circle⟩
    rcases path.cases_head with rfl | ⟨need, first, path⟩
    · obtain ⟨need, first, path⟩ := Relation.TransGen.head'_iff.mp circle
      exact ⟨need, first, name, path, circle⟩
    · exact ⟨need, first, other, path, circle⟩
  · rintro ⟨need, first, other, path, circle⟩
    exact ⟨other, path.head first, circle⟩

theorem not_circles_of_respects (once : (modules.map id).Nodup) :
    ∀ placed : List String, (∀ need ∈ placed, ¬Circles id needs modules need) →
      order ⊆ modules → Respects id needs placed order →
      ∀ m ∈ order, ¬Circles id needs modules (id m) := by
  induction order with
  | nil => exact fun _ _ _ _ => nofun
  | cons first rest ih =>
    intro placed straight sub respects
    obtain ⟨ready, respects⟩ := respects_cons.mp respects
    have first_straight : ¬Circles id needs modules (id first) := by
      intro circles
      obtain ⟨need, ⟨n, mem, same, needed⟩, onward⟩ := circles_iff.mp circles
      obtain rfl := List.inj_on_of_nodup_map once mem (sub List.mem_cons_self) same
      exact straight need (isReady_iff.mp ready need needed) onward
    intro m mem
    rcases List.mem_cons.mp mem with rfl | mem
    · exact first_straight
    · refine ih _ (fun need placed => ?_) (fun n mem => sub (List.mem_cons_of_mem _ mem)) respects
        m mem
      rcases List.mem_append.mp placed with old | new
      · exact straight need old
      · exact List.mem_singleton.mp new ▸ first_straight

/-- Where each of finitely many modules needs another of them, they all lead to a circle. -/
theorem circles_of_closed {names : List String}
    (closed : ∀ name ∈ names, ∃ need ∈ names, Needs id needs modules name need) :
    ∀ name ∈ names, Circles id needs modules name := by
  intro name mem
  choose next stays leads using fun name : { name // name ∈ names } => closed name.1 name.2
  let walk (k : Nat) : { name // name ∈ names } :=
    (fun name => ⟨next name, stays name⟩)^[k] ⟨name, mem⟩
  have step (k : Nat) : Needs id needs modules (walk k).1 (walk (k + 1)).1 := by
    have eq : walk (k + 1) = ⟨next (walk k), stays (walk k)⟩ := Function.iterate_succ_apply' _ _ _
    rw [eq]
    exact leads (walk k)
  have path (k : Nat) : ∀ j, Relation.ReflTransGen (Needs id needs modules) (walk k).1
      (walk (k + j)).1 := by
    intro j
    induction j with
    | zero => exact .refl
    | succ j ih => exact ih.tail (step (k + j))
  -- the walk stays among finitely many modules, so it comes back to one of them
  have again {i j : Nat} (lt : i < j) (same : walk i = walk j) :
      Circles id needs modules name := by
    refine ⟨(walk i).1, ?_, ?_⟩
    · have from_start := path 0 i
      rwa [Nat.zero_add] at from_start
    · have back := path (i + 1) (j - (i + 1))
      rw [Nat.add_sub_cancel' lt, ← same] at back
      exact Relation.TransGen.head' (step i) back
  obtain ⟨i, j, ne, same⟩ := Finite.exists_ne_map_eq_of_infinite walk
  rcases Nat.lt_or_gt_of_ne ne with lt | lt
  · exact again lt same
  · exact again lt same.symm

theorem stuck_iff {stuck : List α} (once : (modules.map id).Nodup)
    (met : ∀ m ∈ modules, ∀ need ∈ needs m, need ∈ modules.map id)
    (h : place id needs [] modules modules.length = .error stuck) :
    stuck ≠ [] ∧ stuck.Sublist modules ∧
      ∀ name, name ∈ stuck.map id ↔ Circles id needs modules name := by
  rcases place_cases id needs [] (Nat.le_refl modules.length) with
    ⟨order, eq, -⟩ | ⟨first, stuck', eq, some, perm, sub, respects, unready⟩
  · cases eq.symm.trans h
  cases eq.symm.trans h
  have among {m : α} : m ∈ modules ↔ m ∈ first ∨ m ∈ stuck :=
    perm.mem_iff.symm.trans List.mem_append
  refine ⟨some, sub, fun name => ⟨?_, fun circles => ?_⟩⟩
  · refine circles_of_closed (fun name mem => ?_) name
    obtain ⟨m, waits, rfl⟩ := List.mem_map.mp mem
    have lacks := unready m waits
    rw [List.nil_append, Bool.eq_false_iff, ne_eq, isReady_iff] at lacks
    push Not at lacks
    obtain ⟨need, needed, unplaced⟩ := lacks
    obtain ⟨n, there, rfl⟩ := List.mem_map.mp (met m (sub.subset waits) need needed)
    have waits' : n ∈ stuck :=
      (among.mp there).resolve_left fun mem => unplaced (List.mem_map_of_mem mem)
    exact ⟨id n, List.mem_map_of_mem waits', m, sub.subset waits, rfl, needed⟩
  · obtain ⟨-, ⟨m, mem, rfl, -⟩, -⟩ := circles_iff.mp circles
    refine List.mem_map_of_mem ((among.mp mem).resolve_left fun done => ?_)
    have early (n : α) (mem : n ∈ first) : n ∈ modules := among.mpr (.inl mem)
    exact not_circles_of_respects once [] (fun _ => (nomatch ·)) early respects m done circles

theorem not_circles_of_place (once : (modules.map id).Nodup)
    (h : place id needs [] modules modules.length = .ok order) :
    ¬Circles id needs modules name := by
  intro circles
  obtain ⟨-, ⟨m, mem, rfl, -⟩, -⟩ := circles_iff.mp circles
  rcases place_cases id needs [] (Nat.le_refl modules.length) with
    ⟨order', eq, respects⟩ | ⟨first, stuck, eq, -⟩
  · have perm := perm_of_place eq
    have straight := not_circles_of_respects once [] (fun _ => (nomatch ·)) perm.subset respects
    exact straight m (perm.mem_iff.mpr mem) circles
  · cases eq.symm.trans h

/-! Arrangements -/

theorem repeated?_eq_none : repeated? id modules = none ↔ (modules.map id).Nodup := by
  unfold repeated?
  rw [firstRepeated_eq_none]
  exact and_iff_left fun _ _ => List.not_mem_nil

theorem missing?_eq_none : missing? id needs modules = none ↔
    ∀ m ∈ modules, ∀ need ∈ needs m, need ∈ modules.map id := by
  unfold missing?
  simp only [List.findSome?_eq_none_iff, Option.map_eq_none_iff, List.find?_eq_none,
    Bool.not_eq_true', Bool.not_eq_false, List.contains_iff_mem]

/-- Modules with ids of their own that have all they need are arranged by placing them. -/
theorem arrange_eq (once : (modules.map id).Nodup)
    (met : ∀ m ∈ modules, ∀ need ∈ needs m, need ∈ modules.map id) :
    arrange id needs level modules = (place id needs [] modules modules.length).mapError
      fun stuck => .dependencyCycle (stuck.map id) := by
  unfold arrange
  rw [repeated?_eq_none.mpr once, missing?_eq_none.mpr met]
  dsimp only
  cases place id needs [] modules modules.length <;> rfl

theorem ascending_places (once : (modules.map id).Nodup) :
    modules.Pairwise fun m n => (modules.map id).idxOf (id m) < (modules.map id).idxOf (id n) := by
  rw [List.pairwise_iff_getElem]
  intro i j hi hj lt
  have place (k : Nat) (hk : k < modules.length) :
      (modules.map id).idxOf (id modules[k]) = k := by
    have lt : k < (modules.map id).length := List.length_map id ▸ hk
    have here := once.idxOf_getElem k lt
    rwa [List.getElem_map] at here
  rwa [place, place]

/-- Modules with ids of their own that have all they need, and none of which needs itself in the
end, are arranged: all of them, each behind what it needs, and in the first of all such orders if
these are compared by the places of the modules in the level. -/
theorem least_arrangement (once : (modules.map id).Nodup)
    (met : ∀ m ∈ modules, ∀ need ∈ needs m, need ∈ modules.map id)
    (acyclic : ∀ name, ¬Relation.TransGen (Needs id needs modules) name name) (level : String) :
    ∃ order, arrange id needs level modules = .ok order ∧ order.Perm modules ∧
      Respects id needs [] order ∧
      (∀ other, other.Perm modules → Respects id needs [] other → other = order ∨
        List.Lex (· < ·) (places id modules order) (places id modules other)) ∧
      (Respects id needs [] modules → order = modules) := by
  rw [arrange_eq once met]
  rcases place_cases id needs [] (Nat.le_refl modules.length) with
    ⟨order, eq, respects⟩ | ⟨first, stuck, eq, -⟩
  · refine ⟨order, ?_, perm_of_place eq, respects, fun other perm => ?_, fun settled => ?_⟩
    · rw [eq]
      rfl
    · exact lex_of_place eq (ascending_places once) perm
    · have same := place_of_respects (Nat.le_refl modules.length) settled
      exact Except.ok.inj (eq.symm.trans same)
  · obtain ⟨some, -, circles⟩ := stuck_iff once met eq
    obtain ⟨m, mem⟩ := List.exists_mem_of_ne_nil stuck some
    obtain ⟨other, -, circle⟩ := (circles (id m)).mp (List.mem_map_of_mem mem)
    exact absurd circle (acyclic other)

def tangled : List (String × List String) :=
  [("call stack", ["heap", "variables", "heap"]), ("variables", []), ("notes", ["variables"]),
    ("heap", [])]

theorem least_arrangement_of_tangled :
    ∃ order, arrange Prod.fst Prod.snd "level" tangled = .ok order ∧
      order.map Prod.fst = ["variables", "notes", "heap", "call stack"] ∧
      ∀ other, other.Perm tangled → Respects Prod.fst Prod.snd [] other →
        other = order ∨ List.Lex (· < ·) [1, 2, 3, 0] (places Prod.fst tangled other) := by
  -- what is needed has a lower rank
  let rank (name : String) : Nat :=
    if name = "call stack" then 2 else if name = "notes" then 1 else 0
  have lower {name need : String} (h : Needs Prod.fst Prod.snd tangled name need) :
      rank need < rank name := by
    obtain ⟨m, mem, rfl, needed⟩ := h
    have all : ∀ m ∈ tangled, ∀ need ∈ m.2, rank need < rank m.1 := by decide
    exact all m mem need needed
  have descends {name need : String}
      (path : Relation.TransGen (Needs Prod.fst Prod.snd tangled) name need) :
      rank need < rank name := by
    induction path with
    | single first => exact lower first
    | tail _ last ih => exact (lower last).trans ih
  have acyclic (name : String) : ¬Relation.TransGen (Needs Prod.fst Prod.snd tangled) name name :=
    fun circle => Nat.lt_irrefl _ (descends circle)
  obtain ⟨order, eq, -, -, least, -⟩ :=
    least_arrangement (by decide) (by decide) acyclic "level"
  have order_eq : order = [tangled[1], tangled[2], tangled[3], tangled[0]] :=
    Except.ok.inj (eq.symm.trans (by cbv))
  subst order_eq
  exact ⟨_, eq, rfl, least⟩

end Replay.LoadOrder
