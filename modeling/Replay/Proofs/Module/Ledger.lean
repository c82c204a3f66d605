import Replay.Proofs.Module.Boxes

/-!
A ledger for the variables module. Whatever events are delivered, and however often the module is
reset or variables are taken out in between, what it holds and shows can be told from these steps
alone: a variable is there if it was declared and not dropped since, with the value that was written
last, and the boxes stand in the order of the declarations.
-/
namespace Replay

/-- Whether there was an entry of a certain kind, told from what came before it, and since then none
of another kind. -/
def Since {α : Type} (kind : List α → α → Prop) (other : α → Prop) (entries : List α) : Prop :=
  ∃ before t after, entries = before ++ t :: after ∧ kind before t ∧ ∀ later ∈ after, ¬other later

section Since

variable {α : Type} {kind : List α → α → Prop} {other : α → Prop} {entries : List α} {t : α}

theorem not_since_nil : ¬Since kind other [] := by
  rintro ⟨before, t, after, split, -⟩
  cases before <;> cases split

theorem since_concat : Since kind other (entries ++ [t]) ↔
    kind entries t ∨ ¬other t ∧ Since kind other entries := by
  constructor
  · rintro ⟨before, u, after, split, here, none⟩
    rcases List.eq_nil_or_concat' after with rfl | ⟨after, last, rfl⟩
    · obtain ⟨rfl, eq⟩ := List.append_inj' split rfl
      cases eq
      exact .inl here
    · rw [← List.cons_append, ← List.append_assoc] at split
      obtain ⟨rfl, eq⟩ := List.append_inj' split rfl
      cases eq
      refine .inr ⟨none t (by simp), before, u, after, rfl, here, fun later mem => ?_⟩
      exact none later (List.mem_append_left _ mem)
  · rintro (here | ⟨unlike, before, u, after, rfl, here, none⟩)
    · exact ⟨entries, t, [], rfl, here, fun _ => (nomatch ·)⟩
    · refine ⟨before, u, after ++ [t], by simp, here, fun later mem => ?_⟩
      rcases List.mem_append.mp mem with mem | mem
      · exact none later mem
      · rwa [List.mem_singleton.mp mem]

end Since

namespace Variables

/-- What is done to a module: an event is delivered, all is dropped, or a variable is taken out. -/
inductive Step where
  | handle (event : Event) (history : Trace)
  | reset
  | remove (name : String)

/-- What becomes of a module and of the renderer it draws with. -/
def Step.act (state : Variables × Renderer) : Step → Variables × Renderer
  | .handle event history =>
    let out := state.1.respond state.2 (.handle event history)
    (out.module, out.renderer)
  | .reset =>
    let out := state.1.respond state.2 .reset
    (out.module, out.renderer)
  | .remove name => (state.1.remove state.2 name).2

def after (m : Variables) (r : Renderer) (steps : List Step) : Variables × Renderer :=
  steps.foldl Step.act (m, r)

inductive Bearing where
  | declares (value : Tracked)
  | assigns (value : Tracked)
  | drops
  | none

def Bearing.value (held : Option Tracked) : Bearing → Option Tracked
  | declares value => some value
  | assigns value => held.map fun _ => value
  | drops => .none
  | none => held

end Variables

def Event.bearing (name : String) : Event → Variables.Bearing
  | .init (.variable other) value => if other = name then .declares value else .none
  | .assign _ (.variable other) value => if other = name then .assigns value else .none
  | _ => .none

namespace Variables

namespace Step

def bearing (name : String) : Step → Bearing
  | handle event _ => event.bearing name
  | reset => .drops
  | remove other => if other = name then .drops else .none

def declare (names : List String) : Step → List String
  | handle event _ => event.declare names
  | reset => []
  | remove name => names.filter (· ≠ name)

end Step

def declared (steps : List Step) : List String := steps.foldl Step.declare []

def Lives (steps : List Step) (name : String) : Prop :=
  Since (fun _ t => ∃ value, t.bearing name = .declares value) (·.bearing name = .drops) steps

def LastWritten (steps : List Step) (name : String) (value : Tracked) : Prop :=
  Since (fun _ t => t.bearing name = .declares value ∨ t.bearing name = .assigns value)
    (·.bearing name ≠ .none) steps

def DeclaredAt (steps : List Step) (name : String) (place : Nat) : Prop :=
  Since (fun before t => (∃ value, t.bearing name = .declares value) ∧ ¬Lives before name ∧
    before.length = place) (·.bearing name = .drops) steps

variable {m : Variables} {r : Renderer} {steps : List Step} {t : Step} {e : Event}
  {name : String} {names : List String} {value : Tracked} {place : Nat}

/-! What is done to one variable -/

theorem getElem?_handle (live : m.destroyed = false) :
    (m.handle r e).module.data[name]? = (e.bearing name).value m.data[name]? := by
  unfold handle
  rw [live]
  simp only [Bool.false_eq_true, if_false]
  obtain ⟨_ | _, _⟩ | ⟨_, _ | _, _⟩ | _ | _ := e <;> try rfl
  case init.variable written other =>
    have after : (m.initialise r other written).module.data[name]? =
        if other = name then some written else m.data[name]? := by
      unfold initialise
      rw [get?_eq]
      cases held : m.data[other]? with
      | none => exact getElem?_data_declare
      | some old => exact getElem?_data_change_of_held held
    dsimp only [Event.bearing]
    rw [after]
    split <;> rfl
  case assign.variable source written other =>
    dsimp only [Event.bearing]
    unfold assign
    rw [get?_eq]
    cases held : m.data[other]? with
    | none =>
      dsimp only [Option.map]
      split
      · rename_i same
        rw [← same, held]
        rfl
      · rfl
    | some old =>
      dsimp only [Option.map]
      rw [getElem?_data_change_of_held held]
      split
      · rename_i same
        rw [← same, held]
        rfl
      · rfl

theorem getElem?_act (live : m.destroyed = false) :
    (t.act (m, r)).1.data[name]? = (t.bearing name).value m.data[name]? := by
  cases t with
  | handle event history => exact getElem?_handle live
  | reset => rfl
  | remove other =>
    unfold Step.act Step.bearing
    dsimp only
    rw [getElem?_data_remove]
    split <;> rfl

theorem bearing_eq_declares :
    e.bearing name = .declares value ↔ e = .init (.variable name) value := by
  unfold Event.bearing
  split
  · rename_i other value'
    by_cases same : other = name <;> simp [same]
  · rename_i source other value'
    by_cases same : other = name <;> simp [same]
  · rename_i unlike _
    refine ⟨nofun, ?_⟩
    rintro rfl
    exact absurd rfl (unlike name value)

theorem bearing_ne_drops : e.bearing name ≠ .drops := by
  unfold Event.bearing
  split
  · split <;> nofun
  · split <;> nofun
  · nofun

theorem declare_handle {history : Trace} :
    (Step.handle e history).declare names = e.declare names := rfl

theorem mem_declare : name ∈ t.declare names ↔ match t.bearing name with
    | .declares _ => True
    | .drops => False
    | .assigns _ | .none => name ∈ names := by
  cases t with
  | handle event history =>
    dsimp only [Step.declare, Step.bearing]
    rw [Trace.mem_declare]
    simp only [← bearing_eq_declares]
    cases bears : event.bearing name with
    | declares value => simp
    | assigns value => simp
    | drops => exact absurd bears bearing_ne_drops
    | none => simp
  | reset => simp [Step.declare, Step.bearing]
  | remove other =>
    unfold Step.declare Step.bearing
    by_cases same : other = name
    · simp [same]
    · simp [same, Ne.symm same]

/-! What is done step by step -/

theorem after_concat : m.after r (steps ++ [t]) = t.act (m.after r steps) := by
  unfold after
  rw [List.foldl_append]
  rfl

theorem declared_concat : declared (steps ++ [t]) = t.declare (declared steps) := by
  unfold declared
  rw [List.foldl_append]
  rfl

theorem lives_concat : Lives (steps ++ [t]) name ↔ match t.bearing name with
    | .declares _ => True
    | .drops => False
    | .assigns _ | .none => Lives steps name := by
  unfold Lives
  rw [since_concat]
  cases t.bearing name <;> simp

theorem lastWritten_concat : LastWritten (steps ++ [t]) name value ↔ match t.bearing name with
    | .declares written | .assigns written => written = value
    | .drops => False
    | .none => LastWritten steps name value := by
  unfold LastWritten
  rw [since_concat]
  cases t.bearing name <;> simp

theorem declaredAt_concat : DeclaredAt (steps ++ [t]) name place ↔ match t.bearing name with
    | .declares _ =>
      ¬Lives steps name ∧ steps.length = place ∨ DeclaredAt steps name place
    | .drops => False
    | .assigns _ | .none => DeclaredAt steps name place := by
  unfold DeclaredAt
  rw [since_concat]
  cases t.bearing name <;> simp

theorem mem_declared : name ∈ declared steps ↔ Lives steps name := by
  induction steps using List.reverseRecOn with
  | nil => exact ⟨nofun, fun lives => absurd lives not_since_nil⟩
  | append_singleton steps t ih =>
    rw [declared_concat, mem_declare, lives_concat]
    cases t.bearing name with
    | declares value => rfl
    | assigns value => exact ih
    | drops => rfl
    | none => exact ih

theorem exists_declaredAt (lives : Lives steps name) :
    ∃ place < steps.length, DeclaredAt steps name place := by
  induction steps using List.reverseRecOn with
  | nil => exact absurd lives not_since_nil
  | append_singleton steps t ih =>
    rw [lives_concat] at lives
    simp only [declaredAt_concat, List.length_append, List.length_singleton]
    have old (lives : Lives steps name) :
        ∃ place < steps.length + 1, DeclaredAt steps name place := by
      obtain ⟨place, lt, here⟩ := ih lives
      exact ⟨place, Nat.lt_succ_of_lt lt, here⟩
    cases bears : t.bearing name with
    | declares value =>
      by_cases lived : Lives steps name
      · obtain ⟨place, lt, here⟩ := old lived
        exact ⟨place, lt, .inr here⟩
      · exact ⟨steps.length, Nat.lt_succ_self _, .inl ⟨lived, rfl⟩⟩
    | assigns value =>
      rw [bears] at lives
      exact old lives
    | drops =>
      rw [bears] at lives
      exact lives.elim
    | none =>
      rw [bears] at lives
      exact old lives

theorem LastWritten.unique {other : Tracked} (h : LastWritten steps name value)
    (h' : LastWritten steps name other) : value = other := by
  induction steps using List.reverseRecOn with
  | nil => exact absurd h not_since_nil
  | append_singleton steps t ih =>
    rw [lastWritten_concat] at h h'
    cases bears : t.bearing name with
    | declares written =>
      rw [bears] at h h'
      exact h.symm.trans h'
    | assigns written =>
      rw [bears] at h h'
      exact h.symm.trans h'
    | drops =>
      rw [bears] at h
      exact h.elim
    | none =>
      rw [bears] at h h'
      exact ih h h'

theorem declared_in_order : (declared steps).Pairwise fun a b =>
    ∃ j k, j < k ∧ DeclaredAt steps a j ∧ DeclaredAt steps b k := by
  induction steps using List.reverseRecOn with
  | nil => exact .nil
  | append_singleton steps t ih =>
    rw [declared_concat]
    have still {name : String} {place : Nat} (here : DeclaredAt steps name place)
        (kept : t.bearing name ≠ .drops) : DeclaredAt (steps ++ [t]) name place :=
      since_concat.mpr (.inr ⟨kept, here⟩)
    cases t with
    | handle event history =>
      have kept (name : String) : (Step.handle event history).bearing name ≠ .drops :=
        bearing_ne_drops
      have old : (declared steps).Pairwise fun a b => ∃ j k, j < k ∧
          DeclaredAt (steps ++ [.handle event history]) a j ∧
          DeclaredAt (steps ++ [.handle event history]) b k := by
        refine ih.imp ?_
        rintro a b ⟨j, k, lt, first, second⟩
        exact ⟨j, k, lt, still first (kept a), still second (kept b)⟩
      rcases Trace.declare_cases event (declared steps) with
        same | ⟨name, value, rfl, fresh, more⟩
      · rw [declare_handle, same]
        exact old
      · rw [declare_handle, more]
        refine List.pairwise_append.mpr ⟨old, List.pairwise_singleton _ _, fun a mem b last => ?_⟩
        obtain rfl := List.mem_singleton.mp last
        obtain ⟨j, lt, first⟩ := exists_declaredAt (mem_declared.mp mem)
        refine ⟨j, steps.length, lt, still first (kept a), since_concat.mpr (.inl ?_)⟩
        refine ⟨⟨value, bearing_eq_declares.mpr rfl⟩, fun lives => ?_, rfl⟩
        exact fresh (mem_declared.mpr lives)
    | reset => exact .nil
    | remove other =>
      refine List.Pairwise.imp_of_mem ?_ (ih.filter _)
      have kept {name : String} (mem : name ∈ (declared steps).filter (· ≠ other)) :
          (Step.remove other).bearing name ≠ .drops := by
        have ne : name ≠ other := of_decide_eq_true (List.mem_filter.mp mem).2
        have none : (Step.remove other).bearing name = .none := if_neg ne.symm
        rw [none]
        nofun
      rintro a b mem mem' ⟨j, k, lt, first, second⟩
      exact ⟨j, k, lt, still first (kept mem), still second (kept mem')⟩

/-! What the module holds and shows -/

/-- A module that is at work, and the names of its variables, in the order of their boxes. -/
structure Holds (s : Surface) (surfaces : List (SurfaceId × SurfaceRecord)) (names : List String)
    (m : Variables) (r : Renderer) : Prop where
  live : m.destroyed = false
  surface : m.surface = some s
  once : names.Nodup
  held : ∀ name, name ∈ names ↔ (m.data[name]?).isSome = true
  exhibits : m.Exhibits s names surfaces r

variable {s : Surface} {surfaces : List (SurfaceId × SurfaceRecord)}

theorem act_kept (live : m.destroyed = false) (t : Step) :
    (t.act (m, r)).1.destroyed = m.destroyed ∧ (t.act (m, r)).1.surface = m.surface := by
  cases t with
  | handle e history =>
    unfold Step.act respond
    dsimp only
    rcases handle_cases (e := e) (r := r) live with ⟨_, _, _, -, -, eq⟩ | ⟨_, _, -, -, eq⟩ |
      ⟨-, eq⟩
    · rw [eq]
      exact ⟨rfl, rfl⟩
    · rw [eq]
      exact ⟨rfl, rfl⟩
    · rw [eq]
      exact ⟨rfl, rfl⟩
  | reset => exact ⟨rfl, rfl⟩
  | remove name => exact ⟨rfl, rfl⟩

theorem Holds.act (h : Holds s surfaces names m r) (t : Step) :
    Holds s surfaces (t.declare names) (t.act (m, r)).1 (t.act (m, r)).2 where
  live := (act_kept h.live t).1.trans h.live
  surface := (act_kept h.live t).2.trans h.surface
  once := by
    cases t with
    | handle event history => exact Trace.nodup_declare h.once
    | reset => exact List.nodup_nil
    | remove name => exact h.once.filter _
  held name := by
    rw [mem_declare, getElem?_act h.live]
    cases t.bearing name <;> simp [Bearing.value, h.held]
  exhibits := by
    cases t with
    | handle e history =>
      unfold Step.act respond
      dsimp only
      rcases handle_cases (e := e) (r := r) h.live with ⟨name, old, value, there, writes, eq⟩ |
        ⟨name, value, rfl, fresh, eq⟩ | ⟨ignored, eq⟩
      · have mem : name ∈ names := (h.held name).mpr (there ▸ rfl)
        have same : e.declare names = names := by
          rcases Trace.declare_cases e names with same | ⟨other, first, rfl, fresh, -⟩
          · exact same
          · rcases writes with same | ⟨_, same⟩
            · cases same
              exact absurd mem fresh
            · cases same
        rw [eq, declare_handle, same]
        exact h.exhibits.change mem there
      · have new : name ∉ names := by
          rw [h.held, fresh]
          exact Bool.false_ne_true
        have more : (Event.init (.variable name) value).declare names = names ++ [name] :=
          if_neg new
        rw [eq, declare_handle, more]
        exact h.exhibits.declare h.surface new
      · have same : e.declare names = names := by
          rcases Trace.declare_cases e names with same | ⟨name, value, rfl, -⟩
          · exact same
          · exact absurd rfl (ignored name value (.inl rfl)).2
        rw [eq, declare_handle, same]
        exact h.exhibits
    | reset => exact h.exhibits.clear
    | remove name => exact h.exhibits.remove name

/-- What a ledger says about a module and the surface that it draws on. -/
structure Agrees (s : Surface) (ledger : List Variable) (m : Variables) (r : Renderer) : Prop where
  once : (ledger.map Variable.name).Nodup
  held : ∀ name var, m.get? name = some var ↔ var ∈ ledger ∧ var.name = name
  /-- An entry's own name is the name it stands under. -/
  named : ∀ entry ∈ m.toList, entry.2.name = entry.1
  boxed : ∀ name, (m.boxes[name]?).isSome = (m.get? name).isSome
  shown : ∃ p, r.picture = some p ∧ p.elementsOn s.id = ledger.map Variable.spec
  taken : ∀ name, (m.remove r name).1 = ledger.find? (·.name = name)

def ledger (m : Variables) (names : List String) : List Variable :=
  names.map fun name => ⟨name, m.data[name]?.getD default⟩

theorem map_name_ledger : (m.ledger names).map Variable.name = names := by
  unfold ledger
  rw [List.map_map]
  exact List.map_id' names

theorem Holds.get? (h : Holds s surfaces names m r) {var : Variable} :
    m.get? name = some var ↔ var ∈ m.ledger names ∧ var.name = name := by
  unfold ledger
  rw [get?_eq, Option.map_eq_some_iff, List.mem_map]
  constructor
  · rintro ⟨value, here, rfl⟩
    exact ⟨⟨name, (h.held name).mpr (here ▸ rfl), by rw [here]; rfl⟩, rfl⟩
  · rintro ⟨⟨_, mem, rfl⟩, rfl⟩
    obtain ⟨value, here⟩ := Option.isSome_iff_exists.mp ((h.held _).mp mem)
    exact ⟨value, here, by rw [here]; rfl⟩

theorem Holds.agrees (h : Holds s surfaces names m r) : Agrees s (m.ledger names) m r where
  once := by
    rw [map_name_ledger]
    exact h.once
  held name var := h.get?
  named entry mem := m.roster.named (Std.TreeMap.mem_toList_iff_getElem?_eq_some.mp mem)
  boxed name := by
    obtain ⟨p, -, -, boxed⟩ := h.exhibits
    rw [get?_eq, Option.isSome_map, Bool.eq_iff_iff, ← boxed.held, h.held]
  shown := by
    obtain ⟨p, keeps, -, boxed⟩ := h.exhibits
    refine ⟨p, keeps.picture, boxed.elementsOn.trans ?_⟩
    unfold ledger
    rw [List.map_map]
    rfl
  taken name := by
    have same : (m.remove r name).1 = m.get? name := rfl
    rw [same]
    cases found : (m.ledger names).find? (·.name = name) with
    | none =>
      refine Option.eq_none_iff_forall_ne_some.mpr fun var here => ?_
      obtain ⟨mem, named⟩ := h.get?.mp here
      exact List.find?_eq_none.mp found var mem (decide_eq_true named)
    | some var =>
      have named := List.find?_some found
      exact h.get?.mpr ⟨List.mem_of_find?_eq_some found, of_decide_eq_true named⟩

structure Follows (s : Surface) (surfaces : List (SurfaceId × SurfaceRecord)) (steps : List Step)
    (m : Variables) (r : Renderer) : Prop extends Holds s surfaces (declared steps) m r where
  value : ∀ name value, m.data[name]? = some value → LastWritten steps name value

theorem Follows.act (h : Follows s surfaces steps m r) (t : Step) :
    Follows s surfaces (steps ++ [t]) (t.act (m, r)).1 (t.act (m, r)).2 := by
  refine ⟨declared_concat ▸ h.toHolds.act t, fun name value here => ?_⟩
  rw [getElem?_act h.live] at here
  rw [lastWritten_concat]
  cases bears : t.bearing name with
  | declares written =>
    rw [bears] at here
    exact Option.some.inj here
  | assigns written =>
    rw [bears] at here
    obtain ⟨_, -, eq⟩ := Option.map_eq_some_iff.mp here
    exact eq
  | drops =>
    rw [bears] at here
    cases here
  | none =>
    rw [bears] at here
    exact h.value name value here

theorem Follows.after (h : Follows s surfaces [] m r) (steps : List Step) :
    Follows s surfaces steps (m.after r steps).1 (m.after r steps).2 := by
  induction steps using List.reverseRecOn with
  | nil => exact h
  | append_singleton steps t ih =>
    rw [after_concat]
    exact ih.act t

theorem follows_mounted {p : Picture} (keeps : r.Keeps p) (bare : p.elementsOn s.id = []) :
    Follows s p.surfaces [] (mounted s) r where
  live := rfl
  surface := rfl
  once := List.nodup_nil
  held _ := ⟨nofun, fun there : (none : Option Tracked).isSome = true => nomatch there⟩
  value _ value (here : none = some value) := nomatch here
  exhibits := by
    refine ⟨p, keeps, rfl, List.map_eq_nil_iff.mp bare, fun name => ?_⟩
    simp [declared, mounted, blank]

theorem Follows.getElem? (h : Follows s surfaces steps m r) :
    m.data[name]? = some value ↔ Lives steps name ∧ LastWritten steps name value := by
  rw [← mem_declared, h.held]
  constructor
  · exact fun here => ⟨here ▸ rfl, h.value name value here⟩
  · rintro ⟨there, written⟩
    obtain ⟨other, here⟩ := Option.isSome_iff_exists.mp there
    rw [here, (h.value name other here).unique written]

theorem Follows.mem_ledger (h : Follows s surfaces steps m r) {var : Variable} :
    var ∈ m.ledger (declared steps) ↔
      Lives steps var.name ∧ LastWritten steps var.name var.data := by
  rw [← h.getElem?, ← and_iff_left (a := var ∈ _) (rfl : var.name = var.name), ← h.get?]
  rw [get?_eq, Option.map_eq_some_iff]
  constructor
  · rintro ⟨value, here, eq⟩
    rw [here, ← eq]
  · exact fun here => ⟨var.data, here, rfl⟩

/-! Fresh starts and the end -/

theorem Follows.ledger_eq {m' : Variables} {r' : Renderer} {s' : Surface}
    {surfaces' : List (SurfaceId × SurfaceRecord)} (h : Follows s surfaces steps m r)
    (h' : Follows s' surfaces' steps m' r') :
    m.ledger (declared steps) = m'.ledger (declared steps) := by
  have same (name : String) : m.data[name]? = m'.data[name]? :=
    Option.ext fun value => h.getElem?.trans h'.getElem?.symm
  exact List.map_congr_left fun name _ => by rw [same]

theorem Follows.reset (h : Follows s surfaces steps m r) :
    Follows s surfaces [] (m.clear r).1 (m.clear r).2 where
  live := h.live
  surface := h.surface
  once := List.nodup_nil
  held _ := ⟨nofun, fun there : (none : Option Tracked).isSome = true => nomatch there⟩
  value _ value (here : none = some value) := nomatch here
  exhibits := h.exhibits.clear

theorem after_destroyed (steps : List Step) : let out := m.respond r .destroy
    out.module.after out.renderer steps = (out.module, out.renderer) := by
  intro out
  have unmoved (t : Step) : t.act (out.module, out.renderer) = (out.module, out.renderer) := by
    cases t with
    | handle event history => rfl
    | reset => rfl
    | remove name => rfl
  induction steps with
  | nil => rfl
  | cons t rest ih =>
    unfold after at ih ⊢
    rw [List.foldl_cons, unmoved, ih]

def Step.returning : List Step :=
  let value : Tracked := ⟨.boolean true, .literal⟩
  [.handle (.init (.variable "x") value) [], .handle (.init (.variable "y") value) [],
    .remove "x", .handle (.assign .literal (.variable "x") ⟨.nil, .literal⟩) [],
    .handle (.init (.variable "x") value) []]

end Variables

end Replay
