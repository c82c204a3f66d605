import Mathlib.Tactic.Common
import Replay.Json.Reader

/-!
What a reader of any value makes of a shape: the value the shape shows, if nothing is wrong with it
and it fits in the room there is. What is wrong otherwise is a breach of the grammar.
-/
namespace Replay.Json

def Text.value? (t : Text) : Option String := if t.flaw = none then some t.content else none

mutual

def Node.value? : Node → Option Json
  | .null => some .null
  | .bool b => some (.bool b)
  | .number n =>
    match n.toNumber with
    | .ok n => some (.number n)
    | .error _ => none
  | .text t => t.value?.map .text
  | .list nodes .closed => (Node.values? nodes).map .list
  | .object members .closed => (Node.members? members).map .object
  | _ => none

def Node.values? : List Node → Option (List Json)
  | [] => some []
  | node :: rest =>
    match node.value?, Node.values? rest with
    | some j, some js => some (j :: js)
    | _, _ => none

def Node.members? : List (Text × Node) → Option Members
  | [] => some []
  | (key, node) :: rest =>
    match key.value?, node.value?, Node.members? rest with
    | some k, some j, some members => some ((k, j) :: members)
    | _, _, _ => none

end

namespace Reader

variable {α β : Type} {room : Nat} {j : Json}

theorem content_eq_ok_iff {t : Text} {s : String} : content t = .ok s ↔ t.value? = some s := by
  unfold content Text.value?
  cases t.flaw <;> simp [raise]

theorem check_eq_ok_iff {f : Option Flaw} {u : Unit} : check f = .ok u ↔ f = none := by
  cases f <;> simp [check, raise]

theorem enter_eq_ok_iff {inside : Nat} : enter room = .ok inside ↔ room = inside + 1 := by
  cases room <;> simp [enter, raise]

theorem bind_eq_ok_iff {x : Except ReadError α} {f : α → Except ReadError β} {b : β} :
    x >>= f = .ok b ↔ ∃ a, x = .ok a ∧ f a = .ok b := by
  cases x <;> simp [bind, Except.bind]

theorem pure_eq_ok_iff {a b : α} : (pure a : Except ReadError α) = .ok b ↔ a = b := by
  simp [pure, Except.pure]

theorem ok_eq_ok_iff {i : Json} (flat : i.depth = 0) :
    (.ok i : Except ReadError Json) = .ok j ↔ some i = some j ∧ j.depth ≤ room := by
  simp only [Except.ok.injEq, Option.some.injEq]
  constructor
  · rintro rfl
    exact ⟨rfl, flat ▸ Nat.zero_le _⟩
  · exact And.left

mutual

theorem any_eq_ok_iff : (node : Node) → ∀ (room : Nat) (j : Json),
    any room node = .ok j ↔ node.value? = some j ∧ j.depth ≤ room
  | .null | .bool _ => fun _ _ => ok_eq_ok_iff rfl
  | .number n => by
    intro room j
    simp only [any, Node.value?]
    cases n.toNumber with
    | error f => simp [raise]
    | ok n => exact ok_eq_ok_iff rfl
  | .text t => by
    intro room j
    simp only [any, Node.value?, bind_eq_ok_iff, content_eq_ok_iff, pure_eq_ok_iff,
      Option.map_eq_some_iff]
    constructor
    · rintro ⟨s, hs, rfl⟩
      exact ⟨⟨s, hs, rfl⟩, Nat.zero_le _⟩
    · exact And.left
  | .list nodes ending => by
    intro room j
    simp only [any, bind_eq_ok_iff, enter_eq_ok_iff, check_eq_ok_iff, pure_eq_ok_iff,
      anyItems_eq_ok_iff nodes]
    cases ending <;>
      simp only [Node.value?, Ending.readList?, Option.map_eq_some_iff, reduceCtorEq, false_and,
        and_false, exists_false, exists_const, true_and]
    constructor
    · rintro ⟨inside, rfl, items, ⟨hitems, deep⟩, rfl⟩
      exact ⟨⟨items, hitems, rfl⟩, Nat.succ_le_succ deep⟩
    · rintro ⟨⟨items, hitems, rfl⟩, deep⟩
      obtain ⟨inside, rfl⟩ := Nat.exists_eq_add_of_le' (Nat.le_trans (Nat.le_add_left 1 _) deep)
      exact ⟨inside, rfl, items, ⟨hitems, Nat.le_of_succ_le_succ deep⟩, rfl⟩
  | .object members ending => by
    intro room j
    simp only [any, bind_eq_ok_iff, enter_eq_ok_iff, check_eq_ok_iff, pure_eq_ok_iff,
      anyMembers_eq_ok_iff members]
    cases ending <;>
      simp only [Node.value?, Ending.readObject?, Option.map_eq_some_iff, reduceCtorEq, false_and,
        and_false, exists_false, exists_const, true_and]
    constructor
    · rintro ⟨inside, rfl, members, ⟨hmembers, deep⟩, rfl⟩
      exact ⟨⟨members, hmembers, rfl⟩, Nat.succ_le_succ deep⟩
    · rintro ⟨⟨members, hmembers, rfl⟩, deep⟩
      obtain ⟨inside, rfl⟩ := Nat.exists_eq_add_of_le' (Nat.le_trans (Nat.le_add_left 1 _) deep)
      exact ⟨inside, rfl, members, ⟨hmembers, Nat.le_of_succ_le_succ deep⟩, rfl⟩
  | .broken _ _ => by simp [any, Node.value?, raise]

theorem anyItems_eq_ok_iff : (nodes : List Node) → ∀ (room : Nat) (js : List Json),
    anyItems room nodes = .ok js ↔ Node.values? nodes = some js ∧ depthList js ≤ room
  | [] => by
    intro room js
    simp only [anyItems, Node.values?, Except.ok.injEq, Option.some.injEq]
    constructor
    · rintro rfl
      exact ⟨rfl, Nat.zero_le _⟩
    · exact And.left
  | node :: rest => by
    intro room js
    simp only [anyItems, bind_eq_ok_iff, pure_eq_ok_iff, any_eq_ok_iff node,
      anyItems_eq_ok_iff rest, Node.values?]
    constructor
    · rintro ⟨j, ⟨hj, deep⟩, js, ⟨hjs, deep'⟩, rfl⟩
      rw [hj, hjs]
      exact ⟨rfl, Nat.max_le.mpr ⟨deep, deep'⟩⟩
    · rintro ⟨h, deep⟩
      split at h
      · rename_i j js' hj hjs
        cases h
        obtain ⟨deep, deep'⟩ := Nat.max_le.mp deep
        exact ⟨j, ⟨hj, deep⟩, js', ⟨hjs, deep'⟩, rfl⟩
      · cases h

theorem anyMembers_eq_ok_iff : (nodes : List (Text × Node)) → ∀ (room : Nat) (members : Members),
    anyMembers room nodes = .ok members ↔
      Node.members? nodes = some members ∧ depthMembers members ≤ room
  | [] => by
    intro room members
    simp only [anyMembers, Node.members?, Except.ok.injEq, Option.some.injEq]
    constructor
    · rintro rfl
      exact ⟨rfl, Nat.zero_le _⟩
    · exact And.left
  | (key, node) :: rest => by
    intro room members
    simp only [anyMembers, bind_eq_ok_iff, pure_eq_ok_iff, content_eq_ok_iff, any_eq_ok_iff node,
      anyMembers_eq_ok_iff rest, Node.members?]
    constructor
    · rintro ⟨k, hk, j, ⟨hj, deep⟩, members, ⟨hmembers, deep'⟩, rfl⟩
      rw [hk, hj, hmembers]
      exact ⟨rfl, Nat.max_le.mpr ⟨deep, deep'⟩⟩
    · rintro ⟨h, deep⟩
      split at h
      · rename_i k j members' hk hj hmembers
        cases h
        obtain ⟨deep, deep'⟩ := Nat.max_le.mp deep
        exact ⟨k, hk, j, ⟨hj, deep⟩, members', ⟨hmembers, deep'⟩, rfl⟩
      · cases h

end

/-! What goes wrong -/

def Strict (x : Except ReadError α) : Prop := ∀ e, x = .error e → ∃ f, e = .flaw f

theorem strict_ok (a : α) : Strict (.ok a : Except ReadError α) := nofun

theorem strict_raise (f : Flaw) : Strict (raise f : Except ReadError α) := by
  rintro _ ⟨⟩
  exact ⟨f, rfl⟩

theorem Strict.bind {x : Except ReadError α} {f : α → Except ReadError β} (h : Strict x)
    (h' : ∀ a, Strict (f a)) : Strict (x >>= f) := by
  cases x with
  | error e =>
    rintro _ ⟨⟩
    exact h e rfl
  | ok a => exact h' a

theorem strict_content (t : Text) : Strict (content t) := by
  unfold content
  split
  · exact strict_raise _
  · exact strict_ok _

theorem strict_check (f : Option Flaw) : Strict (check f) := by
  cases f with
  | none => exact strict_ok ()
  | some f => exact strict_raise f

theorem strict_enter (room : Nat) : Strict (enter room) := by
  cases room with
  | zero => exact strict_raise _
  | succ room => exact strict_ok room

mutual

theorem strict_any : (room : Nat) → (node : Node) → Strict (any room node)
  | _, .null | _, .bool _ => strict_ok _
  | _, .number n => by
    simp only [any]
    split
    · exact strict_ok _
    · exact strict_raise _
  | _, .text t => (strict_content t).bind fun _ => strict_ok _
  | room, .list nodes ending =>
    (strict_enter room).bind fun inside => (strict_anyItems inside nodes).bind fun _ =>
      (strict_check ending.readList?).bind fun _ => strict_ok _
  | room, .object members ending =>
    (strict_enter room).bind fun inside => (strict_anyMembers inside members).bind fun _ =>
      (strict_check ending.readObject?).bind fun _ => strict_ok _
  | _, .broken _ f => strict_raise f.reading

theorem strict_anyItems : (room : Nat) → (nodes : List Node) → Strict (anyItems room nodes)
  | _, [] => strict_ok _
  | room, node :: rest =>
    (strict_any room node).bind fun _ => (strict_anyItems room rest).bind fun _ => strict_ok _

theorem strict_anyMembers : (room : Nat) → (nodes : List (Text × Node)) →
    Strict (anyMembers room nodes)
  | _, [] => strict_ok _
  | room, (key, node) :: rest =>
    (strict_content key).bind fun _ => (strict_any room node).bind fun _ =>
      (strict_anyMembers room rest).bind fun _ => strict_ok _

end

end Reader

def Document.value? (d : Document) : Option Json := if d.trailing then none else d.root.value?

theorem parse_eq_ok_iff_value {text : String} {j : Json} :
    parse text = .ok j ↔ (scan text).value? = some j ∧ j.depth ≤ Reader.maxOpen := by
  unfold parse Reader.run Document.value?
  simp only [Reader.bind_eq_ok_iff, Reader.any_eq_ok_iff]
  cases (scan text).trailing with
  | true => simp [Reader.raise]
  | false => simp [Reader.pure_eq_ok_iff]

theorem strict_parse (text : String) : Reader.Strict (parse text) := by
  refine (Reader.strict_any _ _).bind fun _ => ?_
  split
  · exact Reader.strict_raise _
  · exact Reader.strict_ok _

end Replay.Json
