import Mathlib.Data.List.Perm.Basic
import Replay.World.Visualiser

/-!
The modules that are made for a level: those the catalog has under its names, each once, and no two
with the same id. In what order they come is settled by what they need.
-/
namespace Replay

theorem firstRepeated_eq_none {names : List String} : ∀ {seen : List String},
    firstRepeated seen names = none ↔ names.Nodup ∧ ∀ name ∈ names, name ∉ seen := by
  induction names with
  | nil => exact fun {_} => ⟨fun _ => ⟨List.nodup_nil, nofun⟩, fun _ => rfl⟩
  | cons name rest ih =>
    intro seen
    unfold firstRepeated
    by_cases again : name ∈ seen
    · rw [if_pos again]
      exact ⟨nofun, fun h => absurd again (h.2 name List.mem_cons_self)⟩
    · rw [if_neg again, ih, List.nodup_cons]
      constructor
      · rintro ⟨nodup, fresh⟩
        refine ⟨⟨fun mem => fresh name mem List.mem_cons_self, nodup⟩, fun other mem => ?_⟩
        rcases List.mem_cons.mp mem with rfl | mem
        · exact again
        · exact fun old => fresh other mem (List.mem_cons_of_mem _ old)
      · rintro ⟨⟨once, nodup⟩, fresh⟩
        refine ⟨nodup, fun other mem old => ?_⟩
        rcases List.mem_cons.mp old with rfl | old
        · exact once mem
        · exact fresh other (List.mem_cons_of_mem _ mem) old

namespace LoadOrder

variable {α : Type} {id : α → String} {needs : α → List String} {modules order : List α}
  {level : String}

theorem eraseP_of_find? {waiting : List α} {p : α → Bool} {m : α}
    (found : waiting.find? p = some m) :
    ∃ before after, waiting = before ++ m :: after ∧ waiting.eraseP p = before ++ after ∧
      p m = true ∧ ∀ n ∈ before, p n = false := by
  obtain ⟨pos, before, after, rfl, neg⟩ := List.find?_eq_some_iff_append.mp found
  have none : ∀ n ∈ before, p n = false := fun n mem => by simpa using neg n mem
  refine ⟨before, after, rfl, ?_, pos, none⟩
  rw [List.eraseP_append_right _ fun n mem => by simp [none n mem],
    List.eraseP_cons_of_pos pos]

theorem perm_of_place {steps : Nat} : ∀ {placed : List String} {waiting order : List α},
    place id needs placed waiting steps = .ok order → order.Perm waiting := by
  induction steps with
  | zero =>
    intro placed waiting order h
    unfold place at h
    split at h
    · rename_i empty
      cases h
      rw [List.isEmpty_iff.mp empty]
    · cases h
  | succ steps ih =>
    intro placed waiting order h
    unfold place at h
    split at h
    · rename_i empty
      cases h
      rw [List.isEmpty_iff.mp empty]
    split at h
    · cases h
    rename_i next found
    split at h
    · rename_i later rest
      cases h
      obtain ⟨before, after, rfl, without, -⟩ := eraseP_of_find? found
      have perm := ih rest
      rw [without] at perm
      exact (perm.cons next).trans List.perm_middle.symm
    · cases h

theorem of_arrange (h : arrange id needs level modules = .ok order) :
    order.Perm modules ∧ (order.map id).Nodup := by
  unfold arrange at h
  split at h
  · cases h
  rename_i once
  split at h
  · cases h
  split at h
  · rename_i order' placed
    cases h
    have perm := perm_of_place placed
    exact ⟨perm, (perm.map id).nodup_iff.mpr (firstRepeated_eq_none.mp once).1⟩
  · cases h

end LoadOrder

namespace World

variable {σ : Type} {catalog : Catalog σ} {l : Level} {bodies : List (Body σ)} {b : Body σ}

theorem mem_of_mapM_make {names : List String} : ∀ {bodies : List (Body σ)},
    names.mapM catalog.make = .ok bodies →
      (b ∈ bodies ↔ ∃ name ∈ names, catalog[name]? = some b) := by
  induction names with
  | nil =>
    intro bodies h
    cases h
    simp
  | cons name rest ih =>
    intro bodies h
    rw [List.mapM_cons] at h
    cases found : catalog[name]? with
    | none =>
      rw [Catalog.make, found] at h
      cases h
    | some first =>
      rw [Catalog.make, found] at h
      cases others : rest.mapM catalog.make with
      | error e =>
        rw [others] at h
        cases h
      | ok later =>
        rw [others] at h
        cases h
        rw [List.mem_cons, ih others]
        constructor
        · rintro (rfl | ⟨other, mem, there⟩)
          · exact ⟨name, List.mem_cons_self, found⟩
          · exact ⟨other, List.mem_cons_of_mem _ mem, there⟩
        · rintro ⟨other, mem, there⟩
          rcases List.mem_cons.mp mem with rfl | mem
          · exact .inl (Option.some.inj (there.symm.trans found))
          · exact .inr ⟨other, mem, there⟩

theorem length_of_mapM_make {names : List String} : ∀ {bodies : List (Body σ)},
    names.mapM catalog.make = .ok bodies → bodies.length = names.length := by
  induction names with
  | nil =>
    intro bodies h
    cases h
    rfl
  | cons name rest ih =>
    intro bodies h
    rw [List.mapM_cons] at h
    generalize catalog.make name = made at h
    obtain _ | first := made
    · cases h
    generalize others : rest.mapM catalog.make = made at h
    obtain _ | later := made
    · cases h
    · cases h
      exact congrArg Nat.succ (ih others)

theorem of_makeModules (h : makeModules catalog l = .ok bodies) :
    (bodies.map Body.id).Nodup ∧
      ∀ b, b ∈ bodies ↔ ∃ name ∈ l.modules, catalog[name]? = some b := by
  unfold makeModules at h
  cases made : l.modules.mapM catalog.make with
  | error e =>
    rw [made] at h
    cases h
  | ok all =>
    rw [made] at h
    obtain ⟨perm, once⟩ := LoadOrder.of_arrange h
    exact ⟨once, fun b => perm.mem_iff.trans (mem_of_mapM_make made)⟩

theorem length_of_makeModules (h : makeModules catalog l = .ok bodies) :
    bodies.length = l.modules.length := by
  unfold makeModules at h
  generalize made : l.modules.mapM catalog.make = outcome at h
  obtain _ | all := outcome
  · cases h
  · exact (LoadOrder.of_arrange h).1.length_eq.trans (length_of_mapM_make made)

end World

end Replay
