import Mathlib.Data.List.Sort
import Replay.Proofs.Json.Printing
import Replay.Trace.Wire

/-!
Values in which no object repeats a key. Their canonical form is a matter of order alone, so a
record made of one has the same fields as the record made of the other.
-/
namespace Replay.Json

open Decimal (Double)

mutual

def Distinct : Json → Prop
  | .list items => DistinctList items
  | .object members => (members.map Prod.fst).Nodup ∧ DistinctMembers members
  | _ => True

def DistinctList : List Json → Prop
  | [] => True
  | j :: rest => Distinct j ∧ DistinctList rest

def DistinctMembers : List (String × Json) → Prop
  | [] => True
  | (_, j) :: rest => Distinct j ∧ DistinctMembers rest

end

variable {items : List Json} {members others : Members} {j : Json} {key : String} {x : Double}
  {n : Nat}

theorem distinctList_iff : DistinctList items ↔ ∀ j ∈ items, Distinct j := by
  induction items with
  | nil => simp [DistinctList]
  | cons j rest ih => simp [DistinctList, ih]

theorem distinctMembers_iff : DistinctMembers members ↔ ∀ m ∈ members, Distinct m.2 := by
  induction members with
  | nil => simp [DistinctMembers]
  | cons m rest ih => simp [DistinctMembers, ih]

theorem depthList_le_iff : depthList items ≤ n ↔ ∀ j ∈ items, j.depth ≤ n := by
  induction items with
  | nil => simp [depthList]
  | cons j rest ih => simp [depthList, ih]

theorem depthMembers_le_iff : depthMembers members ≤ n ↔ ∀ m ∈ members, m.2.depth ≤ n := by
  induction members with
  | nil => simp [depthMembers]
  | cons m rest ih => simp [depthMembers, ih]

theorem mem_floatsList : x ∈ floatsList items ↔ ∃ j ∈ items, x ∈ j.floats := by
  induction items with
  | nil => simp [floatsList]
  | cons j rest ih => simp [floatsList, ih]

theorem canonicalList_eq_map : canonicalList items = items.map canonical := by
  induction items with
  | nil => rfl
  | cons j rest ih => simp [canonicalList, ih]

theorem canonicalMembers_eq_map :
    canonicalMembers members = members.map fun m => (m.1, canonical m.2) := by
  induction members with
  | nil => rfl
  | cons m rest ih => simp [canonicalMembers, ih]

/-! Sorting the members -/

theorem insertMember_perm (fresh : ∀ m ∈ members, key ≠ m.1) :
    (insertMember key j members).Perm ((key, j) :: members) := by
  induction members with
  | nil => exact .refl _
  | cons head rest ih =>
    obtain ⟨k, old⟩ := head
    simp only [insertMember]
    split
    · exact .refl _
    · rename_i eq
      exact absurd (Std.LawfulEqCmp.eq_of_compare eq) (fresh _ List.mem_cons_self)
    · have tail := ih fun m mem => fresh m (List.mem_cons_of_mem _ mem)
      exact (tail.cons (k, old)).trans (.swap _ _ _)

theorem foldl_insertMember_perm (nodup : ((members ++ others).map Prod.fst).Nodup) :
    (members.foldl (fun done m => insertMember m.1 m.2 done) others).Perm (members ++ others) := by
  induction members generalizing others with
  | nil => exact .refl _
  | cons m rest ih =>
    simp only [List.cons_append, List.map_cons, List.nodup_cons] at nodup
    have fresh : ∀ m' ∈ others, m.1 ≠ m'.1 := by
      rintro m' mem eq
      exact nodup.1 (List.mem_map.mpr ⟨m', List.mem_append_right _ mem, eq.symm⟩)
    have inserted : (insertMember m.1 m.2 others).Perm (m :: others) := insertMember_perm fresh
    have moved : (rest ++ insertMember m.1 m.2 others).Perm (m :: (rest ++ others)) :=
      (inserted.append_left rest).trans List.perm_middle
    refine (ih ?_).trans moved
    exact (moved.map Prod.fst).nodup_iff.mpr (List.nodup_cons.mpr nodup)

theorem sortMembers_perm (nodup : (members.map Prod.fst).Nodup) :
    (sortMembers members).Perm members := by
  have sorted : (sortMembers members).Perm (members ++ []) :=
    foldl_insertMember_perm (by simpa using nodup)
  rwa [List.append_nil] at sorted

theorem sortMembers_canonicalMembers_perm (nodup : (members.map Prod.fst).Nodup) :
    (sortMembers (canonicalMembers members)).Perm (canonicalMembers members) := by
  refine sortMembers_perm ?_
  rw [canonicalMembers_eq_map]
  simpa [Function.comp_def] using nodup

theorem mem_foldl_insertMember {m : String × Json}
    (mem : m ∈ members.foldl (fun done m => insertMember m.1 m.2 done) others) :
    m ∈ members ∨ m ∈ others := by
  induction members generalizing others with
  | nil => exact .inr mem
  | cons first rest ih =>
    rcases ih mem with tail | inserted
    · exact .inl (List.mem_cons_of_mem _ tail)
    · rcases mem_insertMember inserted with rfl | old
      · exact .inl List.mem_cons_self
      · exact .inr old

theorem mem_sortMembers {m : String × Json} (mem : m ∈ sortMembers members) : m ∈ members :=
  (mem_foldl_insertMember mem).resolve_right List.not_mem_nil

theorem ascending_sortMembers (members : Members) : Ascending (sortMembers members) := by
  have (others : Members) (ascending : Ascending others) :
      Ascending (members.foldl (fun done m => insertMember m.1 m.2 done) others) := by
    induction members generalizing others with
    | nil => exact ascending
    | cons m rest ih => exact ih _ ascending.insertMember
  exact this [] .nil

theorem Ascending.nodup (ascending : Ascending members) : (members.map Prod.fst).Nodup := by
  refine List.pairwise_map.mpr (ascending.imp fun {a b} lt eq => ?_)
  simp [eq] at lt

theorem sortMembers_of_ascending (ascending : Ascending members) :
    sortMembers members = members := by
  have sorted := ascending_sortMembers members
  refine (sortMembers_perm ascending.nodup).eq_of_pairwise (fun a b _ _ lt gt => ?_) sorted
    ascending
  cases (Std.TransCmp.lt_trans lt gt).symm.trans Std.ReflCmp.compare_self

/-! The canonical form -/

mutual

theorem canonical_of_isCanonical : (j : Json) → IsCanonical j → canonical j = j
  | .null | .bool _ | .number _ | .text _ => fun _ => rfl
  | .list items => fun kept => by rw [canonical, canonicalList_of_allCanonical items kept]
  | .object members => fun kept => by
    rw [canonical, canonicalMembers_of_membersCanonical members kept.2,
      sortMembers_of_ascending kept.1]

theorem canonicalList_of_allCanonical : (items : List Json) → AllCanonical items →
    canonicalList items = items
  | [] => fun _ => rfl
  | j :: rest => fun kept => by
    rw [canonicalList, canonical_of_isCanonical j kept.1, canonicalList_of_allCanonical rest kept.2]

theorem canonicalMembers_of_membersCanonical : (members : List (String × Json)) →
    MembersCanonical members → canonicalMembers members = members
  | [] => fun _ => rfl
  | (k, j) :: rest => fun kept => by
    rw [canonicalMembers, canonical_of_isCanonical j kept.1,
      canonicalMembers_of_membersCanonical rest kept.2]

end

@[simp] theorem canonical_canonical (j : Json) : canonical (canonical j) = canonical j :=
  canonical_of_isCanonical _ (isCanonical_canonical j)

theorem Raw.ofJson_json (raw : Raw) : Raw.ofJson raw.json = raw :=
  Raw.ext (canonical_of_isCanonical raw.json raw.isCanonical)

theorem Raw.ofJson_canonical (j : Json) : Raw.ofJson (canonical j) = Raw.ofJson j :=
  Raw.ext (canonical_canonical j)

mutual

theorem distinct_of_isCanonical : (j : Json) → IsCanonical j → Distinct j
  | .null | .bool _ | .number _ | .text _ => fun _ => trivial
  | .list items => distinctList_of_allCanonical items
  | .object members => fun kept =>
    ⟨kept.1.nodup, distinctMembers_of_membersCanonical members kept.2⟩

theorem distinctList_of_allCanonical : (items : List Json) → AllCanonical items →
    DistinctList items
  | [] => fun _ => trivial
  | j :: rest => fun kept =>
    ⟨distinct_of_isCanonical j kept.1, distinctList_of_allCanonical rest kept.2⟩

theorem distinctMembers_of_membersCanonical : (members : List (String × Json)) →
    MembersCanonical members → DistinctMembers members
  | [] => fun _ => trivial
  | (_, j) :: rest => fun kept =>
    ⟨distinct_of_isCanonical j kept.1, distinctMembers_of_membersCanonical rest kept.2⟩

end

theorem depthMembers_sortMembers_le : depthMembers (sortMembers members) ≤ depthMembers members :=
  depthMembers_le_iff.mpr fun m mem =>
    depthMembers_le_iff.mp (Nat.le_refl _) m (mem_sortMembers mem)

mutual

theorem depth_canonical_le : (j : Json) → (canonical j).depth ≤ j.depth
  | .null | .bool _ | .number _ | .text _ => Nat.le_refl _
  | .list items => Nat.succ_le_succ (depthList_canonicalList_le items)
  | .object members =>
    Nat.succ_le_succ (depthMembers_sortMembers_le.trans (depthMembers_canonicalMembers_le members))

theorem depthList_canonicalList_le : (items : List Json) →
    depthList (canonicalList items) ≤ depthList items
  | [] => Nat.le_refl _
  | j :: rest => by
    have := depth_canonical_le j
    have := depthList_canonicalList_le rest
    simp only [canonicalList, depthList]
    omega

theorem depthMembers_canonicalMembers_le : (members : List (String × Json)) →
    depthMembers (canonicalMembers members) ≤ depthMembers members
  | [] => Nat.le_refl _
  | (_, j) :: rest => by
    have := depth_canonical_le j
    have := depthMembers_canonicalMembers_le rest
    simp only [canonicalMembers, depthMembers]
    omega

end

/-! Fields -/

theorem member?_eq_some_iff :
    member? key members = some j ↔ members.filter (·.1 == key) = [(key, j)] := by
  have named {m : String × Json} (mem : m ∈ members.filter (·.1 == key)) : m.1 = key := by
    simpa using (List.mem_filter.mp mem).2
  unfold member?
  split
  · rename_i k i only
    have : k = key := named (only ▸ List.mem_singleton_self _)
    rw [only]
    simp [this]
  · rename_i several
    simp only [reduceCtorEq, false_iff]
    exact fun only => several _ _ only

/-- Only the members with the key matter, in whatever order they stand. -/
theorem member?_perm (perm : members.Perm others) : member? key members = member? key others := by
  refine Option.ext fun j => ?_
  have filtered := perm.filter (·.1 == key)
  rw [member?_eq_some_iff, member?_eq_some_iff]
  constructor
  · intro only
    rw [only] at filtered
    exact List.singleton_perm.mp filtered |>.symm
  · intro only
    rw [only] at filtered
    exact List.perm_singleton.mp filtered

theorem member?_map (f : Json → Json) :
    member? key (members.map fun m => (m.1, f m.2)) = (member? key members).map f := by
  simp only [member?, List.filter_map, Function.comp_def]
  generalize members.filter (fun m => m.1 == key) = found
  match found with
  | [] | [_] | _ :: _ :: _ => rfl

theorem member?_canonical (nodup : (members.map Prod.fst).Nodup) :
    member? key (sortMembers (canonicalMembers members)) = (member? key members).map canonical := by
  rw [member?_perm (sortMembers_canonicalMembers_perm nodup), canonicalMembers_eq_map, member?_map]

theorem fields?_canonical (names : List String) (distinct : Distinct j) :
    (canonical j).fields? names = (j.fields? names).map (·.map canonical) := by
  cases j with
  | list items =>
    simp only [canonical, fields?, canonicalList_eq_map, List.length_map]
    split <;> rfl
  | object members =>
    simp only [canonical, fields?]
    induction names with
    | nil => rfl
    | cons name names ih =>
      rw [List.mapM_cons, ih, member?_canonical distinct.1, List.mapM_cons]
      cases member? name members with
      | none => rfl
      | some j => cases names.mapM (member? · members) <;> rfl
  | _ => rfl

end Replay.Json
