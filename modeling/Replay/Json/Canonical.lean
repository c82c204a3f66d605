import Replay.Json.Basic

/-!
Canonical JSON: in every object the keys stand in ascending order and none stands twice. Values that
nobody looks into are kept in this form; of a repeated key the last member is kept.
-/
namespace Replay.Json

/-- Puts a member in its place, where it takes the place of an earlier one with its key. -/
def insertMember (key : String) (j : Json) : Members → Members
  | [] => [(key, j)]
  | (k, old) :: rest =>
    match compare key k with
    | .lt => (key, j) :: (k, old) :: rest
    | .eq => (key, j) :: rest
    | .gt => (k, old) :: insertMember key j rest

def sortMembers (members : Members) : Members :=
  members.foldl (fun done m => insertMember m.1 m.2 done) []

mutual

def canonical : Json → Json
  | .list items => .list (canonicalList items)
  | .object members => .object (sortMembers (canonicalMembers members))
  | .null => .null
  | .bool b => .bool b
  | .number n => .number n
  | .text s => .text s

def canonicalList : List Json → List Json
  | [] => []
  | j :: rest => canonical j :: canonicalList rest

def canonicalMembers : List (String × Json) → List (String × Json)
  | [] => []
  | (k, j) :: rest => (k, canonical j) :: canonicalMembers rest

end

def Ascending (members : Members) : Prop :=
  members.Pairwise fun a b => compare a.1 b.1 = .lt

mutual

def IsCanonical : Json → Prop
  | .list items => AllCanonical items
  | .object members => Ascending members ∧ MembersCanonical members
  | _ => True

def AllCanonical : List Json → Prop
  | [] => True
  | j :: rest => IsCanonical j ∧ AllCanonical rest

def MembersCanonical : List (String × Json) → Prop
  | [] => True
  | (_, j) :: rest => IsCanonical j ∧ MembersCanonical rest

end

theorem membersCanonical_iff {members : Members} :
    MembersCanonical members ↔ ∀ m ∈ members, IsCanonical m.2 := by
  induction members with
  | nil => simp [MembersCanonical]
  | cons m rest ih => simp [MembersCanonical, ih]

theorem mem_insertMember {key : String} {j : Json} {members : Members} {m : String × Json}
    (h : m ∈ insertMember key j members) : m = (key, j) ∨ m ∈ members := by
  induction members with
  | nil => simpa [insertMember] using h
  | cons head rest ih =>
    simp only [insertMember] at h
    split at h
    · simpa using h
    · rcases List.mem_cons.mp h with h | h
      · exact .inl h
      · exact .inr (List.mem_cons_of_mem _ h)
    · rcases List.mem_cons.mp h with h | h
      · exact .inr (h ▸ List.mem_cons_self)
      · rcases ih h with h | h
        · exact .inl h
        · exact .inr (List.mem_cons_of_mem _ h)

theorem Ascending.insertMember {key : String} {j : Json} {members : Members}
    (h : Ascending members) : Ascending (insertMember key j members) := by
  induction members with
  | nil => simp [Json.insertMember, Ascending]
  | cons head rest ih =>
    obtain ⟨before, tail⟩ := List.pairwise_cons.mp h
    simp only [Json.insertMember]
    split
    · rename_i lt
      refine List.pairwise_cons.mpr ⟨fun m hm => ?_, h⟩
      rcases List.mem_cons.mp hm with rfl | hm
      · exact lt
      · exact Std.TransCmp.lt_trans lt (before m hm)
    · rename_i eq
      refine List.pairwise_cons.mpr ⟨fun m hm => ?_, tail⟩
      exact Std.LawfulEqCmp.eq_of_compare eq ▸ before m hm
    · rename_i gt
      refine List.pairwise_cons.mpr ⟨fun m hm => ?_, ih tail⟩
      rcases mem_insertMember hm with rfl | hm
      · exact Std.OrientedCmp.lt_of_gt gt
      · exact before m hm

theorem foldl_insertMember {done members : Members} (sorted : Ascending done)
    (good : MembersCanonical done) (all : MembersCanonical members) :
    Ascending (members.foldl (fun d m => insertMember m.1 m.2 d) done) ∧
      MembersCanonical (members.foldl (fun d m => insertMember m.1 m.2 d) done) := by
  induction members generalizing done with
  | nil => exact ⟨sorted, good⟩
  | cons m rest ih =>
    refine ih sorted.insertMember ?_ all.2
    refine membersCanonical_iff.mpr fun n hn => ?_
    rcases mem_insertMember hn with rfl | hn
    · exact all.1
    · exact membersCanonical_iff.mp good n hn

mutual

theorem isCanonical_canonical : (j : Json) → IsCanonical (canonical j)
  | .null | .bool _ | .number _ | .text _ => by simp [canonical, IsCanonical]
  | .list items => by
    simp only [canonical, IsCanonical]
    exact allCanonical_canonicalList items
  | .object members => by
    simp only [canonical, IsCanonical]
    exact foldl_insertMember .nil trivial (membersCanonical_canonicalMembers members)

theorem allCanonical_canonicalList : (items : List Json) → AllCanonical (canonicalList items)
  | [] => trivial
  | j :: rest => ⟨isCanonical_canonical j, allCanonical_canonicalList rest⟩

theorem membersCanonical_canonicalMembers :
    (members : List (String × Json)) → MembersCanonical (canonicalMembers members)
  | [] => trivial
  | (_, j) :: rest => ⟨isCanonical_canonical j, membersCanonical_canonicalMembers rest⟩

end

/-- A canonical value, as it is kept where its meaning is not known. -/
structure Raw where
  json : Json
  isCanonical : json.IsCanonical

namespace Raw

theorem ext {a b : Raw} (h : a.json = b.json) : a = b := by
  cases a; cases b; cases h; rfl

instance : DecidableEq Raw := fun a b =>
  if h : a.json = b.json then isTrue (ext h) else isFalse fun e => h (e ▸ rfl)

def ofJson (j : Json) : Raw := ⟨canonical j, isCanonical_canonical j⟩

end Raw

end Replay.Json
