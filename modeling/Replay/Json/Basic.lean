import Replay.Decimal.Format

/-!
JSON values. A number is an integer of at most 64 bits or a double; an object lists its members as
they were written, repeated keys included.
-/
namespace Replay

open Decimal (Double)

/-- The integers JSON numbers are kept as: what fits a signed or an unsigned word of 64 bits. -/
structure Json.Integer where
  val : Int
  lower : -0x8000000000000000 ≤ val
  upper : val < 0x10000000000000000

namespace Json.Integer

theorem ext {a b : Json.Integer} (h : a.val = b.val) : a = b := by
  cases a; cases b; cases h; rfl

instance : DecidableEq Json.Integer := fun a b =>
  if h : a.val = b.val then isTrue (ext h) else isFalse fun e => h (e ▸ rfl)

def ofInt? (i : Int) : Option Json.Integer :=
  if h : -0x8000000000000000 ≤ i ∧ i < 0x10000000000000000 then some ⟨i, h.1, h.2⟩ else none

def ofUInt64 (n : UInt64) : Json.Integer :=
  ⟨n.toNat, by omega, by have := n.toNat_lt; omega⟩

def ofInt64 (i : Int64) : Json.Integer :=
  ⟨i.toInt, by have := i.le_toInt; omega, by have := i.toInt_lt; omega⟩

def toUInt64? (i : Json.Integer) : Option UInt64 :=
  if 0 ≤ i.val then some (.ofNat i.val.toNat) else none

def toInt64? (i : Json.Integer) : Option Int64 :=
  if i.val < 0x8000000000000000 then some (.ofInt i.val) else none

@[simp] theorem toUInt64?_ofUInt64 (n : UInt64) : (ofUInt64 n).toUInt64? = some n := by
  simp [toUInt64?, ofUInt64]

@[simp] theorem toInt64?_ofInt64 (i : Int64) : (ofInt64 i).toInt64? = some i := by
  have := i.toInt_lt
  simp [toInt64?, ofInt64]
  omega

end Json.Integer

inductive Json.Number where
  | integer (i : Json.Integer)
  | float (x : Double)
  deriving DecidableEq

inductive Json where
  | null
  | bool (b : Bool)
  | number (n : Json.Number)
  | text (s : String)
  | list (items : List Json)
  | object (members : List (String × Json))
  deriving Inhabited

namespace Json

abbrev Members := List (String × Json)

def natural (n : UInt64) : Json := .number (.integer (.ofUInt64 n))

def integer (i : Int64) : Json := .number (.integer (.ofInt64 i))

def float (x : Double) : Json := .number (.float x)

def tagged (tag : String) (payload : Json) : Json := .object [(tag, payload)]

def texts (names : List String) : Json := .list (names.map .text)

mutual

def decEq : (a b : Json) → Decidable (a = b)
  | .null, .null => isTrue rfl
  | .bool a, .bool b => decidable_of_iff (a = b) (by simp)
  | .number a, .number b => decidable_of_iff (a = b) (by simp)
  | .text a, .text b => decidable_of_iff (a = b) (by simp)
  | .list a, .list b => @decidable_of_iff _ (a = b) (by simp) (decEqList a b)
  | .object a, .object b => @decidable_of_iff _ (a = b) (by simp) (decEqMembers a b)
  | .null, .bool _ | .null, .number _ | .null, .text _ | .null, .list _ | .null, .object _
  | .bool _, .null | .bool _, .number _ | .bool _, .text _ | .bool _, .list _
  | .bool _, .object _ | .number _, .null | .number _, .bool _ | .number _, .text _
  | .number _, .list _ | .number _, .object _ | .text _, .null | .text _, .bool _
  | .text _, .number _ | .text _, .list _ | .text _, .object _ | .list _, .null
  | .list _, .bool _ | .list _, .number _ | .list _, .text _ | .list _, .object _
  | .object _, .null | .object _, .bool _ | .object _, .number _ | .object _, .text _
  | .object _, .list _ => isFalse nofun

def decEqList : (a b : List Json) → Decidable (a = b)
  | [], [] => isTrue rfl
  | [], _ :: _ | _ :: _, [] => isFalse nofun
  | a :: as, b :: bs =>
    @decidable_of_iff _ (a = b ∧ as = bs) (by simp)
      (@instDecidableAnd _ _ (decEq a b) (decEqList as bs))

def decEqMembers : (a b : List (String × Json)) → Decidable (a = b)
  | [], [] => isTrue rfl
  | [], _ :: _ | _ :: _, [] => isFalse nofun
  | (k, a) :: as, (l, b) :: bs =>
    @decidable_of_iff _ ((k = l ∧ a = b) ∧ as = bs) (by simp)
      (@instDecidableAnd _ _ (@instDecidableAnd _ _ inferInstance (decEq a b))
        (decEqMembers as bs))

end

instance : DecidableEq Json := decEq

mutual

/-- How deep arrays and objects are nested. -/
def depth : Json → Nat
  | .list items => depthList items + 1
  | .object members => depthMembers members + 1
  | _ => 0

def depthList : List Json → Nat
  | [] => 0
  | j :: rest => max (depth j) (depthList rest)

def depthMembers : List (String × Json) → Nat
  | [] => 0
  | (_, j) :: rest => max (depth j) (depthMembers rest)

end

end Json

end Replay
