import Replay.Json.Scan

/-!
The grammar of JSON texts, as rules that say which characters spell which value. Escapes of
surrogates have to come in pairs, and a number has to be in the range of doubles; nesting is not
bounded here.
-/
namespace Replay.Json

def Blank (cs : List Char) : Prop := ∀ c ∈ cs, Scan.isSpace c = true

structure Digits (cs : List Char) : Prop where
  ne_nil : cs ≠ []
  isDigit : ∀ c ∈ cs, (NumeralDraft.digit? c).isSome = true

def digitValue (c : Char) : Nat := (NumeralDraft.digit? c).getD 0

structure Literal where
  negative : Bool
  whole : List Char
  fraction : Option (List Char)
  /-- The mark of the exponent with its sign, and the digits behind it. -/
  exponent : Option (List Char × List Char)

namespace Literal

def signChars (negative : Bool) : List Char := if negative then ['-'] else []

def chars (l : Literal) : List Char :=
  signChars l.negative ++ l.whole ++ l.fraction.elim [] ('.' :: ·) ++
    l.exponent.elim [] fun e => e.1 ++ e.2

def marks : List (List Char) :=
  [['e'], ['E'], ['e', '+'], ['E', '+'], ['e', '-'], ['E', '-']]

structure Proper (l : Literal) : Prop where
  whole : Digits l.whole
  leading : l.whole.head? = some '0' → l.whole = ['0']
  fraction : ∀ ds ∈ l.fraction, Digits ds
  exponent : ∀ e ∈ l.exponent, e.1 ∈ marks ∧ Digits e.2

def pushWhole (n : Numeral) (c : Char) : Numeral := NumeralDraft.pushWhole n (digitValue c)

def pushFraction (d : NumeralDraft) (c : Char) : NumeralDraft :=
  NumeralDraft.pushFraction d.numeral (d.stage = .fraction true) (digitValue c)

def pushExponent (n : Numeral) (c : Char) : Numeral := n.withExponentDigit (digitValue c)

def mantissa (l : Literal) : Numeral :=
  let n := l.whole.foldl pushWhole ⟨l.negative, 0, 0, true, (false, 0)⟩
  l.fraction.elim n fun ds => (ds.foldl pushFraction (NumeralDraft.atPoint n)).numeral

def withMark (n : Numeral) (mark : List Char) : Numeral :=
  let n := { n with integral := false }
  if '-' ∈ mark then { n with exponent := (true, 0) } else n

def numeral (l : Literal) : Numeral :=
  l.exponent.elim l.mantissa fun e => e.2.foldl pushExponent (withMark l.mantissa e.1)

end Literal

def hexStep (value : Option Nat) (c : Char) : Option Nat :=
  match value, TextDraft.hexValue? c with
  | some n, some d => some (n * 16 + d)
  | _, _ => none

def hexUnit? (ds : List Char) : Option Nat :=
  if ds.length = 4 then ds.foldl hexStep (some 0) else none

def IsLead (n : Nat) : Prop := 0xd800 ≤ n ∧ n ≤ 0xdbff

def IsTrail (n : Nat) : Prop := 0xdc00 ≤ n ∧ n ≤ 0xdfff

instance (n : Nat) : Decidable (IsLead n) := inferInstanceAs (Decidable (_ ∧ _))

instance (n : Nat) : Decidable (IsTrail n) := inferInstanceAs (Decidable (_ ∧ _))

inductive SpellsChar : List Char → Char → Prop
  | plain {c : Char} (quote : c ≠ '"') (slash : c ≠ '\\') (printable : 0x20 ≤ c.toNat) :
      SpellsChar [c] c
  | escape {e c : Char} (escaped : TextDraft.escaped? e = some c) : SpellsChar ['\\', e] c
  | unit {ds : List Char} {n : Nat} (hex : hexUnit? ds = some n) (lead : ¬IsLead n)
      (trail : ¬IsTrail n) : SpellsChar ('\\' :: 'u' :: ds) (.ofNat n)
  | pair {ds es : List Char} {high low : Nat} (hex : hexUnit? ds = some high)
      (hex' : hexUnit? es = some low) (lead : IsLead high) (trail : IsTrail low) :
      SpellsChar ('\\' :: 'u' :: ds ++ '\\' :: 'u' :: es)
        (.ofNat ((high - 0xd800) * 1024 + (low - 0xdc00) + 0x10000))

inductive SpellsChars : List Char → List Char → Prop
  | nil : SpellsChars [] []
  | cons {ps cs : List Char} {c : Char} {rest : List Char} (char : SpellsChar ps c)
      (more : SpellsChars cs rest) : SpellsChars (ps ++ cs) (c :: rest)

inductive SpellsText : List Char → String → Prop
  | quoted {cs : List Char} {s : String} (content : SpellsChars cs s.toList) :
      SpellsText ('"' :: cs ++ ['"']) s

inductive WritesKey : List Char → String → Prop
  | mk {before cs after : List Char} {s : String} (front : Blank before) (text : SpellsText cs s)
      (back : Blank after) : WritesKey (before ++ cs ++ after) s

mutual

inductive Spells : List Char → Json → Prop
  | null : Spells ['n', 'u', 'l', 'l'] .null
  | true : Spells ['t', 'r', 'u', 'e'] (.bool true)
  | false : Spells ['f', 'a', 'l', 's', 'e'] (.bool false)
  | number {l : Literal} {n : Number} (proper : l.Proper) (value : l.numeral.toNumber = .ok n) :
      Spells l.chars (.number n)
  | text {cs : List Char} {s : String} (text : SpellsText cs s) : Spells cs (.text s)
  | emptyList {cs : List Char} (blank : Blank cs) : Spells ('[' :: cs ++ [']']) (.list [])
  | list {cs : List Char} {items : List Json} (written : WritesItems cs items) :
      Spells ('[' :: cs ++ [']']) (.list items)
  | emptyObject {cs : List Char} (blank : Blank cs) :
      Spells ('\x7b' :: cs ++ ['\x7d']) (.object [])
  | object {cs : List Char} {members : Members} (written : WritesMembers cs members) :
      Spells ('\x7b' :: cs ++ ['\x7d']) (.object members)

/-- A value with the blanks around it. -/
inductive Writes : List Char → Json → Prop
  | mk {before cs after : List Char} {j : Json} (front : Blank before) (value : Spells cs j)
      (back : Blank after) : Writes (before ++ cs ++ after) j

inductive WritesItems : List Char → List Json → Prop
  | one {cs : List Char} {j : Json} (item : Writes cs j) : WritesItems cs [j]
  | more {cs rest : List Char} {j : Json} {items : List Json} (item : Writes cs j)
      (others : WritesItems rest items) : WritesItems (cs ++ ',' :: rest) (j :: items)

inductive WritesMembers : List Char → Members → Prop
  | one {ks cs : List Char} {key : String} {j : Json} (front : WritesKey ks key)
      (value : Writes cs j) : WritesMembers (ks ++ ':' :: cs) [(key, j)]
  | more {ks cs rest : List Char} {key : String} {j : Json} {members : Members}
      (front : WritesKey ks key) (value : Writes cs j) (others : WritesMembers rest members) :
      WritesMembers (ks ++ ':' :: cs ++ ',' :: rest) ((key, j) :: members)

end

variable {cs ds : List Char} {c : Char}

@[simp] theorem blank_nil : Blank [] := by simp [Blank]

@[simp] theorem blank_append : Blank (cs ++ ds) ↔ Blank cs ∧ Blank ds := by
  simp [Blank, or_imp, forall_and]

@[simp] theorem blank_cons : Blank (c :: cs) ↔ Scan.isSpace c = true ∧ Blank cs := by
  simp [Blank]

end Replay.Json
