import Replay.Json.Printer
import Replay.Proofs.Json.Derived

/-!
The text of a value spells that value. Doubles are the exception: their shortest digits need not
be read as the same double, so each of them has to be looked at for itself.
-/
namespace Replay.Json

open Decimal (Double)

/-! Integers -/

theorem digit?_digitChar :
    ∀ d < 10, NumeralDraft.digit? (Nat.digitChar d) = some d := by decide

theorem digits_toDigits (n : Nat) : Digits (Nat.toDigits 10 n) where
  ne_nil := Nat.toDigits_ne_nil
  isDigit c mem := by
    have := Nat.isDigit_of_mem_toDigits (by decide) (Nat.le_refl 10) mem
    simp only [Char.isDigit, Bool.and_eq_true, decide_eq_true_eq] at this
    rw [NumeralDraft.digit?, if_pos ⟨this.1, this.2⟩]
    rfl

theorem head?_toDigits (n : Nat) (zero : (Nat.toDigits 10 n).head? = some '0') : n = 0 := by
  induction n using Nat.strongRecOn with
  | ind n ih =>
    rcases Nat.lt_or_ge n 10 with small | large
    · rw [Nat.toDigits_of_lt_base small] at zero
      exact Nat.digitChar_eq_zero.mp (Option.some.inj zero)
    · rw [Nat.toDigits_of_base_le (by decide) large, List.head?_append,
        Option.or_of_isSome (by simp)] at zero
      have := ih (n / 10) (by omega) zero
      omega

theorem foldl_toDigits (negative : Bool) {n : Nat} (fits : n < Numeral.limit) :
    (Nat.toDigits 10 n).foldl Literal.pushWhole ⟨negative, 0, 0, true, (false, 0)⟩ =
      ⟨negative, n, 0, true, (false, 0)⟩ := by
  have push {m d : Nat} (small : d < 10) (fits : m * 10 + d < Numeral.limit) :
      Literal.pushWhole ⟨negative, m, 0, true, (false, 0)⟩ (Nat.digitChar d) =
        ⟨negative, m * 10 + d, 0, true, (false, 0)⟩ := by
    simp [Literal.pushWhole, digitValue, digit?_digitChar d small, NumeralDraft.pushWhole,
      Numeral.extend?, fits]
  induction n using Nat.strongRecOn with
  | ind n ih =>
    rcases Nat.lt_or_ge n 10 with small | large
    · rw [Nat.toDigits_of_lt_base small]
      simpa using push small (m := 0) (by omega)
    · have front := ih (n / 10) (by omega) (by omega)
      rw [Nat.toDigits_of_base_le (by decide) large, List.foldl_append, front, List.foldl_cons,
        List.foldl_nil, push (by omega) (by omega)]
      congr 1
      omega

def wholeLiteral (negative : Bool) (n : Nat) : Literal := ⟨negative, naturalChars n, none, none⟩

theorem proper_wholeLiteral (negative : Bool) (n : Nat) : (wholeLiteral negative n).Proper where
  whole := digits_toDigits n
  leading zero := by
    have := head?_toDigits n zero
    subst this
    rfl
  fraction := nofun
  exponent := nofun

theorem toNumber_wholeLiteral {negative : Bool} {n : Nat} {i : Integer}
    (value : i.val = if negative then - (n : Int) else n) (zero : ¬(negative ∧ n = 0))
    (fits : n < Numeral.limit) :
    (wholeLiteral negative n).numeral.toNumber = .ok (.integer i) := by
  have numeral : (wholeLiteral negative n).numeral = ⟨negative, n, 0, true, (false, 0)⟩ :=
    foldl_toDigits negative fits
  have kept : Integer.ofInt? i.val = some i := by simp [Integer.ofInt?, i.lower, i.upper]
  rw [numeral, Numeral.toNumber, if_pos ⟨rfl, rfl, zero⟩, ← value, kept]

theorem spells_integer (i : Integer) : Spells (integerChars i.val) (.number (.integer i)) := by
  have lower := i.lower
  have upper := i.upper
  cases eq : i.val with
  | ofNat n =>
    rw [eq, Int.ofNat_eq_natCast] at upper
    have fits : n < Numeral.limit := by
      simp only [Numeral.limit]
      omega
    have chars : (wholeLiteral false n).chars = naturalChars n := by
      simp [wholeLiteral, Literal.chars, Literal.signChars]
    rw [integerChars, ← chars]
    exact .number (proper_wholeLiteral false n) (toNumber_wholeLiteral eq (by simp) fits)
  | negSucc n =>
    have value : i.val = -((n + 1 : Nat) : Int) := by
      rw [eq]
      omega
    have fits : n + 1 < Numeral.limit := by
      simp only [Numeral.limit]
      omega
    have chars : (wholeLiteral true (n + 1)).chars = '-' :: naturalChars (n + 1) := by
      simp [wholeLiteral, Literal.chars, Literal.signChars]
    rw [integerChars, ← chars]
    exact .number (proper_wholeLiteral true (n + 1)) (toNumber_wholeLiteral value (by simp) fits)

/-! Strings -/

theorem hexUnit?_hexDigit :
    ∀ n < 0x20, hexUnit? ['0', '0', hexDigit (n / 16), hexDigit (n % 16)] = some n := by decide

theorem spellsChar_escapedChar (c : Char) : SpellsChar (escapedChar c) c := by
  unfold escapedChar
  split_ifs with h₁ h₂ h₃ h₄ h₅ h₆ h₇ h₈
  · subst h₁
    exact .escape rfl
  · subst h₂
    exact .escape rfl
  · subst h₃
    exact .escape rfl
  · subst h₄
    exact .escape rfl
  · subst h₅
    exact .escape rfl
  · subst h₆
    exact .escape rfl
  · subst h₇
    exact .escape rfl
  · have unit := SpellsChar.unit (hexUnit?_hexDigit c.toNat h₈)
      (fun lead => by have := lead.1; omega) (fun trail => by have := trail.1; omega)
    rwa [Char.ofNat_toNat] at unit
  · exact .plain h₁ h₂ (Nat.le_of_not_lt h₈)

theorem spellsText_textChars (s : String) : SpellsText (textChars s) s := by
  have spells (cs : List Char) : SpellsChars (cs.flatMap escapedChar) cs := by
    induction cs with
    | nil => exact .nil
    | cons c cs ih => exact .cons (spellsChar_escapedChar c) ih
  exact .quoted (spells s.toList)

theorem writesKey_textChars (s : String) : WritesKey (textChars s) s := by
  simpa using WritesKey.mk blank_nil (spellsText_textChars s) blank_nil

/-! Whole values -/

def ReadsBack (x : Double) : Prop := parse (print (.float x)) = .ok (.float x)

mutual

def floats : Json → List Double
  | .number (.float x) => [x]
  | .list items => floatsList items
  | .object members => floatsMembers members
  | _ => []

def floatsList : List Json → List Double
  | [] => []
  | j :: rest => floats j ++ floatsList rest

def floatsMembers : List (String × Json) → List Double
  | [] => []
  | (_, j) :: rest => floats j ++ floatsMembers rest

end

theorem spells_writes {cs : List Char} {j : Json} (spells : Spells cs j) : Writes cs j :=
  .of_spells blank_nil spells

theorem writes_float {x : Double} (back : ReadsBack x) :
    Writes (floatFormat.chars x) (.float x) := by
  have writes := (parse_eq_ok_iff.mp back).1
  have chars : (print (.float x)).toList = floatFormat.chars x := by
    simp [print, chars, charsBefore, Number.chars, float]
  rwa [chars] at writes

mutual

theorem exists_charsBefore : (j : Json) → (∀ x ∈ j.floats, ReadsBack x) →
    ∃ cs, (∀ rest, charsBefore rest j = cs ++ rest) ∧ Writes cs j
  | .null => fun _ => ⟨_, fun _ => rfl, spells_writes .null⟩
  | .bool true => fun _ => ⟨_, fun _ => rfl, spells_writes .true⟩
  | .bool false => fun _ => ⟨_, fun _ => rfl, spells_writes .false⟩
  | .number (.integer i) => fun _ => ⟨_, fun _ => rfl, spells_writes (spells_integer i)⟩
  | .number (.float x) => fun back =>
    ⟨_, fun _ => rfl, writes_float (back x (by simp [floats]))⟩
  | .text s => fun _ => ⟨_, fun _ => rfl, spells_writes (.text (spellsText_textChars s))⟩
  | .list [] => fun _ => ⟨['[', ']'], fun _ => rfl, spells_writes (.emptyList blank_nil)⟩
  | .list (j :: rest) => fun back => by
    obtain ⟨cs, eq, written⟩ := exists_itemsBefore (j :: rest) nofun back
    exact ⟨'[' :: cs ++ [']'], fun more => by simp [charsBefore, eq], spells_writes (.list written)⟩
  | .object [] => fun _ =>
    ⟨['\x7b', '\x7d'], fun _ => rfl, spells_writes (.emptyObject blank_nil)⟩
  | .object (m :: rest) => fun back => by
    obtain ⟨cs, eq, written⟩ := exists_membersBefore (m :: rest) nofun back
    exact ⟨'\x7b' :: cs ++ ['\x7d'], fun more => by simp [charsBefore, eq],
      spells_writes (.object written)⟩

theorem exists_itemsBefore : (items : List Json) → items ≠ [] →
    (∀ x ∈ floatsList items, ReadsBack x) →
      ∃ cs, (∀ rest, itemsBefore rest items = cs ++ rest) ∧ WritesItems cs items
  | [] => fun some => absurd rfl some
  | [j] => fun _ back => by
    obtain ⟨cs, eq, written⟩ := exists_charsBefore j (by simpa [floatsList] using back)
    exact ⟨cs, fun rest => by simp [itemsBefore, eq], .one written⟩
  | j :: next :: more => fun _ back => by
    simp only [floatsList, List.mem_append] at back
    obtain ⟨cs, eq, written⟩ := exists_charsBefore j fun x mem => back x (.inl mem)
    obtain ⟨ds, eq', written'⟩ := exists_itemsBefore (next :: more) nofun fun x mem =>
      back x (.inr (by simpa [floatsList] using mem))
    exact ⟨cs ++ ',' :: ds, fun rest => by simp [itemsBefore, eq, eq'], .more written written'⟩

theorem exists_membersBefore : (members : List (String × Json)) → members ≠ [] →
    (∀ x ∈ floatsMembers members, ReadsBack x) →
      ∃ cs, (∀ rest, membersBefore rest members = cs ++ rest) ∧ WritesMembers cs members
  | [] => fun some => absurd rfl some
  | [(k, j)] => fun _ back => by
    obtain ⟨cs, eq, written⟩ := exists_charsBefore j (by simpa [floatsMembers] using back)
    exact ⟨textChars k ++ ':' :: cs, fun rest => by simp [membersBefore, eq],
      .one (writesKey_textChars k) written⟩
  | (k, j) :: next :: more => fun _ back => by
    simp only [floatsMembers, List.mem_append] at back
    obtain ⟨cs, eq, written⟩ := exists_charsBefore j fun x mem => back x (.inl mem)
    obtain ⟨ds, eq', written'⟩ := exists_membersBefore (next :: more) nofun fun x mem =>
      back x (.inr (by simpa [floatsMembers] using mem))
    exact ⟨textChars k ++ ':' :: cs ++ ',' :: ds, fun rest => by simp [membersBefore, eq, eq'],
      .more (writesKey_textChars k) written written'⟩

end

theorem writes_print {j : Json} (back : ∀ x ∈ j.floats, ReadsBack x) :
    Writes j.print.toList j := by
  obtain ⟨cs, eq, written⟩ := exists_charsBefore j back
  have printed : j.print.toList = cs := by simp [print, chars, eq]
  exact printed ▸ written

theorem parse_print {j : Json} (back : ∀ x ∈ j.floats, ReadsBack x)
    (depth : j.depth ≤ Reader.maxOpen) : parse j.print = .ok j :=
  parse_eq_ok_iff.mpr ⟨writes_print back, depth⟩

end Replay.Json
