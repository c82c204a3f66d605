import Mathlib.Data.List.Induction
import Replay.Proofs.Json.Grammar

/-!
Reading a number literal digit by digit comes to the number its parts make, and whatever is read
without a breach is a literal.
-/
namespace Replay.Json

namespace NumeralDraft

def feedAll (d : NumeralDraft) : List Char → Option NumeralDraft
  | [] => some d
  | c :: cs =>
    match d.feed c with
    | .more d => d.feedAll cs
    | .done _ | .bad _ => none

variable {d e : NumeralDraft} {c : Char} {cs ds : List Char} {n : Numeral}

theorem feedAll_cons : d.feedAll (c :: cs) = some e ↔
    ∃ d', d.feed c = .more d' ∧ d'.feedAll cs = some e := by
  simp only [feedAll]
  cases d.feed c <;> simp

theorem feedAll_append : d.feedAll (cs ++ ds) = (d.feedAll cs).bind (·.feedAll ds) := by
  induction cs generalizing d with
  | nil => rfl
  | cons c cs ih =>
    simp only [List.cons_append, feedAll]
    split
    · exact ih
    · rfl
    · rfl

theorem feedAll_concat : d.feedAll (cs ++ [c]) = some e ↔
    ∃ d', d.feedAll cs = some d' ∧ d'.feed c = .more e := by
  rw [feedAll_append, Option.bind_eq_some_iff]
  refine exists_congr fun d' => and_congr_right fun _ => ?_
  simp only [feedAll]
  cases d'.feed c <;> simp

/-! Literals are read -/

theorem digit?_eq_some {c : Char} (h : (digit? c).isSome = true) :
    digit? c = some (digitValue c) := by
  obtain ⟨d, hd⟩ := Option.isSome_iff_exists.mp h
  simp [digitValue, hd]

theorem digit?_eq_zero {c : Char} : digit? c = some 0 ↔ c = '0' := by
  unfold digit?
  constructor
  · intro h
    split at h
    · rename_i range
      have low : 48 ≤ c.toNat := range.1
      have eq : c.toNat = 48 := by have := Option.some.inj h; omega
      exact Char.toNat_inj.mp eq
    · cases h
  · rintro rfl
    rfl

theorem feedAll_whole (digits : ∀ c ∈ ds, (digit? c).isSome = true) :
    feedAll ⟨.whole, n⟩ ds = some ⟨.whole, ds.foldl Literal.pushWhole n⟩ := by
  induction ds generalizing n with
  | nil => rfl
  | cons c ds ih =>
    have hc := digit?_eq_some (digits c List.mem_cons_self)
    simp only [feedAll, feed, hc, List.foldl_cons]
    exact ih fun c mem => digits c (List.mem_cons_of_mem _ mem)

theorem stage_pushFraction (d : NumeralDraft) (c : Char) :
    ∃ full, (Literal.pushFraction d c).stage = .fraction full := by
  unfold Literal.pushFraction pushFraction
  split
  · exact ⟨false, rfl⟩
  · exact ⟨true, rfl⟩

theorem stage_fraction (d : NumeralDraft) (digits : Digits ds) :
    ∃ full, (ds.foldl Literal.pushFraction d).stage = .fraction full := by
  rw [← List.dropLast_concat_getLast digits.ne_nil, List.foldl_append]
  exact stage_pushFraction _ _

theorem feed_fraction (stage : d.stage = .point ∨ ∃ full, d.stage = .fraction full)
    (digit : (digit? c).isSome = true) : d.feed c = .more (Literal.pushFraction d c) := by
  have hc := digit?_eq_some digit
  obtain ⟨stage', n⟩ := d
  rcases stage with rfl | ⟨full, rfl⟩
  · simp [feed, hc, Literal.pushFraction]
  · cases full <;> simp [feed, hc, Literal.pushFraction]

theorem feedAll_fraction (stage : d.stage = .point ∨ ∃ full, d.stage = .fraction full)
    (digits : ∀ c ∈ ds, (digit? c).isSome = true) :
    d.feedAll ds = some (ds.foldl Literal.pushFraction d) := by
  induction ds generalizing d with
  | nil => rfl
  | cons c ds ih =>
    simp only [feedAll, feed_fraction stage (digits c List.mem_cons_self), List.foldl_cons]
    exact ih (.inr (stage_pushFraction d c)) fun c mem => digits c (List.mem_cons_of_mem _ mem)

theorem feedAll_exponent (digits : ∀ c ∈ ds, (digit? c).isSome = true) :
    feedAll ⟨.exponent, n⟩ ds = some ⟨.exponent, ds.foldl Literal.pushExponent n⟩ := by
  induction ds generalizing n with
  | nil => rfl
  | cons c ds ih =>
    have hc := digit?_eq_some (digits c List.mem_cons_self)
    simp only [feedAll, feed, hc, List.foldl_cons]
    exact ih fun c mem => digits c (List.mem_cons_of_mem _ mem)

def begin? (c : Char) : Option NumeralDraft :=
  if c = '-' then some ofMinus else (digit? c).map (ofDigit false)

def reach? : List Char → Option NumeralDraft
  | [] => none
  | c :: cs => (begin? c).bind (·.feedAll cs)

theorem reach?_append (h : reach? cs = some d) : reach? (cs ++ ds) = d.feedAll ds := by
  cases cs with
  | nil => cases h
  | cons c cs =>
    obtain ⟨b, hb, hd⟩ := Option.bind_eq_some_iff.mp h
    simp only [List.cons_append, reach?, hb, Option.bind_some, feedAll_append, hd]

theorem reach?_concat (ne : cs ≠ []) : reach? (cs ++ [c]) = some e ↔
    ∃ d, reach? cs = some d ∧ d.feed c = .more e := by
  cases cs with
  | nil => exact absurd rfl ne
  | cons b cs =>
    simp only [List.cons_append, reach?]
    cases begin? b with
    | none => simp
    | some d => exact feedAll_concat

theorem ofDigit_eq {negative : Bool} : ofDigit negative (digitValue c) =
    if digitValue c = 0 then ⟨.zero, ⟨negative, 0, 0, true, (false, 0)⟩⟩
    else ⟨.whole, Literal.pushWhole ⟨negative, 0, 0, true, (false, 0)⟩ c⟩ := by
  have bound : digitValue c < Numeral.limit := by
    unfold digitValue digit?
    split
    · rename_i range
      have high : c.toNat ≤ 57 := range.2
      simp only [Option.getD_some, Numeral.limit]
      omega
    · decide
  unfold ofDigit
  split
  · simp [*]
  · simp [Literal.pushWhole, pushWhole, Numeral.extend?, bound]

theorem reach?_whole (negative : Bool) (digits : Digits ds)
    (leading : ds.head? = some '0' → ds = ['0']) :
    ∃ stage, reach? (Literal.signChars negative ++ ds) =
        some ⟨stage, ds.foldl Literal.pushWhole ⟨negative, 0, 0, true, (false, 0)⟩⟩ ∧
      (stage = .zero ∨ stage = .whole) := by
  cases ds with
  | nil => exact absurd rfl digits.ne_nil
  | cons c ds =>
    have hc := digit?_eq_some (digits.isDigit c List.mem_cons_self)
    have ne : c ≠ '-' := by
      rintro rfl
      cases hc
    have first : reach? (Literal.signChars negative ++ [c]) =
        some (ofDigit negative (digitValue c)) := by
      cases negative <;> simp [Literal.signChars, reach?, begin?, feedAll, feed, ofMinus, ne, hc]
    have split : Literal.signChars negative ++ c :: ds =
        (Literal.signChars negative ++ [c]) ++ ds := by simp
    rw [split, reach?_append first, List.foldl_cons]
    rw [ofDigit_eq]
    split
    · have same : c = '0' := digit?_eq_zero.mp (hc.trans (congrArg some ‹_›))
      obtain rfl : ds = [] := (List.cons.inj (leading (by simp [same]))).2
      subst same
      exact ⟨.zero, rfl, .inl rfl⟩
    · exact ⟨.whole, feedAll_whole fun c mem => digits.isDigit c (List.mem_cons_of_mem _ mem),
        .inr rfl⟩

def NumeralStage.TakesMark : NumeralStage → Prop
  | .zero | .whole | .fraction _ => True
  | _ => False

theorem feed_mark {stage : NumeralStage} (takes : NumeralStage.TakesMark stage)
    (mark : c = 'e' ∨ c = 'E') : feed ⟨stage, n⟩ c = .more (atMark n) := by
  rcases mark with rfl | rfl <;> cases stage <;> first | exact takes.elim | rfl

theorem reach?_mantissa {l : Literal} (proper : l.Proper) :
    ∃ stage, reach? (Literal.signChars l.negative ++ l.whole ++ l.fraction.elim [] ('.' :: ·)) =
      some ⟨stage, l.mantissa⟩ ∧ NumeralStage.TakesMark stage := by
  obtain ⟨stage, whole, takes⟩ := reach?_whole l.negative proper.whole proper.leading
  rw [reach?_append whole]
  unfold Literal.mantissa
  cases fraction : l.fraction with
  | none =>
    refine ⟨stage, rfl, ?_⟩
    rcases takes with rfl | rfl <;> trivial
  | some ds =>
    have digits := proper.fraction ds fraction
    obtain ⟨full, stage'⟩ := stage_fraction (atPoint (l.whole.foldl Literal.pushWhole
      ⟨l.negative, 0, 0, true, (false, 0)⟩)) digits
    have point (n : Numeral) : feed ⟨stage, n⟩ '.' = .more (atPoint n) := by
      rcases takes with rfl | rfl <;> rfl
    refine ⟨.fraction full, ?_, trivial⟩
    simp only [Option.elim_some, feedAll, point,
      feedAll_fraction (.inl (rfl : (atPoint _).stage = .point)) digits.isDigit, ← stage']

theorem feedAll_mark {stage : NumeralStage} {mark : List Char}
    (takes : NumeralStage.TakesMark stage) (mem : mark ∈ Literal.marks) :
    ∃ stage', feedAll ⟨stage, n⟩ mark = some ⟨stage', Literal.withMark n mark⟩ ∧
      (stage' = .mark ∨ stage' = .sign) := by
  simp only [Literal.marks, List.mem_cons, List.not_mem_nil, or_false] at mem
  rcases mem with rfl | rfl | rfl | rfl | rfl | rfl
  · exact ⟨.mark, by simp [feedAll, feed_mark takes (.inl rfl), atMark, Literal.withMark], .inl rfl⟩
  · exact ⟨.mark, by simp [feedAll, feed_mark takes (.inr rfl), atMark, Literal.withMark], .inl rfl⟩
  all_goals
    refine ⟨.sign, ?_, .inr rfl⟩
    first
    | simp only [feedAll, feed_mark takes (.inl rfl)]; rfl
    | simp only [feedAll, feed_mark takes (.inr rfl)]; rfl

theorem feedAll_power {stage : NumeralStage} (sign : stage = .mark ∨ stage = .sign)
    (digits : Digits ds) :
    feedAll ⟨stage, n⟩ ds = some ⟨.exponent, ds.foldl Literal.pushExponent n⟩ := by
  cases ds with
  | nil => exact absurd rfl digits.ne_nil
  | cons c ds =>
    have hc := digit?_eq_some (digits.isDigit c List.mem_cons_self)
    have first : feed ⟨stage, n⟩ c = .more ⟨.exponent, Literal.pushExponent n c⟩ := by
      rcases sign with rfl | rfl <;> simp only [feed, hc] <;> rfl
    simp only [feedAll, first, List.foldl_cons]
    exact feedAll_exponent fun c mem => digits.isDigit c (List.mem_cons_of_mem _ mem)

theorem reach?_chars {l : Literal} (proper : l.Proper) :
    ∃ d, reach? l.chars = some d ∧ d.finish = .ok l.numeral := by
  obtain ⟨stage, mantissa, takes⟩ := reach?_mantissa proper
  unfold Literal.chars
  rw [reach?_append mantissa]
  unfold Literal.numeral
  cases exponent : l.exponent with
  | none =>
    refine ⟨_, rfl, ?_⟩
    cases stage <;> first | exact takes.elim | rfl
  | some e =>
    obtain ⟨mem, digits⟩ := proper.exponent e exponent
    obtain ⟨stage', mark, sign⟩ := feedAll_mark (n := l.mantissa) takes mem
    refine ⟨⟨.exponent, _⟩, ?_, rfl⟩
    simp only [Option.elim_some, feedAll_append, mark, Option.bind_some]
    exact feedAll_power sign digits

/-! What is read is a literal -/

inductive Fronts : List Char → NumeralDraft → Prop
  | minus : Fronts ['-'] ofMinus
  | zero (negative : Bool) :
      Fronts (Literal.signChars negative ++ ['0']) ⟨.zero, ⟨negative, 0, 0, true, (false, 0)⟩⟩
  | whole {l : Literal} (proper : l.Proper) (leading : l.whole.head? ≠ some '0')
      (fraction : l.fraction = none) (exponent : l.exponent = none) :
      Fronts l.chars ⟨.whole, l.mantissa⟩
  | point {l : Literal} (proper : l.Proper) (fraction : l.fraction = none)
      (exponent : l.exponent = none) : Fronts (l.chars ++ ['.']) (atPoint l.mantissa)
  | fraction {l : Literal} {d : NumeralDraft} (proper : l.Proper) (full : Bool)
      (stage : d.stage = .fraction full) (fraction : ∃ ds, l.fraction = some ds ∧
        d = ds.foldl Literal.pushFraction (atPoint { l with fraction := none }.mantissa))
      (exponent : l.exponent = none) : Fronts l.chars d
  | mark {l : Literal} {m : Char} (proper : l.Proper) (exponent : l.exponent = none)
      (mark : m = 'e' ∨ m = 'E') : Fronts (l.chars ++ [m]) ⟨.mark, Literal.withMark l.mantissa [m]⟩
  | sign {l : Literal} {mark : List Char} (proper : l.Proper) (exponent : l.exponent = none)
      (mem : mark ∈ Literal.marks) :
      Fronts (l.chars ++ mark) ⟨.sign, Literal.withMark l.mantissa mark⟩
  | exponent {l : Literal} (proper : l.Proper) (exponent : l.exponent.isSome = true) :
      Fronts l.chars ⟨.exponent, l.numeral⟩

theorem Digits.concat (ds : List Char) (h : ∀ c ∈ ds, (digit? c).isSome = true)
    (hc : (digit? c).isSome = true) : Digits (ds ++ [c]) where
  ne_nil := by simp
  isDigit := by simpa [or_imp, forall_and] using ⟨h, hc⟩

theorem fronts_ofDigit (negative : Bool) {k : Nat} (hc : digit? c = some k) :
    Fronts (Literal.signChars negative ++ [c]) (ofDigit negative k) := by
  have some : (digit? c).isSome = true := by rw [hc]; rfl
  obtain rfl : digitValue c = k := by simp [digitValue, hc]
  rw [ofDigit_eq]
  split
  · rename_i zero
    obtain rfl := digit?_eq_zero.mp (zero ▸ hc)
    exact .zero negative
  · rename_i ne
    have head : [c].head? ≠ .some '0' := by
      rintro ⟨⟩
      exact ne rfl
    have proper : (⟨negative, [c], none, none⟩ : Literal).Proper :=
      ⟨Digits.concat [] nofun some, fun h => absurd h head, nofun, nofun⟩
    have fronts := Fronts.whole proper head rfl rfl
    simpa [Literal.chars, Literal.mantissa] using fronts

theorem proper_zero (negative : Bool) : (⟨negative, ['0'], none, none⟩ : Literal).Proper where
  whole := ⟨by simp, by simp; rfl⟩
  leading _ := rfl
  fraction := nofun
  exponent := nofun

theorem Fronts.literal (h : Fronts cs d) (takes : NumeralStage.TakesMark d.stage) :
    ∃ l : Literal, l.Proper ∧ l.exponent = none ∧ cs = l.chars ∧ d.numeral = l.mantissa := by
  cases h with
  | zero negative =>
    exact ⟨_, proper_zero negative, rfl, by simp [Literal.chars], rfl⟩
  | whole proper _ _ exponent => exact ⟨_, proper, exponent, rfl, rfl⟩
  | fraction proper full _ fraction exponent =>
    obtain ⟨ds, some, rfl⟩ := fraction
    refine ⟨_, proper, exponent, rfl, ?_⟩
    unfold Literal.mantissa
    rw [some]
    rfl
  | _ => exact takes.elim

theorem Fronts.takeMark (h : Fronts cs d) (takes : NumeralStage.TakesMark d.stage)
    (mark : c = 'e' ∨ c = 'E') : Fronts (cs ++ [c]) (atMark d.numeral) := by
  obtain ⟨l, proper, exponent, rfl, eq⟩ := h.literal takes
  rw [eq]
  have fronts := Fronts.mark proper exponent mark
  rcases mark with rfl | rfl <;> exact fronts

theorem Fronts.pushWhole {l : Literal} (proper : l.Proper) (leading : l.whole.head? ≠ some '0')
    (fraction : l.fraction = none) (exponent : l.exponent = none)
    (hc : (digit? c).isSome = true) :
    Fronts (l.chars ++ [c]) ⟨.whole, Literal.pushWhole l.mantissa c⟩ := by
  obtain ⟨negative, whole, _, _⟩ := l
  subst fraction exponent
  have head : (whole ++ [c]).head? ≠ some '0' := by
    rwa [List.head?_append, Option.or_of_isSome]
    simpa using proper.whole.ne_nil
  have proper' : (⟨negative, whole ++ [c], none, none⟩ : Literal).Proper :=
    ⟨Digits.concat _ proper.whole.isDigit hc, fun h => absurd h head, nofun, nofun⟩
  have fronts := Fronts.whole proper' head rfl rfl
  simpa [Literal.chars, Literal.mantissa] using fronts

theorem Fronts.pushFraction {l : Literal} (ds : List Char) (proper : l.Proper)
    (fraction : l.fraction = none) (exponent : l.exponent = none)
    (digits : ∀ c ∈ ds, (digit? c).isSome = true) (hc : (digit? c).isSome = true) :
    Fronts (l.chars ++ '.' :: ds ++ [c]) (Literal.pushFraction
      (ds.foldl Literal.pushFraction (atPoint l.mantissa)) c) := by
  obtain ⟨negative, whole, _, _⟩ := l
  subst fraction exponent
  have proper' : (⟨negative, whole, some (ds ++ [c]), none⟩ : Literal).Proper :=
    ⟨proper.whole, proper.leading, by rintro _ ⟨⟩; exact Digits.concat _ digits hc, nofun⟩
  obtain ⟨full, stage⟩ := stage_pushFraction
    (ds.foldl Literal.pushFraction (atPoint (⟨negative, whole, none, none⟩ : Literal).mantissa)) c
  have fronts := Fronts.fraction proper' full stage
    ⟨_, rfl, by rw [List.foldl_append]; rfl⟩ rfl
  simpa [Literal.chars] using fronts

theorem Fronts.pushExponent {l : Literal} {mark : List Char} (ds : List Char) (proper : l.Proper)
    (exponent : l.exponent = none) (mem : mark ∈ Literal.marks)
    (digits : ∀ c ∈ ds, (digit? c).isSome = true) (hc : (digit? c).isSome = true) :
    Fronts (l.chars ++ mark ++ ds ++ [c]) ⟨.exponent, Literal.pushExponent
      (ds.foldl Literal.pushExponent (Literal.withMark l.mantissa mark)) c⟩ := by
  obtain ⟨negative, whole, fraction, _⟩ := l
  subst exponent
  have proper' : (⟨negative, whole, fraction, some (mark, ds ++ [c])⟩ : Literal).Proper :=
    ⟨proper.whole, proper.leading, proper.fraction,
      by rintro _ ⟨⟩; exact ⟨mem, Digits.concat _ digits hc⟩⟩
  have fronts := Fronts.exponent proper' rfl
  simpa [Literal.chars, Literal.numeral, Literal.mantissa] using fronts

theorem Fronts.feed (h : Fronts cs d) (fed : d.feed c = .more e) : Fronts (cs ++ [c]) e := by
  have digit {k : Nat} (hc : digit? c = some k) :
      (digit? c).isSome = true ∧ digitValue c = k := by simp [digitValue, hc]
  have marks (takes : NumeralStage.TakesMark d.stage)
      (h' : (if c = 'e' ∨ c = 'E' then Step.more (atMark d.numeral) else .done d.numeral) =
        .more e) : Fronts (cs ++ [c]) e := by
    split at h'
    · cases h'
      exact h.takeMark takes ‹_›
    · cases h'
  cases h with
  | minus =>
    unfold NumeralDraft.feed ofMinus at fed
    cases hc : digit? c with
    | none => simp [hc, invalid] at fed
    | some k =>
      simp only [hc, Step.more.injEq] at fed
      exact fed ▸ fronts_ofDigit true hc
  | zero negative =>
    unfold NumeralDraft.feed at fed
    cases hc : digit? c with
    | some k => simp [hc, invalid] at fed
    | none =>
      simp only [hc] at fed
      split at fed
      · cases fed
        subst c
        have fronts : Fronts (Literal.signChars negative ++ ['0'] ++ ['.'])
            (atPoint (⟨negative, ['0'], none, none⟩ : Literal).mantissa) := by
          simpa [Literal.chars] using Fronts.point (proper_zero negative) rfl rfl
        exact fronts
      · exact marks trivial fed
  | whole proper leading fraction exponent =>
    unfold NumeralDraft.feed at fed
    cases hc : digit? c with
    | some k =>
      simp only [hc, Step.more.injEq] at fed
      obtain ⟨some, rfl⟩ := digit hc
      exact fed ▸ Fronts.pushWhole proper leading fraction exponent some
    | none =>
      simp only [hc] at fed
      split at fed
      · cases fed
        subst c
        exact .point proper fraction exponent
      · exact marks trivial fed
  | point proper fraction exponent =>
    unfold NumeralDraft.feed atPoint at fed
    cases hc : digit? c with
    | none => simp [hc, invalid] at fed
    | some k =>
      simp only [hc, Step.more.injEq] at fed
      obtain ⟨some, rfl⟩ := digit hc
      exact fed ▸ Fronts.pushFraction [] proper fraction exponent nofun some
  | fraction proper full stage fraction exponent =>
    cases hc : digit? c with
    | some k =>
      obtain ⟨some, rfl⟩ := digit hc
      cases (feed_fraction (.inr ⟨full, stage⟩) some).symm.trans fed
      obtain ⟨ds, here, rfl⟩ := fraction
      have front : ({ ‹Literal› with fraction := none } : Literal).Proper :=
        ⟨proper.whole, proper.leading, nofun, proper.exponent⟩
      have fronts := Fronts.pushFraction _ front rfl exponent (proper.fraction ds here).isDigit some
      simpa [Literal.chars, here, exponent] using fronts
    | none =>
      refine marks (by rw [stage]; trivial) ?_
      simpa [NumeralDraft.feed, stage, hc] using fed
  | @mark l m proper exponent mark =>
    have mem : [m] ∈ Literal.marks := by rcases mark with rfl | rfl <;> decide
    unfold NumeralDraft.feed at fed
    cases hc : digit? c with
    | some k =>
      simp only [hc, Step.more.injEq] at fed
      obtain ⟨some, rfl⟩ := digit hc
      have fronts := Fronts.pushExponent [] proper exponent mem nofun some
      rw [List.append_nil] at fronts
      exact fed ▸ fronts
    | none =>
      simp only [hc] at fed
      split at fed
      · cases fed
        subst c
        have fronts := @Fronts.sign _ [m, '+'] proper exponent
          (by rcases mark with rfl | rfl <;> decide)
        rcases mark with rfl | rfl <;> simpa [Literal.withMark] using fronts
      · split at fed
        · cases fed
          subst c
          have fronts := @Fronts.sign _ [m, '-'] proper exponent
            (by rcases mark with rfl | rfl <;> decide)
          rcases mark with rfl | rfl <;> simpa [Literal.withMark] using fronts
        · simp [invalid] at fed
  | sign proper exponent mem =>
    unfold NumeralDraft.feed at fed
    cases hc : digit? c with
    | none => simp [hc, invalid] at fed
    | some k =>
      simp only [hc, Step.more.injEq] at fed
      obtain ⟨some, rfl⟩ := digit hc
      have fronts := Fronts.pushExponent [] proper exponent mem nofun some
      rw [List.append_nil] at fronts
      exact fed ▸ fronts
  | @exponent l proper exponent =>
    unfold NumeralDraft.feed at fed
    cases hc : digit? c with
    | none => simp [hc] at fed
    | some k =>
      simp only [hc, Step.more.injEq] at fed
      obtain ⟨some, rfl⟩ := digit hc
      obtain ⟨⟨mark, ds⟩, here⟩ := Option.isSome_iff_exists.mp exponent
      obtain ⟨mem, digits⟩ := proper.exponent _ here
      have front : ({ l with exponent := none } : Literal).Proper :=
        ⟨proper.whole, proper.leading, proper.fraction, nofun⟩
      have fronts := Fronts.pushExponent _ front rfl mem digits.isDigit some
      rw [← fed]
      simpa [Literal.chars, Literal.numeral, Literal.mantissa, Literal.pushExponent, here]
        using fronts

theorem fronts_of_reach? (h : reach? cs = some d) : Fronts cs d := by
  induction cs using List.reverseRecOn generalizing d with
  | nil => cases h
  | append_singleton cs c ih =>
    rcases eq_or_ne cs [] with rfl | ne
    · obtain ⟨d', begun, ⟨⟩⟩ := Option.bind_eq_some_iff.mp h
      unfold begin? at begun
      split at begun
      · cases begun
        subst c
        exact .minus
      · obtain ⟨k, hc, rfl⟩ := Option.map_eq_some_iff.mp begun
        exact fronts_ofDigit false hc
    · obtain ⟨d', before, fed⟩ := (reach?_concat ne).mp h
      exact (ih before).feed fed

theorem exists_literal (h : reach? cs = some d) (finish : d.finish = .ok n) :
    ∃ l : Literal, l.Proper ∧ l.chars = cs ∧ l.numeral = n := by
  have fronts := fronts_of_reach? h
  have last (takes : NumeralStage.TakesMark d.stage) (eq : d.numeral = n) :
      ∃ l : Literal, l.Proper ∧ l.chars = cs ∧ l.numeral = n := by
    obtain ⟨l, proper, exponent, rfl, mantissa⟩ := fronts.literal takes
    refine ⟨l, proper, rfl, ?_⟩
    rw [Literal.numeral, exponent]
    exact mantissa.symm.trans eq
  cases fronts with
  | zero negative => exact last trivial (Except.ok.inj finish)
  | whole => exact last trivial (Except.ok.inj finish)
  | fraction proper full stage =>
    rw [NumeralDraft.finish, stage] at finish
    exact last (by rw [stage]; trivial) (Except.ok.inj finish)
  | exponent proper => exact ⟨_, proper, rfl, Except.ok.inj finish⟩
  | _ => cases finish

theorem finish_of_done (h : d.feed c = .done n) : d.finish = .ok n := by
  obtain ⟨stage, n'⟩ := d
  cases stage <;> cases hc : digit? c <;> grind [feed, finish, invalid]

theorem feed_of_finish (h : d.finish = .ok n) (hc : digit? c = none) (point : c ≠ '.')
    (mark : ¬(c = 'e' ∨ c = 'E')) : d.feed c = .done n := by
  obtain ⟨stage, n'⟩ := d
  cases stage <;> cases h <;> simp [feed, hc, point, mark]

end NumeralDraft

end Replay.Json
