import Mathlib.Data.List.Induction
import Replay.Proofs.Json.Grammar

/-!
Reading a string character by character comes to the content that is spelled, and whatever is read
without a flaw spells its content.
-/
namespace Replay.Json

theorem SpellsChars.concat {cs ps s : List Char} {c : Char} (front : SpellsChars cs s)
    (char : SpellsChar ps c) : SpellsChars (cs ++ ps) (s ++ [c]) := by
  induction front with
  | nil => simpa using SpellsChars.cons char .nil
  | cons first _ ih => simpa using SpellsChars.cons first ih

namespace TextDraft

def feedAll (t : TextDraft) : List Char → Option TextDraft
  | [] => some t
  | c :: cs =>
    match t.feed c with
    | .more t => t.feedAll cs
    | .done _ | .bad _ => none

variable {t u : TextDraft} {c : Char} {cs ds : List Char} {n : Nat}

theorem feedAll_cons : t.feedAll (c :: cs) = some u ↔
    ∃ t', t.feed c = .more t' ∧ t'.feedAll cs = some u := by
  simp only [feedAll]
  cases t.feed c <;> simp

theorem feedAll_append : t.feedAll (cs ++ ds) = (t.feedAll cs).bind (·.feedAll ds) := by
  induction cs generalizing t with
  | nil => rfl
  | cons c cs ih =>
    simp only [List.cons_append, feedAll]
    split
    · exact ih
    · rfl
    · rfl

def settled (content : List Char) : TextDraft := ⟨.plain, content, none, none⟩

theorem utf8Size_of_hexValue? {d : Nat} (h : hexValue? c = some d) : c.utf8Size = 1 := by
  have low : c ≤ 'f' := by
    unfold hexValue? at h
    split at h
    · exact Char.le_trans ‹_ ∧ _›.2 (by decide)
    · split at h
      · exact ‹_ ∧ _›.2
      · split at h
        · exact Char.le_trans ‹_ ∧ _›.2 (by decide)
        · cases h
  exact Char.utf8Size_eq_one_iff.mpr (UInt32.le_trans low (by decide))

theorem hexStep_eq_some_iff {value : Option Nat} : hexStep value c = some n ↔
    ∃ m d, value = some m ∧ hexValue? c = some d ∧ n = m * 16 + d := by
  unfold hexStep
  cases value <;> cases hexValue? c <;> simp [eq_comm]

theorem hexUnit?_eq_some_iff :
    hexUnit? ds = some n ↔ ds.length = 4 ∧ ds.foldl hexStep (some 0) = some n := by
  simp [hexUnit?]

theorem feed_hex {content : List Char} {lead : Option Nat} {bytes m : Nat}
    (step : hexStep (some m) c = some n) :
    feed ⟨.hex bytes (some m), content, lead, none⟩ c =
      .more (if bytes + 1 < 4 then ⟨.hex (bytes + 1) (some n), content, lead, none⟩
        else pushUnit ⟨.hex bytes (some m), content, lead, none⟩ n) := by
  obtain ⟨_, d, ⟨⟩, digit, rfl⟩ := hexStep_eq_some_iff.mp step
  simp only [feed, digit, utf8Size_of_hexValue? digit]
  split <;> rfl

theorem feedAll_hex (hex : hexUnit? ds = some n) {content : List Char} {lead : Option Nat} :
    feedAll ⟨.escape, content, lead, none⟩ ('u' :: ds) =
      some (pushUnit ⟨.plain, content, lead, none⟩ n) := by
  obtain ⟨four, folded⟩ := hexUnit?_eq_some_iff.mp hex
  obtain ⟨c₁, c₂, c₃, c₄, rfl⟩ : ∃ c₁ c₂ c₃ c₄, ds = [c₁, c₂, c₃, c₄] := by
    match ds, four with
    | [c₁, c₂, c₃, c₄], _ => exact ⟨c₁, c₂, c₃, c₄, rfl⟩
  obtain ⟨n₃, _, h₃, _⟩ := hexStep_eq_some_iff.mp folded
  obtain ⟨n₂, _, h₂, _⟩ := hexStep_eq_some_iff.mp h₃
  obtain ⟨n₁, _, h₁, _⟩ := hexStep_eq_some_iff.mp h₂
  have begun : feed ⟨.escape, content, lead, none⟩ 'u' =
      .more ⟨.hex 0 (some 0), content, lead, none⟩ := rfl
  have step₂ : hexStep (some n₁) c₂ = some n₂ := h₁ ▸ h₂
  have step₃ : hexStep (some n₂) c₃ = some n₃ := h₂ ▸ h₃
  have step₄ : hexStep (some n₃) c₄ = some n := h₃ ▸ folded
  simp [feedAll, begun, feed_hex h₁, feed_hex step₂, feed_hex step₃, feed_hex step₄, pushUnit]

theorem feedAll_slash {content : List Char} {lead : Option Nat} :
    feedAll ⟨.plain, content, lead, none⟩ ('\\' :: cs) =
      feedAll ⟨.escape, content, lead, none⟩ cs := rfl

theorem feedAll_char {content ps : List Char} (spells : SpellsChar ps c) :
    (settled content).feedAll ps = some (settled (c :: content)) := by
  cases spells with
  | plain quote slash printable =>
    have : ¬c.toNat < 0x20 := by omega
    simp [feedAll, feed, settled, unpaired, push, quote, slash, this]
  | @escape e _ escaped =>
    have : e ≠ 'u' := by
      rintro rfl
      cases escaped
    simp [settled, feedAll, feed, unpaired, push, escaped, this]
  | unit hex lead trail =>
    rw [settled, feedAll_slash, feedAll_hex hex]
    simp [pushUnit, push, settled, show ¬(_ ∧ _) from trail, show ¬(_ ∧ _) from lead]
  | @pair ds es high low hex hex' lead trail =>
    have half : (settled content).feedAll ('\\' :: 'u' :: ds) =
        some ⟨.plain, content, some high, none⟩ := by
      have : ¬(0xdc00 ≤ high ∧ high ≤ 0xdfff) := by
        have := lead.2
        omega
      rw [settled, feedAll_slash, feedAll_hex hex]
      simp [pushUnit, this, show _ ∧ _ from lead]
    rw [feedAll_append, half, Option.bind_some, feedAll_slash, feedAll_hex hex']
    simp [pushUnit, push, settled, show _ ∧ _ from trail]

theorem feedAll_chars (content : List Char) (spells : SpellsChars cs ds) :
    (settled content).feedAll cs = some (settled (ds.reverse ++ content)) := by
  induction spells generalizing content with
  | nil => rfl
  | cons char _ ih => simp [feedAll_append, feedAll_char char, ih]

/-! What has been read without a flaw -/

inductive LeadChars : Option Nat → List Char → Prop
  | none : LeadChars none []
  | high {ds : List Char} {n : Nat} (hex : hexUnit? ds = some n) (lead : IsLead n) :
      LeadChars (some n) ('\\' :: 'u' :: ds)

inductive StageChars : TextStage → List Char → Prop
  | plain : StageChars .plain []
  | escape : StageChars .escape ['\\']
  | hex {ds : List Char} {bytes : Nat} {value : Option Nat} (short : bytes < 4)
      (valued : ∀ n, value = some n → ds.length = bytes ∧ ds.foldl hexStep (some 0) = some n) :
      StageChars (.hex bytes value) ('\\' :: 'u' :: ds)

/-- The characters behind the quote that make up a draft: its content, and what is pending. -/
inductive Holds : List Char → TextDraft → Prop
  | mk {content lead stage : List Char} {t : TextDraft}
      (spells : SpellsChars content t.content.reverse) (pending : LeadChars t.lead lead)
      (begun : StageChars t.stage stage) : Holds (content ++ (lead ++ stage)) t

theorem Holds.of_spells (spells : SpellsChars cs t.content.reverse) (lead : t.lead = none)
    (stage : t.stage = .plain) : Holds cs t := by
  have : Holds (cs ++ ([] ++ [])) t := .mk spells (lead ▸ .none) (stage ▸ .plain)
  simpa using this

theorem holds_empty : Holds [] .empty := .of_spells .nil rfl rfl

theorem flaw_eq_none_of_unpaired (sound : t.unpaired.flaw = none) :
    t.unpaired = t ∧ t.lead = none ∧ t.flaw = none := by
  unfold unpaired note at *
  cases hlead : t.lead <;> simp_all

theorem flaw_eq_none_of_pushUnit (sound : (t.pushUnit n).flaw = none) : t.flaw = none := by
  simp only [pushUnit, push, note] at sound
  repeat' split at sound
  all_goals simp_all

inductive Moves (t : TextDraft) (c : Char) : TextDraft → Prop
  | slash (stage : t.stage = .plain) (char : c = '\\') : Moves t c { t with stage := .escape }
  | plain (stage : t.stage = .plain) (quote : c ≠ '"') (slash : c ≠ '\\')
      (printable : 0x20 ≤ c.toNat) : Moves t c (t.unpaired.push c)
  | escape {e : Char} (stage : t.stage = .escape) (escaped : escaped? c = some e) :
      Moves t c (t.unpaired.push e)
  | unit (stage : t.stage = .escape) (char : c = 'u') :
      Moves t c { t with stage := .hex 0 (some 0) }
  | digit {bytes : Nat} {value : Option Nat} (stage : t.stage = .hex bytes value)
      (short : bytes + c.utf8Size < 4) :
      Moves t c { t with stage := .hex (bytes + c.utf8Size) (hexStep value c) }
  | last {bytes n : Nat} {value : Option Nat} (stage : t.stage = .hex bytes value)
      (long : 4 ≤ bytes + c.utf8Size) (digit : hexStep value c = some n) :
      Moves t c (t.pushUnit n)

theorem feed_of_hex {bytes : Nat} {value : Option Nat} (stage : t.stage = .hex bytes value) :
    t.feed c =
      if bytes + c.utf8Size < 4 then
        .more { t with stage := .hex (bytes + c.utf8Size) (hexStep value c) }
      else (hexStep value c).elim (.bad (t.fault .invalidEscape)) fun n => .more (t.pushUnit n) := by
  unfold feed hexStep
  simp only [stage]
  split_ifs
  · rfl
  · cases value <;> cases hexValue? c <;> rfl

theorem moves_of_feed (fed : t.feed c = .more u) : Moves t c u := by
  cases stage : t.stage with
  | plain =>
    simp only [feed, stage] at fed
    split_ifs at fed with slash quote control
    · cases fed
      exact .slash stage slash
    · cases fed
      exact .plain stage quote slash (Nat.le_of_not_lt control)
  | escape =>
    simp only [feed, stage] at fed
    split_ifs at fed with unit
    · cases fed
      exact .unit stage unit
    · split at fed <;> cases fed
      exact .escape stage ‹_›
  | hex bytes value =>
    rw [feed_of_hex stage] at fed
    split_ifs at fed with short
    · cases fed
      exact .digit stage short
    · cases digit : hexStep value c <;> rw [digit] at fed <;> cases fed
      exact .last stage (Nat.le_of_not_lt short) digit

theorem flaw_eq_none_of_feed (fed : t.feed c = .more u) (sound : u.flaw = none) :
    t.flaw = none := by
  cases moves_of_feed fed with
  | slash | unit | digit => exact sound
  | plain | escape => exact (flaw_eq_none_of_unpaired sound).2.2
  | last => exact flaw_eq_none_of_pushUnit sound

theorem pushUnit_of_none (lead : t.lead = none) (sound : (t.pushUnit n).flaw = none) :
    ¬IsTrail n ∧ t.pushUnit n =
      if IsLead n then { t with stage := .plain, lead := some n }
      else { t.push (.ofNat n) with lead := none } := by
  simp only [pushUnit, lead] at sound ⊢
  split at sound
  · simp [note] at sound
  · rename_i trail
    refine ⟨trail, ?_⟩
    rw [if_neg trail]
    rfl

theorem pushUnit_of_some {high : Nat} (lead : t.lead = some high)
    (sound : (t.pushUnit n).flaw = none) : IsTrail n ∧ t.pushUnit n =
      { t.push (.ofNat ((high - 0xd800) * 1024 + (n - 0xdc00) + 0x10000)) with lead := none } := by
  simp only [pushUnit, lead] at sound ⊢
  split at sound
  · rename_i trail
    refine ⟨trail, ?_⟩
    rw [if_pos trail]
    rfl
  · simp [note] at sound

theorem Holds.pushUnit (holds : Holds cs t) {bytes : Nat} {value : Option Nat}
    (stage : t.stage = .hex bytes value) (long : 4 ≤ bytes + c.utf8Size)
    (digit : hexStep value c = some n) (sound : (t.pushUnit n).flaw = none) :
    Holds (cs ++ [c]) (t.pushUnit n) := by
  obtain ⟨m, d, rfl, hexed, -⟩ := hexStep_eq_some_iff.mp digit
  cases holds with
  | @mk content lead _ _ spells pending begun =>
    rw [stage] at begun
    cases begun with
    | @hex ds _ _ short valued =>
      obtain ⟨length, folded⟩ := valued m rfl
      have hex : hexUnit? (ds ++ [c]) = some n := by
        have := utf8Size_of_hexValue? hexed
        refine hexUnit?_eq_some_iff.mpr ⟨?_, ?_⟩
        · simp only [List.length_append, List.length_singleton]
          omega
        · simpa [folded] using digit
      generalize hhigh : t.lead = high at pending
      cases pending with
      | none =>
        obtain ⟨trail, same⟩ := pushUnit_of_none hhigh sound
        rw [same]
        split
        · rename_i isLead
          simpa using Holds.mk (t := { t with stage := .plain, lead := some n }) spells
            (.high hex isLead) .plain
        · rename_i isLead
          refine .of_spells ?_ rfl rfl
          simpa [push] using spells.concat (.unit hex isLead trail)
      | @high ds' _ hex' isLead =>
        obtain ⟨trail, same⟩ := pushUnit_of_some hhigh sound
        rw [same]
        refine .of_spells ?_ rfl rfl
        simpa [push] using spells.concat (.pair hex' hex isLead trail)

theorem Holds.exists_stage (holds : Holds cs t) (lead : t.lead = none) :
    ∃ content stage, cs = content ++ stage ∧ SpellsChars content t.content.reverse ∧
      StageChars t.stage stage := by
  cases holds with
  | @mk content _ stage _ spells pending begun =>
    rw [lead] at pending
    cases pending
    exact ⟨content, stage, rfl, spells, begun⟩

theorem Holds.spells_of_plain (holds : Holds cs t) (lead : t.lead = none)
    (plain : t.stage = .plain) : SpellsChars cs t.content.reverse := by
  obtain ⟨content, stage, rfl, spells, begun⟩ := holds.exists_stage lead
  rw [plain] at begun
  cases begun
  simpa using spells

theorem Holds.feed (holds : Holds cs t) (fed : t.feed c = .more u) (sound : u.flaw = none) :
    Holds (cs ++ [c]) u := by
  cases moves_of_feed fed with
  | slash stage char =>
    cases holds with
    | mk spells pending begun =>
      rw [stage] at begun
      cases begun
      subst char
      simpa using Holds.mk (t := { t with stage := .escape }) spells pending .escape
  | plain stage quote slash printable =>
    obtain ⟨same, lead, -⟩ := flaw_eq_none_of_unpaired sound
    rw [same]
    refine .of_spells ?_ lead rfl
    simpa [push] using (holds.spells_of_plain lead stage).concat (.plain quote slash printable)
  | @escape e stage escaped =>
    obtain ⟨same, lead, -⟩ := flaw_eq_none_of_unpaired sound
    obtain ⟨content, _, rfl, spells, begun⟩ := holds.exists_stage lead
    rw [stage] at begun
    cases begun
    rw [same]
    refine .of_spells ?_ lead rfl
    simpa [push] using spells.concat (.escape escaped)
  | unit stage char =>
    cases holds with
    | mk spells pending begun =>
      rw [stage] at begun
      cases begun
      subst char
      have none : StageChars (.hex 0 (some 0)) ['\\', 'u'] := .hex (by decide) (by simp)
      simpa using Holds.mk (t := { t with stage := .hex 0 (some 0) }) spells pending none
  | @digit bytes value stage short =>
    cases holds with
    | mk spells pending begun =>
      rw [stage] at begun
      cases begun with
      | @hex ds _ _ _ valued =>
        have more : StageChars (.hex (bytes + c.utf8Size) (hexStep value c))
            ('\\' :: 'u' :: (ds ++ [c])) := by
          refine .hex short fun n digit => ?_
          obtain ⟨m, d, rfl, hexed, -⟩ := hexStep_eq_some_iff.mp digit
          obtain ⟨length, folded⟩ := valued m rfl
          simp [length, folded, utf8Size_of_hexValue? hexed, digit]
        simpa using Holds.mk (t := { t with stage := .hex _ (hexStep value c) })
          spells pending more
  | last stage long digit => exact holds.pushUnit stage long digit sound

theorem exists_of_done {text : Text} (fed : t.feed c = .done text) : t.stage = .plain ∧
    c = '"' ∧ text = ⟨String.ofList t.unpaired.content.reverse, t.unpaired.flaw⟩ := by
  cases stage : t.stage with
  | plain =>
    simp only [feed, stage] at fed
    split_ifs at fed with slash quote
    cases fed
    exact ⟨rfl, quote, rfl⟩
  | escape =>
    simp only [feed, stage] at fed
    split_ifs at fed
    split at fed <;> cases fed
  | hex bytes value =>
    rw [feed_of_hex stage] at fed
    split_ifs at fed
    cases digit : hexStep value c <;> rw [digit] at fed <;> cases fed

theorem Holds.spells (holds : Holds cs t) {text : Text} (fed : t.feed c = .done text)
    (sound : text.flaw = none) : c = '"' ∧ SpellsChars cs text.content.toList := by
  obtain ⟨stage, quote, rfl⟩ := exists_of_done fed
  obtain ⟨same, lead, -⟩ := flaw_eq_none_of_unpaired sound
  refine ⟨quote, ?_⟩
  simpa [same] using holds.spells_of_plain lead stage

end TextDraft

end Replay.Json
