import Replay.Trace.Display

/-!
What the short form tells of a value. Integers, truth values, nil and arrays of these, nested as
they may be, are told apart by their short forms up to what the forms leave out: the ids of arrays,
the types of their elements, and where the elements came from.
-/
namespace Replay

open Json (naturalChars integerChars)

/-! Numbers in front of a text -/

def EndsDigits (cs : List Char) : Prop := ∀ c ∈ cs.head?, c.isDigit = false

theorem endsDigits_cons {c : Char} {cs : List Char} (other : c.isDigit = false) :
    EndsDigits (c :: cs) := by
  rintro _ ⟨⟩
  exact other

theorem isDigit_naturalChars {n : Nat} {c : Char} (mem : c ∈ naturalChars n) : c.isDigit = true :=
  Nat.isDigit_of_mem_toDigits (by decide) (Nat.le_refl 10) mem

theorem naturalChars_eq_cons (n : Nat) : ∃ c cs, naturalChars n = c :: cs ∧ c.isDigit = true := by
  obtain ⟨c, cs, eq⟩ := List.exists_cons_of_ne_nil (Nat.toDigits_ne_nil (b := 10) (n := n))
  exact ⟨c, cs, eq, isDigit_naturalChars (eq ▸ List.mem_cons_self)⟩

theorem takeWhile_naturalChars (n : Nat) {cs : List Char} (rest : EndsDigits cs) :
    (naturalChars n ++ cs).takeWhile Char.isDigit = naturalChars n := by
  have none : cs.takeWhile Char.isDigit = [] := by
    cases cs with
    | nil => rfl
    | cons c cs => exact List.takeWhile_cons_of_neg (by simp [rest c rfl])
  rw [List.takeWhile_append_of_pos fun _ => isDigit_naturalChars, none, List.append_nil]

theorem naturalChars_append_inj {m n : Nat} {s t : List Char} (hs : EndsDigits s)
    (ht : EndsDigits t) (same : naturalChars m ++ s = naturalChars n ++ t) : m = n ∧ s = t := by
  have digits : naturalChars m = naturalChars n := by
    rw [← takeWhile_naturalChars m hs, same, takeWhile_naturalChars n ht]
  have value : m = n := by
    rw [← Nat.ofDigitChars_ten_toDigits (n := m), ← Nat.ofDigitChars_ten_toDigits (n := n)]
    exact congrArg (Nat.ofDigitChars 10 · 0) digits
  exact ⟨value, List.append_cancel_left (digits ▸ same)⟩

theorem naturalChars_append_ne (n : Nat) (s t : List Char) : naturalChars n ++ s ≠ '-' :: t := by
  obtain ⟨c, cs, eq, digit⟩ := naturalChars_eq_cons n
  rw [eq]
  rintro ⟨⟩
  cases digit

theorem integerChars_append_inj {i j : Int} {s t : List Char} (hs : EndsDigits s)
    (ht : EndsDigits t) (same : integerChars i ++ s = integerChars j ++ t) : i = j ∧ s = t := by
  cases i with
  | ofNat m =>
    cases j with
    | ofNat n =>
      obtain ⟨rfl, rest⟩ := naturalChars_append_inj hs ht same
      exact ⟨rfl, rest⟩
    | negSucc n => exact absurd same (naturalChars_append_ne m s _)
  | negSucc m =>
    cases j with
    | ofNat n => exact absurd same.symm (naturalChars_append_ne n t _)
    | negSucc n =>
      obtain ⟨value, rest⟩ := naturalChars_append_inj hs ht (List.cons.inj same).2
      cases value
      exact ⟨rfl, rest⟩

namespace Value

mutual

/-- Whether a value is an integer, a truth value, nil, or an array of such values. -/
def isPlain : Value → Bool
  | .integer _ | .boolean _ | .nil => true
  | .array _ elements _ => arePlain elements
  | .float _ | .string _ | .function _ | .unknown _ => false

def arePlain : List Tracked → Bool
  | [] => true
  | ⟨v, _⟩ :: rest => v.isPlain && arePlain rest

end

mutual

/-- A value when the ids of arrays, the types of their elements and the sources of these are
forgotten. -/
def bare : Value → Value
  | .array _ elements _ => .array 0 (bareElements elements) .nil
  | .integer n => .integer n
  | .float x => .float x
  | .string s => .string s
  | .boolean b => .boolean b
  | .nil => .nil
  | .function kind => .function kind
  | .unknown raw => .unknown raw

def bareElements : List Tracked → List Tracked
  | [] => []
  | ⟨v, _⟩ :: rest => ⟨v.bare, .none⟩ :: bareElements rest

end

/-! What is forgotten is not shown -/

def displayFollowing : List Tracked → List Char
  | [] => []
  | next :: more => ',' :: ' ' :: displayElements (next :: more)

theorem displayElements_cons (v : Value) (source : Source) (rest : List Tracked) :
    displayElements (⟨v, source⟩ :: rest) = v.displayChars ++ displayFollowing rest := by
  cases rest with
  | nil => simp [displayElements, displayFollowing]
  | cons next more => simp [displayElements, displayFollowing]

theorem displayFollowing_cons (next : Tracked) (more : List Tracked) :
    displayFollowing (next :: more) = ',' :: ' ' :: displayElements (next :: more) := rfl

theorem displayChars_array (id : UInt64) (elements : List Tracked) (type : ElementType) :
    (array id elements type).displayChars = '[' :: (displayElements elements ++ [']']) := rfl

mutual

theorem displayChars_bare : (v : Value) → v.bare.displayChars = v.displayChars
  | .array _ elements _ => by
    rw [bare, displayChars_array, displayChars_array, displayElements_bareElements elements]
  | .integer _ | .float _ | .string _ | .boolean _ | .nil | .function _ | .unknown _ => by
    rw [bare]

theorem displayElements_bareElements : (elements : List Tracked) →
    displayElements (bareElements elements) = displayElements elements
  | [] => by rw [bareElements]
  | ⟨v, _⟩ :: rest => by
    have more := displayElements_bareElements rest
    rw [bareElements, displayElements_cons, displayElements_cons, v.displayChars_bare]
    cases rest with
    | nil => rw [bareElements]
    | cons next rest =>
      obtain ⟨w, _⟩ := next
      rw [bareElements] at more ⊢
      rw [displayFollowing_cons, displayFollowing_cons, more]

end

/-! The kinds of values that can be told from the first character -/

inductive Kind where
  | number
  | truth
  | nothing
  | list

def Kind.ofChar? (c : Char) : Option Kind :=
  if c = '-' ∨ c.isDigit = true then some .number
  else if c = 'T' ∨ c = 'F' then some .truth
  else if c = 'N' then some .nothing
  else if c = '[' then some .list
  else none

def kind : Value → Option Kind
  | .integer _ => some .number
  | .boolean _ => some .truth
  | .nil => some .nothing
  | .array .. => some .list
  | .float _ | .string _ | .function _ | .unknown _ => none

theorem exists_head {v : Value} (plain : v.isPlain = true) : ∃ c cs kind,
    v.displayChars = c :: cs ∧ Kind.ofChar? c = some kind ∧ v.kind = some kind := by
  cases v with
  | integer n =>
    have chars : (integer n).displayChars = integerChars n.toInt := rfl
    rw [chars]
    cases n.toInt with
    | ofNat m =>
      obtain ⟨c, cs, chars, digit⟩ := naturalChars_eq_cons m
      exact ⟨c, cs, _, chars, if_pos (.inr digit), rfl⟩
    | negSucc m => exact ⟨'-', _, _, rfl, rfl, rfl⟩
  | boolean b =>
    cases b with
    | false => exact ⟨_, _, _, rfl, rfl, rfl⟩
    | true => exact ⟨_, _, _, rfl, rfl, rfl⟩
  | nil => exact ⟨_, _, _, rfl, rfl, rfl⟩
  | array id elements type => exact ⟨_, _, _, displayChars_array id elements type, rfl, rfl⟩
  | float | string | function | unknown => cases plain

theorem kind_eq {v w : Value} {s t : List Char} (hv : v.isPlain = true) (hw : w.isPlain = true)
    (same : v.displayChars ++ s = w.displayChars ++ t) : v.kind = w.kind := by
  obtain ⟨c, cs, kind, chars, told, eq⟩ := exists_head hv
  obtain ⟨c', cs', kind', chars', told', eq'⟩ := exists_head hw
  rw [chars, chars'] at same
  obtain rfl : c = c' := (List.cons.inj same).1
  rw [eq, eq', ← told, told']

theorem displayChars_append_ne {v : Value} (plain : v.isPlain = true) (s t : List Char) :
    v.displayChars ++ s ≠ ']' :: t := by
  obtain ⟨c, cs, kind, chars, told, -⟩ := exists_head plain
  rw [chars]
  rintro ⟨⟩
  cases told

/-! Values and elements in front of a text -/

theorem endsDigits_following (elements : List Tracked) (s : List Char) :
    EndsDigits (displayFollowing elements ++ ']' :: s) := by
  cases elements with
  | nil => exact endsDigits_cons rfl
  | cons => exact endsDigits_cons rfl

mutual

/-- A plain value can be read off the front of a text that does not go on with a digit. -/
theorem displayChars_append_inj : (v : Value) → v.isPlain = true → ∀ {w : Value},
    w.isPlain = true → ∀ {s t : List Char}, EndsDigits s → EndsDigits t →
      v.displayChars ++ s = w.displayChars ++ t → v.bare = w.bare ∧ s = t
  | v, hv, w, hw, s, t, hs, ht, same => by
    have kinds := kind_eq hv hw same
    cases v with
    | integer m =>
      cases w with
      | integer n =>
        obtain ⟨value, rest⟩ := integerChars_append_inj hs ht same
        exact ⟨congrArg (bare ∘ Value.integer) (Int64.toInt_inj.mp value), rest⟩
      | _ => cases kinds
    | boolean a =>
      cases w with
      | boolean b =>
        cases a with
        | false =>
          cases b with
          | false => exact ⟨rfl, List.append_cancel_left same⟩
          | true => cases (List.cons.inj same).1
        | true =>
          cases b with
          | false => cases (List.cons.inj same).1
          | true => exact ⟨rfl, List.append_cancel_left same⟩
      | _ => cases kinds
    | nil =>
      cases w with
      | nil => exact ⟨rfl, List.append_cancel_left same⟩
      | _ => cases kinds
    | array i as a =>
      cases w with
      | array j bs b =>
        rw [displayChars_array, displayChars_array, List.cons_append, List.cons_append,
          List.append_assoc, List.append_assoc] at same
        obtain ⟨elements, rest⟩ := displayElements_append_inj as hv hw (List.cons.inj same).2
        rw [bare, bare, elements]
        exact ⟨rfl, rest⟩
      | _ => cases kinds
    | _ => cases hv

theorem displayElements_append_inj : (as : List Tracked) → arePlain as = true →
    ∀ {bs : List Tracked}, arePlain bs = true → ∀ {s t : List Char},
      displayElements as ++ ']' :: s = displayElements bs ++ ']' :: t →
        bareElements as = bareElements bs ∧ s = t
  | [], _, [], _, s, t, same => ⟨rfl, (List.cons.inj same).2⟩
  | [], _, ⟨w, _⟩ :: bs, hbs, s, t, same => by
    rw [arePlain, Bool.and_eq_true] at hbs
    rw [displayElements_cons, List.append_assoc] at same
    exact absurd same.symm (displayChars_append_ne hbs.1 _ _)
  | ⟨v, _⟩ :: as, has, [], _, s, t, same => by
    rw [arePlain, Bool.and_eq_true] at has
    rw [displayElements_cons, List.append_assoc] at same
    exact absurd same (displayChars_append_ne has.1 _ _)
  | ⟨v, _⟩ :: as, has, ⟨w, _⟩ :: bs, hbs, s, t, same => by
    rw [arePlain, Bool.and_eq_true] at has hbs
    rw [displayElements_cons, displayElements_cons, List.append_assoc, List.append_assoc] at same
    obtain ⟨first, same⟩ := displayChars_append_inj v has.1 hbs.1 (endsDigits_following as s)
      (endsDigits_following bs t) same
    rw [bareElements, bareElements, first]
    cases as with
    | nil =>
      cases bs with
      | nil => exact ⟨rfl, (List.cons.inj same).2⟩
      | cons => cases same
    | cons =>
      cases bs with
      | nil => cases same
      | cons =>
        obtain ⟨more, rest⟩ := displayElements_append_inj _ has.2 hbs.2
          (List.cons.inj (List.cons.inj same).2).2
        rw [more]
        exact ⟨rfl, rest⟩

end

/-- Plain values have the same short form exactly if they are the same up to the ids of arrays, the
types of their elements and the sources of these. -/
theorem display_eq_iff_bare_eq {v w : Value} (hv : v.isPlain = true) (hw : w.isPlain = true) :
    v.display = w.display ↔ v.bare = w.bare := by
  unfold display
  rw [String.ofList_inj]
  constructor
  · intro same
    have ends : EndsDigits [] := nofun
    exact (displayChars_append_inj v hv hw ends ends (congrArg (· ++ []) same)).1
  · intro same
    rw [← v.displayChars_bare, same, w.displayChars_bare]

def paired : Value :=
  .array 1 [⟨.array 2 [⟨.integer 1, .literal⟩, ⟨.integer (-2), .none⟩] .integer, .literal⟩,
    ⟨.array 3 [] .integer, .expression⟩] (.array .integer)

def renumbered : Value :=
  .array 8 [⟨.array 9 [⟨.integer 1, .variable "x"⟩, ⟨.integer (-2), .slot 2 1⟩] .nil, .none⟩,
    ⟨.array 9 [] .string, .none⟩] .nil

def regrouped : Value :=
  .array 1 [⟨.array 2 [⟨.integer 1, .literal⟩, ⟨.integer (-2), .none⟩,
    ⟨.array 3 [] .integer, .expression⟩] .integer, .literal⟩] (.array .integer)

theorem display_eq_iff_bare_eq_of_paired :
    paired.isPlain = true ∧ renumbered.isPlain = true ∧ regrouped.isPlain = true ∧
      paired.display = renumbered.display ∧ paired.display ≠ regrouped.display := by
  refine ⟨rfl, rfl, rfl, (display_eq_iff_bare_eq rfl rfl).mpr rfl, fun same => ?_⟩
  have bare : paired.bare = regrouped.bare := (display_eq_iff_bare_eq rfl rfl).mp same
  revert bare
  decide

end Value

end Replay
