import Replay.Proofs.Json.Printing

/-!
The shape of a text that was written from a value. A float has its text read back as it may be; what
stands around it is scanned all the same.
-/
namespace Replay

namespace Decimal

/-! Digits of doubles -/

theorem Interval.holds_zero {i : Interval} (low : 0 < i.low) : i.holds 0 = false := by
  have none : ¬i.low ≤ 0 := by omega
  have none' : ¬i.low < 0 := by omega
  simp [Interval.holds, none, none']

/-- What is found is the quotient, if that lies in the interval, or the next number. -/
theorem Interval.eq_of_nearest? {i : Interval} {tie : Tie} {n : Nat}
    (found : i.nearest? tie = some n) : n = i.value / i.denominator + 1 ∨
      n = i.value / i.denominator ∧ i.holds (n * i.denominator) = true := by
  unfold Interval.nearest? at found
  grind

theorem Interval.nearest?_ne_zero {i : Interval} {tie : Tie} {n : Nat} (low : 0 < i.low)
    (found : i.nearest? tie = some n) : n ≠ 0 := by
  rintro rfl
  rcases eq_of_nearest? found with next | ⟨-, holds⟩
  · exact absurd next (Nat.succ_ne_zero _).symm
  · rw [Nat.zero_mul, holds_zero low] at holds
    cases holds

theorem Interval.low_ofDouble {x : Double} (some : x.mantissa ≠ 0) :
    0 < (Interval.ofDouble x).low := by
  have below : (if x.isBinade then 1 else 2) ≤ 2 := by split <;> omega
  unfold Interval.ofDouble
  dsimp only
  split
  · exact Nat.mul_pos (by omega) (Nat.pow_pos (by decide))
  · show 0 < 4 * x.mantissa - _
    omega

theorem Interval.low_inUnits {i : Interval} (low : 0 < i.low) : ∀ k : Int, 0 < (i.inUnits k).low
  | .ofNat _ => low
  | .negSucc _ => Nat.mul_pos low (Nat.pow_pos (by decide))

theorem Shortest.digits_strip {n : Nat} : ∀ {s : Shortest}, s.digits ≠ 0 →
    (strip n s).digits ≠ 0 := by
  induction n with
  | zero => exact id
  | succ n ih =>
    intro s some
    unfold strip
    split
    · exact ih (s := ⟨s.digits / 10, s.exponent + 1⟩) (by show s.digits / 10 ≠ 0; omega)
    · exact some

/-- The digits of a double are no more than zero only where none are found. -/
theorem Shortest.digits_ofDouble {tie : Tie} {x : Double} (some : x.mantissa ≠ 0) :
    (ofDouble tie x).digits ≠ 0 ∨ ofDouble tie x = ⟨0, 0⟩ := by
  have low := Interval.low_ofDouble some
  have search {i : Interval} (low : 0 < i.low) (top : Int) (left : Nat) : ∀ places,
      (search i tie top places left).digits ≠ 0 ∨ search i tie top places left = ⟨0, 0⟩ := by
    induction left with
    | zero => exact fun _ => .inr rfl
    | succ left ih =>
      intro places
      unfold Shortest.search
      dsimp only
      split
      · next found =>
        exact .inl (digits_strip (Interval.nearest?_ne_zero (Interval.low_inUnits low _) found))
      · exact ih _
  exact search low _ _ _

end Decimal

namespace Json

open Decimal (Double Shortest digitsOf zeros)

theorem isDigit_of_mem_zeros {n : Nat} {c : Char} (mem : c ∈ zeros n) :
    (NumeralDraft.digit? c).isSome = true := by
  rw [List.eq_of_mem_replicate mem]
  rfl

theorem Digits.of_append {ds es : List Char} (digits : Digits (ds ++ es)) (some : ds ≠ [])
    (some' : es ≠ []) : Digits ds ∧ Digits es :=
  ⟨⟨some, fun c mem => digits.isDigit c (List.mem_append_left _ mem)⟩,
    ⟨some', fun c mem => digits.isDigit c (List.mem_append_right _ mem)⟩⟩

theorem Digits.of_cons {d e : Char} {rest : List Char} (digits : Digits (d :: e :: rest)) :
    Digits [d] ∧ Digits (e :: rest) :=
  of_append (show Digits ([d] ++ e :: rest) from digits) nofun nofun

theorem Digits.append {ds es : List Char} (digits : Digits ds)
    (more : ∀ c ∈ es, (NumeralDraft.digit? c).isSome = true) : Digits (ds ++ es) where
  ne_nil := by simp [digits.ne_nil]
  isDigit c mem := (List.mem_append.mp mem).elim (digits.isDigit c) (more c)

theorem digits_zero : Digits ['0'] := ⟨nofun, List.forall_mem_singleton.mpr rfl⟩

theorem proper_of_point (negative : Bool) {whole fraction : List Char} (digits : Digits whole)
    (leading : whole.head? = some '0' → whole = ['0']) (behind : Digits fraction) :
    (⟨negative, whole, some fraction, none⟩ : Literal).Proper where
  whole := digits
  leading := leading
  fraction _ same := Option.some.inj same ▸ behind
  exponent _ mem := absurd mem (Option.not_mem_none _)

theorem exists_positional (negative : Bool) {s : Shortest}
    (digits : s.digits ≠ 0 ∨ s = ⟨0, 0⟩) : ∃ l : Literal, l.Proper ∧
      l.chars = Literal.signChars negative ++ Decimal.positionalChars true s := by
  obtain ⟨n, e⟩ := s
  have lead (zero : (digitsOf n).head? = some '0') : n = 0 ∧ e = 0 := by
    have none := head?_toDigits n zero
    rcases digits with some | same
    · exact absurd none some
    · cases same
      exact ⟨rfl, rfl⟩
  have whole : Digits (digitsOf n) := digits_toDigits n
  unfold Decimal.positionalChars
  cases e with
  | ofNat k =>
    refine ⟨⟨negative, digitsOf n ++ zeros k, some ['0'], none⟩,
      proper_of_point negative ?_ (fun zero => ?_) digits_zero, ?_⟩
    · exact whole.append fun _ => isDigit_of_mem_zeros
    · rw [List.head?_append, Option.or_of_isSome (by simpa using whole.ne_nil)] at zero
      obtain ⟨rfl, none⟩ := lead zero
      cases none
      rfl
    · simp [Literal.chars]
  | negSucc k =>
    dsimp only
    split
    · next shorter =>
      let places := (digitsOf n).length - (k + 1)
      have front : (digitsOf n).take places ≠ [] := by
        rw [ne_eq, List.take_eq_nil_iff]
        exact not_or.mpr ⟨by omega, whole.ne_nil⟩
      have back : (digitsOf n).drop places ≠ [] := by
        rw [ne_eq, List.drop_eq_nil_iff]
        omega
      have both := Digits.of_append (by rwa [List.take_append_drop]) front back
      refine ⟨⟨negative, (digitsOf n).take places, some ((digitsOf n).drop places), none⟩,
        proper_of_point negative both.1 (fun zero => ?_) both.2, ?_⟩
      · rw [List.head?_take, if_neg (by omega)] at zero
        cases (lead zero).2
      · simp [Literal.chars, places]
    · have behind : Digits (zeros (k + 1 - (digitsOf n).length) ++ digitsOf n) :=
        ⟨by simp [whole.ne_nil], fun c mem => (List.mem_append.mp mem).elim
          isDigit_of_mem_zeros (whole.isDigit c)⟩
      exact ⟨⟨negative, ['0'], some (zeros (k + 1 - (digitsOf n).length) ++ digitsOf n), none⟩,
        proper_of_point negative digits_zero (fun _ => rfl) behind, by simp [Literal.chars]⟩

theorem exists_scientific (negative : Bool) (s : Shortest) (leading : Int) :
    ∃ l : Literal, l.Proper ∧
      l.chars = Literal.signChars negative ++ Decimal.scientificChars s leading := by
  have digits : Digits (digitsOf s.digits) := digits_toDigits s.digits
  have proper {d : Char} {fraction : Option (List Char)} (whole : Digits [d])
      (behind : ∀ ds ∈ fraction, Digits ds) (mark : List Char) (marked : mark ∈ Literal.marks)
      (n : Nat) : (⟨negative, [d], fraction, some (mark, digitsOf n)⟩ : Literal).Proper := by
    refine ⟨whole, fun zero => by simpa using zero, behind, ?_⟩
    rintro _ ⟨⟩
    exact ⟨marked, digits_toDigits n⟩
  unfold Decimal.scientificChars
  match digitsOf s.digits, digits with
  | [], digits => exact absurd rfl digits.ne_nil
  | [d], digits =>
    have behind : ∀ ds ∈ (none : Option (List Char)), Digits ds := nofun
    cases leading with
    | ofNat n =>
      exact ⟨_, proper digits behind ['e', '+'] (by decide) n, by simp [Literal.chars]⟩
    | negSucc n =>
      exact ⟨_, proper digits behind ['e', '-'] (by decide) (n + 1), by simp [Literal.chars]⟩
  | d :: e :: rest, digits =>
    have both := digits.of_cons
    have behind : ∀ ds ∈ some (e :: rest), Digits ds := by
      rintro _ ⟨⟩
      exact both.2
    cases leading with
    | ofNat n =>
      exact ⟨_, proper both.1 behind ['e', '+'] (by decide) n, by simp [Literal.chars]⟩
    | negSucc n =>
      exact ⟨_, proper both.1 behind ['e', '-'] (by decide) (n + 1), by simp [Literal.chars]⟩

theorem exists_floatLiteral (x : Double) : floatFormat.chars x = ['n', 'u', 'l', 'l'] ∨
    ∃ l : Literal, l.Proper ∧ l.chars = floatFormat.chars x := by
  unfold Decimal.Format.chars
  split
  · exact .inl rfl
  · split
    · refine .inl ?_
      cases x.isNegative <;> rfl
    · right
      dsimp only
      have sign : (if x.isNegative = true then ['-'] else []) = Literal.signChars x.isNegative :=
        rfl
      rw [sign]
      split
      · exact ⟨⟨x.isNegative, ['0'], some ['0'], none⟩,
          proper_of_point _ digits_zero (fun _ => rfl) digits_zero,
          by simp [Literal.chars, floatFormat]⟩
      · next some =>
        have digits := @Shortest.digits_ofDouble floatFormat.tie x some
        have positional := exists_positional x.isNegative digits
        split
        · exact positional
        · split
          · exact positional
          · exact exists_scientific _ _ _

/-! Shapes of texts -/

def Number.node (n : Number) : Node := (scan (String.ofList n.chars)).root

mutual

def node : Json → Node
  | .null => .null
  | .bool b => .bool b
  | .number n => n.node
  | .text s => .text ⟨s, none⟩
  | .list items => .list (nodes items) .closed
  | .object members => .object (memberNodes members) .closed

def nodes : List Json → List Node
  | [] => []
  | j :: rest => node j :: nodes rest

def memberNodes : List (String × Json) → List (Text × Node)
  | [] => []
  | (key, j) :: rest => (⟨key, none⟩, node j) :: memberNodes rest

end

theorem memberNodes_eq (members : Members) :
    memberNodes members = members.map fun m => (⟨m.1, none⟩, m.2.node) := by
  induction members with
  | nil => rfl
  | cons m rest ih => rw [memberNodes, ih, List.map_cons]

namespace Scan

variable {cs : List Char} {n : Node} {frames : List Frame} {sought : Sought}

theorem Draws.held_alone (draws : Draws cs n) (begins : Sought.Value sought) :
    Held frames n (run ⟨sought, frames⟩ cs) := by
  have held : Held frames n (run ⟨sought, frames⟩ ([] ++ cs ++ [])) :=
    draws.held blank_nil blank_nil begins
  rwa [List.nil_append, List.append_nil] at held

theorem Draws.scan_eq (draws : Draws cs n) : scan (String.ofList cs) = ⟨n, false⟩ := by
  unfold scan start
  rw [String.toList_ofList]
  exact (draws.held_alone (.inl rfl)).finish

theorem draws_of_whole {c : Char} {rest : List Char} (space : isSpace c = false) (closes : c ≠ ']')
    (scan : ∀ frames, (beginValue frames c).run rest = complete frames n) : Draws (c :: rest) n :=
  ⟨c, rest, rfl, space, closes, fun frames => scan frames ▸ .whole n⟩

theorem draws_text {s : String} (spells : SpellsText cs s) : Draws cs (.text ⟨s, none⟩) := by
  obtain ⟨content⟩ := spells
  exact draws_of_whole rfl (by decide) fun _ => run_quoted content

theorem exists_integerLiteral (i : Integer) : ∃ l : Literal, l.Proper ∧
    l.chars = integerChars i.val := by
  have spells := spells_integer i
  generalize integerChars i.val = cs at spells
  cases spells with
  | number proper => exact ⟨_, proper, rfl⟩

theorem exists_draws_number : ∀ n : Number, ∃ node, Draws n.chars node ∧
    (node = .null ∨ ∃ m, node = .number m)
  | .integer i => by
    obtain ⟨l, proper, chars⟩ := exists_integerLiteral i
    exact ⟨_, chars ▸ draws_number proper, .inr ⟨_, rfl⟩⟩
  | .float x => by
    unfold Number.chars
    dsimp only
    rcases exists_floatLiteral x with null | ⟨l, proper, chars⟩
    · rw [null]
      exact ⟨.null, draws_of_whole rfl (by decide) fun _ => rfl, .inl rfl⟩
    · rw [← chars]
      exact ⟨_, draws_number proper, .inr ⟨_, rfl⟩⟩

theorem draws_numberNode (n : Number) : Draws n.chars n.node ∧
    (n.node = .null ∨ ∃ m, n.node = .number m) := by
  obtain ⟨m, draws, sort⟩ := exists_draws_number n
  have same : n.node = m := congrArg Document.root draws.scan_eq
  exact same ▸ ⟨draws, sort⟩

mutual

theorem draws_charsBefore : (j : Json) →
    ∃ cs, (∀ rest, charsBefore rest j = cs ++ rest) ∧ Draws cs j.node
  | .null => ⟨['n', 'u', 'l', 'l'], fun _ => rfl, draws_of_whole rfl (by decide) fun _ => rfl⟩
  | .bool true => ⟨['t', 'r', 'u', 'e'], fun _ => rfl, draws_of_whole rfl (by decide) fun _ => rfl⟩
  | .bool false =>
    ⟨['f', 'a', 'l', 's', 'e'], fun _ => rfl, draws_of_whole rfl (by decide) fun _ => rfl⟩
  | .number n => ⟨_, fun _ => rfl, (draws_numberNode n).1⟩
  | .text s => ⟨_, fun _ => rfl, draws_text (spellsText_textChars s)⟩
  | .list [] =>
    ⟨['[', ']'], fun _ => rfl, draws_of_whole rfl (by decide) fun _ => run_emptyList blank_nil⟩
  | .list (j :: rest) => by
    obtain ⟨cs, eq, drawn⟩ := draws_itemsBefore (j :: rest) nofun
    refine ⟨'[' :: cs ++ [']'], fun more => by simp [charsBefore, eq], ?_⟩
    exact draws_of_whole rfl (by decide) fun frames => drawn .item [] frames (.inr (.inl rfl))
  | .object [] =>
    ⟨['\x7b', '\x7d'], fun _ => rfl,
      draws_of_whole rfl (by decide) fun _ => run_emptyObject blank_nil⟩
  | .object (m :: rest) => by
    obtain ⟨cs, eq, drawn⟩ := draws_membersBefore (m :: rest) nofun
    refine ⟨'\x7b' :: cs ++ ['\x7d'], fun more => by simp [charsBefore, eq], ?_⟩
    exact draws_of_whole rfl (by decide) fun frames => drawn .firstKey [] frames (.inl rfl)

theorem draws_itemsBefore : (items : List Json) → items ≠ [] →
    ∃ cs, (∀ rest, itemsBefore rest items = cs ++ rest) ∧
      ∀ sought done rest, Sought.Value sought → run ⟨sought, .list done :: rest⟩ (cs ++ [']']) =
        complete rest (.list (done.reverse ++ nodes items) .closed)
  | [] => fun some => absurd rfl some
  | [j] => fun _ => by
    obtain ⟨cs, eq, draws⟩ := draws_charsBefore j
    refine ⟨cs, fun rest => by simp [itemsBefore, eq], fun sought done rest begins => ?_⟩
    rw [run_append]
    exact (draws.held_alone begins).close_list
  | j :: next :: more => fun _ => by
    obtain ⟨cs, eq, draws⟩ := draws_charsBefore j
    obtain ⟨ds, eq', drawn⟩ := draws_itemsBefore (next :: more) nofun
    refine ⟨cs ++ ',' :: ds, fun rest => by simp [itemsBefore, eq, eq'],
      fun sought done rest begins => ?_⟩
    rw [List.append_assoc, List.cons_append, run_append, (draws.held_alone begins).next_item,
      drawn .nextItem _ _ (.inr (.inr rfl))]
    simp [nodes]

theorem draws_membersBefore : (members : List (String × Json)) → members ≠ [] →
    ∃ cs, (∀ rest, membersBefore rest members = cs ++ rest) ∧
      ∀ sought done rest, Sought.Key sought → run ⟨sought, .object done :: rest⟩ (cs ++ ['\x7d']) =
        complete rest (.object (done.reverse ++ memberNodes members) .closed)
  | [] => fun some => absurd rfl some
  | [(k, j)] => fun _ => by
    obtain ⟨cs, eq, draws⟩ := draws_charsBefore j
    refine ⟨textChars k ++ ':' :: cs, fun rest => by simp [membersBefore, eq],
      fun sought done rest begins => ?_⟩
    rw [List.append_assoc, List.cons_append, run_member (writesKey_textChars k) begins, run_append]
    exact (draws.held_alone (.inl rfl)).close_object
  | (k, j) :: next :: more => fun _ => by
    obtain ⟨cs, eq, draws⟩ := draws_charsBefore j
    obtain ⟨ds, eq', drawn⟩ := draws_membersBefore (next :: more) nofun
    refine ⟨textChars k ++ ':' :: cs ++ ',' :: ds, fun rest => by simp [membersBefore, eq, eq'],
      fun sought done rest begins => ?_⟩
    simp only [List.append_assoc, List.cons_append]
    rw [run_member (writesKey_textChars k) begins, run_append,
      (draws.held_alone (.inl rfl)).next_member, drawn .nextKey _ _ (.inr rfl)]
    simp [memberNodes]

end

end Scan

theorem scan_print (j : Json) : scan j.print = ⟨j.node, false⟩ := by
  obtain ⟨cs, eq, draws⟩ := Scan.draws_charsBefore j
  have printed : j.print = String.ofList cs := by
    unfold print chars
    rw [eq, List.append_nil]
  rw [printed, draws.scan_eq]

theorem Reader.run_print {α : Type} (reader : Reader α) (j : Json) :
    run reader j.print = reader maxOpen j.node := by
  unfold run
  rw [scan_print]
  exact bind_pure _

theorem value?_node {j : Json} (none : j.floats = []) : j.node.value? = some j := by
  have shown := value?_of_writes (writes_print (j := j) (by simp [none]))
  rw [scan_print] at shown
  exact shown

theorem skip?_node (j : Json) : j.node.skip? = none := by
  cases j with
  | number n =>
    show n.node.skip? = none
    rcases (Scan.draws_numberNode n).2 with null | ⟨m, number⟩
    · rw [null]
      rfl
    · rw [number]
      rfl
  | _ => rfl

mutual

/-- Whatever becomes of its floats, a value that is written nests as deep as before. -/
theorem depth_of_node : (j : Json) → ∀ k, j.node.value? = some k → k.depth = j.depth
  | .null => by
    rintro _ ⟨⟩
    rfl
  | .bool _ => by
    rintro _ ⟨⟩
    rfl
  | .number n => by
    intro k shown
    change n.node.value? = some k at shown
    rcases (Scan.draws_numberNode n).2 with null | ⟨m, number⟩
    · rw [null] at shown
      cases shown
      rfl
    · rw [number, Node.value?] at shown
      split at shown
      · cases shown
        rfl
      · cases shown
  | .text _ => by
    rintro _ ⟨⟩
    rfl
  | .list items => by
    intro k shown
    obtain ⟨ks, parts, rfl⟩ := Option.map_eq_some_iff.mp shown
    exact congrArg (· + 1) (depthList_of_nodes items ks parts)
  | .object members => by
    intro k shown
    obtain ⟨ks, parts, rfl⟩ := Option.map_eq_some_iff.mp shown
    exact congrArg (· + 1) (depthMembers_of_nodes members ks parts)

theorem depthList_of_nodes : (items : List Json) → ∀ ks,
    Node.values? (nodes items) = some ks → depthList ks = depthList items
  | [] => by
    rintro _ ⟨⟩
    rfl
  | j :: rest => by
    intro ks shown
    rw [nodes, Node.values?] at shown
    split at shown
    · next first others =>
      cases shown
      exact congrArg₂ max (depth_of_node j _ first) (depthList_of_nodes rest _ others)
    · cases shown

theorem depthMembers_of_nodes : (members : List (String × Json)) → ∀ ks,
    Node.members? (memberNodes members) = some ks → depthMembers ks = depthMembers members
  | [] => by
    rintro _ ⟨⟩
    rfl
  | (key, j) :: rest => by
    intro ks shown
    rw [memberNodes, Node.members?] at shown
    split at shown
    · next first others =>
      cases shown
      exact congrArg₂ max (depth_of_node j _ first) (depthMembers_of_nodes rest _ others)
    · cases shown

end

end Json

end Replay
