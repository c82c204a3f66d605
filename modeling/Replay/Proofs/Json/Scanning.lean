import Replay.Proofs.Json.Numerals
import Replay.Proofs.Json.Reading
import Replay.Proofs.Json.Texts

/-!
Every text that the grammar derives is scanned to a sound shape of its value. A number is over
only when something else follows it, so where a value may stop is stated with `Held`.
-/
namespace Replay.Json

namespace Scan

variable {s : Scan} {frames : List Frame} {node : Node} {c : Char} {cs ds bs : List Char}

inductive Held (frames : List Frame) : Node → Scan → Prop
  | whole (node : Node) : Held frames node (complete frames node)
  | number {d : NumeralDraft} {n : Numeral} (finished : d.finish = .ok n) :
      Held frames (.number n) ⟨.number d, frames⟩

def Follows (c : Char) : Prop := isSpace c = true ∨ c = ',' ∨ c = ']' ∨ c = '\x7d'

theorem Follows.ends (follows : Follows c) :
    NumeralDraft.digit? c = none ∧ c ≠ '.' ∧ ¬(c = 'e' ∨ c = 'E') := by
  rcases follows with space | rfl | rfl | rfl
  · simp only [isSpace, Bool.or_eq_true, beq_iff_eq] at space
    rcases space with ((rfl | rfl) | rfl) | rfl <;> decide
  all_goals decide

theorem run_cons : s.run (c :: cs) = (s.feed c).run cs := rfl

theorem feed_complete : (complete frames node).feed c = (complete frames node).dispatch c := by
  unfold complete
  split <;> rfl

theorem Held.feed (held : Held frames node s) (follows : Follows c) :
    s.feed c = (complete frames node).dispatch c := by
  cases held with
  | whole => exact feed_complete
  | number finished =>
    obtain ⟨digit, point, mark⟩ := follows.ends
    simp [Scan.feed, NumeralDraft.feed_of_finish finished digit point mark]

theorem dispatch_space (space : isSpace c = true) : s.dispatch c = s := by
  simp [dispatch, space]

theorem Held.blank (held : Held frames node s) (blank : Blank bs) :
    Held frames node (s.run bs) := by
  induction bs generalizing s with
  | nil => exact held
  | cons b bs ih =>
    obtain ⟨space, blank⟩ := blank_cons.mp blank
    refine ih ?_ blank
    rw [held.feed (.inl space), dispatch_space space]
    exact .whole node

def Sought.Value (sought : Sought) : Prop := sought = .value ∨ sought = .item ∨ sought = .nextItem

def Sought.Key (sought : Sought) : Prop := sought = .firstKey ∨ sought = .nextKey

theorem run_blank {sought : Sought}
    (passes : ∀ c, feed ⟨sought, frames⟩ c = dispatch ⟨sought, frames⟩ c)
    (blank : Blank bs) : run ⟨sought, frames⟩ bs = ⟨sought, frames⟩ := by
  induction bs with
  | nil => rfl
  | cons b bs ih =>
    obtain ⟨space, blank⟩ := blank_cons.mp blank
    refine Eq.trans ?_ (ih blank)
    rw [run, List.foldl_cons, passes, dispatch_space space]
    rfl

theorem run_draft {δ : Type} {sought : δ → Sought} {feedAll : δ → List Char → Option δ}
    (nil : ∀ d, feedAll d [] = some d)
    (cons : ∀ {d c cs e}, feedAll d (c :: cs) = some e →
      ∃ d', feed ⟨sought d, frames⟩ c = ⟨sought d', frames⟩ ∧ feedAll d' cs = some e)
    {d e : δ} (fed : feedAll d cs = some e) :
    run ⟨sought d, frames⟩ cs = ⟨sought e, frames⟩ := by
  induction cs generalizing d with
  | nil =>
    rw [nil] at fed
    cases fed
    rfl
  | cons c cs ih =>
    obtain ⟨d', step, fed⟩ := cons fed
    rw [run_cons, step]
    exact ih fed

theorem run_text {t u : TextDraft} (fed : t.feedAll cs = some u) :
    run ⟨.text t, frames⟩ cs = ⟨.text u, frames⟩ := by
  refine run_draft (fun _ => rfl) (fun {t c cs u} fed => ?_) fed
  obtain ⟨t', moved, fed⟩ := TextDraft.feedAll_cons.mp fed
  exact ⟨t', by simp [feed, moved], fed⟩

theorem run_key {t u : TextDraft} (fed : t.feedAll cs = some u) :
    run ⟨.key t, frames⟩ cs = ⟨.key u, frames⟩ := by
  refine run_draft (fun _ => rfl) (fun {t c cs u} fed => ?_) fed
  obtain ⟨t', moved, fed⟩ := TextDraft.feedAll_cons.mp fed
  exact ⟨t', by simp [feed, moved], fed⟩

theorem run_number {d e : NumeralDraft} (fed : d.feedAll cs = some e) :
    run ⟨.number d, frames⟩ cs = ⟨.number e, frames⟩ := by
  refine run_draft (fun _ => rfl) (fun {d c cs e} fed => ?_) fed
  obtain ⟨d', moved, fed⟩ := NumeralDraft.feedAll_cons.mp fed
  exact ⟨d', by simp [feed, moved], fed⟩

/-- Behind the opening quote the content of a string and its closing quote are still to come. -/
theorem feed_settled {content : List Char} :
    (TextDraft.settled content).feed '"' = .done ⟨String.ofList content.reverse, none⟩ := rfl

theorem run_quoted {str : String} (content : SpellsChars cs str.toList) :
    run ⟨.text .empty, frames⟩ (cs ++ ['"']) = complete frames (.text ⟨str, none⟩) := by
  have fed := TextDraft.feedAll_chars [] content
  rw [run_append, show TextDraft.empty = TextDraft.settled [] from rfl, run_text fed]
  simp [run, feed, feed_settled]

theorem run_quotedKey {str : String} (content : SpellsChars cs str.toList) :
    run ⟨.key .empty, frames⟩ (cs ++ ['"']) = ⟨.colon ⟨str, none⟩, frames⟩ := by
  have fed := TextDraft.feedAll_chars [] content
  rw [run_append, show TextDraft.empty = TextDraft.settled [] from rfl, run_key fed]
  simp [run, feed, feed_settled]

theorem beginValue_number (frames : List Frame) {d : NumeralDraft}
    (begun : NumeralDraft.begin? c = some d) :
    beginValue frames c = ⟨.number d, frames⟩ ∧ isSpace c = false ∧ c ≠ ']' := by
  have not (c' : Char) (none : NumeralDraft.begin? c' = none) : c ≠ c' := by
    rintro rfl
    simp [begun] at none
  have space : isSpace c = false := by
    simp [isSpace, not ' ' rfl, not '\t' rfl, not '\n' rfl, not '\r' rfl]
  refine ⟨?_, space, not ']' rfl⟩
  simp only [beginValue, not 'n' rfl, not 't' rfl, not 'f' rfl, not '"' rfl, not '[' rfl,
    not '\x7b' rfl, reduceIte]
  unfold NumeralDraft.begin? at begun
  split
  · simp_all
  · rw [if_neg ‹_›] at begun
    obtain ⟨k, digit, rfl⟩ := Option.map_eq_some_iff.mp begun
    rw [digit]

def Draws (cs : List Char) (node : Node) : Prop :=
  ∃ c rest, cs = c :: rest ∧ isSpace c = false ∧ c ≠ ']' ∧
    ∀ frames, Held frames node ((beginValue frames c).run rest)

theorem draws_number {l : Literal} (proper : l.Proper) : Draws l.chars (.number l.numeral) := by
  obtain ⟨d, reached, finished⟩ := NumeralDraft.reach?_chars proper
  cases chars : l.chars with
  | nil => simp [chars, NumeralDraft.reach?] at reached
  | cons c rest =>
    rw [chars] at reached
    obtain ⟨d', begun, fed⟩ := Option.bind_eq_some_iff.mp reached
    obtain ⟨-, space, closes⟩ := beginValue_number [] begun
    refine ⟨c, rest, rfl, space, closes, fun frames => ?_⟩
    rw [(beginValue_number frames begun).1, run_number fed]
    exact .number finished

theorem Draws.held {before after : List Char} (front : Blank before) (draws : Draws cs node)
    (back : Blank after) {sought : Sought} (begins : Sought.Value sought) :
    Held frames node (run ⟨sought, frames⟩ (before ++ cs ++ after)) := by
  obtain ⟨c, rest, rfl, space, closes, held⟩ := draws
  have passes : ∀ c, feed ⟨sought, frames⟩ c = dispatch ⟨sought, frames⟩ c := by
    rcases begins with rfl | rfl | rfl <;> exact fun _ => rfl
  have begun : feed ⟨sought, frames⟩ c = beginValue frames c := by
    rcases begins with rfl | rfl | rfl <;> simp [feed, dispatch, space, closes]
  rw [run_append, run_append, run_blank passes front]
  refine Held.blank ?_ back
  rw [run_cons, begun]
  exact held frames

/-- A node that shows a value, and the scan of the characters that spell it: they begin neither
with a blank nor with the end of a list. -/
def Scans (cs : List Char) (j : Json) : Prop :=
  ∃ c rest node, cs = c :: rest ∧ isSpace c = false ∧ c ≠ ']' ∧ node.value? = some j ∧
    ∀ frames, Held frames node ((beginValue frames c).run rest)

theorem Scans.of_whole (node : Node) {rest : List Char} {j : Json} (space : isSpace c = false)
    (closes : c ≠ ']') (value : node.value? = some j)
    (scan : ∀ frames, (beginValue frames c).run rest = complete frames node) :
    Scans (c :: rest) j :=
  ⟨c, rest, node, rfl, space, closes, value, fun frames => scan frames ▸ .whole node⟩

theorem Draws.scans {j : Json} (draws : Draws cs node) (value : node.value? = some j) :
    Scans cs j := by
  obtain ⟨c, rest, chars, space, closes, held⟩ := draws
  exact ⟨c, rest, node, chars, space, closes, value, held⟩

theorem scans_number {l : Literal} {n : Number} (proper : l.Proper)
    (value : l.numeral.toNumber = .ok n) : Scans l.chars (.number n) :=
  (draws_number proper).scans (by simp [Node.value?, value])

theorem scans_text {str : String} (spells : SpellsText cs str) : Scans cs (.text str) := by
  obtain ⟨content⟩ := spells
  exact .of_whole (.text ⟨str, none⟩) rfl (by decide) rfl fun _ => run_quoted content

theorem Scans.held {before after : List Char} {j : Json} (front : Blank before) (scans : Scans cs j)
    (back : Blank after) : ∃ node, node.value? = some j ∧ ∀ sought frames, Sought.Value sought →
      Held frames node (run ⟨sought, frames⟩ (before ++ cs ++ after)) := by
  obtain ⟨c, rest, node, chars, space, closes, value, held⟩ := scans
  have draws : Draws cs node := ⟨c, rest, chars, space, closes, held⟩
  exact ⟨node, value, fun _ _ begins => draws.held front back begins⟩

theorem run_emptyList (blank : Blank bs) :
    run ⟨.item, .list [] :: frames⟩ (bs ++ [']']) = complete frames (.list [] .closed) := by
  rw [run_append, run_blank (fun _ => rfl) blank]
  rfl

theorem run_emptyObject (blank : Blank bs) :
    run ⟨.firstKey, .object [] :: frames⟩ (bs ++ ['\x7d']) =
      complete frames (.object [] .closed) := by
  rw [run_append, run_blank (fun _ => rfl) blank]
  rfl

section Separators

variable {done : List Node} {done' : List (Text × Node)} {key : Text} {rest : List Frame}

theorem Held.close_list (held : Held (.list done :: rest) node s) :
    s.run [']'] = complete rest (.list (done.reverse ++ [node]) .closed) := by
  rw [run_cons, held.feed (.inr (.inr (.inl rfl))), ← List.reverse_cons]
  rfl

theorem Held.next_item (held : Held (.list done :: rest) node s) :
    s.run (',' :: cs) = run ⟨.nextItem, .list (node :: done) :: rest⟩ cs := by
  rw [run_cons, held.feed (.inr (.inl rfl))]
  rfl

theorem Held.close_object (held : Held (.member done' key :: rest) node s) :
    s.run ['\x7d'] = complete rest (.object (done'.reverse ++ [(key, node)]) .closed) := by
  rw [run_cons, held.feed (.inr (.inr (.inr rfl))), ← List.reverse_cons]
  rfl

theorem Held.next_member (held : Held (.member done' key :: rest) node s) :
    s.run (',' :: cs) = run ⟨.nextKey, .object ((key, node) :: done') :: rest⟩ cs := by
  rw [run_cons, held.feed (.inr (.inl rfl))]
  rfl

theorem run_member {str : String} (front : WritesKey cs str) {sought : Sought}
    (begins : Sought.Key sought) : run ⟨sought, .object done' :: rest⟩ (cs ++ ':' :: ds) =
      run ⟨.value, .member done' ⟨str, none⟩ :: rest⟩ ds := by
  obtain ⟨front, ⟨content⟩, back⟩ := front
  have passes : ∀ c, feed ⟨sought, .object done' :: rest⟩ c =
      dispatch ⟨sought, .object done' :: rest⟩ c := by
    rcases begins with rfl | rfl <;> exact fun _ => rfl
  have quote : feed ⟨sought, .object done' :: rest⟩ '"' = ⟨.key .empty, .object done' :: rest⟩ := by
    rcases begins with rfl | rfl <;> rfl
  have read {cs : List Char} (content : SpellsChars cs str.toList) :
      run ⟨sought, .object done' :: rest⟩ ('"' :: cs ++ ['"']) =
        ⟨.colon ⟨str, none⟩, .object done' :: rest⟩ := by
    rw [List.cons_append, run_cons, quote, run_quotedKey content]
  rw [run_append, run_append, run_append, run_blank passes front, read content,
    run_blank (fun _ => rfl) back]
  rfl

end Separators

mutual

theorem scans_of_spells {cs : List Char} {j : Json} : Spells cs j → Scans cs j
  | .null => .of_whole .null rfl (by decide) rfl fun _ => rfl
  | .true => .of_whole (.bool true) rfl (by decide) rfl fun _ => rfl
  | .false => .of_whole (.bool false) rfl (by decide) rfl fun _ => rfl
  | .number proper value => scans_number proper value
  | .text spells => scans_text spells
  | .emptyList blank => by
    exact .of_whole (.list [] .closed) rfl (by decide) rfl fun _ => run_emptyList blank
  | .list written => by
    obtain ⟨nodes, values, scan⟩ := scans_items written
    refine .of_whole (.list nodes .closed) rfl (by decide) ?_ fun frames => ?_
    · simp [Node.value?, values]
    · exact scan .item [] frames (.inr (.inl rfl))
  | .emptyObject blank => by
    exact .of_whole (.object [] .closed) rfl (by decide) rfl fun _ =>
      run_emptyObject blank
  | .object written => by
    obtain ⟨nodes, values, scan⟩ := scans_members written
    refine .of_whole (.object nodes .closed) rfl (by decide) ?_ fun frames => ?_
    · simp [Node.value?, values]
    · exact scan .firstKey [] frames (.inl rfl)

theorem held_of_writes {cs : List Char} {j : Json} : Writes cs j →
    ∃ node, node.value? = some j ∧ ∀ sought frames, Sought.Value sought →
      Held frames node (run ⟨sought, frames⟩ cs)
  | .mk front value back => (scans_of_spells value).held front back

theorem scans_items {cs : List Char} {items : List Json} : WritesItems cs items →
    ∃ nodes, Node.values? nodes = some items ∧ ∀ sought done rest, Sought.Value sought →
      run ⟨sought, .list done :: rest⟩ (cs ++ [']']) =
        complete rest (.list (done.reverse ++ nodes) .closed)
  | .one item => by
    obtain ⟨node, value, held⟩ := held_of_writes item
    refine ⟨[node], by simp [Node.values?, value], fun sought done rest begins => ?_⟩
    rw [run_append]
    exact (held sought _ begins).close_list
  | .more item others => by
    obtain ⟨node, value, held⟩ := held_of_writes item
    obtain ⟨nodes, values, scan⟩ := scans_items others
    refine ⟨node :: nodes, by simp [Node.values?, value, values], fun sought done rest begins => ?_⟩
    rw [List.append_assoc, List.cons_append, run_append, (held sought _ begins).next_item,
      scan .nextItem _ _ (.inr (.inr rfl))]
    simp

theorem scans_members {cs : List Char} {members : Members} : WritesMembers cs members →
    ∃ nodes, Node.members? nodes = some members ∧ ∀ sought done rest, Sought.Key sought →
      run ⟨sought, .object done :: rest⟩ (cs ++ ['\x7d']) =
        complete rest (.object (done.reverse ++ nodes) .closed)
  | @WritesMembers.one ks cs key _ front value => by
    obtain ⟨node, value, held⟩ := held_of_writes value
    refine ⟨[(⟨key, none⟩, node)], by simp [Node.members?, Text.value?, value],
      fun sought done rest begins => ?_⟩
    rw [List.append_assoc, List.cons_append, run_member front begins, run_append]
    exact (held .value _ (.inl rfl)).close_object
  | @WritesMembers.more ks cs more key _ _ front value others => by
    obtain ⟨node, value, held⟩ := held_of_writes value
    obtain ⟨nodes, values, scan⟩ := scans_members others
    refine ⟨(⟨key, none⟩, node) :: nodes, by simp [Node.members?, Text.value?, value, values],
      fun sought done rest begins => ?_⟩
    simp only [List.append_assoc, List.cons_append]
    rw [run_member front begins, run_append, (held .value _ (.inl rfl)).next_member,
      scan .nextKey _ _ (.inr rfl)]
    simp

end

theorem Held.finish (held : Held [] node s) : s.finish = ⟨node, false⟩ := by
  cases held with
  | whole => rfl
  | number finished =>
    simp only [Scan.finish, finished]
    rfl

end Scan

theorem value?_of_writes {text : String} {j : Json} (writes : Writes text.toList j) :
    (scan text).value? = some j := by
  obtain ⟨node, value, held⟩ := Scan.held_of_writes writes
  rw [scan, Scan.start, (held .value [] (.inl rfl)).finish]
  exact value

end Replay.Json
