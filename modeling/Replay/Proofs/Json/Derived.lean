import Replay.Proofs.Json.Scanning

/-!
Whatever is scanned to a sound shape is a text that the grammar derives. The characters read so
far are told apart by what the scanner looks for behind them; a shape with a breach or a flaw in it
shows no value, however it goes on.
-/
namespace Replay.Json

variable {cs ds bs ks : List Char} {c : Char} {j : Json} {key : String}

theorem Writes.of_spells (front : Blank bs) (spells : Spells cs j) : Writes (bs ++ cs) j := by
  simpa using Writes.mk front spells blank_nil

theorem Writes.blank (writes : Writes cs j) (blank : Blank bs) : Writes (cs ++ bs) j := by
  obtain ⟨front, spells, back⟩ := writes
  rw [List.append_assoc]
  exact .mk front spells (blank_append.mpr ⟨back, blank⟩)

theorem WritesKey.blank (writes : WritesKey ks key) (blank : Blank bs) :
    WritesKey (ks ++ bs) key := by
  obtain ⟨front, spells, back⟩ := writes
  rw [List.append_assoc]
  exact .mk front spells (blank_append.mpr ⟨back, blank⟩)

theorem WritesItems.blank {cs : List Char} {items : List Json} (writes : WritesItems cs items)
    (blank : Blank bs) : WritesItems (cs ++ bs) items := by
  cases writes with
  | one item => exact .one (item.blank blank)
  | more item others =>
    rw [List.append_assoc]
    exact .more item (others.blank blank)

theorem WritesMembers.blank {cs : List Char} {members : Members}
    (writes : WritesMembers cs members) (blank : Blank bs) :
    WritesMembers (cs ++ bs) members := by
  cases writes with
  | one front value =>
    rw [List.append_assoc]
    exact .one front (value.blank blank)
  | more front value others =>
    rw [List.append_assoc]
    exact .more front value (others.blank blank)

theorem WritesItems.concat {cs : List Char} {items : List Json} (writes : WritesItems cs items)
    (item : Writes ds j) : WritesItems (cs ++ ',' :: ds) (items ++ [j]) := by
  cases writes with
  | one first => exact .more first (.one item)
  | more first others =>
    rw [List.append_assoc]
    exact .more first (others.concat item)

theorem WritesMembers.concat {cs : List Char} {members : Members}
    (writes : WritesMembers cs members) (name : WritesKey ks key) (value : Writes ds j) :
    WritesMembers (cs ++ ',' :: (ks ++ ':' :: ds)) (members ++ [(key, j)]) := by
  cases writes with
  | one first value' => exact .more first value' (.one name value)
  | more first value' others =>
    rw [List.append_assoc]
    exact .more first value' (others.concat name value)

variable {node : Node}

section Values

variable {nodes : List Node} {members : List (Text × Node)} {name : Text}

theorem Node.values?_concat {js : List Json} : Node.values? (nodes ++ [node]) = some js ↔
    ∃ front j, Node.values? nodes = some front ∧ node.value? = some j ∧ js = front ++ [j] := by
  induction nodes generalizing js with
  | nil => cases h : node.value? <;> simp [Node.values?, h, eq_comm]
  | cons first rest ih =>
    simp only [List.cons_append, Node.values?]
    constructor
    · intro h
      split at h <;> cases h
      rename_i hfirst hrest
      obtain ⟨front, j, hfront, hj, rfl⟩ := ih.mp hrest
      exact ⟨_ :: front, j, by simp [hfirst, hfront], hj, rfl⟩
    · rintro ⟨front, j, hfront, hj, rfl⟩
      split at hfront <;> cases hfront
      rename_i hfirst hrest
      simp [hfirst, ih.mpr ⟨_, j, hrest, hj, rfl⟩]

theorem Node.members?_concat {js : Members} : Node.members? (members ++ [(name, node)]) = some js ↔
    ∃ front k j, Node.members? members = some front ∧ name.value? = some k ∧
      node.value? = some j ∧ js = front ++ [(k, j)] := by
  induction members generalizing js with
  | nil => cases h : name.value? <;> cases h' : node.value? <;> simp [Node.members?, h, h', eq_comm]
  | cons first rest ih =>
    obtain ⟨k, n⟩ := first
    simp only [List.cons_append, Node.members?]
    constructor
    · intro h
      split at h <;> cases h
      rename_i hk hn hrest
      obtain ⟨front, l, j, hfront, hl, hj, rfl⟩ := ih.mp hrest
      exact ⟨_ :: front, l, j, by simp [hk, hn, hfront], hl, hj, rfl⟩
    · rintro ⟨front, l, j, hfront, hl, hj, rfl⟩
      split at hfront <;> cases hfront
      rename_i hk hn hrest
      simp [hk, hn, ih.mpr ⟨_, l, j, hrest, hl, hj, rfl⟩]

end Values

/-! What the characters spell, if the shape that was made of them shows something -/

def Shows (cs : List Char) (node : Node) : Prop := ∀ j, node.value? = some j → Spells cs j

def NameWritten (ks : List Char) (name : Text) : Prop :=
  ∀ key, name.value? = some key → WritesKey ks key

def ItemsWritten (body : List Char) (items : List Node) : Prop :=
  ∀ js, Node.values? items.reverse = some js → WritesItems body js

def MembersWritten (body : List Char) (members : List (Text × Node)) : Prop :=
  ∀ js, Node.members? members.reverse = some js → WritesMembers body js

inductive ItemsFront : List Char → List Node → Prop
  | nil : ItemsFront [] []
  | comma {body : List Char} {items : List Node} (written : ItemsWritten body items) :
      ItemsFront (body ++ [',']) items

inductive MembersFront : List Char → List (Text × Node) → Prop
  | nil : MembersFront [] []
  | comma {body : List Char} {members : List (Text × Node)}
      (written : MembersWritten body members) : MembersFront (body ++ [',']) members

variable {body part front : List Char} {items : List Node} {members : List (Text × Node)}
  {name : Text}

theorem ItemsFront.push (front : ItemsFront body items) (blank : Blank bs)
    (shows : Shows part node) : ItemsWritten (body ++ (bs ++ part)) (node :: items) := by
  intro js values
  rw [List.reverse_cons, Node.values?_concat] at values
  obtain ⟨before, j, values, value, rfl⟩ := values
  have item := Writes.of_spells blank (shows j value)
  cases front with
  | nil =>
    cases values
    exact .one item
  | comma written => simpa using (written before values).concat item

theorem MembersFront.push (front : MembersFront body members) (written : NameWritten ks name)
    (blank : Blank bs) (shows : Shows part node) :
    MembersWritten (body ++ (ks ++ ':' :: (bs ++ part))) ((name, node) :: members) := by
  intro js values
  rw [List.reverse_cons, Node.members?_concat] at values
  obtain ⟨before, k, j, values, key, value, rfl⟩ := values
  have item := Writes.of_spells blank (shows j value)
  cases front with
  | nil =>
    cases values
    exact .one (written k key) item
  | comma others => simpa using (others before values).concat (written k key) item

namespace Scan

inductive Awaits : List Char → List Frame → Prop
  | root {bs : List Char} (blank : Blank bs) : Awaits bs []
  | item {front body bs : List Char} {frames : List Frame} {items : List Node}
      (outer : Awaits front frames) (inner : ItemsFront body items) (blank : Blank bs) :
      Awaits (front ++ '[' :: (body ++ bs)) (.list items :: frames)
  | member {front body bs ks : List Char} {frames : List Frame} {members : List (Text × Node)}
      {name : Text} (outer : Awaits front frames) (inner : MembersFront body members)
      (written : NameWritten ks name) (blank : Blank bs) :
      Awaits (front ++ '\x7b' :: (body ++ (ks ++ ':' :: bs))) (.member members name :: frames)

inductive Reads : List Char → Scan → Prop
  | value {cs : List Char} {frames : List Frame} (awaits : Awaits cs frames) :
      Reads cs ⟨.value, frames⟩
  | item {front bs : List Char} {frames : List Frame} (outer : Awaits front frames)
      (blank : Blank bs) : Reads (front ++ '[' :: bs) ⟨.item, .list [] :: frames⟩
  | nextItem {cs : List Char} {frames : List Frame} (awaits : Awaits cs frames) :
      Reads cs ⟨.nextItem, frames⟩
  | firstKey {front bs : List Char} {frames : List Frame} (outer : Awaits front frames)
      (blank : Blank bs) : Reads (front ++ '\x7b' :: bs) ⟨.firstKey, .object [] :: frames⟩
  | nextKey {front body bs : List Char} {frames : List Frame} {members : List (Text × Node)}
      (outer : Awaits front frames) (inner : MembersFront body members) (blank : Blank bs) :
      Reads (front ++ '\x7b' :: (body ++ bs)) ⟨.nextKey, .object members :: frames⟩
  | key {front body bs part : List Char} {frames : List Frame} {members : List (Text × Node)}
      {draft : TextDraft} (outer : Awaits front frames) (inner : MembersFront body members)
      (blank : Blank bs) (holds : draft.flaw = none → draft.Holds part) :
      Reads (front ++ '\x7b' :: (body ++ (bs ++ '"' :: part)))
        ⟨.key draft, .object members :: frames⟩
  | colon {front body ks : List Char} {frames : List Frame} {members : List (Text × Node)}
      {name : Text} (outer : Awaits front frames) (inner : MembersFront body members)
      (written : NameWritten ks name) :
      Reads (front ++ '\x7b' :: (body ++ ks)) ⟨.colon name, .object members :: frames⟩
  | afterItem {front body : List Char} {frames : List Frame} {items : List Node}
      (outer : Awaits front frames) (written : ItemsWritten body items) :
      Reads (front ++ '[' :: body) ⟨.separator, .list items :: frames⟩
  | afterMember {front body : List Char} {frames : List Frame} {members : List (Text × Node)}
      (outer : Awaits front frames) (written : MembersWritten body members) :
      Reads (front ++ '\x7b' :: body) ⟨.separator, .object members :: frames⟩
  | word {front part rest : List Char} {frames : List Frame} {node : Node}
      (outer : Awaits front frames) (more : rest ≠ []) (shows : Shows (part ++ rest) node) :
      Reads (front ++ part) ⟨.word rest node, frames⟩
  | number {front part : List Char} {frames : List Frame} {draft : NumeralDraft}
      (outer : Awaits front frames) (reached : NumeralDraft.reach? part = some draft) :
      Reads (front ++ part) ⟨.number draft, frames⟩
  | text {front part : List Char} {frames : List Frame} {draft : TextDraft}
      (outer : Awaits front frames) (holds : draft.flaw = none → draft.Holds part) :
      Reads (front ++ '"' :: part) ⟨.text draft, frames⟩
  | nothing {cs : List Char} {frames : List Frame} {node : Node}
      (writes : ∀ j, node.value? = some j → Writes cs j) : Reads cs ⟨.nothing node, frames⟩
  | broken {cs : List Char} {frames : List Frame} {node : Node} (void : node.value? = none) :
      Reads cs ⟨.broken node, frames⟩
  | trailing {cs : List Char} {frames : List Frame} {node : Node} :
      Reads cs ⟨.trailing node, frames⟩

variable {frames : List Frame} {s : Scan}

theorem Awaits.blank (awaits : Awaits cs frames) (blank : Blank bs) :
    Awaits (cs ++ bs) frames := by
  cases awaits with
  | root front => exact .root (blank_append.mpr ⟨front, blank⟩)
  | item outer inner front =>
    simpa using Awaits.item outer inner (blank_append.mpr ⟨front, blank⟩)
  | member outer inner written front =>
    simpa using Awaits.member outer inner written (blank_append.mpr ⟨front, blank⟩)

theorem reads_complete (outer : Awaits front frames) (shows : Shows part node) :
    Reads (front ++ part) (complete frames node) := by
  cases outer with
  | root blank => exact .nothing fun j value => .of_spells blank (shows j value)
  | item outer inner blank =>
    simpa [complete] using Reads.afterItem outer (inner.push blank shows)
  | member outer inner written blank =>
    simpa [complete] using Reads.afterMember outer (inner.push written blank shows)

theorem value?_closeAll {f : Fault} {frames : List Frame} (void : node.value? = none) :
    (closeAll f node frames).value? = none := by
  fun_induction closeAll f node frames with
  | case1 => exact void
  | case2 node items frames ih => exact ih rfl
  | case3 node members frames ih => exact ih rfl
  | case4 node members key frames ih => exact ih rfl

theorem value?_list {items : List Node} {ending : Ending} (stops : ending ≠ .closed) :
    (Node.list items ending).value? = none := by
  cases ending <;> first | exact absurd rfl stops | rfl

theorem value?_object {members : List (Text × Node)} {ending : Ending}
    (stops : ending ≠ .closed) : (Node.object members ending).value? = none := by
  cases ending <;> first | exact absurd rfl stops | rfl

theorem reads_fail {begun : Bool} {f : Fault} : Reads cs (fail frames begun f) :=
  .broken (value?_closeAll rfl)

theorem reads_stop (frames : List Frame) {ending : Ending} (stops : ending ≠ .closed) :
    Reads cs (stop frames ending) := by
  unfold stop
  split
  · exact .broken (value?_closeAll (value?_list stops))
  · exact .broken (value?_closeAll (value?_object stops))
  · exact .broken (value?_closeAll (value?_object stops))
  · exact .broken rfl

theorem reads_word {w : Char} {rest : List Char} (awaits : Awaits cs frames) (more : rest ≠ [])
    (value : node.value? = some j) (spells : Spells (w :: rest) j) :
    Reads (cs ++ [w]) ⟨.word rest node, frames⟩ := by
  refine .word awaits more fun j' value' => ?_
  cases value.symm.trans value'
  exact spells

theorem reads_beginValue (awaits : Awaits cs frames) :
    Reads (cs ++ [c]) (beginValue frames c) := by
  unfold beginValue
  split_ifs with n t f quote bracket brace minus
  · exact n ▸ reads_word awaits (by simp) rfl .null
  · exact t ▸ reads_word awaits (by simp) rfl .true
  · exact f ▸ reads_word awaits (by simp) rfl .false
  · exact quote ▸ .text awaits fun _ => TextDraft.holds_empty
  · exact bracket ▸ .item awaits blank_nil
  · exact brace ▸ .firstKey awaits blank_nil
  · exact minus ▸ .number awaits rfl
  · split
    · rename_i digit
      exact .number awaits (by
        simp [NumeralDraft.reach?, NumeralDraft.begin?, NumeralDraft.feedAll, minus, digit])
    · exact reads_fail

theorem shows_list (written : ItemsWritten body items) :
    Shows ('[' :: (body ++ [']'])) (.list items.reverse .closed) := by
  intro j value
  obtain ⟨js, values, rfl⟩ := Option.map_eq_some_iff.mp value
  exact .list (written js values)

theorem shows_object (written : MembersWritten body members) :
    Shows ('\x7b' :: (body ++ ['\x7d'])) (.object members.reverse .closed) := by
  intro j value
  obtain ⟨js, values, rfl⟩ := Option.map_eq_some_iff.mp value
  exact .object (written js values)

theorem shows_emptyList (blank : Blank bs) : Shows ('[' :: (bs ++ [']'])) (.list [] .closed) := by
  rintro j ⟨⟩
  exact .emptyList blank

theorem shows_emptyObject (blank : Blank bs) :
    Shows ('\x7b' :: (bs ++ ['\x7d'])) (.object [] .closed) := by
  rintro j ⟨⟩
  exact .emptyObject blank

theorem shows_text {t : Text} (spells : t.flaw = none → SpellsText cs t.content) :
    Shows cs (.text t) := by
  intro j value
  obtain ⟨str, content, rfl⟩ := Option.map_eq_some_iff.mp value
  unfold Text.value? at content
  split at content <;> cases content
  exact .text (spells ‹_›)

theorem shows_number {n : Numeral} {draft : NumeralDraft}
    (reached : NumeralDraft.reach? cs = some draft) (finished : draft.finish = .ok n) :
    Shows cs (.number n) := by
  obtain ⟨l, proper, rfl, rfl⟩ := NumeralDraft.exists_literal reached finished
  intro j value
  simp only [Node.value?] at value
  split at value <;> cases value
  exact .number proper ‹_›

def Sought.Idle : Sought → Prop
  | .word .. | .number _ | .text _ | .key _ | .broken _ | .trailing _ => False
  | _ => True

theorem Reads.blank (reads : Reads cs s) (idle : Sought.Idle s.sought)
    (space : isSpace c = true) : Reads (cs ++ [c]) s := by
  have blank : Blank [c] := by simpa using space
  cases reads with
  | value awaits => exact .value (awaits.blank blank)
  | item outer front => simpa using Reads.item outer (blank_append.mpr ⟨front, blank⟩)
  | nextItem awaits => exact .nextItem (awaits.blank blank)
  | firstKey outer front => simpa using Reads.firstKey outer (blank_append.mpr ⟨front, blank⟩)
  | nextKey outer inner front =>
    simpa using Reads.nextKey outer inner (blank_append.mpr ⟨front, blank⟩)
  | colon outer inner written =>
    simpa using Reads.colon outer inner fun k key => (written k key).blank blank
  | afterItem outer written =>
    simpa using Reads.afterItem outer fun js values => (written js values).blank blank
  | afterMember outer written =>
    simpa using Reads.afterMember outer fun js values => (written js values).blank blank
  | nothing writes => exact .nothing fun j value => (writes j value).blank blank
  | _ => cases idle

theorem Reads.dispatch (reads : Reads cs s) (idle : Sought.Idle s.sought) :
    Reads (cs ++ [c]) (s.dispatch c) := by
  unfold Scan.dispatch
  by_cases space : isSpace c = true
  · rw [if_pos space]
    exact reads.blank idle space
  rw [if_neg space]
  cases reads with
  | value awaits => exact reads_beginValue awaits
  | item outer front =>
    dsimp only
    split_ifs with closes
    · subst closes
      simpa [separate] using reads_complete outer (shows_emptyList front)
    · simpa using reads_beginValue (Awaits.item outer .nil front)
  | nextItem awaits =>
    dsimp only
    split_ifs
    · exact reads_stop _ nofun
    · exact reads_beginValue awaits
  | firstKey outer front =>
    dsimp only
    split_ifs with quote closes
    · subst quote
      simpa using Reads.key outer .nil front fun _ => TextDraft.holds_empty
    · subst closes
      simpa [separate] using reads_complete outer (shows_emptyObject front)
    · exact reads_stop _ nofun
  | nextKey outer inner front =>
    dsimp only
    split_ifs with quote
    · subst quote
      simpa using Reads.key outer inner front fun _ => TextDraft.holds_empty
    · exact reads_stop _ nofun
    · exact reads_stop _ nofun
  | colon outer inner written =>
    dsimp only
    split_ifs with colon
    · subst colon
      simpa using Reads.value (Awaits.member outer inner written blank_nil)
    · exact reads_fail
  | afterItem outer written =>
    dsimp only [separate]
    split_ifs with comma closes
    · subst comma
      simpa using Reads.nextItem (Awaits.item outer (.comma written) blank_nil)
    · subst closes
      simpa using reads_complete outer (shows_list written)
    · exact reads_stop _ nofun
  | afterMember outer written =>
    dsimp only [separate]
    split_ifs with comma closes
    · subst comma
      simpa using Reads.nextKey outer (.comma written) blank_nil
    · subst closes
      simpa using reads_complete outer (shows_object written)
    · exact reads_stop _ nofun
  | nothing writes => exact .trailing
  | _ => cases idle

theorem idle_complete : Sought.Idle (complete frames node).sought := by
  unfold complete
  split <;> trivial

theorem spellsText_of_done {draft : TextDraft} {t : Text}
    (holds : draft.flaw = none → draft.Holds part) (fed : draft.feed c = .done t)
    (sound : t.flaw = none) : SpellsText ('"' :: (part ++ [c])) t.content := by
  obtain ⟨-, -, rfl⟩ := TextDraft.exists_of_done fed
  obtain ⟨quote, spells⟩ :=
    (holds (TextDraft.flaw_eq_none_of_unpaired sound).2.2).spells fed sound
  exact quote ▸ .quoted spells

theorem Reads.feed (reads : Reads cs s) : Reads (cs ++ [c]) (s.feed c) := by
  have idle := reads.dispatch (c := c)
  cases reads with
  | @word front part rest _ node outer more shows =>
    obtain ⟨e, rest, rfl⟩ := List.exists_cons_of_ne_nil more
    simp only [Scan.feed]
    split_ifs with same whole
    · obtain rfl := List.isEmpty_iff.mp whole
      simpa [same] using reads_complete outer shows
    · have further : Shows (part ++ [e] ++ rest) node := by simpa using shows
      have nonempty : rest ≠ [] := fun empty => whole (by simp [empty])
      simpa [same] using Reads.word outer nonempty further
    · exact reads_fail
  | @number front part _ draft outer reached =>
    simp only [Scan.feed]
    split
    · rename_i d fed
      have some : part ≠ [] := by
        rintro rfl
        cases reached
      simpa using Reads.number outer ((NumeralDraft.reach?_concat some).mpr ⟨_, reached, fed⟩)
    · rename_i n fed
      have shows := shows_number reached (NumeralDraft.finish_of_done fed)
      exact (reads_complete outer shows).dispatch idle_complete
    · exact reads_fail
  | text outer holds =>
    simp only [Scan.feed]
    split
    · rename_i t fed
      simpa using Reads.text outer fun sound =>
        (holds (TextDraft.flaw_eq_none_of_feed fed sound)).feed fed sound
    · rename_i t fed
      simpa using reads_complete outer (shows_text (spellsText_of_done holds fed))
    · exact reads_fail
  | @key front body bs part _ members _ outer inner blank holds =>
    simp only [Scan.feed]
    split
    · rename_i t fed
      simpa using Reads.key outer inner blank fun sound =>
        (holds (TextDraft.flaw_eq_none_of_feed fed sound)).feed fed sound
    · rename_i t fed
      have written : NameWritten (bs ++ '"' :: (part ++ [c])) t := by
        intro key content
        unfold Text.value? at content
        split at content <;> cases content
        simpa using WritesKey.mk blank (spellsText_of_done holds fed ‹_›) blank_nil
      simpa using Reads.colon outer inner written
    · exact reads_stop _ (by simp)
  | broken void => exact .broken void
  | trailing => exact .trailing
  | _ => exact idle trivial

theorem reads_run : Reads cs (start.run cs) := by
  induction cs using List.reverseRecOn with
  | nil => exact .value (.root blank_nil)
  | append_singleton cs c ih =>
    rw [run_append]
    exact ih.feed

def rooted (s : Scan) : Document :=
  match s.sought with
  | .nothing root | .broken root => ⟨root, false⟩
  | .trailing root => ⟨root, true⟩
  | _ => ⟨.broken false Flaw.endInValue.toFault, false⟩

def Concludes (cs : List Char) (d : Document) : Prop := ∀ j, d.value? = some j → Writes cs j

theorem Reads.rooted (reads : Reads cs s) : Concludes cs s.rooted := by
  intro j value
  cases reads with
  | nothing writes => exact writes j value
  | broken void => cases void.symm.trans value
  | _ => cases value

theorem reads_afterNumber (reads : Reads cs s) : Reads cs (finish.afterNumber s) := by
  unfold finish.afterNumber
  split
  · exact reads_stop _ nofun
  · exact reads

theorem Reads.finish (reads : Reads cs s) : Concludes cs s.finish := by
  have cutShort : Ending.cutShort ≠ .closed := nofun
  have cutAfterComma : Ending.cutAfterComma ≠ .closed := nofun
  have badKey {f : Fault} : Ending.badKey f ≠ .closed := nofun
  unfold Scan.finish
  cases reads with
  | value | word | text | colon => exact reads_fail.rooted
  | @item _ _ frames => exact (reads_stop (.list [] :: frames) cutShort).rooted
  | @firstKey _ _ frames => exact (reads_stop (.object [] :: frames) cutShort).rooted
  | @afterItem _ _ frames items => exact (reads_stop (.list items :: frames) cutShort).rooted
  | @afterMember _ _ frames members =>
    exact (reads_stop (.object members :: frames) cutShort).rooted
  | @nextItem _ frames => exact (reads_stop frames cutAfterComma).rooted
  | @nextKey _ _ _ frames members =>
    exact (reads_stop (.object members :: frames) cutAfterComma).rooted
  | @key _ _ _ _ frames members => exact (reads_stop (.object members :: frames) badKey).rooted
  | number outer reached =>
    dsimp only
    split
    · rename_i n finished
      exact (reads_afterNumber (reads_complete outer (shows_number reached finished))).rooted
    · exact reads_fail.rooted
  | nothing writes => exact Reads.rooted (s := ⟨_, []⟩) (.nothing writes)
  | broken void => exact Reads.rooted (s := ⟨_, []⟩) (.broken void)
  | trailing => exact Reads.rooted (s := ⟨_, []⟩) .trailing

end Scan

theorem value?_eq_some_iff {text : String} :
    (scan text).value? = some j ↔ Writes text.toList j :=
  ⟨Scan.reads_run.finish j, value?_of_writes⟩

theorem Writes.unique {text : String} {i : Json} (writes : Writes text.toList i)
    (writes' : Writes text.toList j) : i = j :=
  Option.some.inj ((value?_of_writes writes).symm.trans (value?_of_writes writes'))

theorem parse_eq_ok_iff {text : String} :
    parse text = .ok j ↔ Writes text.toList j ∧ j.depth ≤ Reader.maxOpen := by
  rw [parse_eq_ok_iff_value, value?_eq_some_iff]

end Replay.Json
