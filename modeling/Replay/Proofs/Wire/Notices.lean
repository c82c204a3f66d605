import Replay.Notice
import Replay.Proofs.Json.Distinct
import Replay.Proofs.Wire.Records

/-!
Notices that are written and read again. The data of a notice may come before its kind, and are kept
until the kind is known; either way they are read to the same notice.
-/
namespace Replay

open Json

theorem eq_or_eq_of_perm_pair {α : Type} {xs : List α} {a b : α} (perm : xs.Perm [a, b]) :
    xs = [a, b] ∨ xs = [b, a] := by
  obtain ⟨x, y, rfl⟩ := List.length_eq_two.mp perm.length_eq
  rcases List.mem_pair.mp (perm.subset List.mem_cons_self) with rfl | rfl
  · exact .inl (congrArg (x :: ·) (List.perm_singleton.mp ((List.perm_cons x).mp perm)))
  · have perm := perm.trans (.swap x a [])
    exact .inr (congrArg (x :: ·) (List.perm_singleton.mp ((List.perm_cons x).mp perm)))

namespace Notice

variable {n : Notice} {room : Nat} {p : Progress}

def fields : Notice → Members
  | declared name value => [("name", .text name), ("data", value.toJson)]
  | changed name old new =>
    [("name", .text name), ("old_data", old.toJson), ("new_data", new.toJson)]

def values : Notice → List Tracked
  | declared _ value => [value]
  | changed _ old new => [old, new]

def part : Notice → (String → Bool) → Draft
  | declared name value, met =>
    ⟨if met "name" then some name else none, if met "data" then some value else none, none⟩
  | changed name old new, met =>
    ⟨if met "name" then some name else none, if met "old_data" then some old else none,
      if met "new_data" then some new else none⟩

theorem toJson_eq (n : Notice) :
    n.toJson = .object [("type", n.kind.toJson), ("data", .object n.fields)] := by
  cases n <;> rfl

theorem gathers {value : Reader Tracked} : ∀ {n : Notice},
    (∀ t ∈ n.values, value room t.toJson.node = .ok t) → (record value n.kind).Gathers room
      (fun name node => ∃ j, (name, j) ∈ n.fields ∧ node = j.node) n.part
  | declared name t, reads => by
    refine ⟨rfl, ?_⟩
    show ∀ f ∈ [nameField, firstField "data" value], _
    simp only [List.forall_mem_cons]
    refine ⟨?_, ?_, nofun⟩
    · refine Record.Field.takes_of_member (j := .text name) name (by simp [fields]) (fun _ => rfl)
        (fun met => by simp [part]) ?_
      rintro _ rfl
      rfl
    · refine Record.Field.takes_of_member (j := t.toJson) t (by simp [fields]) (fun _ => rfl)
        (fun met => by simp [part]) ?_
      rintro _ rfl
      exact reads t List.mem_cons_self
  | changed name old new, reads => by
    refine ⟨rfl, ?_⟩
    show ∀ f ∈ [nameField, firstField "old_data" value, secondField "new_data" value], _
    simp only [List.forall_mem_cons]
    refine ⟨?_, ?_, ?_, nofun⟩
    · refine Record.Field.takes_of_member (j := .text name) name (by simp [fields]) (fun _ => rfl)
        (fun met => by simp [part]) ?_
      rintro _ rfl
      rfl
    · refine Record.Field.takes_of_member (j := old.toJson) old (by simp [fields]) (fun _ => rfl)
        (fun met => by simp [part]) ?_
      rintro _ rfl
      exact reads old List.mem_cons_self
    · refine Record.Field.takes_of_member (j := new.toJson) new (by simp [fields]) (fun _ => rfl)
        (fun met => by simp [part]) ?_
      rintro _ rfl
      exact reads new (List.mem_cons_of_mem _ List.mem_cons_self)

theorem build_part {value : Reader Tracked} {met : String → Bool} : ∀ {n : Notice},
    (∀ name ∈ n.fields.map Prod.fst, met name = true) →
      (record value n.kind).build (n.part met) = .ok n
  | declared .., all => by
    have name : met "name" = true := all "name" (by simp [fields])
    have first : met "data" = true := all "data" (by simp [fields])
    unfold part
    dsimp only
    rw [name, first]
    rfl
  | changed .., all => by
    have name : met "name" = true := all "name" (by simp [fields])
    have first : met "old_data" = true := all "old_data" (by simp [fields])
    have second : met "new_data" = true := all "new_data" (by simp [fields])
    unfold part
    dsimp only
    rw [name, first, second]
    rfl

theorem nodup_names (value : Reader Tracked) (k : Kind) : (record value k).names.Nodup := by
  cases k with
  | declared =>
    show ["name", "data"].Nodup
    decide
  | changed =>
    show ["name", "old_data", "new_data"].Nodup
    decide

theorem dataReader_node {value : Reader Tracked} {data : Members}
    (reads : ∀ t ∈ n.values, value room t.toJson.node = .ok t)
    (renders : Renders n.fields (fun _ => False) data) :
    dataReader value n.kind (room + 1) (Json.object data).node = .ok n := by
  obtain ⟨nodes, same, stand⟩ := exists_memberNodes data
  have names : n.fields.map Prod.fst = (record value n.kind).names := by cases n <;> rfl
  have passes : ∀ (node : Node) (j : Json), node = j.node → node.skip? = none :=
    fun _ j same => same ▸ skip?_node j
  obtain ⟨met, all, read⟩ :=
    (gathers reads).readObject_of_renders names (nodup_names value n.kind) passes stand renders
  show (record value n.kind).readObject (room + 1) (memberNodes data) .closed = _
  rw [same, read]
  exact build_part fun name named => Bool.of_not_eq_false (all name (names ▸ named))

/-! The members of a notice -/

theorem readMembers_cons (m : Text × Node) (rest : List (Text × Node)) :
    readMembers room (m :: rest) p = readMembers room [m] p >>= readMembers room rest := by
  obtain ⟨key, node⟩ := m
  rw [readMembers.eq_def, readMembers.eq_def room [_]]
  dsimp only
  cases Reader.content key with
  | error e => rfl
  | ok key =>
    dsimp only [bind, Except.bind]
    split
    · cases p with
      | nothing => cases Kind.reader room node <;> rfl
      | data kept =>
        cases Kind.reader room node with
        | error e => rfl
        | ok k =>
          dsimp only
          cases dataReader Tracked.record.keptReader k room kept <;> rfl
      | _ => rfl
    · split
      · cases p with
        | nothing => cases Reader.any room node <;> rfl
        | kind k =>
          dsimp only
          cases dataReader Tracked.reader k room node <;> rfl
        | _ => rfl
      · cases node.skip? <;> rfl

theorem readMembers_filter (members : Members) : ∀ p : Progress,
    readMembers room (memberNodes members) p = readMembers room
      (memberNodes (members.filter fun m => m.1 ∈ ["type", "data"])) p := by
  induction members with
  | nil => exact fun _ => rfl
  | cons m rest ih =>
    intro p
    obtain ⟨key, j⟩ := m
    by_cases known : key ∈ ["type", "data"]
    · rw [List.filter_cons_of_pos (by simpa using known)]
      show readMembers room ((⟨key, none⟩, j.node) :: memberNodes rest) p =
        readMembers room ((⟨key, none⟩, j.node) :: memberNodes _) p
      rw [readMembers_cons, readMembers_cons _ (memberNodes (rest.filter _)), funext ih]
    · rw [List.filter_cons_of_neg (by simpa using known), ← ih]
      show readMembers room ((⟨key, none⟩, j.node) :: memberNodes rest) p = _
      have other : key ≠ "type" ∧ key ≠ "data" := by simpa using known
      rw [readMembers.eq_def]
      show (if key = "type" then _ else if key = "data" then _ else _) = _
      rw [if_neg other.1, if_neg other.2, skip?_node]
      rfl

theorem exists_values_of_members {members : Members}
    (sound : ∀ m ∈ members, ∃ k, m.2.node.value? = some k) :
    ∃ k, (Json.object members).node.value? = some k := by
  have parts : ∃ ks, Node.members? (memberNodes members) = some ks := by
    induction members with
    | nil => exact ⟨[], rfl⟩
    | cons m rest ih =>
      obtain ⟨k, shown⟩ := sound m List.mem_cons_self
      obtain ⟨ks, more⟩ := ih fun m mem => sound m (List.mem_cons_of_mem _ mem)
      refine ⟨(m.1, k) :: ks, ?_⟩
      show Node.members? ((⟨m.1, none⟩, m.2.node) :: memberNodes rest) = _
      simp [Node.members?, Text.value?, shown, more]
  obtain ⟨ks, parts⟩ := parts
  exact ⟨.object ks, congrArg (Option.map Json.object) parts⟩

theorem kind_node (k : Kind) : Kind.reader room k.toJson.node = .ok k := by
  cases k <;> rfl

theorem readMembers_typed (k : Kind) (data : Node) : readMembers room
    [(⟨"type", none⟩, k.toJson.node), (⟨"data", none⟩, data)] .nothing =
      Progress.whole <$> dataReader Tracked.reader k room data := by
  show (Kind.reader room k.toJson.node >>= fun k =>
    readMembers room [(⟨"data", none⟩, data)] (.kind k)) = _
  rw [kind_node]
  show (dataReader Tracked.reader k room data >>= fun n => readMembers room [] (.whole n)) = _
  cases dataReader Tracked.reader k room data <;> rfl

/-- Data in front of their kind are kept, if they can be read at all, until it is known. -/
theorem readMembers_kept (k : Kind) {data : Node} {j : Json}
    (any : Reader.any room data = .ok j) : readMembers room
    [(⟨"data", none⟩, data), (⟨"type", none⟩, k.toJson.node)] .nothing =
      Progress.whole <$> dataReader Tracked.record.keptReader k room data := by
  show (Reader.any room data >>= fun _ =>
    readMembers room [(⟨"type", none⟩, k.toJson.node)] (.data data)) = _
  rw [any]
  show (Kind.reader room k.toJson.node >>= fun k =>
    dataReader Tracked.record.keptReader k room data >>= fun n =>
      readMembers room [] (.whole n)) = _
  rw [kind_node]
  show (dataReader Tracked.record.keptReader k room data >>= fun n =>
    readMembers room [] (.whole n)) = _
  cases dataReader Tracked.record.keptReader k room data <;> rfl

theorem readMembers_eq_whole {known data : Members}
    (order : known = [("type", n.kind.toJson), ("data", .object data)] ∨
      known = [("data", .object data), ("type", n.kind.toJson)])
    (read : dataReader Tracked.reader n.kind room (Json.object data).node = .ok n)
    (readKept : dataReader Tracked.record.keptReader n.kind room (Json.object data).node = .ok n)
    (sound : ∃ j, Reader.any room (Json.object data).node = .ok j) :
    readMembers room (memberNodes known) .nothing = .ok (.whole n) := by
  obtain ⟨j, any⟩ := sound
  rcases order with rfl | rfl
  · exact (readMembers_typed n.kind _).trans (congrArg (Progress.whole <$> ·) read)
  · exact (readMembers_kept n.kind any).trans (congrArg (Progress.whole <$> ·) readKept)

theorem exists_field {t : Tracked} (mem : t ∈ n.values) : ∃ name, (name, t.toJson) ∈ n.fields := by
  cases n with
  | declared name value =>
    cases List.mem_singleton.mp mem
    exact ⟨"data", List.mem_cons_of_mem _ List.mem_cons_self⟩
  | changed name old new =>
    rcases List.mem_pair.mp mem with rfl | rfl
    · exact ⟨"old_data", by simp [fields]⟩
    · exact ⟨"new_data", by simp [fields]⟩

theorem forall_mem_fields (P : Json → Prop) (text : ∀ s, P (.text s))
    (value : ∀ t ∈ n.values, P t.toJson) : ∀ m ∈ n.fields, P m.2 := by
  cases n with
  | declared name t =>
    simp only [fields, List.forall_mem_cons]
    exact ⟨text name, value t (by simp [values]), nofun⟩
  | changed name old new =>
    simp only [fields, List.forall_mem_cons]
    exact ⟨text name, value old (by simp [values]), value new (by simp [values]), nofun⟩

/-- A notice comes back from what is printed of it with its members, and those of its data, in any
order and among any others. What is added to the data has to be readable itself, and the data are
to leave room for the object around them. -/
theorem parse_of_renders (returns : ∀ t ∈ n.values, t.Returns) {data members : Members}
    (inner : Renders n.fields (fun _ => False) data)
    (readable : ∀ m ∈ data, m ∉ n.fields → ∃ k, Json.parse m.2.print = .ok k)
    (fits : (Json.object data).depth < Reader.maxOpen)
    (outer : Renders [("type", n.kind.toJson), ("data", .object data)] (fun _ => False) members) :
    Notice.parse (Json.object members).print = .ok n := by
  have shallow : ∀ m ∈ data, m.2.depth ≤ 125 :=
    depthMembers_le_iff.mp (Nat.le_of_lt_succ (Nat.lt_of_succ_lt_succ fits))
  have reads : ∀ t ∈ n.values, Tracked.reader 125 t.toJson.node = .ok t := by
    intro t mem
    obtain ⟨name, there⟩ := exists_field mem
    exact (returns t mem).read (shallow _ (inner.mem_members there))
  have reads' : ∀ t ∈ n.values, Tracked.record.keptReader 125 t.toJson.node = .ok t := by
    intro t mem
    exact (Tracked.keptReader_node t).trans (reads t mem)
  have sound : ∃ k, Reader.any 126 (Json.object data).node = .ok k := by
    obtain ⟨k, shown⟩ : ∃ k, (Json.object data).node.value? = some k := by
      refine exists_values_of_members fun m mem => ?_
      by_cases own : m ∈ n.fields
      · exact forall_mem_fields (fun j => ∃ k, j.node.value? = some k) (fun _ => ⟨_, rfl⟩)
          (fun t mem => (returns t mem).exists_value) m own
      · obtain ⟨k, read⟩ := readable m mem own
        rw [Json.parse, Reader.run_print] at read
        exact ⟨k, ((Reader.any_eq_ok_iff _ _ _).mp read).1⟩
    refine ⟨k, (Reader.any_eq_ok_iff _ _ _).mpr ⟨shown, ?_⟩⟩
    rw [depth_of_node _ _ shown]
    exact Nat.le_of_lt_succ fits
  have order := eq_or_eq_of_perm_pair (outer.filter_perm (show ["type", "data"].Nodup by decide))
  have read := readMembers_eq_whole order (dataReader_node reads inner)
    (dataReader_node reads' inner) sound
  unfold Notice.parse
  rw [Reader.run_print]
  show (readMembers 126 (memberNodes members) .nothing >>= _) = _
  rw [readMembers_filter]
  exact congrArg (· >>= _) read

theorem depth_toJson (n : Notice) : n.toJson.depth = (Json.object n.fields).depth + 1 := by
  rw [toJson_eq]
  show max 0 (max (Json.object n.fields).depth 0) + 1 = _
  omega

theorem depth_fields_le (fits : ∀ t ∈ n.values, t.toJson.depth ≤ room) :
    (Json.object n.fields).depth ≤ room + 1 := by
  have shallow := forall_mem_fields (·.depth ≤ room) (fun _ => Nat.zero_le _) fits
  exact Nat.succ_le_succ (depthMembers_le_iff.mpr shallow)

theorem exists_read_of_dataReader {value : Reader Tracked} {k : Notice}
    (read : dataReader value n.kind (room + 1) (Json.object n.fields).node = .ok k) :
    ∀ t ∈ n.values, ∃ u, value room t.toJson.node = .ok u := by
  change (record value n.kind).readObject (room + 1) (memberNodes n.fields) .closed = _ at read
  cases n with
  | declared name t =>
    show ∀ u ∈ [t], _
    have there : (⟨"data", none⟩, t.toJson.node) ∈ memberNodes (declared name t).fields :=
      List.mem_cons_of_mem _ List.mem_cons_self
    simp only [List.forall_mem_singleton]
    exact Record.exists_read_of_readObject (r := record value .declared) "data" rfl there read
  | changed name old new =>
    show ∀ u ∈ [old, new], _
    have there : (⟨"old_data", none⟩, old.toJson.node) ∈
        memberNodes (changed name old new).fields :=
      List.mem_cons_of_mem _ List.mem_cons_self
    have there' : (⟨"new_data", none⟩, new.toJson.node) ∈
        memberNodes (changed name old new).fields :=
      List.mem_cons_of_mem _ (List.mem_cons_of_mem _ List.mem_cons_self)
    simp only [List.forall_mem_cons]
    refine ⟨?_, ?_, nofun⟩
    · exact Record.exists_read_of_readObject (r := record value .changed) "old_data" rfl there read
    · exact Record.exists_read_of_readObject (r := record value .changed) "new_data" rfl there' read

theorem parse_print (n : Notice) : Notice.parse n.toJson.print =
    dataReader Tracked.reader n.kind 126 (Json.object n.fields).node := by
  unfold Notice.parse
  rw [Reader.run_print, toJson_eq]
  show (readMembers 126 [(⟨"type", none⟩, n.kind.toJson.node),
    (⟨"data", none⟩, (Json.object n.fields).node)] .nothing >>= _) = _
  rw [readMembers_typed]
  cases dataReader Tracked.reader n.kind 126 (Json.object n.fields).node <;> rfl

/-- Nothing but its depth keeps a notice from coming back from what is printed of it. -/
theorem parse_print_eq_ok_iff (returns : ∀ t ∈ n.values, t.Returns) :
    Notice.parse n.toJson.print = .ok n ↔ n.toJson.depth ≤ Reader.maxOpen := by
  rw [depth_toJson]
  constructor
  · intro read
    rw [parse_print] at read
    refine Nat.succ_le_succ (depth_fields_le fun t mem => ?_)
    obtain ⟨u, read⟩ := exists_read_of_dataReader read t mem
    exact (Tracked.reader_node_eq_ok_iff.mp read).1
  · intro fits
    rw [toJson_eq]
    exact parse_of_renders returns (renders_self _ _) (fun m mem out => absurd mem out) fits
      (renders_self _ _)

end Notice

/-- What is told of variables and their changes, and what describes an element, a program to run,
the speed of playback, a place or a type, comes back from what is printed of it. Objects do so too
with their members in any order and among any others, and without those that hold what is there if
nothing is told. Where there are values in it, which come back themselves, it does so exactly if it
nests no deeper than is read. -/
theorem wire_types_return :
    (∀ n : Notice, (∀ t ∈ n.values, t.Returns) →
      (Notice.parse n.toJson.print = .ok n ↔ n.toJson.depth ≤ Reader.maxOpen) ∧
      ∀ data members, Renders n.fields (fun _ => False) data →
        (∀ m ∈ data, m ∉ n.fields → ∃ k, Json.parse m.2.print = .ok k) →
        (Json.object data).depth < Reader.maxOpen →
        Renders [("type", n.kind.toJson), ("data", .object data)] (fun _ => False) members →
        Notice.parse (Json.object members).print = .ok n) ∧
    (∀ v : Variable, v.data.Returns →
      (Reader.run Variable.reader v.toJson.print = .ok v ↔ v.toJson.depth ≤ Reader.maxOpen) ∧
      ∀ members, v.toJson.depth ≤ Reader.maxOpen → Renders v.members (fun _ => False) members →
        Reader.run Variable.reader (Json.object members).print = .ok v) ∧
    (∀ s : Element.Spec, Reader.run Element.Spec.reader s.toJson.print = .ok s ∧
      ∀ members text, Renders s.members s.Spare members → IsText (.object members) text →
        Reader.run Element.Spec.reader text = .ok s) ∧
    (∀ c : Interpreter.Config, Reader.run Interpreter.Config.reader c.toJson.print = .ok c ∧
      ∀ members text, Renders c.members c.Spare members → IsText (.object members) text →
        Reader.run Interpreter.Config.reader text = .ok c) ∧
    (∀ c : Playback.Config, Reader.run Playback.Config.reader c.toJson.print = .ok c ∧
      ∀ members text, Renders c.members c.Spare members → IsText (.object members) text →
        Reader.run Playback.Config.reader text = .ok c) ∧
    (∀ l : Location, Reader.run Location.reader l.toJson.print = .ok l) ∧
    ∀ t : ElementType, t.toJson.depth ≤ Reader.maxOpen →
      Reader.run ElementType.reader t.toJson.print = .ok t := by
  refine ⟨fun n returns => ⟨Notice.parse_print_eq_ok_iff returns,
      fun data members => Notice.parse_of_renders returns⟩,
    fun v returns => ⟨Variable.run_reader_print_eq_ok_iff returns,
      fun members fits => Variable.run_reader_of_renders returns fits⟩,
    fun s => ⟨?_, fun members text => Element.Spec.run_reader_of_renders⟩,
    fun c => ⟨?_, fun members text => Interpreter.Config.run_reader_of_renders⟩,
    fun c => ⟨Playback.Config.run_reader_of_renders (renders_self _ _) (.inl rfl),
      fun members text => Playback.Config.run_reader_of_renders⟩,
    Location.run_reader_print, fun t => ElementType.run_reader_print⟩
  · obtain ⟨written, same, renders⟩ := s.renders_written
    exact Element.Spec.run_reader_of_renders renders (.inl (congrArg print same))
  · obtain ⟨written, same, renders⟩ := c.renders_written
    exact Interpreter.Config.run_reader_of_renders renders (.inl (congrArg print same))

def revised : Notice := .changed "x" ⟨.integer 1, .literal⟩ ⟨.string "one", .variable "y"⟩

theorem wire_types_return_of_revised : Notice.parse (Json.object
    [("data", .object (("note", .list [.null]) :: revised.fields.reverse)),
      ("origin", .text "y"), ("type", revised.kind.toJson)]).print = .ok revised := by
  have returns : ∀ t ∈ revised.values, t.Returns := by
    show ∀ t ∈ [_, _], _
    simp only [List.forall_mem_cons]
    refine ⟨?_, ?_, nofun⟩
    · rw [Tracked.Returns, Reader.run_print]
      rfl
    · rw [Tracked.Returns, Reader.run_print]
      rfl
  have note : ∃ k, Json.parse (Json.list [.null]).print = .ok k :=
    ⟨.list [.null], by rw [Json.parse, Reader.run_print]; rfl⟩
  refine (wire_types_return.1 revised returns).2
    (("note", .list [.null]) :: revised.fields.reverse) _ ?_ ?_ (by decide) ?_
  · refine ⟨revised.fields, [("note", .list [.null])], ?_, .refl _, fun _ mem out => absurd mem out,
      by simp [revised, Notice.fields]⟩
    exact ((List.reverse_perm _).cons _).trans (List.perm_append_singleton _ _).symm
  · intro m mem other
    rcases List.mem_cons.mp mem with rfl | mem
    · exact note
    · exact absurd (List.mem_reverse.mp mem) other
  · refine ⟨_, [("origin", .text "y")], ?_, .refl _, fun _ mem out => absurd mem out, by simp⟩
    exact List.perm_append_singleton _ [_, _]

def nested : Nat → Json
  | 0 => .list []
  | n + 1 => .list [nested n]

theorem depth_nested (n : Nat) : (nested n).depth = n + 1 := by
  induction n with
  | zero => rfl
  | succ n ih =>
    show max (nested n).depth 0 + 1 = _
    omega

theorem canonical_nested (n : Nat) : canonical (nested n) = nested n := by
  induction n with
  | zero => rfl
  | succ n ih =>
    show Json.list [canonical (nested n)] = _
    rw [ih]
    rfl

theorem floats_nested (n : Nat) : (nested n).floats = [] := by
  induction n with
  | zero => rfl
  | succ n ih => exact List.append_eq_nil_iff.mpr ⟨ih, rfl⟩

theorem Value.ofJson_nested : ∀ n, Value.ofJson (nested n) = .unknown (.ofJson (nested n))
  | 0 => rfl
  | _ + 1 => rfl

/-- A variable whose value nests as deep as values do that come back from their own texts. -/
def buried : Variable := ⟨"x", ⟨.unknown (.ofJson (nested 125)), .literal⟩⟩

theorem buried_value : buried.data.value.toJson = nested 125 := canonical_nested 125

theorem depth_buried : buried.data.toJson.depth = 127 := by
  show max buried.data.value.toJson.depth 0 + 1 = _
  rw [buried_value, depth_nested]
  rfl

/-- A value may come back from its own text, and be too deep in that of a variable. -/
theorem buried_not_read : buried.data.Returns ∧
    Reader.run Variable.reader buried.toJson.print ≠ .ok buried := by
  have value : ∃ j, buried.data.value.toJson.node.value? = some j ∧
      Value.ofJson j = buried.data.value := by
    refine ⟨nested 125, ?_, Value.ofJson_nested 125⟩
    rw [buried_value]
    exact value?_node (floats_nested 125)
  have returns : buried.data.Returns := by
    rw [Tracked.Returns, Reader.run_print]
    exact Tracked.reader_node_eq_ok_iff.mpr ⟨Nat.le_of_eq depth_buried, value, _, rfl, rfl⟩
  refine ⟨returns, fun read => ?_⟩
  have fits := (Variable.run_reader_print_eq_ok_iff returns).mp read
  rw [Variable.depth_toJson, depth_buried] at fits
  exact absurd fits (by decide)

end Replay
