import Mathlib.Data.List.Forall2
import Mathlib.Data.List.Nodup
import Mathlib.Data.List.Perm.Subperm
import Replay.Json.Record
import Replay.Proofs.Json.Shown

/-!
Records are gathered from their members in whatever order these come. What a draft holds depends on
the names that were met alone, so members may change places, those of other names may stand between
them, and those that say nothing else than their absence may be left out.
-/
namespace Replay.Json

variable {α β δ : Type}

def keyed (members : List (String × Node)) : List (Text × Node) :=
  members.map fun m => (⟨m.1, none⟩, m.2)

namespace Record

def names (r : Record δ α) : List String := r.fields.map (·.name)

/-- Whether a field takes its part of a value: there is a draft for each set of names, which holds
the parts that have these names, and a node of the field is read to the part that is its own. -/
structure Field.Takes (f : Field δ) (room : Nat) (shows : String → Node → Prop)
    (part : (String → Bool) → δ) : Prop where
  isSet : ∀ met, f.isSet (part met) = met f.name
  read : ∀ met node, shows f.name node →
    f.read room node (part met) = .ok (part fun name => name == f.name || met name)

/-- All fields of a record take their parts of a value, whatever else has been read by then. -/
structure Gathers (r : Record δ α) (room : Nat) (shows : String → Node → Prop)
    (part : (String → Bool) → δ) : Prop where
  blank : part (fun _ => false) = r.blank
  takes : ∀ f ∈ r.fields, f.Takes room shows part

variable {r : Record δ α} {room : Nat} {shows : String → Node → Prop}
  {part : (String → Bool) → δ}

theorem Field.takes_of {name : String} {reader : Reader β} {get : δ → Option β} {set : β → δ → δ}
    {mayBeCut : Bool} (b : β) (gets : ∀ met, get (part met) = if met name then some b else none)
    (sets : ∀ met, set b (part met) = part fun other => other == name || met other)
    (reads : ∀ node, shows name node → reader room node = .ok b) :
    (Field.of name reader get set mayBeCut).Takes room shows part where
  isSet met := by
    show (get (part met)).isSome = met name
    rw [gets]
    cases met name <;> rfl
  read met node shown := by
    show (reader room node >>= fun b => pure (set b (part met))) = _
    rw [reads node shown]
    exact congrArg Except.ok (sets met)

theorem exists_field {key : String} (known : key ∈ r.names) :
    ∃ f ∈ r.fields, f.name = key ∧ r.fields.find? (·.name == key) = some f := by
  obtain ⟨f, mem, rfl⟩ := List.mem_map.mp known
  cases found : r.fields.find? (·.name == f.name) with
  | none => exact absurd (beq_self_eq_true f.name) (List.find?_eq_none.mp found f mem)
  | some g =>
    have same := List.find?_some found
    exact ⟨g, List.mem_of_find?_eq_some found, by simpa using same, rfl⟩

theorem find?_of_unknown {key : String} (unknown : key ∉ r.names) :
    r.fields.find? (·.name == key) = none := by
  refine List.find?_eq_none.mpr fun f mem same => unknown ?_
  exact beq_iff_eq.mp same ▸ List.mem_map_of_mem mem

theorem readMembers_of_known {key : String} {node : Node} {rest : List (Text × Node)} {d : δ}
    {f : Field δ} (found : r.fields.find? (·.name == key) = some f) (fresh : f.isSet d = false) :
    r.readMembers room ((⟨key, none⟩, node) :: rest) d =
      (f.read room node d >>= r.readMembers room rest) := by
  have key' : Reader.content ⟨key, none⟩ = .ok key := rfl
  unfold Record.readMembers
  rw [key']
  dsimp only [bind, Except.bind]
  rw [found]
  dsimp only
  rw [fresh]
  rfl

theorem readObject_pair {γ : Type} {first second : String} {reader : Reader β}
    {reader' : Reader γ} {get : δ → Option β} {set : β → δ → δ} {get' : δ → Option γ}
    {set' : γ → δ → δ} {mayBeCut mayBeCut' : Bool} {make : β → γ → α}
    (found : r.fields.find? (·.name == first) = some (.of first reader get set mayBeCut))
    (found' : r.fields.find? (·.name == second) = some (.of second reader' get' set' mayBeCut'))
    (fresh : (get r.blank).isSome = false) (fresh' : ∀ b, (get' (set b r.blank)).isSome = false)
    (builds : ∀ b c, r.build (set' c (set b r.blank)) = .ok (make b c)) (node node' : Node) :
    r.readObject (room + 1) [(⟨first, none⟩, node), (⟨second, none⟩, node')] .closed =
      (do return make (← reader room node) (← reader' room node')) := by
  show (r.readMembers room _ r.blank >>= fun d => r.build d) = _
  rw [readMembers_of_known found fresh]
  show ((reader room node >>= fun b => pure (set b r.blank)) >>= _) >>= _ = _
  cases reader room node with
  | error e => rfl
  | ok b =>
    show r.readMembers room [(⟨second, none⟩, node')] (set b r.blank) >>= _ = _
    rw [readMembers_of_known found' (fresh' b)]
    show ((reader' room node' >>= fun c => pure (set' c (set b r.blank))) >>= _) >>= _ = _
    cases reader' room node' with
    | error e => rfl
    | ok c => exact builds b c

theorem readMembers_of_unknown {key : String} {node : Node} {rest : List (Text × Node)} {d : δ}
    (unknown : key ∉ r.names) (sound : node.skip? = none) :
    r.readMembers room ((⟨key, none⟩, node) :: rest) d = r.readMembers room rest d := by
  have key' : Reader.content ⟨key, none⟩ = .ok key := rfl
  rw [Record.readMembers.eq_def]
  dsimp only
  rw [key']
  dsimp only [bind, Except.bind]
  rw [find?_of_unknown unknown, sound]
  rfl

theorem exists_read_of_mem {key : String} {node : Node} {f : Field δ} {nodes : List (Text × Node)}
    (found : r.fields.find? (·.name == key) = some f) (mem : (⟨key, none⟩, node) ∈ nodes) :
    ∀ {d e : δ}, r.readMembers room nodes d = .ok e → ∃ d' e', f.read room node d' = .ok e' := by
  induction nodes with
  | nil => cases mem
  | cons m rest ih =>
    obtain ⟨k, n⟩ := m
    intro d e read
    rw [Record.readMembers.eq_def] at read
    obtain ⟨name, content, read⟩ := Reader.bind_eq_ok_iff.mp read
    rcases List.mem_cons.mp mem with same | mem
    · cases same
      cases content
      rw [found] at read
      dsimp only at read
      split at read
      · cases read
      · obtain ⟨d', read, -⟩ := Reader.bind_eq_ok_iff.mp read
        exact ⟨d, d', read⟩
    · split at read
      · split at read
        · cases read
        · obtain ⟨d', -, read⟩ := Reader.bind_eq_ok_iff.mp read
          exact ih mem read
      · obtain ⟨-, -, read⟩ := Reader.bind_eq_ok_iff.mp read
        exact ih mem read

theorem exists_read_of_readObject (name : String) {reader : Reader β} {get : δ → Option β}
    {set : β → δ → δ} {mayBeCut : Bool} {node : Node} {nodes : List (Text × Node)} {a : α}
    (found : r.fields.find? (·.name == name) = some (.of name reader get set mayBeCut))
    (mem : (⟨name, none⟩, node) ∈ nodes)
    (read : r.readObject (room + 1) nodes .closed = .ok a) :
    ∃ b, reader room node = .ok b := by
  obtain ⟨d, members, -⟩ := Reader.bind_eq_ok_iff.mp
    (show (r.readMembers room nodes r.blank >>= fun d => r.build d) = .ok a from read)
  obtain ⟨d', e, read⟩ := exists_read_of_mem found mem members
  obtain ⟨b, read, -⟩ := Reader.bind_eq_ok_iff.mp
    (show (reader room node >>= fun b => pure (set b d')) = .ok e from read)
  exact ⟨b, read⟩

theorem Gathers.readMembers (gathers : r.Gathers room shows part)
    (members : List (String × Node)) : ∀ met : String → Bool,
      (∀ m ∈ members, m.1 ∈ r.names → shows m.1 m.2 ∧ met m.1 = false) →
      (∀ m ∈ members, m.1 ∉ r.names → m.2.skip? = none) →
      ((members.map Prod.fst).filter (· ∈ r.names)).Nodup →
      r.readMembers room (keyed members) (part met) = .ok (part fun name =>
        met name || decide (name ∈ r.names ∧ name ∈ members.map Prod.fst)) := by
  induction members with
  | nil =>
    intro met _ _ _
    simp [keyed, Record.readMembers]
  | cons m rest ih =>
    obtain ⟨key, node⟩ := m
    intro met known unknown once
    have unknown' : ∀ m ∈ rest, m.1 ∉ r.names → m.2.skip? = none := fun m mem =>
      unknown m (List.mem_cons_of_mem _ mem)
    have cons : keyed ((key, node) :: rest) = (⟨key, none⟩, node) :: keyed rest := rfl
    rw [cons]
    by_cases here : key ∈ r.names
    · obtain ⟨f, mem, rfl, found⟩ := exists_field here
      obtain ⟨shown, fresh⟩ := known _ List.mem_cons_self here
      rw [readMembers_of_known found (((gathers.takes f mem).isSet met).trans fresh),
        (gathers.takes f mem).read met node shown]
      rw [List.map_cons, List.filter_cons_of_pos (by simpa using here), List.nodup_cons] at once
      have later : ∀ m ∈ rest, m.1 ∈ r.names →
          shows m.1 m.2 ∧ (m.1 == f.name || met m.1) = false := by
        intro m mem' named
        obtain ⟨shown, fresh⟩ := known m (List.mem_cons_of_mem _ mem') named
        have there : m.1 ∈ rest.map Prod.fst := List.mem_map_of_mem mem'
        have other : m.1 ≠ f.name := fun same =>
          once.1 (List.mem_filter.mpr ⟨same ▸ there, by simpa using here⟩)
        simp [shown, fresh, other]
      refine (ih _ later unknown' once.2).trans (congrArg (fun met => Except.ok (part met)) ?_)
      funext name
      rw [Bool.eq_iff_iff]
      by_cases same : name = f.name <;> simp [same, here]
    · rw [readMembers_of_unknown here (unknown _ List.mem_cons_self here)]
      rw [List.map_cons, List.filter_cons_of_neg (by simpa using here)] at once
      refine (ih met (fun m mem => known m (List.mem_cons_of_mem _ mem)) unknown' once).trans
        (congrArg (fun met => Except.ok (part met)) ?_)
      funext name
      rw [Bool.eq_iff_iff]
      by_cases same : name = key <;> simp [same, here]

/-- A record is built from its members in any order, whatever members of other names there are. -/
theorem Gathers.readObject (gathers : r.Gathers room shows part) {members : List (String × Node)}
    (known : ∀ m ∈ members, m.1 ∈ r.names → shows m.1 m.2)
    (unknown : ∀ m ∈ members, m.1 ∉ r.names → m.2.skip? = none)
    (once : ((members.map Prod.fst).filter (· ∈ r.names)).Nodup) :
    r.readObject (room + 1) (keyed members) .closed = r.build (part fun name =>
      decide (name ∈ r.names ∧ name ∈ members.map Prod.fst)) := by
  have read := gathers.readMembers members (fun _ => false)
    (fun m mem named => ⟨known m mem named, rfl⟩) unknown once
  simp only [gathers.blank, Bool.false_or] at read
  show (r.readMembers room (keyed members) r.blank >>= fun d => r.build d) = _
  rw [read]
  rfl

end Record

/-! Members that are rendered -/

/-- Members that say the same as the given ones: these in any order, but for some that may be left
out, and any others whose names are none of the given ones. -/
def Renders (fields : Members) (spare : String → Prop) (members : Members) : Prop :=
  ∃ kept others, members.Perm (kept ++ others) ∧ kept.Sublist fields ∧
    (∀ m ∈ fields, m ∉ kept → spare m.1) ∧ ∀ m ∈ others, m.1 ∉ fields.map Prod.fst

section Renders

variable {fields members : Members} {spare : String → Prop}

theorem renders_self (fields : Members) (spare : String → Prop) : Renders fields spare fields :=
  ⟨fields, [], .of_eq (List.append_nil _).symm, .refl _, fun _ mem out => absurd mem out, nofun⟩

theorem Renders.mem_fields (renders : Renders fields spare members) {m : String × Json}
    (mem : m ∈ members) (named : m.1 ∈ fields.map Prod.fst) : m ∈ fields := by
  obtain ⟨kept, others, perm, sub, -, unknown⟩ := renders
  rcases List.mem_append.mp (perm.mem_iff.mp mem) with here | other
  · exact sub.subset here
  · exact absurd named (unknown m other)

theorem Renders.left_out (renders : Renders fields spare members) {name : String}
    (named : name ∈ fields.map Prod.fst) (absent : name ∉ members.map Prod.fst) : spare name := by
  obtain ⟨kept, others, perm, -, spares, -⟩ := renders
  obtain ⟨m, mem, rfl⟩ := List.mem_map.mp named
  refine spares m mem fun here => absent (List.mem_map_of_mem ?_)
  exact perm.mem_iff.mpr (List.mem_append_left _ here)

theorem Renders.exists_filter_perm (renders : Renders fields spare members) : ∃ kept,
    kept.Sublist fields ∧ (∀ m ∈ fields, m ∉ kept → spare m.1) ∧
      (members.filter fun m => m.1 ∈ fields.map Prod.fst).Perm kept := by
  obtain ⟨kept, others, perm, sub, spares, unknown⟩ := renders
  have known : (kept.filter fun m => m.1 ∈ fields.map Prod.fst) = kept :=
    List.filter_eq_self.mpr fun m mem => decide_eq_true (List.mem_map_of_mem (sub.subset mem))
  have none : (others.filter fun m => m.1 ∈ fields.map Prod.fst) = [] :=
    List.filter_eq_nil_iff.mpr fun m mem => by simpa using unknown m mem
  have mixed := perm.filter fun m => m.1 ∈ fields.map Prod.fst
  rw [List.filter_append, known, none, List.append_nil] at mixed
  exact ⟨kept, sub, spares, mixed⟩

theorem Renders.nodup (renders : Renders fields spare members)
    (once : (fields.map Prod.fst).Nodup) :
    ((members.map Prod.fst).filter (· ∈ fields.map Prod.fst)).Nodup := by
  obtain ⟨kept, sub, -, perm⟩ := renders.exists_filter_perm
  rw [List.filter_map]
  exact (perm.map Prod.fst).nodup_iff.mpr (once.sublist (sub.map Prod.fst))

theorem Renders.filter_perm (renders : Renders fields (fun _ => False) members)
    (once : (fields.map Prod.fst).Nodup) :
    (members.filter fun m => m.1 ∈ fields.map Prod.fst).Perm fields := by
  obtain ⟨kept, sub, all, perm⟩ := renders.exists_filter_perm
  have distinct : fields.Nodup := .of_map Prod.fst once
  have whole : fields.Subperm kept := List.subperm_of_subset distinct fun m mem =>
    Classical.byContradiction (all m mem)
  rwa [sub.eq_of_length_le whole.length_le] at perm

theorem Renders.mem_members (renders : Renders fields (fun _ => False) members)
    {m : String × Json} (mem : m ∈ fields) : m ∈ members := by
  obtain ⟨kept, others, perm, -, all, -⟩ := renders
  exact perm.mem_iff.mpr (List.mem_append_left _ (Classical.byContradiction (all m mem)))

end Renders

abbrev Stand (shows : Node → Json → Prop) : List (String × Node) → Members → Prop :=
  List.Forall₂ fun n m => n.1 = m.1 ∧ shows n.2 m.2

theorem Stand.map_fst {shows : Node → Json → Prop} {nodes : List (String × Node)}
    {members : Members} (stand : Stand shows nodes members) :
    nodes.map Prod.fst = members.map Prod.fst := by
  induction stand with
  | nil => rfl
  | cons first _ ih => exact congrArg₂ List.cons first.1 ih

theorem Stand.exists_of_mem {shows : Node → Json → Prop} {nodes : List (String × Node)}
    {members : Members} (stand : Stand shows nodes members) {n : String × Node} (mem : n ∈ nodes) :
    ∃ m ∈ members, n.1 = m.1 ∧ shows n.2 m.2 := by
  induction stand with
  | nil => cases mem
  | cons first _ ih =>
    rcases List.mem_cons.mp mem with rfl | mem
    · exact ⟨_, List.mem_cons_self, first⟩
    · obtain ⟨m, there, same⟩ := ih mem
      exact ⟨m, List.mem_cons_of_mem _ there, same⟩

theorem Stand.weaken {shows shows' : Node → Json → Prop} {nodes : List (String × Node)}
    {members : Members} (stand : Stand shows nodes members)
    (weaker : ∀ n j, shows n j → shows' n j) : Stand shows' nodes members :=
  stand.imp fun n m same => ⟨same.1, weaker n.2 m.2 same.2⟩

theorem exists_memberNodes (members : Members) : ∃ nodes, memberNodes members = keyed nodes ∧
    Stand (fun n j => n = j.node) nodes members := by
  refine ⟨members.map fun m => (m.1, m.2.node), ?_, ?_⟩
  · rw [memberNodes_eq, keyed, List.map_map]
    rfl
  · refine List.forall₂_map_left_iff.mpr (List.forall₂_same.mpr fun m _ => ⟨rfl, rfl⟩)

theorem Record.Gathers.readObject_of_renders {r : Record δ α} {room : Nat}
    {shows : Node → Json → Prop} {part : (String → Bool) → δ} {fields members : Members}
    {spare : String → Prop} {nodes : List (String × Node)}
    (gathers : r.Gathers room (fun name node => ∃ j, (name, j) ∈ fields ∧ shows node j) part)
    (names : fields.map Prod.fst = r.names) (once : r.names.Nodup)
    (passes : ∀ n j, shows n j → n.skip? = none) (stand : Stand shows nodes members)
    (renders : Renders fields spare members) : ∃ met : String → Bool,
      (∀ name ∈ r.names, met name = false → spare name) ∧
      r.readObject (room + 1) (keyed nodes) .closed = r.build (part met) := by
  have known : ∀ n ∈ nodes, n.1 ∈ r.names → ∃ j, (n.1, j) ∈ fields ∧ shows n.2 j := by
    intro n mem named
    obtain ⟨m, there, same, shown⟩ := stand.exists_of_mem mem
    rw [same, ← names] at named
    exact ⟨m.2, same ▸ renders.mem_fields there named, shown⟩
  have unknown : ∀ n ∈ nodes, n.1 ∉ r.names → n.2.skip? = none := by
    intro n mem _
    obtain ⟨m, -, -, shown⟩ := stand.exists_of_mem mem
    exact passes n.2 m.2 shown
  have distinct : ((nodes.map Prod.fst).filter (· ∈ r.names)).Nodup := by
    rw [stand.map_fst, ← names]
    exact renders.nodup (names ▸ once)
  refine ⟨_, fun name named absent => renders.left_out (names ▸ named) fun mem => ?_,
    gathers.readObject known unknown distinct⟩
  rw [decide_eq_false_iff_not, stand.map_fst] at absent
  exact absent ⟨named, mem⟩

theorem Record.Field.takes_of_member {fields : Members} {shows : Node → Json → Prop} {room : Nat}
    {part : (String → Bool) → δ} {name : String} {reader : Reader β} {get : δ → Option β}
    {set : β → δ → δ} {mayBeCut : Bool} {j : Json} (b : β)
    (only : ∀ k, (name, k) ∈ fields → k = j)
    (gets : ∀ met, get (part met) = if met name then some b else none)
    (sets : ∀ met, set b (part met) = part fun other => other == name || met other)
    (reads : ∀ node, shows node j → reader room node = .ok b) :
    (Field.of name reader get set mayBeCut).Takes room
      (fun name node => ∃ j, (name, j) ∈ fields ∧ shows node j) part := by
  refine takes_of b gets sets ?_
  rintro node ⟨k, mem, shown⟩
  cases only k mem
  exact reads node shown

theorem Record.Gathers.run_of_renders {r : Record δ α} {shows : Node → Json → Prop}
    {part : (String → Bool) → δ} {fields members : Members} {spare : String → Prop}
    {nodes : List (String × Node)} {text : String} {a : α}
    (gathers : r.Gathers 126 (fun name node => ∃ j, (name, j) ∈ fields ∧ shows node j) part)
    (names : fields.map Prod.fst = r.names) (once : r.names.Nodup)
    (passes : ∀ n j, shows n j → n.skip? = none)
    (builds : ∀ met, (∀ name ∈ r.names, met name = false → spare name) →
      r.build (part met) = .ok a)
    (renders : Renders fields spare members)
    (scanned : scan text = ⟨.object (keyed nodes) .closed, false⟩)
    (stand : Stand shows nodes members) : Reader.run r.reader text = .ok a := by
  obtain ⟨met, absent, read⟩ := gathers.readObject_of_renders names once passes stand renders
  rw [builds met absent] at read
  unfold Reader.run
  rw [scanned]
  show (r.readObject 127 (keyed nodes) .closed >>= fun a => pure a) = _
  rw [read]
  rfl

/-! Nodes that show values -/

inductive Node.Shape : Node → Json → Prop
  | null : Shape .null .null
  | bool (b : Bool) : Shape (.bool b) (.bool b)
  | number {n : Numeral} {m : Number} (read : n.toNumber = .ok m) : Shape (.number n) (.number m)
  | text {t : Text} {s : String} (content : t.value? = some s) : Shape (.text t) (.text s)
  | list {nodes : List Node} {items : List Json} (parts : Node.values? nodes = some items) :
      Shape (.list nodes .closed) (.list items)
  | object {nodes : List (Text × Node)} {members : Members}
      (parts : Node.members? nodes = some members) : Shape (.object nodes .closed) (.object members)

theorem shape_of_value? {node : Node} {j : Json} (shown : node.value? = some j) :
    node.Shape j := by
  unfold Node.value? at shown
  split at shown
  · cases shown
    exact .null
  · cases shown
    exact .bool _
  · split at shown
    · next read =>
      cases shown
      exact .number read
    · cases shown
  · obtain ⟨s, content, rfl⟩ := Option.map_eq_some_iff.mp shown
    exact .text content
  · obtain ⟨items, parts, rfl⟩ := Option.map_eq_some_iff.mp shown
    exact .list parts
  · obtain ⟨members, parts, rfl⟩ := Option.map_eq_some_iff.mp shown
    exact .object parts
  · cases shown

theorem skip?_of_value? {node : Node} {j : Json} (shown : node.value? = some j) :
    node.skip? = none := by
  cases shape_of_value? shown <;> rfl

theorem exists_nodes {written : List (Text × Node)} : ∀ {members : Members},
    Node.members? written = some members → ∃ nodes, written = keyed nodes ∧
      Stand (fun n j => n.value? = some j) nodes members := by
  induction written with
  | nil =>
    rintro _ ⟨⟩
    exact ⟨[], rfl, .nil⟩
  | cons first rest ih =>
    obtain ⟨key, node⟩ := first
    intro members shown
    rw [Node.members?] at shown
    split at shown
    · next k j others text value more =>
      cases shown
      obtain ⟨nodes, rfl, stand⟩ := ih more
      have sound : key = ⟨k, none⟩ := by
        unfold Text.value? at text
        split at text
        · next sound =>
          cases text
          rw [← sound]
        · cases text
      exact ⟨(k, node) :: nodes, sound ▸ rfl, .cons ⟨rfl, value⟩ stand⟩
    · cases shown

/-- A node with nothing wrong in it that shows a value. If there are floats in the value, it shows
them as they are read. -/
structure Presents (n : Node) (j : Json) : Prop where
  sound : n.skip? = none
  value : j.floats = [] → n.value? = some j

/-- A text of a value: the one that is printed, or one that spells it otherwise. -/
def IsText (j : Json) (text : String) : Prop := text = j.print ∨ Writes text.toList j

theorem exists_scan_print (members : Members) : ∃ nodes,
    scan (Json.object members).print = ⟨.object (keyed nodes) .closed, false⟩ ∧
    Stand (fun n j => n = j.node) nodes members := by
  obtain ⟨nodes, same, stand⟩ := exists_memberNodes members
  exact ⟨nodes, (scan_print _).trans (by rw [node, same]), stand⟩

theorem exists_scan_of_isText {text : String} {members : Members}
    (spells : IsText (.object members) text) : ∃ nodes,
      scan text = ⟨.object (keyed nodes) .closed, false⟩ ∧ Stand Presents nodes members := by
  rcases spells with rfl | writes
  · obtain ⟨nodes, scanned, stand⟩ := exists_scan_print members
    refine ⟨nodes, scanned, stand.weaken ?_⟩
    rintro _ j rfl
    exact ⟨skip?_node j, value?_node⟩
  · have shown := value?_of_writes writes
    generalize scan text = doc at shown
    obtain ⟨root, _ | _⟩ := doc
    · cases shape_of_value? shown with
      | object parts =>
        obtain ⟨nodes, rfl, stand⟩ := exists_nodes parts
        exact ⟨nodes, rfl, stand.weaken fun n j shown => ⟨skip?_of_value? shown, fun _ => shown⟩⟩
    · cases shown

/-- A record without floats comes back from every text of members that render its fields. -/
theorem Record.Gathers.run_of_isText {r : Record δ α} {part : (String → Bool) → δ}
    {fields members : Members} {spare : String → Prop} {text : String} {a : α}
    (gathers : r.Gathers 126 (fun name node => ∃ j, (name, j) ∈ fields ∧ Presents node j) part)
    (names : fields.map Prod.fst = r.names) (once : r.names.Nodup)
    (builds : ∀ met, (∀ name ∈ r.names, met name = false → spare name) →
      r.build (part met) = .ok a)
    (renders : Renders fields spare members) (spells : IsText (.object members) text) :
    Reader.run r.reader text = .ok a := by
  obtain ⟨nodes, scanned, stand⟩ := exists_scan_of_isText spells
  exact gathers.run_of_renders names once (fun _ _ => Presents.sound) builds renders scanned stand

@[simp] theorem floats_texts (names : List String) : (texts names).floats = [] := by
  show floatsList (names.map .text) = []
  induction names with
  | nil => rfl
  | cons name rest ih => exact ih

namespace Reader

variable {node : Node} {room : Nat} {wanted : String}

theorem text_of_value? {s : String} (shown : node.value? = some (.text s)) :
    text wanted room node = .ok s := by
  cases shape_of_value? shown with
  | text content => exact content_eq_ok_iff.mpr content

theorem optional_of_value? {t : Option String} (shown : node.value? = some (t.elim .null .text)) :
    optional (text wanted) room node = .ok t := by
  cases t with
  | none =>
    cases shape_of_value? shown
    rfl
  | some s =>
    have read : text wanted room node = .ok s := text_of_value? shown
    cases shape_of_value? shown with
    | text content =>
      show (some <$> text wanted room _) = _
      rw [read]
      rfl

theorem natural_of_value? {n : UInt64} (shown : node.value? = some (Json.natural n)) :
    natural wanted room node = .ok n := by
  cases shape_of_value? shown with
  | number read =>
    have same : UInt64.ofNat (Integer.ofUInt64 n).val.toNat = n := UInt64.ofNat_toNat
    have word : (0 : Int) ≤ (Integer.ofUInt64 n).val := Int.natCast_nonneg _
    simp only [natural, foundNumber, read, bind, Except.bind, word, same, if_true]

theorem variant_of_value? {variants : List (String × Payload α)} {name : String} {a : α}
    (known : variants.lookup name = some (.unit a)) (shown : node.value? = some (.text name)) :
    variant variants room node = .ok a := by
  cases shape_of_value? shown with
  | @text t _ content =>
    show (Reader.content t >>= fun name => payload variants name >>= Payload.readBare) = _
    rw [content_eq_ok_iff.mpr content]
    show payload variants name >>= Payload.readBare = _
    unfold payload
    rw [known]
    rfl

theorem items_of_values? {nodes : List Node} : ∀ {names : List String},
    Node.values? nodes = some (names.map .text) → items string room nodes = .ok names := by
  induction nodes with
  | nil =>
    intro names shown
    cases names with
    | nil => rfl
    | cons => cases shown
  | cons node rest ih =>
    intro names shown
    rw [Node.values?] at shown
    split at shown
    · next j js first others =>
      cases names with
      | nil => cases shown
      | cons name names =>
        cases shown
        show (do return (← string room node) :: (← items string room rest)) = _
        have first : string room node = .ok name := text_of_value? first
        rw [first, ih others]
        rfl
    · cases shown

theorem texts_of_value? {names : List String} (shown : node.value? = some (texts names)) :
    list string (room + 1) node = .ok names := by
  cases shape_of_value? shown with
  | @list nodes _ parts =>
    show (Reader.items string room nodes >>= fun read => pure read) = _
    rw [items_of_values? parts]
    rfl

end Reader

end Replay.Json
