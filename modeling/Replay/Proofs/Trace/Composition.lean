import Replay.Proofs.Trace.RoundTrip

/-!
Reading is total and compositional. Every JSON text is read as an event, a value and a source; what
is made of a part depends on that part alone, so what is not known becomes unknown where it stands.
-/
namespace Replay

open Json

/-! Objects as records -/

def Json.Carries (fields : Members) (j : Json) : Prop :=
  ∃ members, j = .object members ∧
    (members.filter fun m => m.1 ∈ fields.map Prod.fst).Perm fields

section Fields

variable {fields members : Members} {j : Json}

theorem Json.filter_key {m : String × Json} (nodup : (fields.map Prod.fst).Nodup)
    (mem : m ∈ fields) : fields.filter (·.1 == m.1) = [m] := by
  induction fields with
  | nil => cases mem
  | cons first rest ih =>
    simp only [List.map_cons, List.nodup_cons, List.mem_map, not_exists, not_and] at nodup
    rcases List.mem_cons.mp mem with rfl | mem
    · have none : rest.filter (·.1 == m.1) = [] := by
        simpa [List.filter_eq_nil_iff] using fun a b h eq => nodup.1 (a, b) h eq
      simp [none]
    · have other : first.1 ≠ m.1 := fun eq => nodup.1 m mem eq.symm
      simp [other, ih nodup.2 mem]

theorem Json.member?_of_perm {m : String × Json} (nodup : (fields.map Prod.fst).Nodup)
    (known : (members.filter fun m => m.1 ∈ fields.map Prod.fst).Perm fields)
    (mem : m ∈ fields) : member? m.1 members = some m.2 := by
  have within : (members.filter fun n => n.1 ∈ fields.map Prod.fst).filter (·.1 == m.1) =
      members.filter (·.1 == m.1) := by
    rw [List.filter_filter]
    refine List.filter_congr fun n _ => ?_
    have : m.1 ∈ fields.map Prod.fst := List.mem_map_of_mem mem
    by_cases same : n.1 = m.1 <;> simp_all
  have filtered := known.filter (·.1 == m.1)
  rw [within, filter_key nodup mem] at filtered
  rw [member?_eq_some_iff, List.perm_singleton.mp filtered]

theorem Json.mapM_member? {members : Members}
    (found : ∀ m ∈ fields, member? m.1 members = some m.2) :
    (fields.map Prod.fst).mapM (member? · members) = some (fields.map Prod.snd) := by
  induction fields with
  | nil => rfl
  | cons m rest ih =>
    have tail := ih fun m mem => found m (List.mem_cons_of_mem _ mem)
    simp [found m List.mem_cons_self, tail]

theorem Json.Carries.fields? (carries : Carries fields j) (nodup : (fields.map Prod.fst).Nodup) :
    j.fields? (fields.map Prod.fst) = some (fields.map Prod.snd) := by
  obtain ⟨members, rfl, known⟩ := carries
  exact mapM_member? fun m mem => member?_of_perm nodup known mem

end Fields

variable {payload j : Json}

def Json.Tracks (value source j : Json) : Prop := Carries [("value", value), ("source", source)] j

theorem Tracked.ofJson?_of_tracks {value source : Json} (tracks : Tracks value source j) :
    ofJson? j = some ⟨.ofJson value, .ofJson source⟩ := by
  have fields : j.fields? ["value", "source"] = some [value, source] :=
    Carries.fields? tracks (by simp)
  rw [ofJson?_eq, fields]
  rfl

theorem Event.ofJson_init {location value source tracked : Json}
    (carries : Carries [("location", location), ("value", tracked)] payload)
    (tracks : Tracks value source tracked) :
    ofJson (tagged "Init" payload) =
      .init (.ofJson location) ⟨.ofJson value, .ofJson source⟩ := by
  have fields : payload.fields? ["location", "value"] = some [location, tracked] :=
    carries.fields? (by simp)
  simp [ofJson, tagged, ofJson?, fields, initOf?, Tracked.ofJson?_of_tracks tracks]

theorem Event.ofJson_assign {origin target value source tracked : Json}
    (carries : Carries [("from", origin), ("to", target), ("value", tracked)] payload)
    (tracks : Tracks value source tracked) :
    ofJson (tagged "Assign" payload) =
      .assign (.ofJson origin) (.ofJson target) ⟨.ofJson value, .ofJson source⟩ := by
  have fields : payload.fields? ["from", "to", "value"] = some [origin, target, tracked] :=
    carries.fields? (by simp)
  simp [ofJson, tagged, ofJson?, fields, assignOf?, Tracked.ofJson?_of_tracks tracks]

theorem Event.ofJson_compare {left right value source value' source' : Json} {result : Bool}
    (carries : Carries [("left", left), ("right", right), ("result", .bool result)] payload)
    (tracks : Tracks value source left) (tracks' : Tracks value' source' right) :
    ofJson (tagged "Compare" payload) =
      .compare ⟨.ofJson value, .ofJson source⟩ ⟨.ofJson value', .ofJson source'⟩ result := by
  have fields : payload.fields? ["left", "right", "result"] = some [left, right, .bool result] :=
    carries.fields? (by simp)
  simp [ofJson, tagged, ofJson?, fields, compareOf?, toBool?, Tracked.ofJson?_of_tracks tracks,
    Tracked.ofJson?_of_tracks tracks']

theorem Tracked.mapM_of_tracks {items : List Json} {parts : List (Json × Json)}
    (tracks : List.Forall₂ (fun item part => Tracks part.1 part.2 item) items parts) :
    items.mapM ofJson? = some (parts.map fun part => ⟨.ofJson part.1, .ofJson part.2⟩) := by
  induction tracks with
  | nil => rfl
  | cons item _ ih => simp [ofJson?_of_tracks item, ih]

theorem Value.ofJson_array {id type : Json} {items : List Json} {parts : List (Json × Json)}
    {number : UInt64} {element : ElementType}
    (carries : Carries [("id", id), ("elements", .list items), ("element_type", type)] payload)
    (word : id.toUInt64? = some number) (known : ElementType.ofJson? type = some element)
    (tracks : List.Forall₂ (fun item part => Tracks part.1 part.2 item) items parts) :
    ofJson (tagged "Array" payload) =
      .array number (parts.map fun part => ⟨.ofJson part.1, .ofJson part.2⟩) element := by
  have fields : payload.fields? ["id", "elements", "element_type"] =
      some [id, .list items, type] := carries.fields? (by simp)
  have elements := Tracked.mapM_of_tracks tracks
  simp [ofJson, tagged, ofJson?, arrayOf?_eq, fields, arrayOfFields?, word, known,
    Tracked.elementsOf?, Tracked.all?_eq_mapM, elements]

/-! Canonical values -/

mutual

inductive Json.Same : Json → Json → Prop
  | refl (j : Json) : Same j j
  | list {items others : List Json} (same : SameList items others) :
      Same (.list items) (.list others)
  | object {members sorted others : Members} (perm : members.Perm sorted)
      (same : SameMembers sorted others) : Same (.object members) (.object others)

inductive Json.SameList : List Json → List Json → Prop
  | nil : SameList [] []
  | cons {i j : Json} {items others : List Json} (same : Same i j) (more : SameList items others) :
      SameList (i :: items) (j :: others)

inductive Json.SameMembers : Members → Members → Prop
  | nil : SameMembers [] []
  | cons {key : String} {i j : Json} {members others : Members} (same : Same i j)
      (more : SameMembers members others) : SameMembers ((key, i) :: members) ((key, j) :: others)

end

mutual

theorem Json.same_canonical : (j : Json) → Distinct j → Same (canonical j) j
  | .null | .bool _ | .number _ | .text _ => fun _ => .refl _
  | .list items => fun distinct => .list (sameList_canonicalList items distinct)
  | .object members => fun distinct =>
    .object (sortMembers_canonicalMembers_perm distinct.1)
      (sameMembers_canonicalMembers members distinct.2)

theorem Json.sameList_canonicalList : (items : List Json) → DistinctList items →
    SameList (canonicalList items) items
  | [] => fun _ => .nil
  | j :: rest => fun distinct =>
    .cons (same_canonical j distinct.1) (sameList_canonicalList rest distinct.2)

theorem Json.sameMembers_canonicalMembers : (members : List (String × Json)) →
    DistinctMembers members → SameMembers (canonicalMembers members) members
  | [] => fun _ => .nil
  | (_, j) :: rest => fun distinct =>
    .cons (same_canonical j distinct.1) (sameMembers_canonicalMembers rest distinct.2)

end

/-- What is unknown is kept as it is: in canonical form, and thus the same up to the order of
members if no key is repeated. -/
def Json.Keeps (raw : Raw) (j : Json) : Prop :=
  raw.json = canonical j ∧ (Distinct j → Same raw.json j)

theorem Json.keeps_ofJson (j : Json) : Keeps (.ofJson j) j :=
  ⟨rfl, same_canonical j⟩

theorem Value.keeps_of_unknown (unknown : ofJson? j = none) :
    ∃ raw, ofJson j = .unknown raw ∧ Keeps raw j :=
  ⟨.ofJson j, by simp [ofJson, unknown], keeps_ofJson j⟩

theorem Event.keeps_of_unknown (unknown : ofJson? j = none) :
    ∃ raw, ofJson j = .unknown raw ∧ Keeps raw j :=
  ⟨.ofJson j, by simp [ofJson, unknown], keeps_ofJson j⟩

theorem Source.keeps_of_unknown (unknown : ofJson? j = Option.none) :
    ∃ raw, ofJson j = .unknown raw ∧ Keeps raw j :=
  ⟨.ofJson j, by simp [ofJson, unknown], keeps_ofJson j⟩

/-! Texts -/

/-- Exactly the JSON texts within the limit of nesting are read, each by the value it spells, and
nothing that goes wrong is about the data. -/
def Json.ReadsAny {α : Type} (parse : String → Except ReadError α) (f : Json → α) : Prop :=
  ∀ text, (∀ a, parse text = .ok a ↔
      ∃ j, Writes text.toList j ∧ j.depth ≤ Reader.maxOpen ∧ f j = a) ∧
    ∀ e, parse text = .error e → e.category ≠ .data

theorem Json.Reader.Strict.category_ne_data {α : Type} {x : Except ReadError α}
    (strict : Reader.Strict x) {e : ReadError} (failed : x = .error e) : e.category ≠ .data := by
  obtain ⟨flaw, rfl⟩ := strict e failed
  simp only [ReadError.category]
  split <;> decide

theorem Json.readsAny_run_whole {α : Type} (f : Json → α) :
    ReadsAny (Reader.run (Reader.whole f)) f := by
  intro text
  rw [Reader.run_whole]
  refine ⟨fun a => ?_, fun e failed => ?_⟩
  · simp only [Reader.map_eq_ok_iff, parse_eq_ok_iff, and_assoc]
  · refine (strict_parse text).category_ne_data (e := e) ?_
    cases read : Json.parse text with
    | error e' => simpa [read, Functor.map, Except.map] using failed
    | ok j => simp [read, Functor.map, Except.map] at failed

theorem Trace.parse_of_writes {text : String} {items : List Json}
    (writes : Writes text.toList (.list items)) (depth : (Json.list items).depth ≤ Reader.maxOpen) :
    ∃ events, parse text = .ok events ∧ List.Forall₂ (fun item event =>
      ∀ alone : String, Writes alone.toList item → Event.parse alone = .ok event) items events := by
  refine ⟨items.map Event.ofJson, parse_eq_ok_iff.mpr ⟨items, ?_, rfl⟩, ?_⟩
  · exact Json.parse_eq_ok_iff.mpr ⟨writes, depth⟩
  · refine List.forall₂_map_right_iff.mpr (List.forall₂_same.mpr fun item mem alone spells => ?_)
    have shallow : item.depth ≤ Reader.maxOpen :=
      depthList_le_iff.mp (Nat.le_of_succ_le depth) item mem
    exact ((readsAny_run_whole Event.ofJson alone).1 _).mpr ⟨item, spells, shallow, rfl⟩

/-- What is read of each part of a value or an event is what is read of the part alone. -/
structure Compositional : Prop where
  init : ∀ {payload location tracked value source : Json},
    Carries [("location", location), ("value", tracked)] payload → Tracks value source tracked →
      Event.ofJson (tagged "Init" payload) =
        .init (.ofJson location) ⟨.ofJson value, .ofJson source⟩
  assign : ∀ {payload origin target tracked value source : Json},
    Carries [("from", origin), ("to", target), ("value", tracked)] payload →
      Tracks value source tracked → Event.ofJson (tagged "Assign" payload) =
        .assign (.ofJson origin) (.ofJson target) ⟨.ofJson value, .ofJson source⟩
  compare : ∀ {payload left right value source value' source' : Json} {result : Bool},
    Carries [("left", left), ("right", right), ("result", .bool result)] payload →
      Tracks value source left → Tracks value' source' right →
      Event.ofJson (tagged "Compare" payload) =
        .compare ⟨.ofJson value, .ofJson source⟩ ⟨.ofJson value', .ofJson source'⟩ result
  array : ∀ {payload id type : Json} {items : List Json} {parts : List (Json × Json)}
    {number : UInt64} {element : ElementType},
    Carries [("id", id), ("elements", .list items), ("element_type", type)] payload →
      id.toUInt64? = some number → ElementType.ofJson? type = some element →
      List.Forall₂ (fun item part => Tracks part.1 part.2 item) items parts →
      Value.ofJson (tagged "Array" payload) =
        .array number (parts.map fun part => ⟨.ofJson part.1, .ofJson part.2⟩) element
  unknownEvent : ∀ {j : Json}, Event.ofJson? j = none →
    ∃ raw, Event.ofJson j = .unknown raw ∧ Keeps raw j
  unknownValue : ∀ {j : Json}, Value.ofJson? j = none →
    ∃ raw, Value.ofJson j = .unknown raw ∧ Keeps raw j
  unknownSource : ∀ {j : Json}, Source.ofJson? j = none →
    ∃ raw, Source.ofJson j = .unknown raw ∧ Keeps raw j

/-- A text that is JSON is read whatever it says, and what is not known in it stays where it is. -/
theorem Trace.damage_stays_local :
    ReadsAny Event.parse Event.ofJson ∧ ReadsAny (Reader.run Value.reader) Value.ofJson ∧
    ReadsAny (Reader.run Source.reader) Source.ofJson ∧
    (∀ {text : String} {items : List Json}, Writes text.toList (.list items) →
      (Json.list items).depth ≤ Reader.maxOpen →
      ∃ events, Trace.parse text = .ok events ∧ List.Forall₂ (fun item event =>
        ∀ alone : String, Writes alone.toList item → Event.parse alone = .ok event)
        items events) ∧
    Compositional :=
  ⟨readsAny_run_whole _, readsAny_run_whole _, readsAny_run_whole _, Trace.parse_of_writes,
    { init := Event.ofJson_init, assign := Event.ofJson_assign, compare := Event.ofJson_compare
      array := Value.ofJson_array, unknownEvent := Event.keeps_of_unknown
      unknownValue := Value.keeps_of_unknown, unknownSource := Source.keeps_of_unknown }⟩

def Event.shuffledValue : Json := .object [("source", .text "Literal"), ("value", .list [])]

def Event.shuffled : Json :=
  .object [("value", shuffledValue), ("line", .null), ("location", .text "None")]

theorem Trace.damage_stays_local_of_shuffled :
    ∃ later event raw,
      Trace.parse (Json.list [tagged "Later" .null, tagged "Init" Event.shuffled]).print =
        .ok [later, event] ∧
      Event.parse (tagged "Init" Event.shuffled).print = .ok event ∧
      event = .init .none ⟨.unknown raw, .literal⟩ ∧ raw.json = .list [] := by
  have spells (j : Json) (floats : j.floats = []) : Writes j.print.toList j :=
    writes_print (by simp [floats])
  obtain ⟨total, -, -, items, parts⟩ := damage_stays_local
  obtain ⟨events, read, alone⟩ := items
    (spells (.list [tagged "Later" .null, tagged "Init" Event.shuffled]) rfl) (by decide)
  obtain _ | ⟨-, _ | ⟨shuffled, _ | _⟩⟩ := alone
  have single := shuffled _ (spells _ rfl)
  refine ⟨_, _, .ofJson (.list []), read, single, ?_, rfl⟩
  have fields : Carries [("location", .text "None"), ("value", Event.shuffledValue)]
      Event.shuffled := ⟨_, rfl, by decide +kernel⟩
  have tracks : Tracks (.list []) (.text "Literal") Event.shuffledValue :=
    ⟨_, rfl, by decide +kernel⟩
  obtain ⟨j, spelled, -, rfl⟩ := ((total _).1 _).mp single
  rw [spelled.unique (spells _ rfl), parts.init fields tracks]
  obtain ⟨raw, value, kept⟩ := parts.unknownValue (j := .list []) (by decide +kernel)
  rw [value, show raw = .ofJson (.list []) from Raw.ext kept.1]
  rfl

end Replay
