import Replay.Proofs.Trace.RoundTrip

/-!
Events that have been read are written and read again. Where no key is repeated they come back as
they were; where one is, an event that was unknown may be known by the second reading, and from then
on it stays as it is.
-/
namespace Replay

open Json

variable {j : Json} {items : List Json} {members : Members} {key : String}

/-! Parts of a record -/

theorem Json.mem_of_member? {i : Json} (found : member? key members = some i) :
    (key, i) ∈ members := by
  have only := member?_eq_some_iff.mp found
  exact List.mem_of_mem_filter (only ▸ List.mem_singleton_self _)

theorem exists_of_mapM {α β : Type} {f : α → Option β} {as : List α} {bs : List β} {b : β}
    (all : as.mapM f = some bs) (mem : b ∈ bs) : ∃ a ∈ as, f a = some b := by
  induction as generalizing bs with
  | nil =>
    cases all
    cases mem
  | cons a as ih =>
    simp only [List.mapM_cons, Option.bind_eq_bind, Option.bind_eq_some_iff, Option.pure_def,
      Option.some.injEq] at all
    obtain ⟨first, read, rest, more, rfl⟩ := all
    rcases List.mem_cons.mp mem with rfl | mem
    · exact ⟨a, List.mem_cons_self, read⟩
    · obtain ⟨a', mem, read⟩ := ih more mem
      exact ⟨a', List.mem_cons_of_mem _ mem, read⟩

theorem length_of_mapM {α β : Type} {f : α → Option β} {as : List α} {bs : List β}
    (all : as.mapM f = some bs) : bs.length = as.length := by
  induction as generalizing bs with
  | nil =>
    cases all
    rfl
  | cons a as ih =>
    simp only [List.mapM_cons, Option.bind_eq_bind, Option.bind_eq_some_iff, Option.pure_def,
      Option.some.injEq] at all
    obtain ⟨first, -, rest, more, rfl⟩ := all
    rw [List.length_cons, ih more, List.length_cons]

theorem Json.length_of_fields? {names : List String} {js : List Json}
    (fields : j.fields? names = some js) : js.length = names.length := by
  cases j with
  | list items =>
    simp only [Json.fields?] at fields
    split at fields <;> cases fields
    assumption
  | object members => exact length_of_mapM fields
  | _ => cases fields

theorem Json.depth_lt_of_fields? {names : List String} {js : List Json} {i : Json}
    (fields : j.fields? names = some js) (mem : i ∈ js) :
    i.depth < j.depth ∧ (Distinct j → Distinct i) := by
  cases j with
  | list items =>
    simp only [Json.fields?] at fields
    split at fields <;> cases fields
    exact ⟨Nat.lt_succ_of_le (depthList_le_iff.mp (Nat.le_refl _) i mem),
      fun distinct => distinctList_iff.mp distinct i mem⟩
  | object members =>
    obtain ⟨name, -, found⟩ := exists_of_mapM fields mem
    have mem := mem_of_member? found
    exact ⟨Nat.lt_succ_of_le (depthMembers_le_iff.mp (Nat.le_refl _) _ mem),
      fun distinct => distinctMembers_iff.mp distinct.2 _ mem⟩
  | _ => cases fields

/-- A value that stands in an array. -/
inductive Value.Within : Json → Json → Prop
  | element {payload first third item value source : Json} {items : List Json}
      (fields : payload.fields? ["id", "elements", "element_type"] =
        some [first, .list items, third]) (mem : item ∈ items)
      (parts : item.fields? ["value", "source"] = some [value, source]) :
      Within value (tagged "Array" payload)

theorem Json.distinct_tagged {tag : String} {payload : Json} :
    Distinct (tagged tag payload) ↔ Distinct payload := by
  simp [tagged, Distinct, DistinctMembers]

theorem Json.depth_tagged {tag : String} {payload : Json} :
    (tagged tag payload).depth = payload.depth + 1 := by
  simp [tagged, depth, depthMembers]

theorem Value.Within.part {value : Json} (within : Within value j) :
    value.depth < j.depth ∧ (Distinct j → Distinct value) := by
  obtain @⟨payload, first, third, item, value, source, items, fields, mem, parts⟩ := within
  obtain ⟨deeper, inner⟩ := depth_lt_of_fields? parts (i := value) (by simp)
  obtain ⟨deeper', inner'⟩ := depth_lt_of_fields? fields (i := .list items) (by simp)
  have item_le := depthList_le_iff.mp (Nat.le_refl (depthList items)) item mem
  rw [depth_tagged, distinct_tagged]
  refine ⟨?_, fun distinct => inner (distinctList_iff.mp (inner' distinct) item mem)⟩
  simp only [depth] at deeper'
  omega

theorem Tracked.exists_fields {tracked : Tracked} (read : ofJson? j = some tracked) :
    ∃ value source, j.fields? ["value", "source"] = some [value, source] ∧
      tracked = ⟨.ofJson value, .ofJson source⟩ := by
  rw [ofJson?_eq] at read
  obtain ⟨fields, some, read⟩ := Option.bind_eq_some_iff.mp read
  unfold ofFields? at read
  split at read <;> cases read
  exact ⟨_, _, some, rfl⟩

theorem Tracked.listToJson_eq_map (elements : List Tracked) :
    listToJson elements = elements.map toJson := by
  induction elements with
  | nil => rfl
  | cons v rest ih => simp [listToJson, ih]

/-! Nesting -/

theorem Source.depth_toJson_le (j : Json) : (ofJson j).toJson.depth ≤ j.depth := by
  unfold ofJson
  cases read : ofJson? j with
  | none => exact depth_canonical_le j
  | some source =>
    cases shape_of_ofJson? read with
    | named => exact Nat.le_refl _
    | slot fields =>
      have := (depth_lt_of_fields? fields List.mem_cons_self).1
      simp only [Option.getD_some, toJson, depth_tagged, depth, depthMembers, natural]
      omega
    | bare bare =>
      have : source.toJson.depth = 0 := by
        simp only [List.mem_cons, List.not_mem_nil, or_false] at bare
        rcases bare with rfl | rfl | rfl <;> rfl
      simp [this]

theorem ElementType.depth_toJson_le {type : ElementType} (shape : Shape j type) :
    type.toJson.depth ≤ j.depth := by
  induction shape with
  | array _ ih =>
    simp only [toJson, depth_tagged]
    omega
  | @bare j type bare =>
    have : type.toJson.depth = 0 := by
      simp only [ElementType.bare, List.map_cons, List.map_nil, List.mem_cons, List.not_mem_nil,
        or_false] at bare
      rcases bare with rfl | rfl | rfl | rfl | rfl <;> rfl
    omega

theorem Tracked.depth_toJson_le {tracked : Tracked} (read : ofJson? j = some tracked)
    (inner : ∀ value source, j.fields? ["value", "source"] = some [value, source] →
      (Value.ofJson value).toJson.depth ≤ value.depth) : tracked.toJson.depth ≤ j.depth := by
  obtain ⟨value, source, fields, rfl⟩ := exists_fields read
  have := inner value source fields
  have := Source.depth_toJson_le source
  have := (depth_lt_of_fields? fields (i := value) (by simp)).1
  have := (depth_lt_of_fields? fields (i := source) (by simp)).1
  simp only [toJson, depth, depthMembers]
  omega

theorem Value.depth_toJson_le (j : Json) : (ofJson j).toJson.depth ≤ j.depth := by
  have inner (value : Json) (within : Within value j) := depth_toJson_le value
  unfold ofJson
  cases read : ofJson? j with
  | none => exact depth_canonical_le j
  | some value =>
    cases shape_of_ofJson? read with
    | @array payload first third items id elements type fields word all element =>
      have list := (depth_lt_of_fields? fields (i := .list items) (by simp)).1
      have third := (depth_lt_of_fields? fields (i := third) (by simp)).1
      have type := ElementType.depth_toJson_le (ElementType.shape_of_ofJson? element)
      have elements : depthList (Tracked.listToJson elements) ≤ depthList items := by
        refine depthList_le_iff.mpr fun written mem => ?_
        rw [Tracked.listToJson_eq_map] at mem
        obtain ⟨tracked, member, rfl⟩ := List.mem_map.mp mem
        obtain ⟨item, among, read⟩ := exists_of_mapM all member
        have := Tracked.depth_toJson_le read fun value source parts =>
          inner value (.element fields among parts)
        exact this.trans (depthList_le_iff.mp (Nat.le_refl _) item among)
      simp only [Option.getD_some, toJson, depth_tagged, depth, depthMembers, natural] at *
      omega
    | nil => exact Nat.zero_le _
    | _ =>
      simp only [Option.getD_some, toJson, depth_tagged, Json.integer, Json.float, depth,
        FunctionKind.toJson]
      omega
termination_by j.depth
decreasing_by exact within.part.1

theorem Event.depth_toJson_le (j : Json) : (ofJson j).toJson.depth ≤ j.depth := by
  have tracked {i : Json} {t : Tracked} (read : Tracked.ofJson? i = some t) :=
    Tracked.depth_toJson_le read fun value _ _ => Value.depth_toJson_le value
  unfold ofJson
  cases read : ofJson? j with
  | none => exact depth_canonical_le j
  | some event =>
    cases shape_of_ofJson? read with
    | @init payload location value _ fields known =>
      have := tracked known
      have := Source.depth_toJson_le location
      have := (depth_lt_of_fields? fields (i := location) (by simp)).1
      have := (depth_lt_of_fields? fields (i := value) (by simp)).1
      simp only [Option.getD_some, toJson, depth_tagged, depth, depthMembers]
      omega
    | @assign payload origin target value _ fields known =>
      have := tracked known
      have := Source.depth_toJson_le origin
      have := Source.depth_toJson_le target
      have := (depth_lt_of_fields? fields (i := origin) (by simp)).1
      have := (depth_lt_of_fields? fields (i := target) (by simp)).1
      have := (depth_lt_of_fields? fields (i := value) (by simp)).1
      simp only [Option.getD_some, toJson, depth_tagged, depth, depthMembers]
      omega
    | @compare payload left right _ _ _ fields known known' =>
      have := tracked known
      have := tracked known'
      have := (depth_lt_of_fields? fields (i := left) (by simp)).1
      have := (depth_lt_of_fields? fields (i := right) (by simp)).1
      simp only [Option.getD_some, toJson, depth_tagged, depth, depthMembers]
      omega

/-! Canonical values are read alike -/

variable {tag : String} {payload : Json}

theorem Json.length_canonical (distinct : Distinct (.object members)) :
    (sortMembers (canonicalMembers members)).length = members.length := by
  rw [(sortMembers_canonicalMembers_perm distinct.1).length_eq, canonicalMembers_eq_map,
    List.length_map]

/-- A reader that looks only into objects with a single member reads a value as its canonical form
if it does so for those. -/
theorem Json.read_canonical {α : Type} {read : Json → Option α}
    (list : ∀ items, read (.list items) = none)
    (object : ∀ members : Members, members.length ≠ 1 → read (.object members) = none)
    (distinct : Distinct j) (single : ∀ tag payload, j = tagged tag payload →
      read (tagged tag (canonical payload)) = read (tagged tag payload)) :
    read (canonical j) = read j := by
  cases j with
  | list items => rw [canonical, list, list]
  | object members =>
    by_cases one : members.length = 1
    · obtain ⟨⟨tag, payload⟩, rfl⟩ := List.length_eq_one_iff.mp one
      exact single tag payload rfl
    · rw [canonical, object members one, object _ (length_canonical distinct ▸ one)]
  | _ => rfl

@[simp] theorem Json.toText?_canonical (j : Json) : (canonical j).toText? = j.toText? := by
  cases j <;> rfl

@[simp] theorem Json.toBool?_canonical (j : Json) : (canonical j).toBool? = j.toBool? := by
  cases j <;> rfl

@[simp] theorem Json.toUInt64?_canonical (j : Json) : (canonical j).toUInt64? = j.toUInt64? := by
  cases j <;> rfl

@[simp] theorem Json.toInt64?_canonical (j : Json) : (canonical j).toInt64? = j.toInt64? := by
  cases j <;> rfl

@[simp] theorem Json.toDouble?_canonical (j : Json) : (canonical j).toDouble? = j.toDouble? := by
  cases j <;> rfl

theorem Json.named?_canonical {α : Type} (tag : String) (payload : Json)
    (variants : List (String × α)) :
    (tagged tag (canonical payload)).named? variants = (tagged tag payload).named? variants := by
  have same (name : String) :
      names name (tagged tag (canonical payload)) = names name (tagged tag payload) := by
    cases payload <;> rfl
  simp only [named?, same]

theorem Json.named?_object {α : Type} (variants : List (String × α)) (other : members.length ≠ 1) :
    (Json.object members).named? variants = none := by
  have none (name : String) : names name (.object members) = false := by
    match members, other with
    | [], _ | _ :: _ :: _, _ => simp [names]
  simp [named?, none]

theorem Json.fields?_bind_canonical {α : Type} (read : List Json → Option α)
    (names : List String) (distinct : Distinct j) (same : ∀ js, j.fields? names = some js →
      read (js.map canonical) = read js) :
    ((canonical j).fields? names).bind read = (j.fields? names).bind read := by
  rw [fields?_canonical names distinct]
  cases fields : j.fields? names with
  | none => rfl
  | some js => exact same js fields

theorem Source.ofJson?_canonical (distinct : Distinct j) : ofJson? (canonical j) = ofJson? j := by
  refine read_canonical (fun _ => rfl) (fun members other => ?_) distinct fun tag payload eq => ?_
  · rw [ofJson?.eq_2, named?_object _ other]
    rintro tag payload ⟨⟩
    exact other rfl
  · have slots := fields?_bind_canonical ofFields? ["id", "index"]
      (distinct_tagged.mp (eq ▸ distinct)) fun js fields => by
        obtain ⟨id, index, rfl⟩ := List.length_eq_two.mp (length_of_fields? fields)
        simp [ofFields?]
    have named := named?_canonical tag payload
      [("Expression", expression), ("Literal", literal), ("None", Source.none)]
    simp only [tagged] at named
    simp [tagged, ofJson?, ofPayload?, slots, named]

theorem Source.ofJson_canonical (distinct : Distinct j) : ofJson (canonical j) = ofJson j := by
  rw [ofJson, ofJson, ofJson?_canonical distinct, Raw.ofJson_canonical]

theorem ElementType.ofJson?_canonical (j : Json) (distinct : Distinct j) :
    ofJson? (canonical j) = ofJson? j := by
  refine read_canonical (fun _ => rfl) (fun members other => ?_) distinct fun tag payload eq => ?_
  · rw [ofJson?.eq_2, named?_object _ other]
    rintro tag payload ⟨⟩
    exact other rfl
  · have element := ofJson?_canonical payload (distinct_tagged.mp (eq ▸ distinct))
    have named := named?_canonical tag payload bare
    simp only [tagged] at named
    simp [tagged, ofJson?, element, named]
termination_by j.depth
decreasing_by simp [eq, depth_tagged]

theorem FunctionKind.ofJson?_canonical (distinct : Distinct j) :
    ofJson? (canonical j) = ofJson? j := by
  refine read_canonical (fun _ => rfl) (fun members other => ?_) distinct fun tag payload _ => ?_
  · rw [ofJson?.eq_2]
    rintro tag payload ⟨⟩
    exact other rfl
  · simp [tagged, ofJson?]

theorem Tracked.ofJson?_canonical (distinct : Distinct j)
    (inner : ∀ value source, j.fields? ["value", "source"] = some [value, source] →
      Value.ofJson (canonical value) = Value.ofJson value) :
    ofJson? (canonical j) = ofJson? j := by
  rw [ofJson?_eq, ofJson?_eq]
  refine fields?_bind_canonical _ _ distinct fun js fields => ?_
  obtain ⟨value, source, rfl⟩ := List.length_eq_two.mp (length_of_fields? fields)
  have := (depth_lt_of_fields? fields (i := source) (by simp)).2 distinct
  simp [ofFields?, inner value source fields, Source.ofJson_canonical this]

theorem mapM_map_congr {α β : Type} {f : α → Option β} {g : α → α} {as : List α}
    (same : ∀ a ∈ as, f (g a) = f a) : (as.map g).mapM f = as.mapM f := by
  induction as with
  | nil => rfl
  | cons a as ih =>
    simp [same a List.mem_cons_self, ih fun a mem => same a (List.mem_cons_of_mem _ mem)]

theorem Value.arrayOf?_canonical (distinct : Distinct payload)
    (inner : ∀ value, Within value (tagged "Array" payload) →
      ofJson (canonical value) = ofJson value) :
    arrayOf? (canonical payload) = arrayOf? payload := by
  rw [arrayOf?_eq, arrayOf?_eq]
  refine fields?_bind_canonical _ _ distinct fun js fields => ?_
  obtain ⟨first, elements, third, rfl⟩ := List.length_eq_three.mp (length_of_fields? fields)
  have within := (depth_lt_of_fields? fields (i := elements) (by simp)).2 distinct
  have type := ElementType.ofJson?_canonical third
    ((depth_lt_of_fields? fields (i := third) (by simp)).2 distinct)
  have all : Tracked.elementsOf? (canonical elements) = Tracked.elementsOf? elements := by
    cases elements with
    | list items =>
      simp only [canonical, canonicalList_eq_map, Tracked.elementsOf?, Tracked.all?_eq_mapM]
      refine mapM_map_congr fun item mem => Tracked.ofJson?_canonical
        (distinctList_iff.mp within item mem) fun value source parts => ?_
      exact inner value (.element fields mem parts)
    | _ => rfl
  simp [arrayOfFields?, all, type]

theorem Value.ofJson?_canonical (j : Json) (distinct : Distinct j) :
    ofJson? (canonical j) = ofJson? j := by
  have inner (value : Json) (within : Within value j) :
      ofJson (canonical value) = ofJson value := by
    rw [ofJson, ofJson, ofJson?_canonical value (within.part.2 distinct), Raw.ofJson_canonical]
  refine read_canonical (fun _ => by simp [ofJson?, named?, names]) (fun members other => ?_)
    distinct fun tag payload eq => ?_
  · rw [ofJson?.eq_2, named?_object _ other]
    rintro tag payload ⟨⟩
    exact other rfl
  · subst eq
    have distinct := distinct_tagged.mp distinct
    have array (eq : tag = "Array") : arrayOf? (canonical payload) = arrayOf? payload :=
      arrayOf?_canonical distinct (eq ▸ inner)
    have function := FunctionKind.ofJson?_canonical distinct
    have named := named?_canonical tag payload [("Nil", Value.nil)]
    simp only [tagged] at named
    simp only [tagged, ofJson?, toInt64?_canonical, toDouble?_canonical, toText?_canonical,
      toBool?_canonical, function, named]
    split_ifs <;> first | rfl | exact array ‹_›
termination_by j.depth
decreasing_by exact within.part.1

theorem Value.ofJson_canonical (distinct : Distinct j) : ofJson (canonical j) = ofJson j := by
  rw [ofJson, ofJson, ofJson?_canonical j distinct, Raw.ofJson_canonical]

theorem Tracked.ofJson?_canonical_of_distinct (distinct : Distinct j) :
    ofJson? (canonical j) = ofJson? j :=
  ofJson?_canonical distinct fun value _ fields => Value.ofJson_canonical
    ((depth_lt_of_fields? fields (i := value) (by simp)).2 distinct)

theorem Event.ofJson?_canonical (distinct : Distinct j) : ofJson? (canonical j) = ofJson? j := by
  refine read_canonical (fun _ => rfl) (fun members other => ?_) distinct fun tag payload eq => ?_
  · rw [ofJson?.eq_2]
    rintro tag payload ⟨⟩
    exact other rfl
  · subst eq
    have distinct := distinct_tagged.mp distinct
    have source {i : Json} {js : List Json} {names : List String}
        (fields : payload.fields? names = some js) (mem : i ∈ js) :
        Source.ofJson (canonical i) = Source.ofJson i :=
      Source.ofJson_canonical ((depth_lt_of_fields? fields mem).2 distinct)
    have tracked {i : Json} {js : List Json} {names : List String}
        (fields : payload.fields? names = some js) (mem : i ∈ js) :
        Tracked.ofJson? (canonical i) = Tracked.ofJson? i :=
      Tracked.ofJson?_canonical_of_distinct ((depth_lt_of_fields? fields mem).2 distinct)
    have init := fields?_bind_canonical initOf? ["location", "value"] distinct
      fun js fields => by
        obtain ⟨location, value, rfl⟩ := List.length_eq_two.mp (length_of_fields? fields)
        simp [initOf?, source fields (i := location), tracked fields (i := value)]
    have assign := fields?_bind_canonical assignOf? ["from", "to", "value"] distinct
      fun js fields => by
        obtain ⟨origin, target, value, rfl⟩ := List.length_eq_three.mp (length_of_fields? fields)
        simp [assignOf?, source fields (i := origin), source fields (i := target),
          tracked fields (i := value)]
    have compare := fields?_bind_canonical compareOf? ["left", "right", "result"] distinct
      fun js fields => by
        obtain ⟨left, right, result, rfl⟩ := List.length_eq_three.mp (length_of_fields? fields)
        simp [compareOf?, tracked fields (i := left), tracked fields (i := right)]
    simp [tagged, ofJson?, init, assign, compare]

/-! What is written repeats no key -/

theorem Source.distinct_toJson (source : Source) : Distinct source.toJson := by
  cases source with
  | unknown raw => exact distinct_of_isCanonical _ raw.isCanonical
  | _ => simp [toJson, distinct_tagged, Distinct, DistinctMembers, natural]

theorem ElementType.distinct_toJson (type : ElementType) : Distinct type.toJson := by
  induction type <;> simp_all [toJson, distinct_tagged, Distinct]

mutual

theorem Value.distinct_toJson : (value : Value) → Distinct value.toJson
  | .integer _ | .float _ | .string _ | .boolean _ | .nil | .function (.native _) => by
    simp [Value.toJson, distinct_tagged, Distinct, FunctionKind.toJson, Json.integer, Json.float]
  | .array _ elements type => by
    simp [Value.toJson, distinct_tagged, Distinct, DistinctMembers, natural,
      type.distinct_toJson, Tracked.distinct_listToJson elements]
  | .unknown raw => distinct_of_isCanonical _ raw.isCanonical

theorem Tracked.distinct_toJson : (tracked : Tracked) → Distinct tracked.toJson
  | ⟨value, source⟩ => by
    simp [Tracked.toJson, Distinct, DistinctMembers, value.distinct_toJson,
      source.distinct_toJson]

theorem Tracked.distinct_listToJson : (elements : List Tracked) →
    DistinctList (Tracked.listToJson elements)
  | [] => trivial
  | v :: rest => ⟨v.distinct_toJson, Tracked.distinct_listToJson rest⟩

end

theorem Event.distinct_toJson (event : Event) : Distinct event.toJson := by
  cases event with
  | unknown raw => exact distinct_of_isCanonical _ raw.isCanonical
  | _ => simp [toJson, distinct_tagged, Distinct, DistinctMembers, Source.distinct_toJson,
      Tracked.distinct_toJson]

/-! What is read from values without repeated keys is genuine -/

theorem Source.genuine_ofJson (distinct : Distinct j) : (ofJson j).Genuine := by
  unfold ofJson
  cases read : ofJson? j with
  | none => exact (ofJson?_canonical distinct).trans read
  | some source =>
    cases source with
    | unknown raw => exact absurd read (ofJson?_ne_unknown raw)
    | _ => trivial

theorem Tracked.allGenuine_iff {elements : List Tracked} :
    AllGenuine elements ↔ ∀ v ∈ elements, v.Genuine := by
  induction elements with
  | nil => simp [AllGenuine]
  | cons v rest ih => simp [AllGenuine, ih]

theorem Value.genuine_ofJson (j : Json) (distinct : Distinct j) : (ofJson j).Genuine := by
  have inner (value : Json) (within : Within value j) : (ofJson value).Genuine :=
    genuine_ofJson value (within.part.2 distinct)
  unfold ofJson
  cases read : ofJson? j with
  | none => exact (ofJson?_canonical j distinct).trans read
  | some value =>
    cases shape_of_ofJson? read with
    | @array payload first third items id elements type fields word all element =>
      have list := (depth_lt_of_fields? fields (i := .list items) (by simp)).2
        (distinct_tagged.mp distinct)
      refine Tracked.allGenuine_iff.mpr fun tracked mem => ?_
      obtain ⟨item, among, read⟩ := exists_of_mapM all mem
      obtain ⟨value, source, parts, rfl⟩ := Tracked.exists_fields read
      refine ⟨inner value (.element fields among parts), Source.genuine_ofJson ?_⟩
      exact (depth_lt_of_fields? parts (by simp)).2 (distinctList_iff.mp list item among)
    | _ => trivial
termination_by j.depth
decreasing_by exact within.part.1

theorem Tracked.genuine_of_ofJson? {tracked : Tracked} (read : ofJson? j = some tracked)
    (distinct : Distinct j) : tracked.Genuine := by
  obtain ⟨value, source, fields, rfl⟩ := exists_fields read
  exact ⟨Value.genuine_ofJson value ((depth_lt_of_fields? fields (by simp)).2 distinct),
    Source.genuine_ofJson ((depth_lt_of_fields? fields (by simp)).2 distinct)⟩

theorem Event.genuine_ofJson (distinct : Distinct j) : (ofJson j).Genuine := by
  unfold ofJson
  cases read : ofJson? j with
  | none => exact (ofJson?_canonical distinct).trans read
  | some event =>
    have part {tag : String} {payload i : Json} {names : List String} {js : List Json}
        (fields : payload.fields? names = some js) (distinct : Distinct (tagged tag payload))
        (mem : i ∈ js) : Distinct i :=
      (depth_lt_of_fields? fields mem).2 (distinct_tagged.mp distinct)
    cases shape_of_ofJson? read with
    | init fields known =>
      exact ⟨Source.genuine_ofJson (part fields distinct (by simp)),
        Tracked.genuine_of_ofJson? known (part fields distinct (by simp))⟩
    | assign fields known =>
      exact ⟨Source.genuine_ofJson (part fields distinct (by simp)),
        Source.genuine_ofJson (part fields distinct (by simp)),
        Tracked.genuine_of_ofJson? known (part fields distinct (by simp))⟩
    | compare fields known known' =>
      exact ⟨Tracked.genuine_of_ofJson? known (part fields distinct (by simp)),
        Tracked.genuine_of_ofJson? known' (part fields distinct (by simp))⟩

theorem Event.reread_ofJson (distinct : Distinct j) : (ofJson j).reread = ofJson j :=
  (reread_eq_iff _).mpr (genuine_ofJson distinct)

/-- An event without doubles can be read again, and comes back as it was if no key was repeated in
the text it was read from. In any case the second reading stays, if its floats are read back. -/
theorem Event.second_reading_stays {text : String} {event : Event}
    (read : parse text = .ok event) (none : event.doubles = []) :
    ∃ again, parse event.toJson.print = .ok again ∧
      (∀ j, Writes text.toList j → Distinct j → again = event) ∧
      ((∀ x ∈ again.doubles, ReadsBack x) → parse again.toJson.print = .ok again) := by
  rw [parse_eq_map, Reader.map_eq_ok_iff] at read
  obtain ⟨j, read, rfl⟩ := read
  obtain ⟨writes, depth⟩ := Json.parse_eq_ok_iff.mp read
  have shallow := (depth_toJson_le j).trans depth
  refine ⟨(ofJson j).reread, parse_print (by simp [none]) shallow, fun i writes' distinct => ?_,
    fun back => ?_⟩
  · exact reread_ofJson (writes'.unique writes ▸ distinct)
  · have again := parse_print back ((depth_toJson_le _).trans shallow)
    rwa [reread, reread_ofJson (distinct_toJson _)] at again

def Event.stuttered (value : Json) : Json :=
  tagged "Init" (.object [("location", .text "None"), ("location", .text "None"),
    ("value", .object [("value", value), ("source", .text "None")])])

theorem Event.parse_stuttered (value : Json) (floats : value.floats = [])
    (depth : value.depth ≤ 100) :
    parse (stuttered value).print = .ok (ofJson (stuttered value)) := by
  have none : (stuttered value).floats = [] := by
    simp [stuttered, Json.floats, floatsMembers, floats]
  have shallow : (stuttered value).depth ≤ Reader.maxOpen := by
    simp only [stuttered, depth_tagged, Json.depth, depthMembers, Reader.maxOpen]
    omega
  rw [parse_eq_map, Json.parse_print (by simp [none]) shallow]
  rfl

/-- An event that is spelled in another way comes back at once, and one that was unknown because of
a repeated key comes back as known. -/
theorem Event.second_reading_stays_of_stuttered :
    (∃ event again, parse (stuttered (tagged "Nil" .null)).print = .ok event ∧
      parse event.toJson.print = .ok again ∧ event ≠ again ∧
      parse again.toJson.print = .ok again) ∧
    ∃ event, parse (tagged "Init" (.list [tagged "None" .null,
        .list [tagged "Nil" .null, .text "None"]])).print = .ok event ∧
      parse event.toJson.print = .ok event := by
  constructor
  · let value := tagged "Nil" .null
    have read := parse_stuttered value (by decide) (by decide)
    have none : (ofJson (stuttered value)).doubles = [] := by decide +kernel
    obtain ⟨again, second, -, stays⟩ := second_reading_stays read none
    have known : again = .init .none ⟨.nil, .none⟩ := by
      rw [parse_print (by simp [none]) (by decide +kernel)] at second
      exact (Except.ok.inj second).symm.trans (by decide +kernel)
    subst known
    exact ⟨_, _, read, second, by decide +kernel, stays (by
      simp [doubles, Source.doubles, Tracked.doubles, Value.doubles])⟩
  · let spelled := tagged "Init" (.list [tagged "None" .null,
      .list [tagged "Nil" .null, .text "None"]])
    have floats : spelled.floats = [] := rfl
    have read : parse spelled.print = .ok (ofJson spelled) := by
      rw [parse_eq_map, Json.parse_print (by simp [floats]) (by decide)]
      rfl
    obtain ⟨again, second, same, -⟩ := second_reading_stays read (by decide +kernel)
    have spells : Writes spelled.print.toList spelled := writes_print (by simp [floats])
    have distinct : Distinct spelled := by
      simp [spelled, distinct_tagged, Distinct, DistinctList]
    rw [same spelled spells distinct] at second
    exact ⟨_, read, second⟩

/-- The second reading finds an integer where a float may stand. The text of that float is read as
the float below it, so that the third reading differs from the second. -/
theorem Event.second_reading_moves : ¬∀ (text : String) (event again : Event),
    parse text = .ok event → event.doubles = [] → parse event.toJson.print = .ok again →
      parse again.toJson.print = .ok again := by
  intro stays
  let value := tagged "Float" (Json.integer 9007199254740991)
  let again : Event := .init .none ⟨.float ⟨0x433fffffffffffff⟩, .none⟩
  have none : (ofJson (stuttered value)).doubles = [] := by decide +kernel
  have second : (ofJson (stuttered value)).reread = again := by decide +kernel
  have third : (parse again.toJson.print).toOption ≠ some again := by decide +kernel
  have read : parse (ofJson (stuttered value)).toJson.print =
      .ok (ofJson (stuttered value)).reread :=
    parse_print (by simp [none]) (by decide +kernel)
  rw [second] at read
  have same := stays _ _ _ (parse_stuttered value (by decide) (by decide)) none read
  exact third (by rw [same]; rfl)

end Replay
