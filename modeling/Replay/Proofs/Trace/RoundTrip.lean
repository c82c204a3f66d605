import Replay.Proofs.Trace.Shapes
import Replay.Trace.Parse

/-!
Events that are written and read again. They come back as they were exactly if nothing that is kept
as unknown has a known shape of its own.
-/
namespace Replay

open Json
open Decimal (Double)

/-! Doubles -/

def Source.doubles : Source → List Double
  | unknown raw => raw.json.floats
  | _ => []

mutual

/-- The floats of a value, and the doubles in what is kept as unknown. -/
def Value.doubles : Value → List Double
  | .float x => [x]
  | .array _ elements _ => Tracked.listDoubles elements
  | .unknown raw => raw.json.floats
  | _ => []

def Tracked.doubles : Tracked → List Double
  | ⟨value, source⟩ => value.doubles ++ source.doubles

def Tracked.listDoubles : List Tracked → List Double
  | [] => []
  | v :: rest => v.doubles ++ Tracked.listDoubles rest

end

def Event.doubles : Event → List Double
  | init location value => location.doubles ++ value.doubles
  | assign source target value => source.doubles ++ target.doubles ++ value.doubles
  | .compare left right _ => left.doubles ++ right.doubles
  | unknown raw => raw.json.floats

@[simp] theorem Json.floats_tagged (tag : String) (payload : Json) :
    (tagged tag payload).floats = payload.floats := by
  simp [tagged, floats, floatsMembers]

theorem Source.floats_toJson (source : Source) : source.toJson.floats = source.doubles := by
  cases source <;> simp [toJson, doubles, floats, floatsMembers, natural]

theorem ElementType.floats_toJson (type : ElementType) : type.toJson.floats = [] := by
  induction type <;> simp_all [toJson, floats]

mutual

theorem Value.floats_toJson : (value : Value) → value.toJson.floats = value.doubles
  | .integer _ | .float _ | .string _ | .boolean _ | .nil => by
    simp [Value.toJson, Value.doubles, floats, Json.integer, Json.float]
  | .array _ elements type => by
    simp [Value.toJson, Value.doubles, floats, floatsMembers, natural, type.floats_toJson,
      Tracked.floats_listToJson elements]
  | .function (.native _) => by
    simp [Value.toJson, Value.doubles, floats, FunctionKind.toJson]
  | .unknown _ => rfl

theorem Tracked.floats_toJson : (tracked : Tracked) → tracked.toJson.floats = tracked.doubles
  | ⟨value, source⟩ => by
    simp [Tracked.toJson, Tracked.doubles, floats, floatsMembers, value.floats_toJson,
      source.floats_toJson]

theorem Tracked.floats_listToJson : (elements : List Tracked) →
    floatsList (Tracked.listToJson elements) = Tracked.listDoubles elements
  | [] => rfl
  | v :: rest => by
    simp [Tracked.listToJson, Tracked.listDoubles, floatsList, v.floats_toJson,
      Tracked.floats_listToJson rest]

end

theorem Event.floats_toJson (event : Event) : event.toJson.floats = event.doubles := by
  cases event <;> simp [toJson, doubles, floats, floatsMembers, Source.floats_toJson,
    Tracked.floats_toJson]

/-! Unknown parts -/

def Source.Genuine : Source → Prop
  | unknown raw => ofJson? raw.json = Option.none
  | _ => True

mutual

def Value.Genuine : Value → Prop
  | .array _ elements _ => Tracked.AllGenuine elements
  | .unknown raw => Value.ofJson? raw.json = none
  | _ => True

def Tracked.Genuine : Tracked → Prop
  | ⟨value, source⟩ => value.Genuine ∧ source.Genuine

def Tracked.AllGenuine : List Tracked → Prop
  | [] => True
  | v :: rest => v.Genuine ∧ Tracked.AllGenuine rest

end

def Event.Genuine : Event → Prop
  | init location value => location.Genuine ∧ value.Genuine
  | assign source target value => source.Genuine ∧ target.Genuine ∧ value.Genuine
  | .compare left right _ => left.Genuine ∧ right.Genuine
  | unknown raw => ofJson? raw.json = none

theorem Source.ofJson_toJson_iff (source : Source) :
    ofJson source.toJson = source ↔ source.Genuine := by
  cases source with
  | unknown raw =>
    rw [toJson, ofJson, Raw.ofJson_json, Option.getD_eq_iff]
    simp [Genuine, ofJson?_ne_unknown]
  | _ => simp [toJson, ofJson, ofJson?, tagged, ofPayload?, fields?, member?, ofFields?, toText?,
      Genuine, named?, names, natural, toUInt64?]

theorem ElementType.ofJson?_toJson (type : ElementType) : ofJson? type.toJson = some type := by
  induction type with
  | array element ih => simp [toJson, tagged, ofJson?, ih]
  | _ => simp [toJson, ofJson?, named?, bare, names]

def Value.reread (value : Value) : Value := ofJson value.toJson

def Tracked.reread : Tracked → Tracked
  | ⟨value, source⟩ => ⟨value.reread, .ofJson source.toJson⟩

theorem Tracked.ofJson?_toJson (tracked : Tracked) :
    ofJson? tracked.toJson = some tracked.reread := by
  obtain ⟨value, source⟩ := tracked
  rw [ofJson?_eq]
  simp [toJson, fields?, member?, ofFields?, reread, Value.reread]

theorem Tracked.mapM_listToJson (elements : List Tracked) :
    (listToJson elements).mapM ofJson? = some (elements.map reread) := by
  induction elements with
  | nil => rfl
  | cons v rest ih => simp [listToJson, ofJson?_toJson, ih]

theorem Value.reread_array (id : UInt64) (elements : List Tracked) (type : ElementType) :
    reread (.array id elements type) = .array id (elements.map Tracked.reread) type := by
  have elems : Tracked.elementsOf? (.list (Tracked.listToJson elements)) =
      some (elements.map Tracked.reread) := by
    rw [Tracked.elementsOf?, Tracked.all?_eq_mapM, Tracked.mapM_listToJson]
  have record : arrayOf? (.object [("id", natural id),
      ("elements", .list (Tracked.listToJson elements)), ("element_type", type.toJson)]) =
      some (.array id (elements.map Tracked.reread) type) := by
    rw [arrayOf?_eq]
    simp [fields?, member?, arrayOfFields?, elems, natural, toUInt64?, ElementType.ofJson?_toJson]
  simp [reread, toJson, ofJson, tagged, ofJson?, record]

mutual

theorem Value.reread_eq_iff : (value : Value) → (value.reread = value ↔ value.Genuine)
  | .integer _ | .float _ | .string _ | .boolean _ | .nil | .function (.native _) => by
    simp [Value.reread, Value.toJson, Value.ofJson, tagged, Value.ofJson?, toInt64?, toDouble?,
      toText?, toBool?, FunctionKind.toJson, FunctionKind.ofJson?, Json.integer, Json.float,
      Value.Genuine, named?, names]
  | .array id elements type => by
    rw [Value.reread_array, Value.Genuine, ← Tracked.map_reread_eq_iff elements]
    simp
  | .unknown raw => by
    rw [Value.reread, Value.toJson, Value.ofJson, Raw.ofJson_json, Option.getD_eq_iff]
    simp [Value.Genuine, Value.ofJson?_ne_unknown]

theorem Tracked.reread_eq_iff : (tracked : Tracked) → (tracked.reread = tracked ↔ tracked.Genuine)
  | ⟨value, source⟩ => by
    simp [Tracked.reread, Tracked.Genuine, value.reread_eq_iff, source.ofJson_toJson_iff]

theorem Tracked.map_reread_eq_iff : (elements : List Tracked) →
    (elements.map Tracked.reread = elements ↔ Tracked.AllGenuine elements)
  | [] => by simp [Tracked.AllGenuine]
  | v :: rest => by
    simp [Tracked.AllGenuine, v.reread_eq_iff, Tracked.map_reread_eq_iff rest]

end

def Event.reread (event : Event) : Event := ofJson event.toJson

theorem Event.reread_eq_iff (event : Event) : event.reread = event ↔ event.Genuine := by
  cases event with
  | unknown raw =>
    rw [reread, toJson, ofJson, Raw.ofJson_json, Option.getD_eq_iff]
    simp [Genuine, ofJson?_ne_unknown]
  | _ =>
    simp [reread, toJson, ofJson, tagged, ofJson?, fields?, member?, initOf?, assignOf?,
      compareOf?, toBool?, Genuine, Tracked.ofJson?_toJson, Tracked.reread_eq_iff,
      Source.ofJson_toJson_iff]

/-! Texts -/

theorem Json.Reader.run_whole {α : Type} (f : Json → α) (text : String) :
    Reader.run (Reader.whole f) text = f <$> Json.parse text := by
  unfold Json.parse Reader.run Reader.whole
  dsimp only
  cases Reader.any Reader.maxOpen (scan text).root with
  | error e => rfl
  | ok j => cases (scan text).trailing <;> rfl

theorem Event.parse_eq_map (text : String) : parse text = ofJson <$> Json.parse text :=
  Reader.run_whole ofJson text

theorem Event.parse_print {event : Event} (back : ∀ x ∈ event.doubles, ReadsBack x)
    (depth : event.toJson.depth ≤ Reader.maxOpen) :
    parse event.toJson.print = .ok event.reread := by
  rw [parse_eq_map, Json.parse_print (event.floats_toJson ▸ back) depth]
  rfl

theorem Json.Reader.items_whole {α : Type} (f : Json → α) (room : Nat) (nodes : List Node) :
    Reader.items (Reader.whole f) room nodes = List.map f <$> Reader.anyItems room nodes := by
  induction nodes with
  | nil => rfl
  | cons node rest ih =>
    simp only [Reader.items, Reader.anyItems, ih, Reader.whole]
    cases Reader.any room node with
    | error e => rfl
    | ok j => cases Reader.anyItems room rest <;> rfl

theorem Json.Reader.wrongKind_ne_ok {α : Type} {wanted : String} {node : Node} {a : α} :
    Reader.wrongKind wanted node ≠ .ok a := by
  unfold Reader.wrongKind
  cases Reader.found node <;> nofun

theorem Json.Reader.map_eq_ok_iff {α β : Type} {f : α → β} {x : Except ReadError α} {b : β} :
    f <$> x = .ok b ↔ ∃ a, x = .ok a ∧ f a = b := by
  cases x <;> simp [Functor.map, Except.map]

theorem Json.Reader.list_whole {α : Type} (f : Json → α) (room : Nat) (node : Node) (as : List α) :
    Reader.list (Reader.whole f) room node = .ok as ↔
      ∃ js, Reader.any room node = .ok (.list js) ∧ js.map f = as := by
  cases node with
  | list nodes ending =>
    simp only [Reader.list, Reader.any, Reader.items_whole, Reader.bind_eq_ok_iff,
      Reader.pure_eq_ok_iff, Reader.map_eq_ok_iff]
    constructor
    · rintro ⟨inside, enter, _, ⟨js, read, rfl⟩, u, closed, rfl⟩
      exact ⟨js, ⟨inside, enter, js, read, u, closed, rfl⟩, rfl⟩
    · rintro ⟨js, ⟨inside, enter, _, read, u, closed, ⟨⟩⟩, rfl⟩
      exact ⟨inside, enter, _, ⟨js, read, rfl⟩, u, closed, rfl⟩
  | number n =>
    cases value : n.toNumber <;>
      simp [Reader.list, Reader.wrongKind_ne_ok, Reader.any_eq_ok_iff, Node.value?, value]
  | object members ending =>
    cases ending <;>
      simp [Reader.list, Reader.wrongKind_ne_ok, Reader.any_eq_ok_iff, Node.value?]
  | _ => simp [Reader.list, Reader.wrongKind_ne_ok, Reader.any_eq_ok_iff, Node.value?]

theorem Trace.parse_eq_ok_iff {text : String} {events : Trace} :
    parse text = .ok events ↔
      ∃ js, Json.parse text = .ok (.list js) ∧ js.map Event.ofJson = events := by
  simp only [parse, Trace.reader, Event.reader, Reader.run, Json.parse, Reader.bind_eq_ok_iff,
    Reader.list_whole]
  cases (scan text).trailing with
  | true => simp [Reader.raise]
  | false =>
    simp only [Bool.false_eq_true, reduceIte, Reader.pure_eq_ok_iff]
    constructor
    · rintro ⟨_, ⟨js, read, rfl⟩, rfl⟩
      exact ⟨js, ⟨_, read, rfl⟩, rfl⟩
    · rintro ⟨js, ⟨_, read, rfl⟩, rfl⟩
      exact ⟨_, ⟨js, read, rfl⟩, rfl⟩

def Trace.toJson (events : Trace) : Json := .list (events.map Event.toJson)

/-- The text of an event is read as the event exactly if nothing in it that is unknown has a known
shape, and a trace of events that are read so is read as itself. -/
theorem Trace.reads_what_it_writes :
    (∀ event : Event, event.doubles = [] → event.toJson.depth ≤ Reader.maxOpen →
      (Event.parse event.toJson.print = .ok event ↔ event.Genuine)) ∧
    ∀ events : Trace, (∀ event ∈ events, event.doubles = [] ∧
        Event.parse event.toJson.print = .ok event) →
      (Trace.toJson events).depth ≤ Reader.maxOpen →
      Trace.parse (Trace.toJson events).print = .ok events := by
  have single (event : Event) (none : event.doubles = [])
      (depth : event.toJson.depth ≤ Reader.maxOpen) :
      Event.parse event.toJson.print = .ok event ↔ event.Genuine := by
    rw [Event.parse_print (by simp [none]) depth, Except.ok.injEq, event.reread_eq_iff]
  refine ⟨single, fun events back depth => ?_⟩
  have none : (Trace.toJson events).floats = [] := by
    refine List.eq_nil_iff_forall_not_mem.mpr fun x mem => ?_
    obtain ⟨j, written, within⟩ := mem_floatsList.mp mem
    obtain ⟨event, member, rfl⟩ := List.mem_map.mp written
    rw [event.floats_toJson, (back event member).1] at within
    exact List.not_mem_nil within
  have read : Json.parse (Trace.toJson events).print = .ok (Trace.toJson events) :=
    Json.parse_print (by simp [none]) depth
  refine Trace.parse_eq_ok_iff.mpr ⟨events.map Event.toJson, read, ?_⟩
  rw [List.map_map]
  refine (List.map_congr_left fun event mem => ?_).trans (List.map_id events)
  have shallow : event.toJson.depth ≤ Reader.maxOpen :=
    depthList_le_iff.mp (Nat.le_of_succ_le depth) _ (List.mem_map_of_mem mem)
  have same := (back event mem).2
  rw [Event.parse_print (by simp [(back event mem).1]) shallow] at same
  exact Except.ok.inj same

def Event.partlyKnown : Event :=
  .init (.variable "x") ⟨.array 1 [⟨.unknown (.ofJson (tagged "Later" .null)), .slot 1 0⟩] .integer,
    .unknown (.ofJson (.list []))⟩

/-- The event comes back unless it is kept as unknown itself. -/
theorem Trace.reads_what_it_writes_of_partlyKnown :
    let known := Event.partlyKnown
    let unknown := Event.unknown (.ofJson known.toJson)
    Event.parse known.toJson.print = .ok known ∧
      Trace.parse (toJson [known, known]).print = .ok [known, known] ∧
      Event.parse unknown.toJson.print ≠ .ok unknown := by
  intro known unknown
  have none : known.doubles = [] := by decide +kernel
  have value : Value.ofJson? (Raw.ofJson (tagged "Later" .null)).json = Option.none := by
    decide +kernel
  have source : Source.ofJson? (Raw.ofJson (.list [])).json = Option.none := by decide +kernel
  have back : Event.parse known.toJson.print = .ok known :=
    (reads_what_it_writes.1 known none (by decide +kernel)).mpr
      ⟨trivial, ⟨⟨value, trivial⟩, trivial⟩, source⟩
  refine ⟨back, reads_what_it_writes.2 [known, known] ?_ (by decide +kernel), fun same => ?_⟩
  · simp [none, back]
  · have genuine := (reads_what_it_writes.1 unknown (by decide +kernel) (by decide +kernel)).mp same
    have known : (Event.ofJson? (Raw.ofJson known.toJson).json).isSome = true := by decide +kernel
    rw [show Event.ofJson? _ = Option.none from genuine] at known
    cases known

end Replay
