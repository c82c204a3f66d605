import Replay.Proofs.Json.Distinct

/-!
The shapes of JSON that are read as known values, sources and events. Records are read through
their fields alone.
-/
namespace Replay

open Json
open Decimal (Double)

variable {j : Json} {items : List Json} {members : Members}

/-! Records -/

namespace Tracked

def ofFields? : List Json → Option Tracked
  | [value, source] => some ⟨.ofJson value, .ofJson source⟩
  | _ => none

theorem valuesIn_eq_map (members : Members) : valuesIn members =
    (members.filter (·.1 == "value")).map fun m => Value.ofJson m.2 := by
  induction members with
  | nil => rfl
  | cons m rest ih =>
    obtain ⟨key, j⟩ := m
    by_cases h : key = "value" <;> simp [valuesIn, h, ih, Value.ofJson]

theorem elementsIn_eq_map (members : Members) : elementsIn members =
    (members.filter (·.1 == "elements")).map fun m => elementsOf? m.2 := by
  induction members with
  | nil => rfl
  | cons m rest ih =>
    obtain ⟨key, j⟩ := m
    by_cases h : key = "elements" <;> simp [elementsIn, h, ih]

theorem ofJson?_eq (j : Json) :
    ofJson? j = (j.fields? ["value", "source"]).bind ofFields? := by
  cases j with
  | object members =>
    simp only [ofJson?, valuesIn_eq_map, fields?, member?, List.mapM_cons, List.mapM_nil]
    generalize members.filter (fun m => m.1 == "value") = found
    generalize members.filter (fun m => m.1 == "source") = found'
    rcases found with _ | ⟨value, _ | _⟩ <;> rcases found' with _ | ⟨source, _ | _⟩ <;> rfl
  | list items =>
    rcases items with _ | ⟨value, _ | ⟨source, _ | _⟩⟩ <;>
      simp [ofJson?, fields?, ofFields?, Value.ofJson]
  | _ => rfl

theorem all?_eq_mapM (items : List Json) : all? items = items.mapM ofJson? := by
  induction items with
  | nil => rfl
  | cons j rest ih =>
    rw [all?, ih, List.mapM_cons]
    cases ofJson? j <;> cases rest.mapM ofJson? <;> rfl

end Tracked

namespace Value

def arrayOfFields? : List Json → Option Value
  | [id, elements, type] => do
    let elements ← Tracked.elementsOf? elements
    return .array (← id.toUInt64?) elements (← ElementType.ofJson? type)
  | _ => none

theorem arrayOf?_eq (j : Json) :
    arrayOf? j = (j.fields? ["id", "elements", "element_type"]).bind arrayOfFields? := by
  cases j with
  | object members =>
    simp only [arrayOf?, Tracked.elementsIn_eq_map, fields?, List.mapM_cons, List.mapM_nil]
    rw [member?.eq_1 "elements"]
    generalize member? "id" members = id
    generalize member? "element_type" members = type
    generalize members.filter (fun m => m.1 == "elements") = found
    rcases found with _ | ⟨⟨_, elements⟩, _ | _⟩
    · cases id <;> cases type <;> simp
    · cases h : Tracked.elementsOf? elements <;> cases id <;> cases type <;>
        simp [arrayOfFields?, h]
    · cases id <;> cases type <;> simp
  | list items =>
    by_cases three : items.length = 3
    · obtain ⟨id, elements, type, rfl⟩ := List.length_eq_three.mp three
      cases h : Tracked.elementsOf? elements <;> simp [arrayOf?, fields?, arrayOfFields?, h]
    · rcases items with _ | ⟨_, _ | ⟨_, _ | ⟨_, _ | _⟩⟩⟩ <;> simp_all [arrayOf?, fields?]
  | _ => rfl

end Value

/-! The known shapes -/

theorem Json.mem_of_named? {α : Type} {variants : List (String × α)} {a : α}
    (named : j.named? variants = some a) : a ∈ variants.map Prod.snd := by
  obtain ⟨v, found, rfl⟩ := Option.map_eq_some_iff.mp named
  exact List.mem_map_of_mem (List.mem_of_find?_eq_some found)

theorem Json.toText?_eq_some {s : String} (text : j.toText? = some s) : j = .text s := by
  cases j <;> cases text
  rfl

theorem Json.toBool?_eq_some {b : Bool} (bool : j.toBool? = some b) : j = .bool b := by
  cases j <;> cases bool
  rfl

inductive Source.Shape : Json → Source → Prop
  | named (name : String) : Shape (tagged "Variable" (.text name)) (.variable name)
  | slot {payload first second : Json} {array index : UInt64}
      (fields : payload.fields? ["id", "index"] = some [first, second])
      (id : first.toUInt64? = some array) (place : second.toUInt64? = some index) :
      Shape (tagged "ArraySlot" payload) (.slot array index)
  | bare {j : Json} {source : Source} (bare : source ∈ [.expression, .literal, .none]) :
      Shape j source

theorem Source.shape_of_ofJson? {source : Source} (read : ofJson? j = some source) :
    Shape j source := by
  unfold ofJson? at read
  split at read
  · rename_i tag payload
    rcases Option.or_eq_some_iff.mp read with known | ⟨-, named⟩
    · unfold ofPayload? at known
      split_ifs at known with htag htag'
      · obtain ⟨name, text, rfl⟩ := Option.map_eq_some_iff.mp known
        rw [htag, toText?_eq_some text]
        exact .named name
      · obtain ⟨fields, some, known⟩ := Option.bind_eq_some_iff.mp known
        unfold ofFields? at known
        split at known
        · simp only [Option.bind_eq_bind, Option.bind_eq_some_iff, Option.pure_def,
            Option.some.injEq] at known
          obtain ⟨array, id, index, place, rfl⟩ := known
          exact htag' ▸ .slot some id place
        · cases known
    · exact .bare (mem_of_named? named)
  · exact .bare (mem_of_named? read)

theorem Source.ofJson?_ne_unknown (raw : Raw) : ofJson? j ≠ some (.unknown raw) := by
  intro read
  generalize known : Source.unknown raw = source at read
  cases shape_of_ofJson? read with
  | named | slot => cases known
  | bare bare => simp [← known] at bare

inductive ElementType.Shape : Json → ElementType → Prop
  | array {payload : Json} {element : ElementType} (shape : Shape payload element) :
      Shape (tagged "Array" payload) (.array element)
  | bare {j : Json} {type : ElementType} (bare : type ∈ bare.map Prod.snd) : Shape j type

theorem ElementType.shape_of_ofJson? {type : ElementType} (read : ofJson? j = some type) :
    Shape j type := by
  fun_induction ofJson? j generalizing type with
  | case1 payload ih =>
    obtain ⟨element, known, rfl⟩ := Option.map_eq_some_iff.mp read
    exact .array (ih known)
  | case2 tag payload other => exact .bare (mem_of_named? read)
  | case3 j other => exact .bare (mem_of_named? read)

inductive Value.Shape : Json → Value → Prop
  | integer {payload : Json} {n : Int64} (number : payload.toInt64? = some n) :
      Shape (tagged "Integer" payload) (.integer n)
  | float {payload : Json} {x : Double} (number : payload.toDouble? = some x) :
      Shape (tagged "Float" payload) (.float x)
  | string (s : String) : Shape (tagged "String" (.text s)) (.string s)
  | boolean (b : Bool) : Shape (tagged "Boolean" (.bool b)) (.boolean b)
  | nil {j : Json} : Shape j .nil
  | native (name : String) :
      Shape (tagged "Function" (tagged "Native" (.text name))) (.function (.native name))
  | array {payload first third : Json} {items : List Json} {id : UInt64} {elements : List Tracked}
      {type : ElementType}
      (fields : payload.fields? ["id", "elements", "element_type"] =
        some [first, .list items, third])
      (word : first.toUInt64? = some id) (all : items.mapM Tracked.ofJson? = some elements)
      (element : ElementType.ofJson? third = some type) :
      Shape (tagged "Array" payload) (.array id elements type)

theorem Value.shape_of_ofJson? {value : Value} (read : ofJson? j = some value) :
    Shape j value := by
  unfold ofJson? at read
  split at read
  · rename_i tag payload
    split_ifs at read with integer float string boolean function array
    · obtain ⟨n, number, rfl⟩ := Option.map_eq_some_iff.mp read
      exact integer ▸ .integer number
    · obtain ⟨x, number, rfl⟩ := Option.map_eq_some_iff.mp read
      exact float ▸ .float number
    · obtain ⟨s, text, rfl⟩ := Option.map_eq_some_iff.mp read
      rw [string, toText?_eq_some text]
      exact .string s
    · obtain ⟨b, bool, rfl⟩ := Option.map_eq_some_iff.mp read
      rw [boolean, toBool?_eq_some bool]
      exact .boolean b
    · obtain ⟨kind, known, rfl⟩ := Option.map_eq_some_iff.mp read
      unfold FunctionKind.ofJson? at known
      split at known
      · split_ifs at known with native
        obtain ⟨name, text, rfl⟩ := Option.map_eq_some_iff.mp known
        rw [function, native, toText?_eq_some text]
        exact .native name
      · cases known
    · rw [arrayOf?_eq] at read
      obtain ⟨fields, some, known⟩ := Option.bind_eq_some_iff.mp read
      unfold arrayOfFields? at known
      split at known
      · simp only [Option.bind_eq_bind, Option.bind_eq_some_iff, Option.pure_def,
          Option.some.injEq] at known
        obtain ⟨elements, all, id, word, type, element, rfl⟩ := known
        unfold Tracked.elementsOf? at all
        split at all
        · rw [Tracked.all?_eq_mapM] at all
          exact array ▸ .array some word all element
        · cases all
      · cases known
    · obtain ⟨⟩ : value = .nil := by simpa using mem_of_named? read
      exact .nil
  · obtain ⟨⟩ : value = .nil := by simpa using mem_of_named? read
    exact .nil

theorem Value.ofJson?_ne_unknown (raw : Raw) : ofJson? j ≠ some (.unknown raw) := by
  intro read
  generalize known : Value.unknown raw = value at read
  cases shape_of_ofJson? read <;> cases known

inductive Event.Shape : Json → Event → Prop
  | init {payload location value : Json} {tracked : Tracked}
      (fields : payload.fields? ["location", "value"] = some [location, value])
      (known : Tracked.ofJson? value = some tracked) :
      Shape (tagged "Init" payload) (.init (.ofJson location) tracked)
  | assign {payload source target value : Json} {tracked : Tracked}
      (fields : payload.fields? ["from", "to", "value"] = some [source, target, value])
      (known : Tracked.ofJson? value = some tracked) :
      Shape (tagged "Assign" payload) (.assign (.ofJson source) (.ofJson target) tracked)
  | compare {payload left right : Json} {first second : Tracked} {result : Bool}
      (fields : payload.fields? ["left", "right", "result"] = some [left, right, .bool result])
      (known : Tracked.ofJson? left = some first) (known' : Tracked.ofJson? right = some second) :
      Shape (tagged "Compare" payload) (.compare first second result)

theorem Event.shape_of_ofJson? {event : Event} (read : ofJson? j = some event) :
    Shape j event := by
  unfold ofJson? at read
  split at read
  · rename_i tag payload
    split_ifs at read with init assign compare
    · obtain ⟨fields, some, known⟩ := Option.bind_eq_some_iff.mp read
      unfold initOf? at known
      split at known
      · simp only [Option.bind_eq_bind, Option.bind_eq_some_iff, Option.pure_def,
          Option.some.injEq] at known
        obtain ⟨tracked, known, rfl⟩ := known
        exact init ▸ .init some known
      · cases known
    · obtain ⟨fields, some, known⟩ := Option.bind_eq_some_iff.mp read
      unfold assignOf? at known
      split at known
      · simp only [Option.bind_eq_bind, Option.bind_eq_some_iff, Option.pure_def,
          Option.some.injEq] at known
        obtain ⟨tracked, known, rfl⟩ := known
        exact assign ▸ .assign some known
      · cases known
    · obtain ⟨fields, some, known⟩ := Option.bind_eq_some_iff.mp read
      unfold compareOf? at known
      split at known
      · simp only [Option.bind_eq_bind, Option.bind_eq_some_iff, Option.pure_def,
          Option.some.injEq] at known
        obtain ⟨first, known, second, known', result, bool, rfl⟩ := known
        rw [toBool?_eq_some bool] at some
        exact compare ▸ .compare some known known'
      · cases known
  · cases read

theorem Event.ofJson?_ne_unknown (raw : Raw) : ofJson? j ≠ some (.unknown raw) := by
  intro read
  generalize known : Event.unknown raw = event at read
  cases shape_of_ofJson? read <;> cases known

end Replay
