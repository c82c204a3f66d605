import Replay.Trace.Basic
import Replay.Json.Printer

/-!
Traces as JSON. Every variant is its bare name or an object with the name for its only key. Reading
is total: a value, source or event that has none of the known shapes is kept as unknown, and what is
around it is read all the same.
-/
namespace Replay

open Json
open Decimal (Double)

namespace Source

def toJson : Source → Json
  | .variable name => tagged "Variable" (.text name)
  | .slot array index =>
    tagged "ArraySlot" (.object [("id", natural array), ("index", natural index)])
  | .expression => .text "Expression"
  | .literal => .text "Literal"
  | .none => .text "None"
  | .unknown raw => raw.json

end Source

def ElementType.toJson : ElementType → Json
  | integer => .text "Integer"
  | float => .text "Float"
  | boolean => .text "Boolean"
  | string => .text "String"
  | array element => tagged "Array" element.toJson
  | nil => .text "Nil"

def FunctionKind.toJson : FunctionKind → Json
  | native name => tagged "Native" (.text name)

mutual

def Value.toJson : Value → Json
  | .integer n => tagged "Integer" (Json.integer n)
  | .float x => tagged "Float" (Json.float x)
  | .string s => tagged "String" (.text s)
  | .boolean b => tagged "Boolean" (.bool b)
  | .nil => .text "Nil"
  | .array id elements type =>
    tagged "Array" (.object [("id", natural id), ("elements", .list (Tracked.listToJson elements)),
      ("element_type", type.toJson)])
  | .function kind => tagged "Function" kind.toJson
  | .unknown raw => raw.json

def Tracked.toJson : Tracked → Json
  | ⟨value, source⟩ => .object [("value", value.toJson), ("source", source.toJson)]

def Tracked.listToJson : List Tracked → List Json
  | [] => []
  | v :: rest => v.toJson :: Tracked.listToJson rest

end

def Event.toJson : Event → Json
  | init location value =>
    tagged "Init" (.object [("location", location.toJson), ("value", value.toJson)])
  | assign source target value =>
    tagged "Assign" (.object [("from", source.toJson), ("to", target.toJson),
      ("value", value.toJson)])
  | .compare left right result =>
    tagged "Compare" (.object [("left", left.toJson), ("right", right.toJson),
      ("result", .bool result)])
  | unknown raw => raw.json

namespace Json

/-- The one member with this key; a key that is repeated names nothing. -/
def member? (key : String) (members : Members) : Option Json :=
  match members.filter (·.1 == key) with
  | [(_, j)] => some j
  | _ => none

/-- The members of an object, or the items of a list, as the fields of a record in order. -/
def fields? (names : List String) : Json → Option (List Json)
  | .object members => names.mapM (member? · members)
  | .list items => if items.length = names.length then some items else none
  | _ => none

def toText? : Json → Option String
  | .text s => some s
  | _ => none

def toBool? : Json → Option Bool
  | .bool b => some b
  | _ => none

def toUInt64? : Json → Option UInt64
  | .number (.integer i) => i.toUInt64?
  | _ => none

def toInt64? : Json → Option Int64
  | .number (.integer i) => i.toInt64?
  | _ => none

def toDouble? : Json → Option Double
  | .number (.integer i) => some (.ofFloat (Float.ofInt i.val))
  | .number (.float x) => some x
  | _ => none

/-- A variant without content, by its bare name or with `null` behind it. -/
def names (name : String) : Json → Bool
  | .text s => s == name
  | .object [(key, .null)] => key == name
  | _ => false

def named? {α : Type} (variants : List (String × α)) (j : Json) : Option α :=
  (variants.find? fun v => names v.1 j).map (·.2)

end Json

namespace Source

def ofFields? : List Json → Option Source
  | [array, index] => return .slot (← array.toUInt64?) (← index.toUInt64?)
  | _ => Option.none

def ofPayload? (tag : String) (payload : Json) : Option Source :=
  if tag = "Variable" then payload.toText?.map .variable
  else if tag = "ArraySlot" then (payload.fields? ["id", "index"]).bind ofFields?
  else Option.none

def ofJson? (j : Json) : Option Source :=
  match j with
  | .object [(tag, payload)] =>
    (ofPayload? tag payload).or
      (j.named? [("Expression", expression), ("Literal", literal), ("None", .none)])
  | _ => j.named? [("Expression", expression), ("Literal", literal), ("None", .none)]

def ofJson (j : Json) : Source := (ofJson? j).getD (.unknown (.ofJson j))

end Source

namespace ElementType

def bare : List (String × ElementType) :=
  [("Integer", integer), ("Float", float), ("Boolean", boolean), ("String", string), ("Nil", nil)]

def ofJson? : Json → Option ElementType
  | .object [(tag, payload)] =>
    if tag = "Array" then (ofJson? payload).map array else (tagged tag payload).named? bare
  | j => j.named? bare

end ElementType

namespace FunctionKind

def ofJson? : Json → Option FunctionKind
  | .object [(tag, payload)] => if tag = "Native" then payload.toText?.map native else none
  | _ => none

end FunctionKind

mutual

def Value.ofJson? : Json → Option Value
  | .object [(tag, payload)] =>
    if tag = "Integer" then payload.toInt64?.map .integer
    else if tag = "Float" then payload.toDouble?.map .float
    else if tag = "String" then payload.toText?.map .string
    else if tag = "Boolean" then payload.toBool?.map .boolean
    else if tag = "Function" then (FunctionKind.ofJson? payload).map .function
    else if tag = "Array" then Value.arrayOf? payload
    else (tagged tag payload).named? [("Nil", .nil)]
  | j => j.named? [("Nil", .nil)]

def Value.arrayOf? : Json → Option Value
  | .object members =>
    match Tracked.elementsIn members, member? "id" members, member? "element_type" members with
    | [some elements], some id, some type =>
      return .array (← id.toUInt64?) elements (← ElementType.ofJson? type)
    | _, _, _ => none
  | .list [id, elements, type] =>
    match Tracked.elementsOf? elements with
    | some elements => return .array (← id.toUInt64?) elements (← ElementType.ofJson? type)
    | none => none
  | _ => none

/-- What stands under the key of the elements, as often as it occurs. -/
def Tracked.elementsIn : List (String × Json) → List (Option (List Tracked))
  | [] => []
  | (key, j) :: rest =>
    if key = "elements" then Tracked.elementsOf? j :: Tracked.elementsIn rest
    else Tracked.elementsIn rest

def Tracked.elementsOf? : Json → Option (List Tracked)
  | .list items => Tracked.all? items
  | _ => none

def Tracked.all? : List Json → Option (List Tracked)
  | [] => some []
  | j :: rest =>
    match Tracked.ofJson? j, Tracked.all? rest with
    | some v, some vs => some (v :: vs)
    | _, _ => none

def Tracked.ofJson? : Json → Option Tracked
  | .object members =>
    match Tracked.valuesIn members, member? "source" members with
    | [value], some source => some ⟨value, .ofJson source⟩
    | _, _ => none
  | .list [value, source] =>
    some ⟨(Value.ofJson? value).getD (.unknown (.ofJson value)), .ofJson source⟩
  | _ => none

/-- What stands under the key of the value, as often as it occurs. -/
def Tracked.valuesIn : List (String × Json) → List Value
  | [] => []
  | (key, j) :: rest =>
    if key = "value" then
      (Value.ofJson? j).getD (.unknown (.ofJson j)) :: Tracked.valuesIn rest
    else Tracked.valuesIn rest

end

def Value.ofJson (j : Json) : Value := (Value.ofJson? j).getD (.unknown (.ofJson j))

namespace Event

def initOf? : List Json → Option Event
  | [location, value] => return .init (.ofJson location) (← Tracked.ofJson? value)
  | _ => none

def assignOf? : List Json → Option Event
  | [source, target, value] =>
    return .assign (.ofJson source) (.ofJson target) (← Tracked.ofJson? value)
  | _ => none

def compareOf? : List Json → Option Event
  | [left, right, result] =>
    return .compare (← Tracked.ofJson? left) (← Tracked.ofJson? right) (← result.toBool?)
  | _ => none

def ofJson? : Json → Option Event
  | .object [(tag, payload)] =>
    if tag = "Init" then (payload.fields? ["location", "value"]).bind initOf?
    else if tag = "Assign" then (payload.fields? ["from", "to", "value"]).bind assignOf?
    else if tag = "Compare" then (payload.fields? ["left", "right", "result"]).bind compareOf?
    else none
  | _ => none

def ofJson (j : Json) : Event := (ofJson? j).getD (.unknown (.ofJson j))

end Event

end Replay
