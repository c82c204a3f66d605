import Replay.Trace.Basic
import Replay.Json.Printer

/-! The short form in which values, sources and events are shown. -/
namespace Replay

/-- Floats are shown with their shortest digits, a half going up, and never with an exponent. -/
def displayFormat : Decimal.Format where
  tie := .up
  positional := none
  keepsPoint := false
  nan := "NaN"
  infinity := "inf"
  negativeInfinity := "-inf"

def displayNatural (n : Nat) : String := String.ofList (Json.naturalChars n)

def displaySlot (array index : UInt64) : String :=
  "ArraySlot(id=" ++ displayNatural array.toNat ++ ", index=" ++ displayNatural index.toNat ++ ")"

def displayVariable (name : String) : String := "Variable(" ++ name ++ ")"

def Source.display : Source → String
  | .variable name => displayVariable name
  | .slot array index => displaySlot array index
  | .expression => "Expression"
  | .literal => "Literal"
  | .none => "None"
  | .unknown _ => "Unknown DataSource"

def Location.display : Location → String
  | .variable name => displayVariable name
  | .slot array index => displaySlot array index

namespace Value

mutual

/-- The characters of a value's short form. A string stands between quotes as it is; of an array
only the values of its elements are shown. -/
def displayChars : Value → List Char
  | .integer n => Json.integerChars n.toInt
  | .float x => displayFormat.chars x
  | .string s => '"' :: s.toList ++ ['"']
  | .boolean true => "True".toList
  | .boolean false => "False".toList
  | .nil => "Nil".toList
  | .array _ elements _ => '[' :: displayElements elements ++ [']']
  | .function (.native name) => "<native fn ".toList ++ name.toList ++ ['>']
  | .unknown _ => "Unknown".toList

def displayElements : List Tracked → List Char
  | [] => []
  | [⟨v, _⟩] => displayChars v
  | ⟨v, _⟩ :: next :: more => displayChars v ++ ',' :: ' ' :: displayElements (next :: more)

end

def display (v : Value) : String := String.ofList v.displayChars

end Value

mutual

/-- The sources in a tracked value: its own, then those of the elements of an array. -/
def Tracked.sources : Tracked → List Source
  | ⟨value, source⟩ => source :: value.elementSources

def Value.elementSources : Value → List Source
  | .array _ elements _ => Tracked.listSources elements
  | _ => []

def Tracked.listSources : List Tracked → List Source
  | [] => []
  | v :: rest => v.sources ++ Tracked.listSources rest

end

namespace Event

def sources : Event → List Source
  | init _ value | assign _ _ value => value.sources
  | compare left right _ => left.sources ++ right.sources
  | unknown _ => []

def Kind.display : Kind → String
  | init => "Init"
  | assign => "Assign"
  | compare => "Compare"
  | unknown => "Unknown"

def display : Event → String
  | init location v => "Init " ++ v.value.display ++ " at " ++ location.display
  | assign source target v =>
    "Assign " ++ v.value.display ++ " from " ++ source.display ++ " to " ++ target.display
  | compare left right result =>
    "Compare " ++ left.value.display ++ " and " ++ right.value.display ++ ": " ++
      if result then "true" else "false"
  | unknown _ => "Unknown TraceEvent"

end Event

end Replay
