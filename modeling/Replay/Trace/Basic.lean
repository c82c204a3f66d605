import Replay.Json.Canonical
import Replay.Decimal.Double

/-!
Traces: the ordered events of one run of a program. Values, sources and events have an arm for
shapes that are not known here, which keeps them as they were found.
-/
namespace Replay

open Decimal (Double)

/-- Where a value lives or came from. -/
inductive Source where
  | variable (name : String)
  | slot (array index : UInt64)
  | expression
  | literal
  | none
  | unknown (raw : Json.Raw)
  deriving DecidableEq

/-- A place that can be written to. -/
inductive Location where
  | variable (name : String)
  | slot (array index : UInt64)
  deriving DecidableEq

/-- Variables and array slots are places; the other sources only say how a value came about. -/
def Source.location? : Source → Option Location
  | .variable name => some (.variable name)
  | .slot array index => some (.slot array index)
  | _ => Option.none

def Source.variable? : Source → Option String
  | .variable name => some name
  | _ => Option.none

/-- The type of an array's elements. -/
inductive ElementType where
  | integer
  | float
  | boolean
  | string
  | array (element : ElementType)
  | nil
  deriving DecidableEq

inductive FunctionKind where
  | native (name : String)
  deriving DecidableEq

mutual

inductive Value where
  | integer (n : Int64)
  | float (x : Double)
  | string (s : String)
  | boolean (b : Bool)
  | nil
  | array (id : UInt64) (elements : List Tracked) (elementType : ElementType)
  | function (kind : FunctionKind)
  | unknown (raw : Json.Raw)

structure Tracked where
  value : Value
  source : Source

end

instance : Inhabited Tracked := ⟨⟨.nil, .none⟩⟩

namespace Value

mutual

def decEq : (a b : Value) → Decidable (a = b)
  | .integer a, .integer b => decidable_of_iff (a = b) (by simp)
  | .float a, .float b => decidable_of_iff (a = b) (by simp)
  | .string a, .string b => decidable_of_iff (a = b) (by simp)
  | .boolean a, .boolean b => decidable_of_iff (a = b) (by simp)
  | .nil, .nil => isTrue rfl
  | .array i as s, .array j bs t =>
    @decidable_of_iff _ (i = j ∧ as = bs ∧ s = t) (by simp)
      (@instDecidableAnd _ _ inferInstance
        (@instDecidableAnd _ _ (decEqList as bs) inferInstance))
  | .function a, .function b => decidable_of_iff (a = b) (by simp)
  | .unknown a, .unknown b => decidable_of_iff (a = b) (by simp)
  | .integer _, .float _ | .integer _, .string _ | .integer _, .boolean _ | .integer _, .nil
  | .integer _, .array .. | .integer _, .function _ | .integer _, .unknown _
  | .float _, .integer _ | .float _, .string _ | .float _, .boolean _ | .float _, .nil
  | .float _, .array .. | .float _, .function _ | .float _, .unknown _
  | .string _, .integer _ | .string _, .float _ | .string _, .boolean _ | .string _, .nil
  | .string _, .array .. | .string _, .function _ | .string _, .unknown _
  | .boolean _, .integer _ | .boolean _, .float _ | .boolean _, .string _ | .boolean _, .nil
  | .boolean _, .array .. | .boolean _, .function _ | .boolean _, .unknown _
  | .nil, .integer _ | .nil, .float _ | .nil, .string _ | .nil, .boolean _
  | .nil, .array .. | .nil, .function _ | .nil, .unknown _
  | .array .., .integer _ | .array .., .float _ | .array .., .string _ | .array .., .boolean _
  | .array .., .nil | .array .., .function _ | .array .., .unknown _
  | .function _, .integer _ | .function _, .float _ | .function _, .string _
  | .function _, .boolean _ | .function _, .nil | .function _, .array .. | .function _, .unknown _
  | .unknown _, .integer _ | .unknown _, .float _ | .unknown _, .string _
  | .unknown _, .boolean _ | .unknown _, .nil | .unknown _, .array ..
  | .unknown _, .function _ => isFalse nofun

def decEqTracked : (a b : Tracked) → Decidable (a = b)
  | ⟨v, s⟩, ⟨w, t⟩ =>
    @decidable_of_iff _ (v = w ∧ s = t) (by simp) (@instDecidableAnd _ _ (decEq v w) inferInstance)

def decEqList : (a b : List Tracked) → Decidable (a = b)
  | [], [] => isTrue rfl
  | [], _ :: _ | _ :: _, [] => isFalse nofun
  | a :: as, b :: bs =>
    @decidable_of_iff _ (a = b ∧ as = bs) (by simp)
      (@instDecidableAnd _ _ (decEqTracked a b) (decEqList as bs))

end

instance : DecidableEq Value := decEq

end Value

instance : DecidableEq Tracked := Value.decEqTracked

/-- One thing the program did. -/
inductive Event where
  /-- A place gets its first value. -/
  | init (location : Source) (value : Tracked)
  /-- A value moves from one source into another. -/
  | assign (source target : Source) (value : Tracked)
  /-- Two values were compared; nothing is written. -/
  | compare (left right : Tracked) (result : Bool)
  | unknown (raw : Json.Raw)
  deriving DecidableEq

abbrev Trace := List Event

inductive Event.Kind where
  | init
  | assign
  | compare
  | unknown
  deriving DecidableEq, Repr

namespace Event

def kind : Event → Kind
  | init .. => .init
  | assign .. => .assign
  | compare .. => .compare
  | unknown _ => .unknown

/-- The place an event writes to. -/
def target? : Event → Option Location
  | init location _ => location.location?
  | assign _ target _ => target.location?
  | compare .. | unknown _ => none

def written? : Event → Option Tracked
  | init _ value | assign _ _ value => some value
  | compare .. | unknown _ => none

end Event

end Replay
