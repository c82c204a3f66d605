import Replay.Json.Reader

/-!
Readers of records, written as objects with their fields in any order or as lists of the fields in
order, and of variants, written as a bare name or as an object with the name for its only key.
-/
namespace Replay.Json

/-- A field of a record that is gathered in a draft `δ`. -/
structure Record.Field (δ : Type) where
  name : String
  isSet : δ → Bool
  read : (room : Nat) → Node → δ → Except ReadError δ
  /-- Whether a list of the fields may end before this one. -/
  mayBeCut : Bool

def Record.Field.of {δ β : Type} (name : String) (reader : Reader β) (get : δ → Option β)
    (set : β → δ → δ) (mayBeCut : Bool) : Record.Field δ where
  name := name
  isSet d := (get d).isSome
  read room node d := return set (← reader room node) d
  mayBeCut := mayBeCut

/-- A record: what it is called, its fields in order, and the value made of a draft. -/
structure Record (δ α : Type) where
  title : String
  fields : List (Record.Field δ)
  blank : δ
  build : δ → Except ReadError α

/-- A part of a draft that has to be there. -/
def need {β : Type} (name : String) : Option β → Except ReadError β
  | some b => .ok b
  | none => .error (.mismatch (.missing name))

def counted (n : Nat) (thing : String) : String :=
  String.ofList (naturalChars n) ++ " " ++ thing ++ (if n = 1 then "" else "s")

namespace Record

open Reader

variable {δ α : Type}

/-- Members are taken as they come: known ones once each, others are passed over. -/
def readMembers (r : Record δ α) (room : Nat) : List (Text × Node) → δ → Except ReadError δ
  | [], d => .ok d
  | (key, node) :: rest, d => do
    let key ← content key
    match r.fields.find? (·.name == key) with
    | some f =>
      if f.isSet d then refuse (.repeated key)
      else readMembers r room rest (← f.read room node d)
    | none =>
      check node.skip?
      readMembers r room rest d

def readObject (r : Record δ α) : (room : Nat) → List (Text × Node) → Ending → Except ReadError α
  | room, members, ending => do
    let room ← enter room
    let d ← readMembers r room members r.blank
    check ending.readObject?
    r.build d

/-- What is wrong behind the last field of a list: a closing bracket alone is right. -/
def afterLast : List Node → Ending → Option Flaw
  | [], .closed => none
  | [], .strayComma => some .trailingComma
  | [], .cutShort => some .endInList
  | _, _ => some .trailingCharacters

/-- The fields of a list in order; `total` of them are wanted, `done` are read. -/
def readItems (r : Record δ α) (room done : Nat) (ending : Ending) :
    List (Record.Field δ) → List Node → δ → Except ReadError (δ × List Node)
  | [], nodes, d => .ok (d, nodes)
  | f :: fields, [], d => do
    check ending.readList?
    if f.mayBeCut then readItems r room done ending fields [] d
    else refuse (.wrongLength done (r.title ++ " with " ++ counted r.fields.length "element"))
  | f :: fields, node :: nodes, d => do
    readItems r room (done + 1) ending fields nodes (← f.read room node d)

def readList (r : Record δ α) : (room : Nat) → List Node → Ending → Except ReadError α
  | room, nodes, ending => do
    let room ← enter room
    let (d, rest) ← readItems r room 0 ending r.fields nodes r.blank
    let value ← r.build d
    check (afterLast rest ending)
    return value

/-- Reads the fields of a list that is known to be well formed; too long a list is no record. -/
def readKeptList (r : Record δ α) (room : Nat) (nodes : List Node) : Except ReadError α := do
  let room ← enter room
  let (d, rest) ← readItems r room 0 .closed r.fields nodes r.blank
  let value ← r.build d
  if rest.isEmpty then return value
  else refuse (.wrongLength nodes.length (counted r.fields.length "element" ++ " in sequence"))

def reader (r : Record δ α) : Reader α
  | room, .object members ending => readObject r room members ending
  | room, .list nodes ending => readList r room nodes ending
  | _, node => wrongKind r.title node

/-- The reader for a node that was kept until its type was known, and is well formed. -/
def keptReader (r : Record δ α) : Reader α
  | room, .object members ending => readObject r room members ending
  | room, .list nodes _ => readKeptList r room nodes
  | _, node => wrongKind r.title node

end Record

/-- What stands behind the name of a variant. -/
inductive Payload (α : Type) where
  | unit (a : α)
  | value (reader : Reader α)
  | record (reader : Reader α)

namespace Payload

open Reader

variable {α : Type}

def readBare : Payload α → Except ReadError α
  | .unit a => .ok a
  | .value _ => refuse (.wrongKind .bareName "newtype variant")
  | .record _ => refuse (.wrongKind .bareName "struct variant")

def read (room : Nat) (node : Node) : Payload α → Except ReadError α
  | .unit a => match node with
    | .null => .ok a
    | node => wrongKind "unit" node
  | .value reader | .record reader => reader room node

end Payload

namespace Reader

variable {α : Type}

def payload (variants : List (String × Payload α)) (name : String) :
    Except ReadError (Payload α) :=
  match variants.lookup name with
  | some p => .ok p
  | none => refuse (.unknownName name (variants.map (·.1)))

/-- What is reported of an object without a first key, where a name is wanted. -/
def missingName : Ending → Flaw
  | .closed => .expectedValue
  | .cutShort => .endInObject
  | .badKey f => f.reading
  | _ => .keyNotText

def afterOnly : List (Text × Node) → Ending → Option Flaw
  | [], .closed => none
  | [], .cutShort => some .endInObject
  | _, _ => some .expectedValue

/-- A name without a payload, where nothing but a string will do. -/
def bareName (variants : List (String × Payload α)) : Reader α
  | room, node => do (← payload variants (← text "variant identifier" room node)).readBare

def variant (variants : List (String × Payload α)) : Reader α
  | _, .text t => do (← payload variants (← content t)).readBare
  | room, .object members ending => do
    let room ← enter room
    match members with
    | [] => raise (missingName ending)
    | (key, node) :: more =>
      let p ← payload variants (← content key)
      let a ← p.read room node
      check (afterOnly more ending)
      return a
  | _, .broken begun f => raise (if begun then .expectedValue else f.reading)
  | _, _ => raise .expectedValue

end Reader

end Replay.Json
