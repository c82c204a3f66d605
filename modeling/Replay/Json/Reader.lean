import Replay.Json.Canonical
import Replay.Json.Printer
import Replay.Json.Scan
import Replay.Text.Quoted

/-!
Readers: from the shape of a text to a value of a type. What is wrong is reported as the first
trouble from left to right, be it a breach of the grammar or a value of the wrong kind.
-/
namespace Replay.Json

/-- What a value of the wrong kind turned out to be. -/
inductive Found where
  | null
  | bool (b : Bool)
  | integer (i : Int)
  | float (x : Decimal.Double)
  | text (s : String)
  | list
  | object
  | bareName

/-- Why a value is no instance of the wanted type. -/
inductive Mismatch where
  | wrongKind (found : Found) (wanted : String)
  | outOfRange (i : Int) (wanted : String)
  | wrongLength (length : Nat) (wanted : String)
  | unknownName (name : String) (known : List String)
  | missing (field : String)
  | repeated (field : String)

inductive ReadError where
  | flaw (f : Flaw)
  | mismatch (m : Mismatch)

def Found.message : Found → String
  | .null => "null"
  | .bool b => "boolean `" ++ (if b then "true" else "false") ++ "`"
  | .integer i => "integer `" ++ String.ofList (integerChars i) ++ "`"
  | .float x => "floating point `" ++ String.ofList (floatFormat.chars x) ++ "`"
  | .text s => "string " ++ quotedName s
  | .list => "sequence"
  | .object => "map"
  | .bareName => "unit variant"
where
  quotedName (s : String) : String := Replay.Text.quoted s

def alternatives : List String → String
  | [] => "there are no variants"
  | [a] => "expected `" ++ a ++ "`"
  | [a, b] => "expected `" ++ a ++ "` or `" ++ b ++ "`"
  | names => "expected one of " ++ ", ".intercalate (names.map fun n => "`" ++ n ++ "`")

def Mismatch.message : Mismatch → String
  | .wrongKind found wanted => "invalid type: " ++ found.message ++ ", expected " ++ wanted
  | .outOfRange i wanted =>
    "invalid value: " ++ (Found.integer i).message ++ ", expected " ++ wanted
  | .wrongLength n wanted =>
    "invalid length " ++ String.ofList (naturalChars n) ++ ", expected " ++ wanted
  | .unknownName name known => "unknown variant `" ++ name ++ "`, " ++ alternatives known
  | .missing field => "missing field `" ++ field ++ "`"
  | .repeated field => "duplicate field `" ++ field ++ "`"

namespace ReadError

def message : ReadError → String
  | flaw f => f.message
  | mismatch m => m.message

/-- Whether the text is no JSON, or ends before it is, or says something else than wanted. -/
inductive Category where
  | grammar
  | ending
  | data
  deriving DecidableEq, Repr

def category : ReadError → Category
  | flaw f => if f.isEnd then .ending else .grammar
  | mismatch _ => .data

end ReadError

/-- Reads a node that stands where `room` more lists and objects may be opened, one in another. -/
abbrev Reader (α : Type) := (room : Nat) → Node → Except ReadError α

namespace Reader

variable {α : Type}

/-- How many lists and objects may be open at a time. -/
def maxOpen : Nat := 127

def raise (f : Flaw) : Except ReadError α := .error (.flaw f)

def refuse (m : Mismatch) : Except ReadError α := .error (.mismatch m)

def check : Option Flaw → Except ReadError Unit
  | some f => raise f
  | none => .ok ()

def enter : Nat → Except ReadError Nat
  | 0 => raise .tooDeep
  | room + 1 => .ok room

def content (t : Text) : Except ReadError String :=
  match t.flaw with
  | some f => raise f
  | none => .ok t.content

def foundNumber (n : Numeral) : Except ReadError Found :=
  match n.toNumber with
  | .ok (.integer i) => .ok (.integer i.val)
  | .ok (.float x) => .ok (.float x)
  | .error f => raise f

/-- What a node of the wrong kind is. A scalar is read to its end, a list or object is not. -/
def found : Node → Except ReadError Found
  | .null => .ok .null
  | .bool b => .ok (.bool b)
  | .number n => foundNumber n
  | .text t => return .text (← content t)
  | .list _ _ => .ok .list
  | .object _ _ => .ok .object
  | .broken _ f => raise f.reading

def wrongKind (wanted : String) (node : Node) : Except ReadError α := do
  refuse (.wrongKind (← found node) wanted)

def text (wanted : String) : Reader String
  | _, .text t => content t
  | _, node => wrongKind wanted node

def string : Reader String := text "a string"

def bool : Reader Bool
  | _, .bool b => .ok b
  | _, node => wrongKind "a boolean" node

def natural (wanted : String) : Reader UInt64
  | _, .number n => do
    match ← foundNumber n with
    | .integer i =>
      if 0 ≤ i then .ok (.ofNat i.toNat) else refuse (.outOfRange i wanted)
    | other => refuse (.wrongKind other wanted)
  | _, node => wrongKind wanted node

def optional (reader : Reader α) : Reader (Option α)
  | _, .null => .ok none
  | room, node => some <$> reader room node

def items (reader : Reader α) (room : Nat) : List Node → Except ReadError (List α)
  | [] => .ok []
  | node :: rest => do return (← reader room node) :: (← items reader room rest)

def list (reader : Reader α) : Reader (List α)
  | room, .list nodes ending => do
    let room ← enter room
    let read ← items reader room nodes
    check ending.readList?
    return read
  | _, node => wrongKind "a sequence" node

mutual

def any : (room : Nat) → Node → Except ReadError Json
  | _, .null => .ok .null
  | _, .bool b => .ok (.bool b)
  | _, .number n =>
    match n.toNumber with
    | .ok n => .ok (.number n)
    | .error f => raise f
  | _, .text t => return .text (← content t)
  | room, .list nodes ending => do
    let room ← enter room
    let items ← anyItems room nodes
    check ending.readList?
    return .list items
  | room, .object nodes ending => do
    let room ← enter room
    let members ← anyMembers room nodes
    check ending.readObject?
    return .object members
  | _, .broken _ f => raise f.reading

def anyItems (room : Nat) : List Node → Except ReadError (List Json)
  | [] => .ok []
  | node :: rest => do return (← any room node) :: (← anyItems room rest)

def anyMembers (room : Nat) : List (Text × Node) → Except ReadError (List (String × Json))
  | [] => .ok []
  | (key, node) :: rest => do
    let key ← content key
    return (key, ← any room node) :: (← anyMembers room rest)

end

/-- Reads a whole text: what stands behind the value is looked at last. -/
def run (reader : Reader α) (text : String) : Except ReadError α := do
  let doc := scan text
  let value ← reader maxOpen doc.root
  if doc.trailing then raise .trailingCharacters else return value

end Reader

/-- The value of a JSON text. -/
def parse (text : String) : Except ReadError Json := Reader.run Reader.any text

end Replay.Json
