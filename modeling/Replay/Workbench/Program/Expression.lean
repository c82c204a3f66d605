import Replay.Workbench.Program.Stream
import Replay.Workbench.Regex.Reader

/-!
Expressions of words: `expr`. An expression is worked out while it is read; a part whose value does
not matter is read only.
-/
namespace Replay.Program.Expression

open Machine

inductive Value where
  | number (n : Int)
  | text (cs : List Char)

namespace Value

def chars : Value → List Char
  | number n => (decimalInt n).toList
  | text cs => cs

def number? : Value → Option Int
  | number n => some n
  | text cs =>
    let (isNegative, ds) := if cs.head? = some '-' then (true, cs.drop 1) else (false, cs)
    if ds.isEmpty || !ds.all Char.isDigit then none
    else some (if isNegative then -(ofDigits ds : Int) else ofDigits ds)

def isNull : Value → Bool
  | number n => n == 0
  | text cs =>
    let ds := if cs.head? = some '-' then cs.drop 1 else cs
    cs.isEmpty || (!ds.isEmpty && ds.all (· == '0'))

end Value

/-- The words that are left, behind the one that was read last. -/
structure State where
  last : String
  rest : List String

abbrev Reading := EStateM String State

namespace Reading

def fail {α : Type} (text : String) : Reading α := fun s => .error text s

def takeIf (words : List String) : Reading (Option String) := do
  match (← get).rest with
  | [] => return none
  | w :: rest =>
    if words.contains w then
      set (⟨w, rest⟩ : State)
      return some w
    else return none

/-- Takes the next word, which has to be there. -/
def need : Reading String := do
  let s ← get
  match s.rest with
  | [] => fail ("syntax error: missing argument after " ++ quoteWord s.last)
  | w :: rest =>
    set (⟨w, rest⟩ : State)
    return w

def number (v : Value) : Reading Int := do
  match v.number? with
  | some n => return n
  | none => fail "non-integer argument"

/-- What a pattern says of the front of a text: what its first group matched, or how much it
matched. -/
def matched (v pattern : Value) : Reading Value := do
  let d : Regex.Dialect :=
    { isExtended := false, refusesLoneOperators := false, refusesSecondOperators := false
      takesBadCounts := false, takesLoneCloses := false, hasLineAlternatives := false
      foldsCase := false }
  match Regex.read d pattern.chars with
  | .error f => fail f.message
  | .ok (r, groups) =>
    let subject : Regex.Subject := ⟨v.chars.toArray, false, false⟩
    match (Regex.seq (.at .textStart) r).search subject 0 with
    | none => return if groups = 0 then .number 0 else .text []
    | some (_, length, spans) =>
      if groups = 0 then return .number length
      else match spans.lookup 1 with
        | some (i, j) => return .text (subject.text.extract i j).toList
        | none => return .text []

def part (v first length : Value) : Value :=
  match first.number?, length.number? with
  | some i, some n =>
    if i ≤ 0 || n ≤ 0 then .text [] else .text ((v.chars.drop (i.toNat - 1)).take n.toNat)
  | _, _ => .text []

def compared (operator : String) (a b : Value) : Value :=
  let order : Ordering := match a.number?, b.number? with
    | some m, some n => compare m n
    | _, _ => compareLex (fun (x y : List Char) => compare x y) (fun _ _ => .eq) a.chars b.chars
  let holds : Bool := match operator with
    | "<" => order == .lt
    | "<=" => order != .gt
    | "=" | "==" => order == .eq
    | "!=" => order != .eq
    | ">=" => order != .lt
    | _ => order == .gt
  .number (if holds then 1 else 0)

mutual

/-- An expression of a strength; a larger one binds its parts more closely. `counts` tells whether
its value matters. -/
def expression : (steps : Nat) → (strength : Nat) → (counts : Bool) → Reading Value
  | 0, _, _ => return .text []
  | steps + 1, strength, counts => do
    if strength = 6 then simple steps counts
    else
      let first ← expression steps (strength + 1) counts
      behind steps strength counts first

def behind : (steps : Nat) → (strength : Nat) → (counts : Bool) → Value → Reading Value
  | 0, _, _, v => return v
  | steps + 1, strength, counts, v => do
    let operators : List String := match strength with
      | 0 => ["|"]
      | 1 => ["&"]
      | 2 => ["<", "<=", "=", "==", "!=", ">=", ">"]
      | 3 => ["+", "-"]
      | 4 => ["*", "/", "%"]
      | _ => [":"]
    match ← takeIf operators with
    | none => return v
    | some operator =>
      let matters : Bool := match strength with
        | 0 => counts && v.isNull
        | 1 => counts && !v.isNull
        | _ => counts
      let w ← expression steps (strength + 1) matters
      let result ← match strength with
        | 0 => pure (if !v.isNull then v else if w.isNull then .number 0 else w)
        | 1 => pure (if v.isNull || w.isNull then .number 0 else v)
        | 2 => pure (compared operator v w)
        | 3 =>
          if counts then do
            let m ← number v
            let n ← number w
            pure (.number (if operator = "+" then m + n else m - n))
          else pure v
        | 4 =>
          if counts then do
            let m ← number v
            let n ← number w
            if operator = "*" then pure (.number (m * n))
            else if n = 0 then fail "division by zero"
            else pure (.number (if operator = "/" then m.tdiv n else m.tmod n))
          else pure v
        | _ => if counts then matched v w else pure v
      behind steps strength counts result

def simple : (steps : Nat) → (counts : Bool) → Reading Value
  | 0, _ => return .text []
  | steps + 1, counts => do
    let argument := simple steps counts
    let word ← need
    match word with
    | "+" => return .text (← need).toList
    | "length" => return .number ((← argument).chars.length : Nat)
    | "match" => do
      let v ← argument
      let pattern ← argument
      if counts then matched v pattern else return v
    | "index" => do
      let v ← argument
      let wanted := (← argument).chars
      let place := v.chars.findIdx? wanted.contains
      return .number ((place.map fun i : Nat => (i : Int) + 1).getD 0)
    | "substr" => do
      let v ← argument
      let first ← argument
      return part v first (← argument)
    | "(" => do
      let v ← expression steps 0 counts
      let s ← get
      match s.rest with
      | [] => fail ("syntax error: expecting ')' after " ++ quoteWord s.last)
      | ")" :: rest =>
        set (⟨")", rest⟩ : State)
        return v
      | odd :: _ => fail ("syntax error: expecting ')' instead of " ++ quoteWord odd)
    | ")" => fail "syntax error: unexpected ')'"
    | _ => return .text word.toList

end

end Reading

def value (words : List String) : Except String Value :=
  match (Reading.expression (20 * words.length + 20) 0 true) ⟨"", words⟩ with
  | .error text _ => .error text
  | .ok v s =>
    match s.rest with
    | [] => .ok v
    | odd :: _ => .error ("syntax error: unexpected argument " ++ quoteWord odd)

def run (words : List String) : Job Nat := do
  let name := words.headD ""
  match words.drop 1 with
  | ["--help"] =>
    emitText name ("Usage: " ++ name ++ " EXPRESSION\n")
    return 0
  | ["--version"] =>
    emitText name (versionText "expr")
    return 0
  | args =>
    let args := if args.head? = some "--" then args.drop 1 else args
    if args.isEmpty then misuse name "missing operand" 2
    else match value args with
      | .error text =>
        complaint name text
        return 2
      | .ok v =>
        emitBytes name 3 (packList (v.chars ++ ['\n']))
        return if v.isNull then 1 else 0

end Replay.Program.Expression
