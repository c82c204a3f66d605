import Replay.Workbench.Machine.Octets

/-!
Arithmetic on whole numbers of 64 bits, which wrap. An expression is worked out while it is read, so
that the first trouble met is the one told; parts that do not matter are read only.
-/
namespace Replay.Shell.Arithmetic

open Machine

inductive Sign where
  | ending
  | number (n : Int64)
  | name (s : String)
  | operator (s : String)
  | assign (operator : String)
  | bad
  deriving DecidableEq

/-- Why an expression has no value. -/
inductive Fault where
  | malformed (text : String)
  /-- The value of a variable is no number. -/
  | notANumber (text : String)
  /-- The quotient is larger than any number. -/
  | overflow

structure State where
  rest : List Char
  /-- The sign that was read last. -/
  last : Sign
  bindings : String → String
  /-- The assignments made, last first. -/
  assigned : List (String × Int64)

abbrev Calculation := EStateM Fault State

def fail {α : Type} (text : String) : Calculation α := throw (.malformed text)

/-- Binary operators by how strongly they bind, from the strongest on. -/
def precedence? (operator : String) : Option Nat :=
  [("*", 0), ("/", 0), ("%", 0), ("+", 1), ("-", 1), ("<<", 2), (">>", 2), ("<", 3), ("<=", 3),
   (">", 3), (">=", 3), ("==", 4), ("!=", 4), ("&", 5), ("^", 6), ("|", 7)].lookup operator

def weakest : Nat := 8

def assigning : List String := ["*", "/", "%", "+", "-", "<<", ">>", "&", "^", "|"]

def operators : List (List Char) :=
  ["<<", ">>", "<=", ">=", "==", "!=", "&&", "||", "*", "/", "%", "+", "-", "<", ">", "&", "^", "|",
   "!", "~", "(", ")", "?", ":", "="].map String.toList

def digitOf (c : Char) : Nat :=
  if c.isDigit then c.toNat - 48
  else if 'a' ≤ c && c ≤ 'f' then c.toNat - 87
  else if 'A' ≤ c && c ≤ 'F' then c.toNat - 55
  else 16

/-- The number that the front of a text is in a base, and what follows it. -/
def numberIn (base value : Nat) : List Char → Nat × List Char
  | c :: rest =>
    if digitOf c < base then numberIn base (value * base + digitOf c) rest else (value, c :: rest)
  | [] => (value, [])

/-- The number at the front of a text without a sign; its base is told by its first digits. -/
def natural (cs : List Char) : Nat × List Char :=
  match cs with
  | '0' :: x :: d :: rest =>
    if (x = 'x' || x = 'X') && digitOf d < 16 then numberIn 16 0 (d :: rest)
    else numberIn 8 0 cs
  | '0' :: _ => numberIn 8 0 cs
  | _ => numberIn 10 0 cs

def largest : Int := 0x7fffffffffffffff

def smallest : Int := -0x8000000000000000

/-- The number at the front of a text, whether it is one of 64 bits, and what follows it. Nothing if
there is no number. -/
def integer? (cs : List Char) : Option (Int64 × Bool × List Char) :=
  let cs := cs.dropWhile isSpace
  let (isNegative, digits) := match cs with
    | '-' :: rest => (true, rest)
    | '+' :: rest => (false, rest)
    | rest => (false, rest)
  if (digits.head?.map Char.isDigit).getD false then
    let (n, rest) := natural digits
    let i : Int := if isNegative then -n else n
    some (Int64.ofInt (max smallest (min largest i)), smallest ≤ i && i ≤ largest, rest)
  else none

def valueOf (text : String) : Option Int64 :=
  match integer? text.toList with
  | some (n, true, rest) => if rest.all isSpace then some n else none
  | some (_, false, _) => none
  | none => if text.toList.all isSpace then some 0 else none

def isNameStart (c : Char) : Bool := c.isAlpha || c == '_'

def signAt (cs : List Char) : Sign × List Char :=
  match cs.dropWhile fun c => c == ' ' || c == '\t' || c == '\n' with
  | [] => (.ending, [])
  | c :: rest =>
    if c.isDigit then
      let (n, rest) := natural (c :: rest)
      (.number (Int64.ofInt (min largest n)), rest)
    else if isNameStart c then
      let (name, rest) := (c :: rest).span fun c => c.isAlphanum || c == '_'
      (.name (String.ofList name), rest)
    else match operators.find? fun op => op.isPrefixOf (c :: rest) with
      | none => (.bad, c :: rest)
      | some op =>
        let name := String.ofList op
        match (c :: rest).drop op.length with
        | '=' :: behind =>
          if assigning.contains name then (.assign name, behind)
          else (.operator name, '=' :: behind)
        | behind => (.operator name, behind)

def read : Calculation Sign := fun s =>
  let (sign, rest) := signAt s.rest
  .ok sign { s with rest, last := sign }

def retain (sign : Sign) : Calculation Unit := modify fun s => { s with last := sign }

def valueAt (name : String) : Calculation Int64 := do
  let s ← get
  match s.assigned.lookup name with
  | some n => return n
  | none =>
    let text := s.bindings name
    match valueOf text with
    | some n => return n
    | none => throw (.notANumber text)

def ofBool (b : Bool) : Int64 := if b then 1 else 0

def apply (operator : String) (a b : Int64) : Calculation Int64 :=
  let divided (f : Int64 → Int64 → Int64) : Calculation Int64 :=
    if b = 0 then fail "division by zero"
    else if b = -1 && a = Int64.ofInt smallest then throw .overflow
    else return f a b
  match operator with
  | "*" => return a * b
  | "/" => divided (· / ·)
  | "%" => divided (· % ·)
  | "+" => return a + b
  | "-" => return a - b
  | "<<" => return a <<< b
  | ">>" => return a >>> b
  | "<" => return ofBool (a < b)
  | "<=" => return ofBool (a ≤ b)
  | ">" => return ofBool (b < a)
  | ">=" => return ofBool (b ≤ a)
  | "==" => return ofBool (a = b)
  | "!=" => return ofBool (a ≠ b)
  | "&" => return a &&& b
  | "^" => return a ^^^ b
  | _ => return a ||| b

def isOperator (sign : Sign) (s : String) : Bool := sign = .operator s

mutual

/-- The value of an operand that begins with a sign, `next` being the sign behind it. -/
def primary : (steps : Nat) → (sign next : Sign) → (isIdle : Bool) → Calculation Int64
  | 0, _, _, _ => return 0
  | steps + 1, sign, next, isIdle => do
    match sign with
    | .number n =>
      retain next
      return n
    | .name s =>
      retain next
      if isIdle then return 0 else valueAt s
    | .operator "(" =>
      let n ← assignment steps next isIdle
      unless isOperator (← get).last ")" do fail "expecting ')'"
      discard read
      return n
    | .operator "+" => primary steps next (← read) isIdle
    | .operator "-" => return -(← primary steps next (← read) isIdle)
    | .operator "!" => return ofBool ((← primary steps next (← read) isIdle) = 0)
    | .operator "~" => return ~~~(← primary steps next (← read) isIdle)
    | _ => fail "expecting primary"

/-- Goes on behind an operand and a binary operator, as long as operators bind as `limit` does or
more strongly. -/
def operations : (steps : Nat) → (a : Int64) → (operator : String) → (limit : Nat) →
    (isIdle : Bool) → Calculation Int64
  | 0, a, _, _, _ => return a
  | steps + 1, a, operator, limit, isIdle => do
    let sign ← read
    let b ← primary steps sign (← read) isIdle
    let strength := (precedence? operator).getD weakest
    let b ← match (← get).last with
      | .operator next =>
        match precedence? next with
        | some p => if p < strength then operations steps b next strength isIdle else pure b
        | none => pure b
      | _ => pure b
    let a ← if isIdle then pure b else apply operator a b
    match (← get).last with
    | .operator next =>
      match precedence? next with
      | some p => if p < limit then operations steps a next limit isIdle else return a
      | none => return a
    | _ => return a

def binary : (steps : Nat) → (sign next : Sign) → (isIdle : Bool) → Calculation Int64
  | 0, _, _, _ => return 0
  | steps + 1, sign, next, isIdle => do
    let a ← primary steps sign next isIdle
    match (← get).last with
    | .operator operator =>
      if (precedence? operator).isSome then operations steps a operator weakest isIdle else return a
    | _ => return a

def conjunction : (steps : Nat) → (sign next : Sign) → (isIdle : Bool) → Calculation Int64
  | 0, _, _, _ => return 0
  | steps + 1, sign, next, isIdle => do
    let a ← binary steps sign next isIdle
    unless isOperator (← get).last "&&" do return a
    let sign ← read
    let b ← conjunction steps sign (← read) (isIdle || a = 0)
    return ofBool (a ≠ 0 && b ≠ 0)

def disjunction : (steps : Nat) → (sign next : Sign) → (isIdle : Bool) → Calculation Int64
  | 0, _, _, _ => return 0
  | steps + 1, sign, next, isIdle => do
    let a ← conjunction steps sign next isIdle
    unless isOperator (← get).last "||" do return a
    let sign ← read
    let b ← disjunction steps sign (← read) (isIdle || a ≠ 0)
    return ofBool (a ≠ 0 || b ≠ 0)

def conditional : (steps : Nat) → (sign next : Sign) → (isIdle : Bool) → Calculation Int64
  | 0, _, _, _ => return 0
  | steps + 1, sign, next, isIdle => do
    let a ← disjunction steps sign next isIdle
    unless isOperator (← get).last "?" do return a
    let b ← assignment steps (← read) (isIdle || a = 0)
    unless isOperator (← get).last ":" do fail "expecting ':'"
    let sign ← read
    let c ← conditional steps sign (← read) (isIdle || a ≠ 0)
    return if a ≠ 0 then b else c

def assignment : (steps : Nat) → (sign : Sign) → (isIdle : Bool) → Calculation Int64
  | 0, _, _ => return 0
  | steps + 1, sign, isIdle => do
    let next ← read
    let assigned (name : String) (operator : Option String) : Calculation Int64 := do
      let n ← assignment steps (← read) isIdle
      if isIdle then return n
      let n ← match operator with
        | none => pure n
        | some op => apply op (← valueAt name) n
      modify fun s => { s with assigned := (name, n) :: s.assigned }
      return n
    match sign, next with
    | .name name, .operator "=" => assigned name none
    | .name name, .assign op => assigned name (some op)
    | _, _ => conditional steps sign next isIdle

end

/-- The value of an expression, with the assignments made on the way, first ones first. -/
def evaluate (bindings : String → String) (expression : List Char) :
    Except Fault Int64 × List (String × Int64) :=
  let calculation : Calculation Int64 := do
    let n ← assignment (10 * expression.length + 10) (← read) false
    unless (← get).last = .ending do fail "expecting EOF"
    return n
  match calculation ⟨expression, .ending, bindings, []⟩ with
  | .ok n s => (.ok n, s.assigned.reverse)
  | .error e s => (.error e, s.assigned.reverse)

def Fault.message (expression : String) : Fault → String
  | malformed text => "arithmetic expression: " ++ text ++ ": \"" ++ expression ++ "\""
  | notANumber text => "Illegal number: " ++ text
  | overflow => ""

end Replay.Shell.Arithmetic
