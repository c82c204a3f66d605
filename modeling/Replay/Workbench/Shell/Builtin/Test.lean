import Replay.Workbench.Shell.Builtin.Basic

/-! The builtin that tests texts, numbers and files. -/
namespace Replay.Shell.Builtin.Test

open Machine

inductive Kind where
  | unary
  | binary
  | not
  | and
  | or
  | parenOpen
  | parenClose
  deriving DecidableEq

def kind? (s : String) : Option Kind :=
  if ["-r", "-w", "-x", "-e", "-f", "-d", "-c", "-b", "-p", "-u", "-g", "-k", "-s", "-t", "-z",
    "-n", "-h", "-O", "-G", "-L", "-S"].contains s then some .unary
  else if ["=", "!=", "<", ">", "-eq", "-ne", "-ge", "-gt", "-le", "-lt", "-nt", "-ot",
    "-ef"].contains s then some .binary
  else [("!", Kind.not), ("-a", .and), ("-o", .or), ("(", .parenOpen), (")", .parenClose)].lookup s

/-- What the first of some words is taken for. -/
inductive Sign where
  | ending
  | operand
  | operator (k : Kind)
  deriving DecidableEq

/-- Whether a unary operator with these words behind it is an operand. -/
def isOperand : List String → Bool
  | [] => true
  | [_] => false
  | s :: _ => kind? s = some .binary

def sign : List String → Sign
  | [] => .ending
  | s :: rest =>
    match kind? s with
    | none => .operand
    | some .unary => if isOperand rest then .operand else .operator .unary
    | some .parenOpen => if rest.isEmpty then .operand else .operator .parenOpen
    | some k => .operator k

def number (text : String) : Sh Int := do
  let n ← Sh.integer text
  if n < Arithmetic.smallest || Arithmetic.largest < n then Sh.fail ("Illegal number: " ++ text)
  return n

def testFile (operator path : String) : Sh Bool := do
  let follows := !(["-h", "-L"].contains operator)
  match ← Sh.ask (Job.inspect path follows) with
  | .error _ => return false
  | .ok facts =>
    match operator with
    | "-f" => return facts.isRegular
    | "-d" => return facts.isDirectory
    | "-c" => return facts.isDevice
    | "-p" => return facts.isPipe
    | "-s" => return 0 < facts.size
    | "-x" => return facts.isExecutable
    | "-h" | "-L" => return facts.isLink
    | "-e" | "-r" | "-w" | "-O" | "-G" => return true
    | _ => return false

def unary (operator operand : String) : Sh Bool := do
  match operator with
  | "-z" => return operand.isEmpty
  | "-n" => return !operand.isEmpty
  | "-t" => do
    discard (number operand)
    return false
  | _ => testFile operator operand

def binary (a operator b : String) : Sh Bool := do
  let numbers (holds : Int → Int → Bool) : Sh Bool := do
    let m ← number a
    return holds m (← number b)
  match operator with
  | "=" => return a == b
  | "!=" => return a != b
  | "<" => return a < b
  | ">" => return b < a
  | "-eq" => numbers (· == ·)
  | "-ne" => numbers (· != ·)
  | "-ge" => numbers fun m n => n ≤ m
  | "-gt" => numbers fun m n => n < m
  | "-le" => numbers fun m n => m ≤ n
  | "-lt" => numbers fun m n => m < n
  | "-ef" => do
    match ← Sh.ask (Job.inspect a true), ← Sh.ask (Job.inspect b true) with
    | .ok f, .ok g => return f.node = g.node
    | _, _ => return false
  | _ => return false

mutual

/-- Conditions of which one has to hold; the words come back from the last one read on. -/
def disjunction : (steps : Nat) → Sign → List String → Bool → Sh (Bool × List String)
  | 0, _, ws, result => return (result, ws)
  | steps + 1, s, ws, result => do
    let (r, ws) ← conjunction steps s ws true
    let result := result || r
    if sign (ws.drop 1) = .operator .or then
      disjunction steps (sign (ws.drop 2)) (ws.drop 2) result
    else return (result, ws)

def conjunction : (steps : Nat) → Sign → List String → Bool → Sh (Bool × List String)
  | 0, _, ws, result => return (result, ws)
  | steps + 1, s, ws, result => do
    let (r, ws) ← negation steps s ws
    let result := result && r
    if sign (ws.drop 1) = .operator .and then
      conjunction steps (sign (ws.drop 2)) (ws.drop 2) result
    else return (result, ws)

def negation : (steps : Nat) → Sign → List String → Sh (Bool × List String)
  | 0, _, ws => return (false, ws)
  | steps + 1, s, ws => do
    if s = .operator .not then
      let next := sign (ws.drop 1)
      let (r, ws) ← negation steps next (if next = .ending then ws else ws.drop 1)
      return (!r, ws)
    else primary steps s ws

def primary : (steps : Nat) → Sign → List String → Sh (Bool × List String)
  | 0, _, ws => return (false, ws)
  | steps + 1, s, ws => do
    match s, ws with
    | .ending, _ | _, [] => return (false, ws)
    | .operator .parenOpen, _ :: rest =>
      let next := sign rest
      if next = .operator .parenClose then return (false, rest)
      let (r, ws) ← disjunction steps next rest false
      if sign (ws.drop 1) ≠ .operator .parenClose then Sh.fail "closing paren expected"
      return (r, ws.drop 1)
    | .operator .unary, operator :: rest =>
      match rest with
      | [] => Sh.fail (operator ++ ": argument expected")
      | operand :: _ => return (← unary operator operand, rest)
    | _, a :: rest =>
      match sign rest, rest with
      | .operator .binary, operator :: behind =>
        match behind with
        | [] => Sh.fail (operator ++ ": argument expected")
        | b :: _ => return (← binary a operator b, behind)
      | _, _ => return (!a.isEmpty, ws)

end

/-- Tests words that stand between brackets, or behind the name; `wanted` is turned by what negates
the whole of few words. -/
def evaluate : (steps : Nat) → (wanted : Bool) → List String → Sh Nat
  | 0, _, _ => return 2
  | steps + 1, wanted, ws => do
    let whole (s : Sign) (ws : List String) : Sh Nat := do
      let (r, rest) ← disjunction (10 * ws.length + 10) s ws false
      match rest with
      | odd :: _ :: _ => Sh.fail (odd ++ ": unexpected operator")
      | _ => return if r = wanted then 0 else 1
    let enclosed := ws.head? = some "(" && ws.getLast? = some ")"
    let shortened (ws : List String) : Sh Nat := do
      if enclosed then
        let inner := (ws.drop 1).dropLast
        whole (sign inner) inner
      else if ws.head? = some "!" then evaluate steps (!wanted) (ws.drop 1)
      else whole (sign ws) ws
    match ws with
    | [] => return if wanted then 1 else 0
    | [_, operator, _] =>
      if kind? operator = some .binary then whole .operand ws else shortened ws
    | [_, _, _, _] => shortened ws
    | ws => whole (sign ws) ws

def run (name : String) (args : List String) : Sh Nat := do
  if name = "[" then
    if (args.getLast?.map fun a => a.startsWith "]").getD false then
      evaluate (args.length + 1) true args.dropLast
    else Sh.fail "missing ]"
  else evaluate (args.length + 1) true args

end Replay.Shell.Builtin.Test
