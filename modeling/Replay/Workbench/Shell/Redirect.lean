import Replay.Workbench.Shell.Process

/-! Redirections: what descriptors are connected with while a command runs. -/
namespace Replay.Shell

open Machine

/-- A redirection whose words are expanded. -/
inductive Redirection where
  | file (fd : Nat) (opening : Opening) (path : String)
  | copy (fd : Nat) (source : Option Nat)
  /-- The text is made when its turn comes. -/
  | document (fd : Nat) (text : Sh String)

/-- A descriptor that was redirected, with a copy of what it was connected with, if anything. -/
abbrev Displaced := Nat × Option Nat

namespace Evaluator

variable (e : Evaluator)

def expandRedirect (r : Redirect) : Sh Redirection := do
  match r with
  | .file fd opening target => return .file fd opening (← Sh.expandText e.output target)
  | .copy fd source => return .copy fd source
  | .copyOf fd word =>
    let text ← Sh.expandText e.output word
    match text.toList with
    | ['-'] => return .copy fd none
    | [c] => if c.isDigit then return .copy fd (some (c.toNat - 48))
    | _ => pure ()
    Sh.fail "Syntax error: Bad fd number"
  | .document fd _ true body => return .document fd (Sh.expandDocument e.output body)
  | .document fd _ false body => return .document fd (return bareText body)

def openingText (creates : Bool) : Refusal → String
  | .notFound | .notDirectory => if creates then "Directory nonexistent" else "No such file"
  | r => r.text

def openFor (opening : Opening) (path : String) : Sh Nat := do
  let keepsFiles ← Sh.isOn 'C'
  let isRegular : Sh Bool := do
    match ← Sh.ask (Job.inspect path true) with
    | .ok facts => return facts.isRegular
    | .error _ => return false
  let (access, creates) ← match opening with
    | .read => pure (Access.read, false)
    | .write => pure (Access.write (keepsFiles && (← isRegular)), true)
    | .overwrite => pure (.write false, true)
    | .append => pure (.append, true)
    | .update => pure (.update, true)
  match ← Sh.ask (Job.openFile path access) with
  | .ok fd => return fd
  | .error r =>
    Sh.fail ((if creates then "cannot create " else "cannot open ") ++ path ++ ": " ++
      openingText creates r)

def openDocument (document : Sh String) : Sh Nat := do
  let (reading, writing) ← Sh.ask Job.pipe
  let text ← document
  if text.length ≤ 4096 then discard (Sh.ask (Job.write writing text))
  else
    discard (e.fork do
      Sh.ask (Job.close reading)
      discard (Sh.ask (Job.write writing text))
      Sh.setStatus 0
      return 0)
  Sh.ask (Job.close writing)
  return reading

/-- Connects a descriptor anew. What it was connected with is told if it is to be kept. -/
def redirect (r : Redirection) (keeps : Bool) : Sh (Option Displaced) := do
  let displace (fd : Nat) : Sh (Option Displaced) := do
    if !keeps then return none
    match ← Sh.ask (Job.keep fd 10) with
    | .ok copy => return some (fd, some copy)
    | .error _ => return some (fd, none)
  let connect (fd source : Nat) : Sh (Option Displaced) := do
    if source = fd then return some (fd, none)
    let displaced ← displace fd
    discard (Sh.ask (Job.copy source fd))
    Sh.ask (Job.close source)
    return displaced
  match r with
  | .file fd opening path => connect fd (← openFor opening path)
  | .document fd text => connect fd (← e.openDocument text)
  | .copy fd none =>
    let displaced ← displace fd
    Sh.ask (Job.close fd)
    return displaced
  | .copy fd (some source) =>
    if source = fd then return none
    let displaced ← displace fd
    match ← Sh.ask (Job.copy source fd) with
    | .ok () => return displaced
    | .error r =>
      if let some (fd, some copy) := displaced then
        discard (Sh.ask (Job.copy copy fd))
        Sh.ask (Job.close copy)
      Sh.fail (decimal source ++ ": " ++ r.text)

/-- Connects descriptors with what they were connected with before; `stays` only forgets that. -/
def bringBack (displaced : List Displaced) (stays : Bool) : Sh Unit := do
  for (fd, copy) in displaced do
    match copy with
    | some copy =>
      if !stays then discard (Sh.ask (Job.copy copy fd))
      Sh.ask (Job.close copy)
    | none => if !stays then Sh.ask (Job.close fd)

/-- Connects descriptors anew, one after the other, and tells what they were connected with, last
ones first. If one cannot be, the others are as before. -/
def redirectAll (rs : List Redirection) : Sh (List Displaced) := do
  let rec go : List Redirection → List Displaced → Sh (List Displaced)
    | [], done => return done
    | r :: rest, done => do
      let fd := match r with
        | .file fd .. | .copy fd _ | .document fd _ => fd
      let keeps := !done.any (·.1 = fd)
      match ← Sh.attempt (e.redirect r keeps) with
      | .ok (some displaced) => go rest (if keeps then displaced :: done else done)
      | .ok none => go rest done
      | .error j =>
        bringBack done false
        throw j
  go rs []

end Evaluator

end Replay.Shell
