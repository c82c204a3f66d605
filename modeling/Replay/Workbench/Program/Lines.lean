import Replay.Workbench.Program.Stream

/-! Reading line by line: what was read beyond a line is kept for the next one. -/
namespace Replay.Program

open Machine

/-- A descriptor that is read line by line. -/
structure LineSource where
  fd : Nat
  /-- The characters that were read and not handed out. -/
  rest : List Char
  isDone : Bool

namespace LineSource

def ofDescriptor (fd : Nat) : LineSource := ⟨fd, [], false⟩

def block : Nat := 4096

/-- Reads the rest of a line, of which the front was read, last character first; whether it has an
end is told with it. Nothing if nothing is left. -/
def lineFrom (separator : Char) : (turns : Nat) → LineSource → List Char →
    Job (Except Refusal (Option (List Char × Bool) × LineSource))
  | 0, s, _ => return .ok (none, s)
  | turns + 1, s, front => do
    let (here, behind) := s.rest.span (· != separator)
    let front := here.reverseAux front
    match behind with
    | _ :: rest => return .ok (some (front.reverse, true), { s with rest })
    | [] =>
      let s := { s with rest := [] }
      let ending : Option (List Char × Bool) :=
        if front.isEmpty then none else some (front.reverse, false)
      if s.isDone then return .ok (ending, s)
      else match ← Job.read s.fd block with
        | .error r => return .error r
        | .ok bytes =>
          if bytes.isEmpty then return .ok (ending, { s with isDone := true })
          else lineFrom separator turns { s with rest := unpackList bytes } front

def next (s : LineSource) (separator : Char) :
    Job (Except Refusal (Option (List Char × Bool) × LineSource)) :=
  lineFrom separator Job.forever s []

def isAtEnd (s : LineSource) : Job (Except Refusal Bool × LineSource) := do
  if !s.rest.isEmpty then return (.ok false, s)
  else if s.isDone then return (.ok true, s)
  else match ← Job.read s.fd block with
    | .error r => return (.error r, s)
    | .ok bytes =>
      return (.ok bytes.isEmpty, { s with rest := unpackList bytes, isDone := bytes.isEmpty })

end LineSource

end Replay.Program
