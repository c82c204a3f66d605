import Replay.Workbench.Program.Stream

/-! Passing input on to several places at once: `tee`. -/
namespace Replay.Program.Branching

open Machine

/-- A place to write to, with its name in complaints. -/
structure Branch where
  name : String
  fd : Nat

/-- Opens the files to write to; those that cannot be are told of. -/
def openAll (name : String) (access : Access) : List String → Job (List Branch × Bool)
  | [] => return ([], true)
  | path :: rest => do
    let opened ← Job.openFile path access
    match opened with
    | .error r => complaint name (plainTrouble path r)
    | .ok _ => pure ()
    let (others, isWhole) ← openAll name access rest
    match opened with
    | .ok fd => return (⟨quoteName path, fd⟩ :: others, isWhole)
    | .error _ => return (others, false)

/-- Writes to all branches; those that refuse are told of and left out. -/
def writeAll (name : String) (bytes : ByteArray) : List Branch → Job (List Branch)
  | [] => return []
  | b :: rest => do
    match ← Job.writeBytes b.fd bytes with
    | .ok () => return b :: (← writeAll name bytes rest)
    | .error r =>
      complaint name (b.name ++ ": " ++ r.text)
      writeAll name bytes rest

/-- Passes the input on as long as a branch is left; whether none was lost comes back. -/
def passOn (name : String) : (turns : Nat) → List Branch → (isWhole : Bool) → Job Bool
  | 0, _, isWhole => return isWhole
  | turns + 1, branches, isWhole => do
    if branches.isEmpty then return isWhole
    match ← Job.read 0 Job.blockSize with
    | .error r =>
      complaint name ("read error: " ++ r.text)
      return false
    | .ok bytes =>
      if bytes.isEmpty then return isWhole
      let left ← writeAll name bytes branches
      passOn name turns left (isWhole && left.length = branches.length)

def tee : List String → Job Nat := withOptions
  [.flag "append" ['a'] ["append"], .flag "ignore" ['i'] ["ignore-interrupts"],
   .flag "pipe" ['p'] []] true 1 fun name a => do
    if a.has "ignore" then Job.onSignal 2 .ignore
    let access : Access := if a.has "append" then .append else .write false
    let (branches, isWhole) ← openAll name access a.operands
    let isPassed ← passOn name Job.forever (⟨"'standard output'", 1⟩ :: branches) true
    return if isWhole && isPassed then 0 else 1

end Replay.Program.Branching
