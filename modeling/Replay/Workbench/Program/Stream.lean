import Replay.Workbench.Program.Arguments

/-! How programs read their operands and write what they have to say. -/
namespace Replay.Program

open Machine

def emitBytes (name : String) (status : Nat) (bytes : ByteArray) : Job Unit := do
  match ← Job.writeBytes 1 bytes with
  | .ok () => return
  | .error r =>
    complaint name ("write error: " ++ r.text)
    Job.exit status

def emit (name : String) (text : List Char) : Job Unit := emitBytes name 1 (packList text)

def emitText (name text : String) : Job Unit := emitBytes name 1 (pack text)

def openOperand (path : String) : Job (Except Refusal Nat) :=
  if path = "-" then return .ok 0 else Job.openFile path .read

def closeOperand (path : String) (fd : Nat) : Job Unit :=
  if path = "-" then return else Job.close fd

def readOperand (path : String) : Job (Except Refusal ByteArray) := do
  match ← openOperand path with
  | .error r => return .error r
  | .ok fd =>
    let content ← Job.readAll fd
    closeOperand path fd
    return content

/-- The operands of a program, which reads its input without any. -/
def sourcesOf (a : Arguments) : List String :=
  if a.operands.isEmpty then ["-"] else a.operands

/-- Takes what is behind a descriptor piece by piece, as long as it is wanted. -/
def eachBlock {σ : Type} (fd size : Nat) (take : σ → ByteArray → Job (σ × Bool)) :
    (turns : Nat) → σ → Job (Except Refusal σ)
  | 0, s => return .ok s
  | turns + 1, s => do
    match ← Job.read fd size with
    | .error r => return .error r
    | .ok bytes =>
      if bytes.isEmpty then return .ok s
      let (s, goesOn) ← take s bytes
      if goesOn then eachBlock fd size take turns s else return .ok s

/-- How a number is written in front of texts: behind blanks, to a width. -/
def rightAligned (width n : Nat) : List Char :=
  let ds := Nat.toDigits 10 n
  List.replicate (width - ds.length) ' ' ++ ds

def textLines (bytes : ByteArray) : List (List Char) := (linesOf (unpackList bytes)).1

def endedLines (lines : List (List Char)) : List Char :=
  lines.foldr (fun line rest => line ++ '\n' :: rest) []

/-- Reads all operands one after the other, telling of those that cannot be read; the contents come
back in order, with whether all could be read. -/
def readAllOperands (name : String) (tell : String → Refusal → String) :
    List String → Job (List ByteArray × Bool)
  | [] => return ([], true)
  | path :: rest => do
    match ← readOperand path with
    | .ok bytes =>
      let (others, isWhole) ← readAllOperands name tell rest
      return (bytes :: others, isWhole)
    | .error r =>
      complaint name (tell path r)
      let (others, _) ← readAllOperands name tell rest
      return (others, false)

def plainTrouble (path : String) (r : Refusal) : String := quoteName path ++ ": " ++ r.text

end Replay.Program
