import Replay.Workbench.Program.Stream

/-! The program that copies its operands, and may show what cannot be seen. -/
namespace Replay.Program.Cat

open Machine

/-- What is done to the text. -/
structure Style where
  /-- Lines are numbered, or those that are not empty. -/
  numbers : Bool
  numbersFull : Bool
  squeezes : Bool
  showsEnds : Bool
  showsTabs : Bool
  showsHidden : Bool

namespace Style

def isPlain (s : Style) : Bool :=
  !(s.numbers || s.numbersFull || s.squeezes || s.showsEnds || s.showsTabs || s.showsHidden)

def ofArguments (a : Arguments) : Style where
  numbers := a.has "number" && !a.has "number-full"
  numbersFull := a.has "number-full"
  squeezes := a.has "squeeze"
  showsEnds := a.has "ends" || a.has "all" || a.has "e"
  showsTabs := a.has "tabs" || a.has "all" || a.has "t"
  showsHidden := a.has "hidden" || a.has "all" || a.has "e" || a.has "t"

/-- A character that has a picture if hidden ones are shown. -/
def picture (s : Style) (c : Char) : List Char :=
  let low (n : Nat) : List Char :=
    if n < 32 then ['^', Char.ofNat (n + 64)] else if n = 127 then ['^', '?'] else [Char.ofNat n]
  if c = '\t' then if s.showsTabs then ['^', 'I'] else [c]
  else if !s.showsHidden then [c]
  else if c.toNat < 128 then low c.toNat
  else 'M' :: '-' :: low (c.toNat - 128)

end Style

/-- Where the copying is: the number of the last line, how many line ends came in a row, and a
carriage return that waits for what follows it. -/
structure State where
  line : Nat
  ends : Nat
  waits : Bool

def State.start : State := ⟨0, 1, false⟩

/-- Takes one character; the text made of it is put in front of `done`, last character first. -/
def take (s : Style) (x : State × List Char) (c : Char) : State × List Char :=
  let (state, done) := x
  let done := if state.waits then
      if c = '\n' then 'M' :: '^' :: done else '\r' :: done
    else done
  let state := { state with waits := false }
  if c = '\n' then
    let ends := state.ends + 1
    if s.squeezes && 2 < ends then ({ state with ends := 3 }, done)
    else
      let isEmpty := 1 < ends
      let (line, done) := if isEmpty && s.numbers then
          (state.line + 1, '\t' :: (rightAligned 6 (state.line + 1)).reverseAux done)
        else (state.line, done)
      let done := if s.showsEnds then '$' :: done else done
      ({ state with line, ends }, '\n' :: done)
  else
    let isStart := 0 < state.ends
    let (line, done) := if isStart && (s.numbers || s.numbersFull) then
        (state.line + 1, '\t' :: (rightAligned 6 (state.line + 1)).reverseAux done)
      else (state.line, done)
    let state := { state with line, ends := 0 }
    if c = '\r' && s.showsEnds && !s.showsHidden then ({ state with waits := true }, done)
    else (state, (s.picture c).reverseAux done)

def options : List Known :=
  [.flag "number-full" ['b'] ["number-nonblank"], .flag "number" ['n'] ["number"],
   .flag "squeeze" ['s'] ["squeeze-blank"], .flag "hidden" ['v'] ["show-nonprinting"],
   .flag "ends" ['E'] ["show-ends"], .flag "tabs" ['T'] ["show-tabs"],
   .flag "all" ['A'] ["show-all"], .flag "e" ['e'] [], .flag "t" ['t'] [], .flag "u" ['u'] []]

def copyAll (name : String) (style : Style) : List String → State → (status : Nat) → Job Nat
  | [], state, status => do
    if state.waits then emit name ['\r']
    return status
  | path :: rest, state, status => do
    let trouble (r : Refusal) (state : State) : Job Nat := do
      complaint name (plainTrouble path r)
      copyAll name style rest state 1
    match ← openOperand path with
    | .error r => trouble r state
    | .ok fd =>
      let copied ← eachBlock fd Job.blockSize (fun (state : State) bytes => do
        if style.isPlain then
          emitBytes name 1 bytes
          return (state, true)
        else
          let (state, done) := (unpackList bytes).foldl (take style) (state, [])
          emit name done.reverse
          return (state, true)) Job.forever state
      closeOperand path fd
      match copied with
      | .ok state => copyAll name style rest state status
      | .error r => trouble r state

def run : List String → Job Nat := withOptions options true 1 fun name a => do
  match ← Job.keep 1 10 with
  | .error r =>
    complaint name ("standard output: " ++ r.text)
    return 1
  | .ok copy =>
    Job.close copy
    let sources := sourcesOf a
    let status ← copyAll name (Style.ofArguments a) sources .start 0
    if sources.contains "-" then
      match ← Job.keep 0 10 with
      | .error r =>
        complaint name ("closing standard input: " ++ r.text)
        return 1
      | .ok copy => Job.close copy
    return status

end Replay.Program.Cat
