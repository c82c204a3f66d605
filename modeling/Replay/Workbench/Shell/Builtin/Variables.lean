import Replay.Workbench.Shell.Builtin.Basic

/-! Builtins about variables, parameters and the options of the shell. -/
namespace Replay.Shell.Builtin

open Machine

/-- The name in front of an equals sign, and the value behind it. -/
def splitAssignment (text : String) : String × Option String :=
  match text.toList.span (· != '=') with
  | (name, _ :: value) => (String.ofList name, some (String.ofList value))
  | (name, []) => (String.ofList name, none)

def needName (name : String) : Sh Unit := do
  unless isName name do Sh.fail (name ++ ": bad variable name")

/-- The variables in the order of their names, those that are to be shown. -/
def sortedVariables (s : State) (isShown : Variable → Bool) : List (String × Variable) :=
  (s.bindings.filter (isShown ·.2)).mergeSort fun a b => !(b.1 < a.1)

def showVariables (head : String) (isShown : Variable → Bool) : Sh Nat := do
  let s ← get
  let front := if head.isEmpty then "" else head ++ " "
  let lines := (sortedVariables s isShown).map fun (name, v) =>
    front ++ name ++ ((v.value.map fun _ =>
      "=" ++ quoted ((s.value? name).getD "")).getD "") ++ "\n"
  Sh.put (String.join lines)
  return 0

def markVariables (mark : Variable → Variable) : List String → Sh Nat
  | [] => return 0
  | arg :: rest => do
    let (name, value) := splitAssignment arg
    needName name
    match value with
    | some value => Sh.assign name value false
    | none => pure ()
    modify fun s => s.setVariable name (mark ((s.entry? name).getD ⟨none, false, false⟩))
    markVariables mark rest

def exportOrProtect (name : String) (args : List String) : Sh Nat := do
  let protects := name == "readonly"
  let (shows, args) ← flags ['p'] args
  if shows.isEmpty && !args.isEmpty then
    markVariables (fun v => if protects then { v with isReadOnly := true }
      else { v with isExported := true }) args
  else showVariables name fun v => if protects then v.isReadOnly else v.isExported

/-- Keeps variables, which may get values until the end of the function. -/
def makeLocal : List String → Sh Nat
  | [] => return 0
  | "-" :: rest => do
    modify fun s => match s.kept with
      | frame :: outer => { s with kept := (.options s.options :: frame) :: outer }
      | [] => s
    makeLocal rest
  | arg :: rest => do
    let (name, value) := splitAssignment arg
    needName name
    Sh.keep name
    match value with
    | some value => Sh.assign name value false
    | none =>
      modify fun s =>
        if (s.entry? name).isSome then s else s.setVariable name ⟨none, false, false⟩
    makeLocal rest

def localVariables (args : List String) : Sh Nat := do
  if (← get).kept.isEmpty then Sh.fail "not in a function"
  makeLocal args

def unset (args : List String) : Sh Nat := do
  let (which, args) ← flags ['v', 'f'] args
  if which.getLast? = some 'f' then
    modify fun s => { s with functions := s.functions.filter fun f => !args.contains f.1 }
  else
    for name in args do
      needName name
      Sh.unset name
  return 0

/-- The options with their letters, in the order they are listed in. -/
def optionNames : List (String × Char) :=
  [("errexit", 'e'), ("noglob", 'f'), ("ignoreeof", 'I'), ("interactive", 'i'), ("monitor", 'm'),
   ("noexec", 'n'), ("stdin", 's'), ("xtrace", 'x'), ("verbose", 'v'), ("vi", 'V'), ("emacs", 'E'),
   ("noclobber", 'C'), ("allexport", 'a'), ("notify", 'b'), ("nounset", 'u'), ("privileged", 'p'),
   ("nolog", '1'), ("debug", '2')]

def setOption (option : Char) (isOn : Bool) : Sh Unit := do
  unless optionNames.any (fun o => o.2 = option && !option.isDigit) do
    Sh.fail ("Illegal option -" ++ String.singleton option)
  modify fun s =>
    let others := s.options.filter (· ≠ option)
    { s with options := if isOn then option :: others else others }

def nameOption (name : String) (isOn : Bool) : Sh Unit := do
  match optionNames.lookup name with
  | none => Sh.fail ("Illegal option -o " ++ name)
  | some option =>
    modify fun s =>
      let others := s.options.filter (· ≠ option)
      { s with options := if isOn then option :: others else others }

/-- Lists the options, in words or in commands that set them again. -/
def listOptions (inWords : Bool) : Sh Unit := do
  let s ← get
  let pad (name : String) : String :=
    name ++ String.ofList (List.replicate (16 - name.length) ' ')
  let lines := optionNames.map fun (name, option) =>
    let isOn := s.options.contains option
    if inWords then pad name ++ (if isOn then "on" else "off") ++ "\n"
    else "set " ++ (if isOn then "-o " else "+o ") ++ name ++ "\n"
  Sh.put ((if inWords then "Current option settings\n" else "") ++ String.join lines)

/-- What is read of the options in front of the arguments. -/
structure Setting where
  args : List String
  /-- Whether what follows is to replace the parameters even if it is nothing. -/
  replaces : Bool
  /-- Whether the script is an argument. -/
  isCommand : Bool

def settingLetters (isOn isStart : Bool) : List Char → Setting → Sh Setting
  | [], x => return x
  | c :: cs, x => do
    if c = 'c' && isStart then settingLetters isOn isStart cs { x with isCommand := true }
    else if c = 'l' && isStart then settingLetters isOn isStart cs x
    else if c = 'o' then
      match x.args with
      | [] => listOptions isOn
      | name :: _ => nameOption name isOn
      settingLetters isOn isStart cs { x with args := x.args.drop 1 }
    else
      setOption c isOn
      settingLetters isOn isStart cs x

/-- Reads options; `isStart` where a shell starts. -/
def settings (isStart : Bool) : (steps : Nat) → Setting → Sh Setting
  | 0, x => return x
  | steps + 1, x => do
    match x.args with
    | [] => return x
    | arg :: rest =>
      match arg.toList with
      | ['-'] =>
        unless isStart do
          modify fun s => { s with options := s.options.filter fun o => o ≠ 'x' && o ≠ 'v' }
        return { x with args := rest }
      | ['-', '-'] => return { x with args := rest, replaces := true }
      | '-' :: cs =>
        settings isStart steps (← settingLetters true isStart cs { x with args := rest })
      | '+' :: cs =>
        settings isStart steps (← settingLetters false isStart cs { x with args := rest })
      | _ => return x

def withoutTerminal : Sh Unit := do
  let s ← get
  if s.options.contains 'm' && !s.isSubshell then
    Sh.warn "can't access tty; job control turned off"
    modify fun s => { s with options := s.options.filter (· ≠ 'm') }

def set (args : List String) : Sh Nat := do
  if args.isEmpty then showVariables "" fun v => v.value.isSome
  else
    let x ← settings false (args.length + 1) ⟨args, false, false⟩
    withoutTerminal
    if x.replaces || !x.args.isEmpty then
      modify fun s => { s with parameters := x.args, optionWord := 1, optionPlace := 0 }
    return 0

def shift (args : List String) : Sh Nat := do
  let n ← match args with
    | [] => pure 1
    | text :: _ => Sh.number text
  let s ← get
  if s.parameters.length < n then Sh.fail "can't shift that many"
  modify fun s => { s with
    parameters := s.parameters.drop n, optionWord := 1, optionPlace := 0 }
  return 0

/-- A line being read, as runs of characters; those that a backslash guards stand apart. -/
structure Line where
  /-- The runs, last first, each last character first, and whether it was guarded. -/
  runs : List (List Char × Bool)

namespace Line

def add (l : Line) (c : Char) : Line :=
  match l.runs with
  | (cs, false) :: rest => ⟨(c :: cs, false) :: rest⟩
  | runs => ⟨([c], false) :: runs⟩

def addGuarded (l : Line) (c : Char) : Line := ⟨([], false) :: ([c], true) :: l.runs⟩

def addBreak (l : Line) : Line := ⟨([], false) :: l.runs⟩

/-- Reads characters up to the end of the line; tells whether the line was ended. -/
def read (isRaw : Bool) : (steps : Nat) → (isGuarded : Bool) → Line → Sh (Bool × Line)
  | 0, _, l => return (false, l)
  | steps + 1, isGuarded, l => do
    match ← Sh.ask (Job.read 0 1) with
    | .error _ => return (false, l)
    | .ok bytes =>
      match unpackList bytes with
      | c :: _ =>
        if c = '\x00' then read isRaw steps isGuarded l
        else if isGuarded then
          read isRaw steps false (if c = '\n' then l.addBreak else l.addGuarded c)
        else if !isRaw && c = '\\' then read isRaw steps true l
        else if c = '\n' then return (true, l)
        else read isRaw steps false (l.add c)
      | [] => return (false, l)

end Line

/-- The state of cutting a line into a number of fields. -/
structure LineCutter where
  fields : List (List Char)
  /-- The field that is read, last character first. -/
  open_ : List Char
  /-- How many fields are still to come. -/
  most : Nat
  isBehindBlank : Bool
  /-- Where the last field ends if nothing follows but what ends fields. -/
  cut : Option Nat

namespace LineCutter

def takeChar (separators : List Char) (x : LineCutter) (c : Char) : LineCutter :=
  let isSeparator := separators.contains c
  let isBlank := isSeparator && Cutter.isBlank c
  if x.most = 0 then
    let kept := { x with open_ := c :: x.open_ }
    if isBlank then { kept with cut := x.cut.or (some x.open_.length) }
    else
      { kept with
        cut := if isSeparator && x.isBehindBlank then x.cut else none
        isBehindBlank := false }
  else if x.isBehindBlank && isSeparator then
    if isBlank then x else { x with isBehindBlank := false }
  else if isSeparator then
    if x.open_.isEmpty && isBlank then { x with isBehindBlank := false }
    else if x.most = 1 then
      { x with
        most := 0, isBehindBlank := isBlank, cut := some x.open_.length, open_ := c :: x.open_ }
    else { x with
      fields := x.open_.reverse :: x.fields, open_ := [], most := x.most - 1
      isBehindBlank := isBlank }
  else { x with open_ := c :: x.open_, isBehindBlank := false }

def takeRun (separators : List Char) (x : LineCutter) (run : List Char × Bool) : LineCutter :=
  if run.2 then { x with open_ := run.1 ++ x.open_ }
  else run.1.reverse.foldl (takeChar separators) { x with isBehindBlank := false }

def finish (x : LineCutter) : List String :=
  let last := match x.cut with
    | some n => x.open_.drop (x.open_.length - n)
    | none => x.open_
  ((if last.isEmpty then x.fields else last.reverse :: x.fields).reverse).map String.ofList

end LineCutter

/-- The fields of a line, at most so many. -/
def Line.fields (l : Line) (separators : List Char) (most : Nat) : List String :=
  (l.runs.reverse.foldl (LineCutter.takeRun separators) ⟨[], [], most, false, none⟩).finish

/-- Gives the names the fields, and nothing to those for which there is none. -/
def assignFields : List String → List String → Sh Unit
  | [], _ => return
  | name :: rest, fields => do
    needName name
    Sh.assign name (fields.headD "") false
    assignFields rest (fields.drop 1)

def readLine (args : List String) : Sh Nat := do
  let (found, names) ← options [('p', .text), ('r', .nothing)] args
  if names.isEmpty then Sh.fail "arg count"
  let (isEnded, line) ← Line.read (found.any (·.1 = 'r')) always false ⟨[([], false)]⟩
  assignFields names (line.fields (← get).separators names.length)
  return if isEnded then 0 else 1

def takesText? (option : Char) : List Char → Option Bool
  | [] => none
  | c :: ':' :: rest => if c = option then some true else takesText? option rest
  | c :: rest => if c = option then some false else takesText? option rest

def nextOption (letters : List Char) (name : String) (words : List String) : Sh Nat := do
  let s ← get
  let index := if words.length + 1 < s.optionWord then 1 else max s.optionWord 1
  let place := if words.length + 1 < s.optionWord then 0 else s.optionPlace
  let word (n : Nat) : Option (List Char) := (words[n - 1]?).map String.toList
  let left : List Char :=
    if index ≤ 1 || place = 0 then [] else ((word (index - 1)).getD []).drop place
  let isQuiet := letters.head? = some ':'
  let finish (isDone : Bool) (option : Char) (index place : Nat) : Sh Nat := do
    Sh.assign "OPTIND" (decimal index) false
    modify fun s => { s with optionWord := index, optionPlace := place }
    needName name
    Sh.assign name (String.singleton option) false
    return if isDone then 1 else 0
  let found : Option (List Char × Nat × Bool) :=
    if !left.isEmpty then some (left, index, false)
    else match word index with
      | some ['-', '-'] => some ([], index + 1, true)
      | some ('-' :: c :: cs) => some (c :: cs, index + 1, false)
      | _ => none
  let complain (option : Char) (text : String) : Sh Unit := do
    if isQuiet then Sh.assign "OPTARG" (String.singleton option) false
    else
      Sh.write 2 (text ++ "\n")
      Sh.unset "OPTARG"
  match found with
  | none => finish true '?' index 0
  | some (_, index, true) => finish true '?' index 0
  | some ([], index, _) => finish true '?' index 0
  | some (c :: cs, index, false) =>
    let placeBehind := if cs.isEmpty then 0 else ((word (index - 1)).getD []).length - cs.length
    match takesText? c letters with
    | none =>
      complain c ("Illegal option -" ++ String.singleton c)
      finish false '?' index placeBehind
    | some false =>
      Sh.assign "OPTARG" "" false
      finish false c index placeBehind
    | some true =>
      if !cs.isEmpty then
        Sh.assign "OPTARG" (String.ofList cs) false
        finish false c index 0
      else match word index with
        | some text =>
          Sh.assign "OPTARG" (String.ofList text) false
          finish false c (index + 1) 0
        | none =>
          complain c ("No arg for -" ++ String.singleton c ++ " option")
          finish false (if isQuiet then ':' else '?') index 0

def getopts (args : List String) : Sh Nat := do
  let (_, args) ← flags [] args
  match args with
  | letters :: name :: rest =>
    let s ← get
    nextOption letters.toList name (if rest.isEmpty then s.parameters else rest)
  | _ => Sh.fail "Usage: getopts optstring var [arg...]"

end Replay.Shell.Builtin
