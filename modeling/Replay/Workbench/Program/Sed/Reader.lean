import Replay.Workbench.Program.Plain
import Replay.Workbench.Program.Sed.Script

/-!
Reading scripts of the stream editor. A script comes in pieces, one for each argument that holds a
part of it; a complaint tells the piece, and how far in it reading had come.
-/
namespace Replay.Program.Sed

open Machine

/-- A piece of a script: an expression, or a file with a name. -/
structure Part where
  file : Option String
  text : List Char

def charsIn (parts : List Part) : Nat := parts.foldl (fun n p => n + p.text.length + 1) 0

/-- A block that is open: where it begins, and the piece it is in. -/
structure Open where
  place : Nat
  piece : Nat
  file : Option String

structure State where
  rest : List Char
  /-- How many characters were read of the piece, and how many of its lines. -/
  count : Nat
  line : Nat
  file : Option String
  piece : Nat
  parts : List Part
  commands : Array Command
  blocks : List Open
  labels : List (String × Nat)
  isQuiet : Bool
  isExtended : Bool

/-- Why a script cannot be read, and the status that the program ends with. -/
structure Fault where
  text : String
  status : Nat

abbrev Reading := EStateM Fault State

namespace Reading

def expression (piece count : Nat) (text : String) : String :=
  "-e expression #" ++ decimal piece ++ ", char " ++ decimal count ++ ": " ++ text

def bad {α : Type} (text : String) : Reading α := fun s =>
  .error ⟨match s.file with
    | some file => "file " ++ file ++ " line " ++ decimal s.line ++ ": " ++ text
    | none => expression s.piece s.count text, 1⟩ s

def take : Reading (Option Char) := modifyGet fun s =>
  match s.rest with
  | [] => (none, s)
  | c :: rest =>
    (some c, { s with rest, count := s.count + 1, line := s.line + if c = '\n' then 1 else 0 })

def untake (c : Option Char) : Reading Unit := modify fun s =>
  match c with
  | none => s
  | some c =>
    { s with rest := c :: s.rest, count := s.count - 1, line := s.line - if c = '\n' then 1 else 0 }

def isBlank (c : Char) : Bool := c == ' ' || c == '\t'

def takeWhile (p : Char → Bool) : Reading (List Char) := modifyGet fun s =>
  let front := s.rest.takeWhile p
  (front, { s with
    rest := s.rest.drop front.length, count := s.count + front.length
    line := s.line + front.count '\n' })

def takeVisible : Reading (Option Char) := do
  discard (takeWhile isBlank)
  take

/-- The number whose first digit was read. -/
def number (first : Char) : Reading Nat := do
  return ofDigits (first :: (← takeWhile Char.isDigit))

def commandEnd : Reading Unit := do
  match ← takeVisible with
  | none | some '\n' | some ';' => return
  | some c =>
    if c = '\x7d' || c = '#' then untake (some c)
    else bad "extra characters after command"

/-- Reads a set in brackets to its end; nothing if it has none. `done` is kept last first. -/
def set : (steps : Nat) → (isFirst : Bool) → List Char → Reading (Option (List Char))
  | 0, _, _ => return none
  | steps + 1, isFirst, done => do
    match ← take with
    | none => return none
    | some ']' => if isFirst then set steps false (']' :: done) else return some (']' :: done)
    | some '\\' =>
      match ← take with
      | some 'n' => set steps false ('\n' :: done)
      | c => do
        untake c
        set steps false ('\\' :: done)
    | some '[' =>
      match ← take with
      | some sign =>
        if sign = ':' || sign = '.' || sign = '=' then
          match Regex.Reading.inner sign (← get).rest [] with
          | some (name, _) => do
            let inside := name ++ [sign, ']']
            modify fun s => { s with
              rest := s.rest.drop inside.length, count := s.count + inside.length }
            set steps false (inside.reverseAux (sign :: '[' :: done))
          | none => set steps false (sign :: '[' :: done)
        else do
          untake (some sign)
          set steps false ('[' :: done)
      | none => return none
    | some c => set steps false (c :: done)

/-- Reads up to a delimiter, which may stand behind a backslash inside; nothing if there is none. -/
def delimited (delimiter : Char) (isRegex : Bool) : (steps : Nat) → List Char →
    Reading (Option (List Char))
  | 0, _ => return none
  | steps + 1, done => do
    match ← take with
    | none => return none
    | some c =>
      if c = delimiter then return some done.reverse
      else if c = '\n' && isRegex then
        return none
      else if c = '\\' then
        match ← take with
        | none => return none
        | some d =>
          if d = delimiter then
            delimited delimiter isRegex steps
              (if !isRegex && d = '&' then d :: '\\' :: done else d :: done)
          else if d = 'n' && isRegex then delimited delimiter isRegex steps ('\n' :: done)
          else if d = '\n' && isRegex then delimited delimiter isRegex steps (d :: done)
          else delimited delimiter isRegex steps (d :: '\\' :: done)
      else if c = '[' && isRegex then
        let front ← do
          match ← take with
          | some '^' => pure ['^', '[']
          | d => do
            untake d
            pure ['[']
        match ← set ((← get).rest.length + 1) true (front ++ done) with
        | some done => delimited delimiter isRegex steps done
        | none => return none
      else delimited delimiter isRegex steps (c :: done)

def textUpTo (delimiter : Char) (isRegex : Bool) : Reading (Option (List Char)) := do
  delimited delimiter isRegex ((← get).rest.length + 1) []

/-- The character that an escape stands for, and what follows it; nothing for other escapes. -/
def escape? : List Char → Option (Char × List Char)
  | 'a' :: rest => some ('\x07', rest)
  | 'f' :: rest => some ('\x0c', rest)
  | 'r' :: rest => some ('\r', rest)
  | 't' :: rest => some ('\t', rest)
  | 'v' :: rest => some ('\x0b', rest)
  | 'c' :: c :: rest =>
    let n := c.toUpper.toNat
    some (Char.ofNat (if n / 64 % 2 = 1 then n - 64 else n + 64), rest)
  | 'd' :: rest => numeral 10 3 (fun c => if c.isDigit then some (digitValue c) else none) rest
  | 'o' :: rest => numeral 8 3 octal? rest
  | 'x' :: rest => numeral 16 2 hexDigit? rest
  | _ => none
where
  numeral (base most : Nat) (digit? : Char → Option Nat) (cs : List Char) :
      Option (Char × List Char) :=
    let (n, rest) := digitsAt base 0 digit? most cs
    if rest.length = cs.length then none else some (Char.ofNat (n % 256), rest)

/-- A text in which escapes are the characters they stand for; `other` says what the rest of the
backslashes leave. -/
def unescaped (special : List Char) (other : Char → List Char) : (steps : Nat) → List Char →
    List Char
  | 0, cs => cs
  | _, [] => []
  | _, ['\\'] => ['\\']
  | steps + 1, '\\' :: c :: rest =>
    match escape? (c :: rest) with
    | some (d, behind) =>
      (if special.contains d then ['\\', d] else [d]) ++ unescaped special other steps behind
    | none => other c ++ unescaped special other steps rest
  | steps + 1, c :: rest => c :: unescaped special other steps rest

def regexText (cs : List Char) : List Char :=
  unescaped ['$', '*', '.', '[', '\\', ']', '^'] (fun c => ['\\', c]) cs.length cs

def search (text : List Char) (foldsCase hasLines : Bool) (groups : Nat) : Reading Search := do
  if text.isEmpty then
    if foldsCase || hasLines then bad "cannot specify modifiers on empty regexp"
    return ⟨none, false, false⟩
  let isExtended := (← get).isExtended
  let d : Regex.Dialect :=
    { isExtended, refusesLoneOperators := isExtended, refusesSecondOperators := !isExtended
      takesBadCounts := false, takesLoneCloses := false, hasLineAlternatives := false, foldsCase }
  if Regex.hasBareClass text.length text then
    fun s => .error ⟨"character class syntax is [[:space:]], not [:space:]", 4⟩ s
  match Regex.read d (regexText text) with
  | .error f => bad f.message
  | .ok (r, count) =>
    if count < groups then
      bad ("invalid reference \\" ++ decimal groups ++ " on \x60s' command's RHS")
    return ⟨some r, foldsCase, hasLines⟩

def addressFlags : (steps : Nat) → (foldsCase hasLines : Bool) → Reading (Bool × Bool)
  | 0, foldsCase, hasLines => return (foldsCase, hasLines)
  | steps + 1, foldsCase, hasLines => do
    match ← takeVisible with
    | some 'I' => addressFlags steps true hasLines
    | some 'M' => addressFlags steps foldsCase true
    | c =>
      untake c
      return (foldsCase, hasLines)

def visibleNumber : Reading Nat := do
  match ← takeVisible with
  | some c => if c.isDigit then number c else do
      untake (some c)
      return 0
  | none => return 0

def address (c : Option Char) : Reading (Option Address) := do
  match c with
  | some '$' => return some .last
  | some '+' => return some (.plus (← visibleNumber))
  | some '~' => return some (.multiple (← visibleNumber))
  | some c =>
    if c = '/' || c = '\\' then
      let delimiter ← if c = '/' then pure (some c) else take
      match delimiter with
      | none => bad "unterminated address regex"
      | some delimiter =>
        match ← textUpTo delimiter true with
        | none => bad "unterminated address regex"
        | some text => do
          let (foldsCase, hasLines) ← addressFlags ((← get).rest.length + 1) false false
          return some (.search (← search text foldsCase hasLines 0))
    else if c.isDigit then do
      let n ← number c
      match ← takeVisible with
      | some '~' => do
        let step ← visibleNumber
        return some (if step = 0 then .line n else .step n step)
      | c => do
        untake c
        return some (.line n)
    else return none
  | none => return none

def pieces : (steps : Nat) → List Char → List Piece
  | 0, _ | _, [] => []
  | _, ['\\'] => [.char '\\']
  | steps + 1, '\\' :: c :: rest =>
    match escape? (c :: rest) with
    | some (d, behind) => .char d :: pieces steps behind
    | none =>
      let piece : Piece := match c with
        | 'n' => .char '\n'
        | 'U' => .casing .upper
        | 'L' => .casing .lower
        | 'E' => .casing .keep
        | 'u' => .nextCasing .upper
        | 'l' => .nextCasing .lower
        | c => if c.isDigit then .group (digitValue c) else .char c
      piece :: pieces steps rest
  | steps + 1, '&' :: rest => .group 0 :: pieces steps rest
  | steps + 1, c :: rest => .char c :: pieces steps rest

structure Flags where
  isGlobal : Bool
  prints : Bool
  number : Option Nat
  foldsCase : Bool
  hasLines : Bool
  file : Option String

def fileName : Reading String := do
  discard (takeWhile isBlank)
  let name ← takeWhile (· != '\n')
  discard take
  if name.isEmpty then bad "missing filename in r/R/w/W commands"
  return String.ofList name

def flags : (steps : Nat) → Flags → Reading Flags
  | 0, f => return f
  | steps + 1, f => do
    match ← take with
    | none | some '\n' | some ';' => return f
    | some 'i' | some 'I' => flags steps { f with foldsCase := true }
    | some 'm' | some 'M' => flags steps { f with hasLines := true }
    | some 'g' =>
      if f.isGlobal then bad "multiple \x60g' options to \x60s' command"
      flags steps { f with isGlobal := true }
    | some 'p' =>
      if f.prints then bad "multiple \x60p' options to \x60s' command"
      flags steps { f with prints := true }
    | some 'w' => do return { f with file := some (← fileName) }
    | some ' ' => flags steps f
    | some c =>
      if c = '\x7d' || c = '#' then
        untake (some c)
        return f
      else if c.isDigit then
        if f.number.isSome then bad "multiple number options to \x60s' command"
        let n ← number c
        if n = 0 then bad "number option to \x60s' command may not be zero"
        flags steps { f with number := some n }
      else bad "unknown option to \x60s'"

def substitution : Reading Action := do
  let unterminated {α : Type} : Reading α := bad "unterminated \x60s' command"
  match ← take with
  | none => unterminated
  | some delimiter =>
    match ← textUpTo delimiter true with
    | none => unterminated
    | some text =>
      match ← textUpTo delimiter false with
      | none => unterminated
      | some by_ => do
        let replacement := pieces by_.length by_
        let f ← flags ((← get).rest.length + 1) ⟨false, false, none, false, false, none⟩
        let groups := replacement.foldl (fun n p => match p with
          | .group k => max n k
          | _ => n) 0
        let search ← search text f.foldsCase f.hasLines groups
        return .substitute ⟨search, replacement, f.isGlobal, f.prints, f.number.getD 1, f.file⟩

/-- The characters between delimiters, without their backslashes. -/
def plainChars (cs : List Char) : List Char :=
  unescaped [] (fun c => if c = 'n' then ['\n'] else [c]) cs.length cs

def replaceChars : Reading Action := do
  let unterminated {α : Type} : Reading α := bad "unterminated \x60y' command"
  match ← take with
  | none => unterminated
  | some delimiter =>
    match ← textUpTo delimiter false with
    | none => unterminated
    | some first =>
      match ← textUpTo delimiter false with
      | none => unterminated
      | some second => do
        let a := plainChars first
        let b := plainChars second
        if a.length ≠ b.length then
          bad "strings for \x60y' command are different lengths"
        commandEnd
        return .replaceChars (a.zip b)

def nextPart : Reading Bool := modifyGet fun s =>
  match s.parts with
  | [] => (false, s)
  | p :: parts =>
    (true, { s with
      rest := p.text, count := 0, line := 1, file := p.file, parts
      piece := s.piece + if p.file.isNone then 1 else 0 })

/-- Reads lines of text, of which all but the last end with a backslash. The text is kept last
character first. -/
def textLines : (steps : Nat) → List Char → Reading (List Char)
  | 0, done => return done.reverse
  | steps + 1, done => do
    match ← take with
    | none | some '\n' => return ('\n' :: done).reverse
    | some '\\' =>
      match ← take with
      | none =>
        if ← nextPart then textLines steps ('\n' :: done) else return ('\n' :: done).reverse
      | some c => do
        let rest := (← get).rest
        match escape? (c :: rest) with
        | some (d, behind) =>
          modify fun s => { s with
            rest := behind, count := s.count + (rest.length - behind.length) }
          textLines steps (d :: done)
        | none => textLines steps ((if c = 'n' then '\n' else c) :: done)
    | some c => textLines steps (c :: done)

def addedText : Reading (List Char) := do
  let steps : Reading Nat := do
    let s ← get
    return s.rest.length + charsIn s.parts + 2
  match ← takeVisible with
  | none => bad "expected \\ after \x60a', \x60c' or \x60i'"
  | some '\\' =>
    let blanks ← takeWhile isBlank
    match ← take with
    | none => if ← nextPart then textLines (← steps) [] else return []
    | some '\n' => textLines (← steps) []
    | some c =>
      if c = '\\' then
        untake (some c)
        textLines (← steps) blanks
      else textLines (← steps) (c :: blanks)
  | c =>
    untake c
    textLines (← steps) []

def label : Reading String := do
  discard (takeWhile isBlank)
  return String.ofList (← takeWhile fun c => !isSpace c && c != ';' && c != '\x7d')

/-- A number behind a command, if there is one, and the end of the command. -/
def commandNumber : Reading (Option Nat) := do
  match ← takeVisible with
  | some c =>
    if c.isDigit then
      let n ← number c
      commandEnd
      return some n
    else do
      untake (some c)
      commandEnd
      return none
  | none => return none

def simple (a : Action) : Reading Action := do
  commandEnd
  return a

/-- The action that a letter stands for; nothing for those that are no command of their own. -/
def action (c : Char) (hasFirst hasSecond : Bool) : Reading Action := do
  let single : Reading Unit := do if hasSecond then bad "command only uses one address"
  let jump (j : Jump) : Reading Action := do
    let name ← label
    commandEnd
    return .jump j name none
  match c with
  | 'a' => .append <$> addedText
  | 'i' => .insert <$> addedText
  | 'c' => .change <$> addedText
  | ':' =>
    if hasFirst then bad ": doesn't want any addresses"
    let name ← label
    if name.isEmpty then bad "\":\" lacks a label"
    modify fun s => { s with labels := (name, s.commands.size) :: s.labels }
    return .nothing
  | 'b' => jump .always
  | 't' => jump .ifReplaced
  | 'T' => jump .unlessReplaced
  | 's' => substitution
  | 'y' => replaceChars
  | 'd' => simple .delete
  | 'D' => simple .deleteLine
  | 'g' => simple .getHeld
  | 'G' => simple .appendHeld
  | 'h' => simple .hold
  | 'H' => simple .appendToHeld
  | 'x' => simple .exchange
  | 'n' => simple .next
  | 'N' => simple .appendNext
  | 'p' => simple .print
  | 'P' => simple .printLine
  | '=' => simple .number
  | 'F' => simple .fileName
  | 'z' => simple .empty
  | 'l' => .showHidden <$> commandNumber
  | 'q' => do
    single
    return .quit ((← commandNumber).getD 0)
  | 'Q' => do
    single
    return .quitSilently ((← commandNumber).getD 0)
  | 'r' => .readFile <$> fileName
  | 'R' => .readFileLine <$> fileName
  | 'w' => .write <$> fileName
  | 'W' => .writeLine <$> fileName
  | 'v' => do
    let version ← label
    if !version.isEmpty && "4.9" < version then bad "expected newer version of sed"
    return .nothing
  | c => bad ("unknown command: \x60" ++ String.singleton c ++ "'")

def invalidLine (first second : Option Address) : Bool :=
  match first, second with
  | some (.line 0), some (.search _) => false
  | some (.line 0), _ => true
  | _, _ => false

def commands : (steps : Nat) → Reading Unit
  | 0 => return
  | steps + 1 => do
    discard (takeWhile fun c => isSpace c || c == ';')
    match ← take with
    | none => if ← nextPart then commands steps else return
    | some c => do
      let first ← address (some c)
      match first with
      | some (.plus _) | some (.multiple _) =>
        bad "invalid usage of +N or ~N as first address"
      | _ => pure ()
      let c ← if first.isSome then takeVisible else pure (some c)
      let (second, c) ← match first, c with
        | some _, some ',' => do
          match ← address (← takeVisible) with
          | none => bad "unexpected \x60,'"
          | some a => do pure (some a, ← takeVisible)
        | _, c => pure (none, c)
      if invalidLine first second then bad "invalid usage of line address 0"
      let (isNegated, c) ← match c with
        | some '!' => do
          let c ← takeVisible
          if c = some '!' then bad "multiple \x60!'s"
          pure (true, c)
        | c => pure (false, c)
      let add (a : Action) : Reading Unit :=
        modify fun s => { s with commands := s.commands.push ⟨first, second, isNegated, a⟩ }
      match c with
      | none => bad "missing command"
      | some '#' => do
        if first.isSome then bad "comments don't accept any addresses"
        let s ← get
        let rest ← takeWhile (· != '\n')
        if s.count = 1 && rest = ['n'] && s.commands.isEmpty && s.piece ≤ 1 then
          modify fun s => { s with isQuiet := true }
      | some '\x7b' => do
        modify fun s => { s with blocks := ⟨s.commands.size, s.piece, s.file⟩ :: s.blocks }
        add (.block 0)
      | some '\x7d' => do
        match (← get).blocks with
        | [] => bad "unexpected \x60\x7d'"
        | b :: blocks => do
          if first.isSome then bad "\x7d doesn't want any addresses"
          commandEnd
          modify fun s => { s with
            blocks
            commands := s.commands.modify b.place fun c =>
              { c with action := .block s.commands.size } }
      | some c => do add (← action c first.isSome second.isSome)
      commands steps

end Reading

/-- The commands with the places that their jumps lead to; a label that is not there is told. -/
def resolve (labels : List (String × Nat)) (cs : Array Command) : Except Fault (Array Command) :=
  cs.mapM fun c =>
    match c.action with
    | .jump j name _ =>
      if name.isEmpty then .ok { c with action := .jump j name (some cs.size) }
      else match labels.lookup name with
        | some place => .ok { c with action := .jump j name (some place) }
        | none => .error ⟨"can't find label for jump to \x60" ++ name ++ "'", 4⟩
    | _ => .ok c

/-- Reads a script from its pieces. -/
def Script.read (parts : List Part) (isExtended : Bool) : Except Fault Script :=
  let steps := charsIn parts + 2
  let start : State := ⟨[], 0, 0, none, 0, parts, #[], [], [], false, isExtended⟩
  match Reading.commands steps start with
  | .error f _ => .error f
  | .ok () s =>
    match s.blocks with
    | b :: _ => .error ⟨match b.file with
      | some file => "file " ++ file ++ " line 0: unmatched \x60\x7b'"
      | none => Reading.expression b.piece 0 "unmatched \x60\x7b'", 1⟩
    | [] => do return ⟨← resolve s.labels s.commands, s.isQuiet⟩

end Replay.Program.Sed
