import Replay.Workbench.Program.Directive
import Replay.Workbench.Program.Stream

/-! Programs that take no input: they end, wait, and say what they are told to say. -/
namespace Replay.Program

open Machine

/-- Ends with a status; help is given only if nothing else is asked for. -/
def ending (status : Nat) (what : String) (words : List String) : Job Nat := do
  let name := words.headD ""
  match words.drop 1 with
  | ["--help"] =>
    emitText name ("Usage: " ++ name ++ " [ignored command line arguments]\n  or:  " ++ name ++
      " OPTION\nExit with a status code indicating " ++ what ++ ".\n")
    return status
  | ["--version"] =>
    emitText name (versionText (if status = 0 then "true" else "false"))
    return status
  | _ => return status

def endless : Nat := 1000000000000000000000000

def secondsOf? : List Char → Option Nat
  | [] | ['s'] => some 1
  | ['m'] => some 60
  | ['h'] => some 3600
  | ['d'] => some 86400
  | _ => none

def duration? (s : String) : Option Nat := do
  let (x, _, rest) ← realAt .extended s.toList
  let factor ← secondsOf? rest
  match x with
  | .finite false x => return min endless ((x.num * factor * 1000000 + x.den - 1) / x.den)
  | .finite true x => if x.num = 0 then return 0 else none
  | .infinite false => return endless
  | _ => none

def sleep : List String → Job Nat := withOptions [] true 1 fun name a => do
  if a.operands.isEmpty then misuse name "missing operand" 1
  else
    let bad := a.operands.filter fun o => (duration? o).isNone
    if bad.isEmpty then
      Job.sleep ((a.operands.filterMap duration?).foldl (· + ·) 0)
      return 0
    else
      for o in bad do complaint name ("invalid time interval " ++ quoteWord o)
      hint name
      return 1

def octal? (c : Char) : Option Nat :=
  if '0' ≤ c ∧ c ≤ '7' then some (c.toNat - 48) else none

def digitsAt (base value : Nat) (digit? : Char → Option Nat) : (most : Nat) → List Char →
    Nat × List Char
  | most + 1, c :: rest =>
    match digit? c with
    | some d => digitsAt base (value * base + d) digit? most rest
    | none => (value, c :: rest)
  | _, rest => (value, rest)

def namedEscape? : Char → Option Char
  | '\\' => some '\\'
  | 'a' => some '\x07'
  | 'b' => some '\x08'
  | 'e' => some '\x1b'
  | 'f' => some '\x0c'
  | 'n' => some '\n'
  | 'r' => some '\r'
  | 't' => some '\t'
  | 'v' => some '\x0b'
  | _ => none

/-- A text without its backslashes, last character first, and whether `\c` ended it; `needsZero` if
octal digits stand behind a zero only. -/
def unescape (needsZero : Bool) : (steps : Nat) → List Char → List Char → List Char × Bool
  | 0, _, done | _, [], done => (done, false)
  | _, ['\\'], done => ('\\' :: done, false)
  | steps + 1, '\\' :: c :: rest, done =>
    if c = 'c' then (done, true)
    else match namedEscape? c with
      | some d => unescape needsZero steps rest (d :: done)
      | none =>
        if c = 'x' && ((rest.head?).bind hexDigit?).isSome then
          let (n, rest) := digitsAt 16 0 hexDigit? 2 rest
          unescape needsZero steps rest (Char.ofNat n :: done)
        else if c = '0' then
          let (n, rest) := digitsAt 8 0 octal? 3 rest
          unescape needsZero steps rest (Char.ofNat (n % 256) :: done)
        else if !needsZero && (octal? c).isSome then
          let (n, rest) := digitsAt 8 0 octal? 3 (c :: rest)
          unescape needsZero steps rest (Char.ofNat (n % 256) :: done)
        else unescape needsZero steps rest (c :: '\\' :: done)
  | steps + 1, c :: rest, done => unescape needsZero steps rest (c :: done)

/-- What in front of the text says how to write it. -/
structure EchoStyle where
  newline : Bool
  escapes : Bool

def echoStyle (s : EchoStyle) : List String → EchoStyle × List String
  | [] => (s, [])
  | arg :: rest =>
    match arg.toList with
    | '-' :: cs =>
      if !cs.isEmpty && cs.all fun c => c = 'n' || c = 'e' || c = 'E' then
        echoStyle (cs.foldl (fun s c =>
          if c = 'n' then { s with newline := false }
          else { s with escapes := c == 'e' }) s) rest
      else (s, arg :: rest)
    | _ => (s, arg :: rest)

def echo (words : List String) : Job Nat := do
  let name := words.headD ""
  match words.drop 1 with
  | ["--help"] =>
    emitText name ("Usage: " ++ name ++ " [SHORT-OPTION]... [STRING]...\n")
    return 0
  | ["--version"] =>
    emitText name (versionText "echo")
    return 0
  | args =>
    let (style, args) := echoStyle ⟨true, false⟩ args
    let text := (" ".intercalate args).toList
    let (done, isCut) := if style.escapes then unescape false text.length text []
      else (text.reverse, false)
    emit name (if style.newline && !isCut then '\n' :: done else done).reverse
    return 0

def sayOn (name : String) (block : ByteArray) : (turns : Nat) → Job Nat
  | 0 => return 1
  | turns + 1 => do
    match ← Job.writeBytes 1 block with
    | .ok () => sayOn name block turns
    | .error r =>
      complaint name ("standard output: " ++ r.text)
      return 1

def yes : List String → Job Nat := withOptions [] true 1 fun name a => do
  let line := if a.operands.isEmpty then "y\n" else " ".intercalate a.operands ++ "\n"
  let copies := 4096 / line.length + 1
  sayOn name (pack (String.join (List.replicate copies line))) Job.forever

def whereabouts : List String → Job Nat := withOptions
  [.flag "logical" ['L'] ["logical"], .flag "physical" ['P'] ["physical"]] true 1 fun name a => do
    if !a.operands.isEmpty then complaint name "ignoring non-option arguments"
    emitText name ((← Job.whereabouts) ++ "\n")
    return 0

def withoutSlashes (path : String) : String :=
  match path.toList.reverse.dropWhile (· == '/') with
  | [] => if path.isEmpty then "" else "/"
  | cs => String.ofList cs.reverse

def lastName (path : String) : String :=
  let bare := withoutSlashes path
  if bare = "/" then "/"
  else String.ofList (bare.toList.reverse.takeWhile (· != '/')).reverse

def withoutSuffix (name suffix : String) : String :=
  if suffix.isEmpty || name = suffix || !name.endsWith suffix then name
  else (name.dropEnd suffix.length).toString

def baseName : List String → Job Nat := withOptions
  [.flag "multiple" ['a'] ["multiple"], .taking "suffix" ['s'] ["suffix"],
   .flag "zero" ['z'] ["zero"]] false 1 fun name a => do
    let isMultiple := a.has "multiple" || a.has "suffix"
    let ending := if a.has "zero" then "\x00" else "\n"
    match a.operands with
    | [] => misuse name "missing operand" 1
    | first :: rest =>
      if isMultiple then
        let suffix := (a.last? "suffix").getD ""
        emitText name (String.join (a.operands.map fun o =>
          withoutSuffix (lastName o) suffix ++ ending))
        return 0
      else match rest with
        | [] =>
          emitText name (lastName first ++ ending)
          return 0
        | [suffix] =>
          emitText name (withoutSuffix (lastName first) suffix ++ ending)
          return 0
        | _ :: extra :: _ => misuse name ("extra operand " ++ quoteWord extra) 1

def parentOf (path : String) : String :=
  let bare := withoutSlashes path
  if bare = "/" then "/"
  else
    let front := bare.toList.reverse.dropWhile (· != '/')
    if front.isEmpty then "."
    else withoutSlashes (String.ofList front.reverse)

def dirName : List String → Job Nat := withOptions
  [.flag "zero" ['z'] ["zero"]] true 1 fun name a => do
  if a.operands.isEmpty then misuse name "missing operand" 1
  else
    let ending := if a.has "zero" then "\x00" else "\n"
    emitText name (String.join (a.operands.map fun o => parentOf o ++ ending))
    return 0

end Replay.Program
