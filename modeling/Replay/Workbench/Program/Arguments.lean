import Replay.Workbench.Machine.Task
import Replay.Workbench.Program.Quoting

/-! Options of programs: how arguments are told apart, and what is told of wrong ones. -/
namespace Replay.Program

open Machine

/-- What an option is followed by. -/
inductive Following where
  | nothing
  | text
  /-- A text behind an equals sign, or directly behind the letter. -/
  | perhaps
  deriving DecidableEq

/-- An option: a key for it, its letters, its names, and what follows it. -/
structure Known where
  key : String
  letters : List Char
  names : List String
  following : Following

def Known.flag (key : String) (letters : List Char) (names : List String) : Known :=
  ⟨key, letters, names, .nothing⟩

def Known.taking (key : String) (letters : List Char) (names : List String) : Known :=
  ⟨key, letters, names, .text⟩

def commonOptions : List Known := [.flag "help" [] ["help"], .flag "version" [] ["version"]]

/-- The arguments of a program: its options with their texts, and the rest. -/
structure Arguments where
  options : List (String × String)
  operands : List String

namespace Arguments

def has (a : Arguments) (key : String) : Bool := a.options.any (·.1 == key)

def last? (a : Arguments) (key : String) : Option String :=
  (a.options.reverse.find? (·.1 == key)).map (·.2)

def lastOf? (a : Arguments) (keys : List String) : Option String :=
  (a.options.reverse.find? fun o => keys.contains o.1).map (·.1)

/-- The option that a long name, or the front of one, stands for. -/
def named (known : List Known) (text : String) : Except String Known :=
  match known.find? fun k => k.names.contains text with
  | some k => .ok k
  | none =>
    let fits := known.flatMap fun k =>
      (k.names.filter fun n => n.startsWith text).map fun n => (k, n)
    match fits with
    | [] => .error ("unrecognized option '--" ++ text ++ "'")
    | (k, _) :: rest =>
      if rest.all fun f => f.1.key == k.key then .ok k
      else .error ("option '--" ++ text ++ "' is ambiguous; possibilities:" ++
        String.join (fits.map fun f => " '--" ++ f.2 ++ "'"))

def letters (known : List Known) : List Char → (rest : List String) → Arguments →
    Except String (List String × Arguments)
  | [], rest, a => .ok (rest, a)
  | c :: cs, rest, a =>
    let add (k : Known) (text : String) : Arguments :=
      { a with options := a.options ++ [(k.key, text)] }
    match known.find? fun k => k.letters.contains c with
    | none => .error ("invalid option -- '" ++ String.singleton c ++ "'")
    | some k =>
      match k.following with
      | .nothing => letters known cs rest (add k (String.singleton c))
      | .perhaps => .ok (rest, add k (String.ofList cs))
      | .text =>
        if !cs.isEmpty then .ok (rest, add k (String.ofList cs))
        else match rest with
          | text :: rest => .ok (rest, add k text)
          | [] => .error ("option requires an argument -- '" ++ String.singleton c ++ "'")

def long (known : List Known) (text : String) (rest : List String) (a : Arguments) :
    Except String (List String × Arguments) := do
  let (name, value) := match text.toList.span (· != '=') with
    | (name, _ :: value) => (String.ofList name, some (String.ofList value))
    | (name, []) => (String.ofList name, none)
  let k ← named known name
  let add (text : String) : Arguments := { a with options := a.options ++ [(k.key, text)] }
  let full := (k.names.find? fun n => n.startsWith name).getD name
  match k.following, value with
  | .nothing, some _ => .error ("option '--" ++ full ++ "' doesn't allow an argument")
  | .nothing, none => .ok (rest, add "")
  | .perhaps, value => .ok (rest, add (value.getD ""))
  | .text, some value => .ok (rest, add value)
  | .text, none =>
    match rest with
    | text :: rest => .ok (rest, add text)
    | [] => .error ("option '--" ++ full ++ "' requires an argument")

def readWith (known : List Known) (mixes : Bool) : (steps : Nat) → List String → Arguments →
    Except String Arguments
  | 0, _, a => .ok a
  | _, [], a => .ok a
  | steps + 1, arg :: rest, a =>
    match arg.toList with
    | ['-', '-'] => .ok { a with operands := a.operands ++ rest }
    | '-' :: '-' :: name => do
      let (rest, a) ← long known (String.ofList name) rest a
      readWith known mixes steps rest a
    | '-' :: c :: cs => do
      let (rest, a) ← letters known (c :: cs) rest a
      readWith known mixes steps rest a
    | _ =>
      if mixes then readWith known mixes steps rest { a with operands := a.operands ++ [arg] }
      else .ok { a with operands := a.operands ++ arg :: rest }

/-- Tells the options of some arguments from the rest, which they may stand behind if they `mix`. -/
def read (known : List Known) (mixes : Bool) (args : List String) : Except String Arguments :=
  readWith (known ++ commonOptions) mixes (args.length + 1) args ⟨[], []⟩

end Arguments

def complaint (name text : String) : Job Unit := Job.complain (name ++ ": " ++ text ++ "\n")

def hint (name : String) : Job Unit :=
  Job.complain ("Try '" ++ name ++ " --help' for more information.\n")

def misuse (name text : String) (status : Nat) : Job Nat := do
  complaint name text
  hint name
  return status

def helpText (name : String) : String := "Usage: " ++ name ++ " [OPTION]... [FILE]...\n"

def versionText (name : String) : String := name ++ " (GNU coreutils) 9.1\n"

/-- A program that reads its options first. Wrong ones end it with a status. -/
def withOptions (known : List Known) (mixes : Bool) (status : Nat)
    (run : (name : String) → Arguments → Job Nat) (words : List String) : Job Nat := do
  let name := words.headD ""
  match Arguments.read known mixes (words.drop 1) with
  | .error text => misuse name text status
  | .ok a =>
    match a.lastOf? ["help", "version"] with
    | some "help" => do
      discard (Job.write 1 (helpText name))
      return 0
    | some _ => do
      discard (Job.write 1 (versionText name))
      return 0
    | none => run name a

end Replay.Program
