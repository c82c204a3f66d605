import Replay.Workbench.Shell.Redirect

/-! How the commands that a shell runs itself read their options, and quote texts. -/
namespace Replay.Shell

namespace Builtin

/-- What an option may be followed by. -/
inductive Taking where
  | nothing
  | text
  deriving DecidableEq

/-- Reads the letters of one argument, given those that are known. -/
def letters (known : List (Char × Taking)) :
    List Char → List String → List (Char × String) → Sh (List (Char × String) × List String)
  | [], rest, done => return (done, rest)
  | c :: cs, rest, done => do
    match known.lookup c with
    | none => Sh.fail ("Illegal option -" ++ String.singleton c)
    | some .nothing => letters known cs rest ((c, "") :: done)
    | some .text =>
      if cs.isEmpty then
        match rest with
        | text :: rest => return ((c, text) :: done, rest)
        | [] => Sh.fail ("No arg for -" ++ String.singleton c ++ " option")
      else return ((c, String.ofList cs) :: done, rest)

def optionsFrom (known : List (Char × Taking)) :
    (steps : Nat) → List String → List (Char × String) →
      Sh (List (Char × String) × List String)
  | 0, rest, done => return (done.reverse, rest)
  | steps + 1, args, done => do
    match args with
    | "--" :: rest => return (done.reverse, rest)
    | first :: rest =>
      match first.toList with
      | '-' :: c :: cs =>
        let (done, rest) ← letters known (c :: cs) rest done
        optionsFrom known steps rest done
      | _ => return (done.reverse, args)
    | [] => return (done.reverse, [])

def options (known : List (Char × Taking)) (args : List String) :
    Sh (List (Char × String) × List String) :=
  optionsFrom known (args.length + 1) args []

def flags (known : List Char) (args : List String) : Sh (List Char × List String) := do
  let (found, rest) ← options (known.map ((·, .nothing))) args
  return (found.map (·.1), rest)

/-- A text in quotation marks, from which it can be read again; `steps` bounds how many marks it
holds. -/
def quotedChars : (steps : Nat) → List Char → List Char
  | 0, _ => []
  | steps + 1, cs =>
    let (plain, rest) := cs.span (· != '\'')
    let marks := rest.takeWhile (· == '\'')
    let behind := rest.drop marks.length
    let front := '\'' :: plain ++ ['\'']
    if marks.isEmpty then front
    else
      let front := front ++ '"' :: marks ++ ['"']
      if behind.isEmpty then front else front ++ quotedChars steps behind

def quoted (text : String) : String := String.ofList (quotedChars (text.length + 1) text.toList)

end Builtin

end Replay.Shell
