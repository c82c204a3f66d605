import Replay.Workbench.Shell.Evaluate

/-! The shell as a program: what its arguments ask for, and how it starts. -/
namespace Replay.Shell

open Machine

def State.initial (name directory : String) (process parent : Nat) (environment : Environment) :
    State :=
  let inherited := (environment.filter fun v => isName v.1).map fun v =>
    (v.1, (⟨some v.2, true, false⟩ : Variable))
  let plain (name value : String) : String × Variable := (name, ⟨some value, false, false⟩)
  let own := [plain "IFS" " \t\n", plain "OPTIND" "1", plain "PS1" "# ", plain "PS2" "> ",
    plain "PS4" "+ ", plain "PPID" (decimal parent)]
  let standard := if (environment.lookup "PATH").isSome then []
    else [plain "PATH" "/usr/local/sbin:/usr/local/bin:/usr/sbin:/usr/bin:/sbin:/bin"]
  let pwd := ("PWD", (⟨some directory, (environment.lookup "PWD").isSome, false⟩ : Variable))
  let kept := inherited.filter fun v => !(own.any (·.1 == v.1)) && v.1 ≠ "PWD"
  { name, process, parent
    bindings := own ++ standard ++ [pwd] ++ kept
    parameters := [], status := 0, options := [], functions := [], aliases := [], tracked := []
    traps := [], line := 0, command := none, loops := 0
    calls := 0, skip := none, kept := [], background := none, jobs := [], substituted := 0
    ending := none, optionWord := 1, optionPlace := 0, traceTo := 2, isTracing := false
    isSubshell := false, directory, mask := 0o022, isOutputLost := false }

/-- Does what the arguments ask for. -/
def start (e : Evaluator) (arguments : List String) : Sh Nat := do
  let x ← Builtin.settings true (arguments.length + 1) ⟨arguments, false, false⟩
  if ← Sh.isOn 'i' then modify fun s => { s with options := 'm' :: s.options }
  Builtin.withoutTerminal
  let fromInput : Sh Nat := Builtin.runStream e always (Builtin.openStream 0) 0
  let isSet ← Sh.isOn 's'
  if x.isCommand then
    match x.args with
    | [] => Sh.fail "-c requires an argument"
    | text :: rest =>
      modify fun s => { s with name := rest.headD s.name, parameters := rest.drop 1 }
      let status ← e.runText text ⟨false, false⟩
      if isSet then fromInput else return status
  else if isSet || x.args.isEmpty then
    modify fun s => { s with
      parameters := x.args
      options := if s.options.contains 's' then s.options else 's' :: s.options }
    fromInput
  else
    let path := x.args.headD ""
    let fd ← Builtin.openScript path
    modify fun s => { s with name := path, parameters := x.args.drop 1 }
    Builtin.runStream e always (Builtin.openStream fd) 0

/-- A program of the shell's, by what it does with its arguments. -/
def programOf (run : Evaluator → List String → Sh Nat) (arguments : List String)
    (environment : Environment) : Task :=
  .self fun (process, parent) =>
    .whereabouts fun directory =>
      let e := evaluator always
      let s := State.initial (arguments.headD "sh") directory process parent environment
      e.task s (run e (arguments.drop 1))

def program : Machine.Program := programOf start

def builtinProgram (run : List String → Sh Nat) : Machine.Program := programOf fun _ args => do
  let status ← run args
  Sh.setStatus status
  return status

end Replay.Shell
