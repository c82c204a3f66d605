import Replay.Workbench.Program.Files

/-! Programs that give a file another place or another name: `cp`, `ln` and `mv`. -/
namespace Replay.Program.Moving

open Machine Files

def isDirectory (path : String) : Job Bool := do
  match ← Job.inspect path true with
  | .ok facts => return facts.isDirectory
  | .error _ => return false

/-- The sources with the places they are to get: in a directory if the target is one, which it has
to be for several sources. What is wrong comes back instead, with whether help is pointed at. -/
def pairs (operands : List String) (mayLackTarget : Bool) :
    Job (Except (String × Bool) (List (String × String))) := do
  match operands with
  | [] => return .error ("missing file operand", true)
  | [source] =>
    if mayLackTarget then return .ok [(source, inside "." (lastName source))]
    else return .error ("missing destination file operand after " ++ quoteAlways source, true)
  | [source, target] =>
    if ← isDirectory target then return .ok [(source, inside target (lastName source))]
    else return .ok [(source, target)]
  | _ =>
    let target := operands.getLast?.getD ""
    if ← isDirectory target then
      return .ok (operands.dropLast.map fun s => (s, inside target (lastName s)))
    else
      let r : Refusal := match ← Job.inspect target true with
        | .ok _ => .notDirectory
        | .error r => r
      return .error ("target " ++ quoteAlways target ++ ": " ++ r.text, false)

def eachPair (name : String) (operands : List String) (mayLackTarget : Bool)
    (act : String → String → Job Bool) : Job Nat := do
  match ← pairs operands mayLackTarget with
  | .error (text, true) => misuse name text 1
  | .error (text, false) =>
    complaint name text
    return 1
  | .ok ps =>
    let results ← ps.mapM fun p => act p.1 p.2
    return if results.all id then 0 else 1

def areSame (source target : String) : String :=
  quoteAlways source ++ " and " ++ quoteAlways target ++ " are the same file"

def arrow (source mark target : String) : String :=
  quoteAlways source ++ mark ++ quoteAlways target

/-- Moves a file; one that is there is kept if it shall not be `replaced`. -/
def move (name : String) (replaces tells : Bool) (source target : String) : Job Bool := do
  let refuse (text : String) : Job Bool := do
    complaint name text
    return false
  match ← Job.inspect source false with
  | .error r => refuse ("cannot stat " ++ quoteAlways source ++ ": " ++ r.text)
  | .ok facts =>
    let there ← Job.inspect target false
    let isSame : Bool := match there with
      | .ok old => old.node = facts.node
      | .error _ => false
    if isSame then refuse (areSame source target)
    else if there.isOk && !replaces then return true
    else if facts.isDirectory && target.startsWith (inside source "") then
      refuse ("cannot move " ++ quoteAlways source ++ " to a subdirectory of itself, " ++
        quoteAlways target)
    else
      let isOverDirectory : Bool := match there with
        | .ok old => old.isDirectory
        | .error _ => false
      if isOverDirectory && !facts.isDirectory then
        refuse ("cannot overwrite directory " ++ quoteAlways target ++ " with non-directory " ++
          quoteAlways source)
      else if there.isOk && facts.isDirectory && !isOverDirectory then
        refuse ("cannot overwrite non-directory " ++ quoteAlways target ++ " with directory " ++
          quoteAlways source)
      else
        let result : Except Refusal Unit ←
          if target.endsWith "/" && !facts.isDirectory then pure (.error .notDirectory)
          else Job.change (.rename source target)
        attempt name ("cannot move " ++ quoteAlways source ++ " to " ++ quoteAlways target)
          (if tells then some ("renamed " ++ arrow source " -> " target) else none) result

def mv : List String → Job Nat := withOptions
  [.flag "force" ['f'] ["force"], .flag "keep" ['n'] ["no-clobber"],
   .flag "tells" ['v'] ["verbose"]] true 1 fun name a =>
    eachPair name a.operands false (move name (!a.has "keep") (a.has "tells"))

structure Copying where
  isRecursive : Bool
  replaces : Bool
  tells : Bool

def passOn (source target : Nat) : (turns : Nat) → Job (Except Refusal Unit)
  | 0 => return .ok ()
  | turns + 1 => do
    match ← Job.read source Job.blockSize with
    | .error r => return .error r
    | .ok bytes =>
      if bytes.isEmpty then return .ok ()
      match ← Job.writeBytes target bytes with
      | .error r => return .error r
      | .ok () => passOn source target turns

def copyContent (name source target : String) : Job Bool := do
  match ← Job.openFile source .read with
  | .error r =>
    attempt name ("cannot open " ++ quoteAlways source ++ " for reading") none (.error r)
  | .ok input =>
    let isThere := (← Job.inspect target true).isOk
    let opened ← if target.endsWith "/" && !isThere then pure (.error Refusal.notDirectory)
      else Job.openFile target (.write false)
    match opened with
    | .error r =>
      Job.close input
      attempt name ("cannot create regular file " ++ quoteAlways target) none (.error r)
    | .ok output =>
      let result ← passOn input output Job.forever
      Job.close input
      Job.close output
      attempt name ("error writing " ++ quoteAlways target) none result

/-- Copies what is at a path; `depth` bounds how deep its directories are. -/
def copy (name : String) (x : Copying) : (depth : Nat) → (source target : String) → Job Bool
  | 0, _, _ => return false
  | depth + 1, source, target => do
    let refuse (text : String) : Job Bool := do
      complaint name text
      return false
    match ← Job.inspect source (!x.isRecursive) with
    | .error r => refuse ("cannot stat " ++ quoteAlways source ++ ": " ++ r.text)
    | .ok facts =>
      let there ← Job.inspect target true
      let (isSame, isOverDirectory) : Bool × Bool := match there with
        | .ok old => (old.node == facts.node, old.isDirectory)
        | .error _ => (false, false)
      let tell : Job Unit :=
        if x.tells then emitText name (arrow source " -> " target ++ "\n") else pure ()
      if facts.isDirectory && !x.isRecursive then
        refuse ("-r not specified; omitting directory " ++ quoteAlways source)
      else if facts.isDirectory && (target.startsWith (inside source "") || isSame) then
        refuse ("cannot copy a directory, " ++ quoteAlways source ++ ", into itself, " ++
          quoteAlways target)
      else if isSame then refuse (areSame source target)
      else if facts.isDirectory then
        if there.isOk && !isOverDirectory then
          refuse ("cannot overwrite non-directory " ++ quoteAlways target ++ " with directory " ++
            quoteAlways source)
        else
          let made ← if there.isOk then pure (.ok ()) else Job.change (.makeDirectory target)
          let isMade ← attempt name ("cannot create directory " ++ quoteAlways target) none made
          if !isMade then return false
          if !there.isOk then tell
          match ← Job.list source with
          | .error r => refuse ("cannot access " ++ quoteAlways source ++ ": " ++ r.text)
          | .ok names =>
            let results ← names.mapM fun n => copy name x depth (inside source n) (inside target n)
            return results.all id
      else if isOverDirectory then
        refuse ("cannot overwrite directory " ++ quoteAlways target ++ " with non-directory " ++
          quoteAlways source)
      else if there.isOk && !x.replaces then return true
      else
        tell
        copyContent name source target

def cp : List String → Job Nat := withOptions
  [.flag "recursive" ['r', 'R', 'a'] ["recursive", "archive"], .flag "force" ['f'] ["force"],
   .flag "keep" ['n'] ["no-clobber"], .flag "preserve" ['p'] [],
   .flag "tells" ['v'] ["verbose"]] true 1 fun name a =>
    let x : Copying := ⟨a.has "recursive", !a.has "keep", a.has "tells"⟩
    eachPair name a.operands false (copy name x Tree.longestPath)

structure Linking where
  isSymbolic : Bool
  replaces : Bool
  tells : Bool

def link (name : String) (x : Linking) (source target : String) : Job Bool := do
  let facts ← Job.inspect source false
  match if x.isSymbolic then none else some facts with
  | some (.error r) => attempt name ("failed to access " ++ quoteAlways source) none (.error r)
  | checked =>
    let isTree : Bool := match checked with
      | some (.ok facts) => facts.isDirectory
      | _ => false
    if isTree then
      complaint name (quoteName source ++ ": hard link not allowed for directory")
      return false
    else
      if x.replaces then discard (Job.change (.removeFile target))
      let result ← Job.change (if x.isSymbolic then .makeLink source target
        else .shareFile source target)
      let (kind, mark) := if x.isSymbolic then ("symbolic", " -> ") else ("hard", " => ")
      attempt name ("failed to create " ++ kind ++ " link " ++ quoteAlways target)
        (if x.tells then some (arrow target mark source) else none) result

def ln : List String → Job Nat := withOptions
  [.flag "symbolic" ['s'] ["symbolic"], .flag "force" ['f'] ["force"],
   .flag "plain" ['n'] ["no-dereference"], .flag "tells" ['v'] ["verbose"]] true 1 fun name a =>
    eachPair name a.operands true (link name ⟨a.has "symbolic", a.has "force", a.has "tells"⟩)

end Replay.Program.Moving
