import Replay.Workbench.Program.Plain

/-! Programs that make, remove and show files: `ls`, `chmod`, `mkdir`, `mktemp`, `rm`, `rmdir` and
`touch`. -/
namespace Replay.Program.Files

open Machine

/-- Does something for each operand; the status tells if it failed for any. -/
def eachOperand (act : String → Job Bool) : List String → (status : Nat) → Job Nat
  | [], status => return status
  | path :: rest, status => do
    let isDone ← act path
    eachOperand act rest (if isDone then status else 1)

def inside (directory name : String) : String :=
  if directory.endsWith "/" then directory ++ name else directory ++ "/" ++ name

/-- Whether a change was made; if not, that is told, and on success something may be said. -/
def attempt (name trouble : String) (said : Option String) (result : Except Refusal Unit) :
    Job Bool := do
  match result with
  | .ok () =>
    match said with
    | some text => emitText name (text ++ "\n")
    | none => pure ()
    return true
  | .error r =>
    complaint name (trouble ++ ": " ++ r.text)
    return false

structure Removal where
  isRecursive : Bool
  isForced : Bool
  takesEmpty : Bool
  tells : Bool

/-- Removes what is at a path; `depth` bounds how deep its directories are. -/
def remove (name : String) (x : Removal) : (depth : Nat) → (path : String) → Job Bool
  | 0, _ => return false
  | depth + 1, path => do
    let trouble := "cannot remove " ++ quoteAlways path
    let said (text : String) : Option String :=
      if x.tells then some (text ++ quoteAlways path) else none
    match ← Job.inspect path false with
    | .error r =>
      if x.isForced && (r = .notFound || r = .notDirectory) then return true
      else attempt name trouble none (.error r)
    | .ok facts =>
      let whole : Job Bool := do
        attempt name trouble (said "removed directory ") (← Job.change (.removeDirectory path))
      if !facts.isDirectory then
        attempt name trouble (said "removed ") (← Job.change (.removeFile path))
      else if x.isRecursive then
        match ← Job.list path with
        | .error r => attempt name trouble none (.error r)
        | .ok names =>
          let status ← eachOperand (fun n => remove name x depth (inside path n)) names 0
          if status = 0 then whole else return false
      else if x.takesEmpty then whole
      else attempt name trouble none (.error .isDirectory)

def removeOperand (name : String) (x : Removal) (path : String) : Job Bool := do
  let isThere := (← Job.inspect path false).isOk
  let last := lastName path
  if x.isRecursive && isThere && (last = "." || last = "..") then
    complaint name ("refusing to remove '.' or '..' directory: skipping " ++ quoteAlways path)
    return false
  else if x.isRecursive && last = "/" then
    complaint name ("it is dangerous to operate recursively on " ++ quoteAlways "/" ++
      (if path = "/" then "" else " (same as " ++ quoteAlways path ++ ")"))
    complaint name "use --no-preserve-root to override this failsafe"
    return false
  else remove name x Tree.longestPath path

def rm : List String → Job Nat := withOptions
  [.flag "force" ['f'] ["force"], .flag "recursive" ['r', 'R'] ["recursive"],
   .flag "empty" ['d'] ["dir"], .flag "tells" ['v'] ["verbose"]] true 1 fun name a => do
    if a.operands.isEmpty then
      if a.has "force" then return 0 else misuse name "missing operand" 1
    else
      let x : Removal := ⟨a.has "recursive", a.has "force", a.has "empty", a.has "tells"⟩
      eachOperand (removeOperand name x) a.operands 0

def removeDirectories (name : String) (tells : Bool) : (steps : Nat) → (isParent : Bool) →
    (withParents : Bool) → String → Job Bool
  | 0, _, _, _ => return true
  | steps + 1, isParent, withParents, path => do
    if tells then emitText name (name ++ ": removing directory, " ++ quoteAlways path ++ "\n")
    let result ← Job.change (.removeDirectory path)
    let what := if isParent then "directory " else ""
    let isDone ← attempt name ("failed to remove " ++ what ++ quoteAlways path) none result
    let parent := parentOf path
    if isDone && withParents && parent ≠ "." && parent ≠ "/" then
      removeDirectories name tells steps true true parent
    else return isDone

def rmdir : List String → Job Nat := withOptions
  [.flag "parents" ['p'] ["parents"], .flag "tells" ['v'] ["verbose"]] true 1 fun name a => do
    if a.operands.isEmpty then misuse name "missing operand" 1
    else
      let act (path : String) : Job Bool :=
        removeDirectories name (a.has "tells") (path.length + 1) false (a.has "parents") path
      eachOperand act a.operands 0

def makeDirectory (name : String) (tells : Bool) (path : String) : Job Bool := do
  attempt name ("cannot create directory " ++ quoteAlways path)
    (if tells then some (name ++ ": created directory " ++ quoteAlways path) else none)
    (← Job.change (.makeDirectory path))

/-- Makes a directory with all those that it is in. `front` is the path that was gone so far. -/
def makeParents (name : String) (tells : Bool) : List String → (front : String) → Job Bool
  | [], _ => return true
  | part :: rest, front => do
    if part.isEmpty then makeParents name tells rest (front ++ "/")
    else
      let path := front ++ part
      let next := path ++ "/"
      match ← Job.inspect path true with
      | .ok facts =>
        if facts.isDirectory then makeParents name tells rest next
        else
          let r : Refusal := if rest.all String.isEmpty then .occupied else .notDirectory
          attempt name ("cannot create directory " ++ quoteAlways path) none (.error r)
      | .error _ =>
        if ← makeDirectory name tells path then makeParents name tells rest next else return false

def mkdir : List String → Job Nat := withOptions
  [.flag "parents" ['p'] ["parents"], .flag "tells" ['v'] ["verbose"],
   .taking "mode" ['m'] ["mode"]] true 1 fun name a => do
    if a.operands.isEmpty then misuse name "missing operand" 1
    else eachOperand (fun path =>
      if a.has "parents" && !path.isEmpty then
        makeParents name (a.has "tells") (splitString '/' path) ""
      else makeDirectory name (a.has "tells") path) a.operands 0

def touch : List String → Job Nat := withOptions
  [.flag "access" ['a'] [], .flag "absent" ['c'] ["no-create"], .flag "change" ['m'] [],
   .taking "date" ['d'] ["date"], .taking "stamp" ['t'] [], .taking "reference" ['r'] ["reference"],
   .flag "links" ['h'] ["no-dereference"]] true 1 fun name a => do
    if a.operands.isEmpty then misuse name "missing file operand" 1
    else
      let act (path : String) : Job Bool := do
        if path = "-" then return true
        match ← Job.inspect path true with
        | .ok _ => return true
        | .error _ =>
          if a.has "absent" then return true
          match ← Job.openFile path .append with
          | .ok fd =>
            Job.close fd
            return true
          | .error r => attempt name ("cannot touch " ++ quoteAlways path) none (.error r)
      eachOperand act a.operands 0

def usersOf (c : Char) : Nat :=
  match c with
  | 'u' => 0o700
  | 'g' => 0o070
  | 'o' => 0o007
  | 'a' => 0o777
  | _ => 0

def permissionsOf (mode : Nat) (c : Char) : Nat :=
  match c with
  | 'r' => 0o444
  | 'w' => 0o222
  | 'x' => 0o111
  | 'X' => if mode &&& 0o111 = 0 then 0 else 0o111
  | _ => 0

/-- Applies the operators of one clause to a mode, for some users; nothing if they make no sense. -/
def applyOperators (users : Nat) : (steps : Nat) → List Char → (mode : Nat) → Option Nat
  | 0, _, mode => some mode
  | _, [], mode => some mode
  | steps + 1, operator :: rest, mode =>
    let (letters, rest) := rest.span fun c => ['r', 'w', 'x', 'X', 's', 't'].contains c
    let bits := users &&& letters.foldl (fun n c => n ||| permissionsOf mode c) 0
    if operator = '+' then applyOperators users steps rest (mode ||| bits)
    else if operator = '-' then applyOperators users steps rest (mode - (mode &&& bits))
    else if operator = '=' then applyOperators users steps rest (mode - (mode &&& users) ||| bits)
    else none

def changedMode? (text : String) (mode : Nat) : Option Nat :=
  let cs := text.toList
  if !cs.isEmpty && cs.all fun c => '0' ≤ c && c ≤ '7' then
    let n := cs.foldl (fun n c => n * 8 + digitValue c) 0
    if n ≤ 0o7777 then some n else none
  else
    (splitAt ',' cs).foldl (fun mode? clause => do
      let mode ← mode?
      let (who, operators) := clause.span fun c => usersOf c ≠ 0
      if operators.isEmpty then none
      else
        let users := if who.isEmpty then 0o777 else who.foldl (fun n c => n ||| usersOf c) 0
        applyOperators users operators.length operators mode) (some mode)

def chmod (words : List String) : Job Nat :=
  let isMode (text : String) : Bool := match text.toList with
    | '-' :: cs => !cs.isEmpty && cs.all fun c => "rwxXstugoa,+-=".contains c && text ≠ "--"
    | _ => false
  let arguments := match words.drop 1 with
    | first :: rest => if isMode first then "--" :: first :: rest else first :: rest
    | [] => []
  withOptions
    [.flag "recursive" ['R'] ["recursive"], .flag "quiet" ['f'] ["silent", "quiet"],
     .flag "tells" ['v'] ["verbose"], .flag "changes" ['c'] ["changes"]] true 1 (fun name a => do
      match a.operands with
      | [] => misuse name "missing operand" 1
      | mode :: paths =>
        if (changedMode? mode 0).isNone then misuse name ("invalid mode: " ++ quoteWord mode) 1
        else if paths.isEmpty then misuse name ("missing operand after " ++ quoteWord mode) 1
        else eachOperand (fun path => do
          match ← Job.inspect path true with
          | .error r =>
            if a.has "quiet" then return false
            attempt name ("cannot access " ++ quoteAlways path) none (.error r)
          | .ok facts =>
            let new := (changedMode? mode (if facts.isExecutable then 0o755 else 0o644)).getD 0
            let result ← Job.change (.setExecutable path (new &&& 0o111 ≠ 0))
            attempt name ("changing permissions of " ++ quoteAlways path) none result) paths 0)
    (words.headD "" :: arguments)

def letterDigits : List Char :=
  ("0123456789abcdefghijklmnopqrstuvwxyzABCDEFGHIJKLMNOPQRSTUVWXYZ").toList

def lettersOf (seed : Nat) : (count : Nat) → List Char
  | 0 => []
  | count + 1 =>
    let next := (seed * 6364136223846793005 + 1442695040888963407) % 0x10000000000000000
    letterDigits.getD (next / 0x100000000 % letterDigits.length) '0' :: lettersOf next count

def mktemp : List String → Job Nat := withOptions
  [.flag "directory" ['d'] ["directory"], .flag "dry" ['u'] ["dry-run"],
   .flag "quiet" ['q'] ["quiet"], .flag "inTemporary" ['t'] [],
   .taking "parent" ['p'] [], .taking "suffix" [] ["suffix"]] true 1 fun name a => do
    let isDefault := a.operands.isEmpty
    let template := a.operands.headD "tmp.XXXXXXXXXX" ++ (a.last? "suffix").getD ""
    let whole := if isDefault || a.has "inTemporary" || a.has "parent" then
      inside ((a.last? "parent").getD "/tmp") template else template
    let behind := if a.has "suffix" then ((a.last? "suffix").getD "").toList
      else (whole.toList.reverse.takeWhile (· != 'X')).reverse
    let marked := whole.toList.take (whole.length - behind.length)
    let marks := (marked.reverse.takeWhile (· == 'X')).length
    let kind := if a.has "directory" then "directory" else "file"
    match a.operands with
    | _ :: _ :: _ => misuse name "too many templates" 1
    | _ =>
      if marks < 3 then
        complaint name ("too few X's in template " ++ quoteWord template)
        return 1
      else
        let letters := lettersOf (← Job.clock) marks
        let path := String.ofList (marked.take (marked.length - marks) ++ letters ++ behind)
        let made : Except Refusal Unit ← if a.has "dry" then pure (.ok ())
          else if a.has "directory" then Job.change (.makeDirectory path)
          else match ← Job.openFile path (.write true) with
            | .ok fd => do
              Job.close fd
              pure (.ok ())
            | .error r => pure (.error r)
        match made with
        | .ok () =>
          emitText name (path ++ "\n")
          return 0
        | .error r =>
          if !a.has "quiet" then
            let what := "failed to create " ++ kind ++ " via template " ++ quoteWord whole
            complaint name (what ++ ": " ++ r.text)
          return 1

structure Listing where
  /-- Whether names that begin with a dot are shown, those of the directory and its parent too. -/
  showsHidden : Bool
  showsDots : Bool
  asEntries : Bool
  isReversed : Bool
  marksDirectories : Bool
  marksOthers : Bool

namespace Listing

def order (x : Listing) (names : List String) : List String :=
  let sorted := names.mergeSort fun a b => !(b < a)
  if x.isReversed then sorted.reverse else sorted

def mark (x : Listing) (facts : FileFacts) : String :=
  if facts.isDirectory then (if x.marksDirectories || x.marksOthers then "/" else "")
  else if !x.marksOthers then ""
  else if facts.isLink then "@"
  else if facts.isPipe then "|"
  else if facts.isRegular && facts.isExecutable then "*"
  else ""

def lines (x : Listing) (directory : String) (names : List String) : Job (List String) :=
  names.mapM fun n => do
    match ← Job.inspect (if directory.isEmpty then n else inside directory n) false with
    | .ok facts => return n ++ x.mark facts ++ "\n"
    | .error _ => return n ++ "\n"

def ofDirectory (x : Listing) (path : String) (names : List String) : Job (List String) :=
  let shown := if x.showsHidden then names else names.filter fun n => !n.startsWith "."
  x.lines path (x.order (if x.showsDots then "." :: ".." :: shown else shown))

/-- Shows directories one after the other, with their names if wanted. -/
def directories (x : Listing) (name : String) (showsNames : Bool) :
    List String → (isFirst : Bool) → Job Unit
  | [], _ => return
  | path :: rest, isFirst => do
    match ← Job.list path with
    | .ok names =>
      let ls ← x.ofDirectory path names
      emitText name ((if isFirst then "" else "\n") ++ (if showsNames then path ++ ":\n" else "") ++
        String.join ls)
    | .error r => complaint name ("cannot open directory " ++ quoteAlways path ++ ": " ++ r.text)
    directories x name showsNames rest false

end Listing

def ls : List String → Job Nat := withOptions
  [.flag "all" ['a'] ["all"], .flag "hidden" ['A'] ["almost-all"], .flag "one" ['1'] [],
   .flag "entries" ['d'] ["directory"], .flag "reverse" ['r'] ["reverse"],
   .flag "columns" ['C', 'x'] [], .flag "directories" ['p'] [],
   .flag "classify" ['F'] ["classify"]] true 2 fun name a => do
    let showsDots := a.lastOf? ["all", "hidden"] = some "all"
    let x : Listing :=
      { showsHidden := a.has "all" || a.has "hidden", showsDots, asEntries := a.has "entries"
        isReversed := a.has "reverse", marksDirectories := a.has "directories"
        marksOthers := a.has "classify" }
    let paths := if a.operands.isEmpty then ["."] else a.operands
    let found ← paths.filterMapM fun path => do
      match ← Job.inspect path true with
      | .ok facts => return some (path, facts.isDirectory)
      | .error r =>
        match ← Job.inspect path false with
        | .ok _ => return some (path, false)
        | .error _ =>
          complaint name ("cannot access " ++ quoteAlways path ++ ": " ++ r.text)
          return none
    let plain := (found.filter fun f => x.asEntries || !f.2).map (·.1)
    let trees := (found.filter fun f => !x.asEntries && f.2).map (·.1)
    let ls ← x.lines "" (x.order plain)
    emitText name (String.join ls)
    x.directories name (1 < paths.length) (x.order trees) plain.isEmpty
    return if found.length = paths.length then 0 else 2

end Replay.Program.Files
