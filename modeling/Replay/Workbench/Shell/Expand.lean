import Replay.Workbench.Shell.Arithmetic
import Replay.Workbench.Shell.Fields
import Replay.Workbench.Shell.State

/-!
Expansion: what the words of a command stand for when it runs. Values of parameters, outputs of
commands and results of arithmetic take the places of what asks for them; what is then left unquoted
is cut into fields, and each field that is a pattern gives way to the files it matches.
-/
namespace Replay.Shell.Sh

open Machine

/-- What a word is expanded for. -/
structure Purpose where
  /-- It may become several fields. -/
  isFull : Bool
  /-- Quotation marks surround it. -/
  isQuoted : Bool
  /-- Its own plain text may be cut like a value. -/
  isValue : Bool

def Purpose.cutting (p : Purpose) : Cutting := if p.isQuoted then .never else .atSeparators

/-- The pieces of a list of parameters, and whether they are to stay apart. -/
def listOf (p : Purpose) (s : State) (name : String) (isQuoted : Bool) :
    List (List Char) × Bool :=
  let pieces := s.parameters.map String.toList
  if isQuoted && p.isFull && name = "@" then (pieces, true)
  else
    let isSet := (s.value? "IFS").isSome
    let joined (separator : List Char) : List (List Char) := [separator.intercalate pieces]
    if !isSet then (joined [' '], false)
    else if !isQuoted && p.isFull then (pieces, true)
    else (joined (s.separators.take 1), false)

/-- The letters of the options that are on, in the order they are shown in. -/
def optionLetters (s : State) : String :=
  let order := "pubaCEVvxsnmiIfe".toList
  String.ofList (order.filter
    s.options.contains)

def single? (s : State) (name : String) : Option String :=
  match name with
  | "$" => some (decimal s.process)
  | "?" => some (decimal s.status)
  | "#" => some (decimal s.parameters.length)
  | "!" => s.background.map decimal
  | "-" => some (optionLetters s)
  | _ =>
    match natural? name with
    | some 0 => some s.name
    | some n => s.parameters[n - 1]?
    | none => s.value? name

def pieces? (p : Purpose) (s : State) (name : String) (isQuoted : Bool) :
    Option (List (List Char)) :=
  if name = "@" || name = "*" then
    some (listOf p s name isQuoted).1
  else (single? s name).map fun v => [v.toList]

def missing {α : Type} (name message : String) : Sh α := fail (name ++ ": " ++ message)

/-- The front of a text that may name a user, and what follows it; nothing if none ends there. -/
def userName? (endsAtColon isLast : Bool) (text : List Char) : Option (List Char × List Char) :=
  let (name, rest) := text.span fun c => c ≠ '/' && !(endsAtColon && c = ':')
  if rest.isEmpty && !isLast then none else some (name, rest)

def homeOf (s : State) (user : String) : Option String :=
  if user = "" then s.value? "HOME"
  else [("root", "/root"), ("daemon", "/usr/sbin"), ("bin", "/bin"), ("sys", "/dev"),
    ("nobody", "/nonexistent"), ("mail", "/var/mail"), ("www-data", "/var/www")].lookup user

/-- A text that may begin with a tilde, which stands for a directory. -/
def afterTilde (s : State) (endsAtColon isLast : Bool) (text : List Char) :
    List Segment × List Char :=
  match text with
  | '~' :: behind =>
    match userName? endsAtColon isLast behind with
    | none => ([], text)
    | some (user, rest) =>
      match homeOf s (String.ofList user) with
      | none => ([], text)
      | some home => ([.text [home.toList] true .never], rest)
  | text => ([], text)

/-- A text in which a tilde may stand behind each colon, and in front. -/
def betweenColons (s : State) (isFirst isLast : Bool) : (steps : Nat) → List Char → List Segment
  | 0, text => [.text [text] false .never]
  | steps + 1, text =>
    let (home, rest) := if isFirst then afterTilde s true isLast text else ([], text)
    let (front, behind) := rest.span (· != ':')
    home ++ .text [front] false .never :: match behind with
      | [] => []
      | colon :: behind =>
        .text [[colon]] false .never :: betweenColons s true isLast steps behind

section

variable (output : Option Command → Sh (List Char))

mutual

/-- Expands the parts of a word; `isOpen` inside quotation marks. -/
def segments : (steps : Nat) → Purpose → (isOpen : Bool) → List Part → Sh (List Segment)
  | 0, _, _, _ | _, _, _, [] => return []
  | steps + 1, p, isOpen, part :: rest => do
    match part, rest with
    | .mark true, .parameter "@" .value false isQuoted word :: .mark false :: rest =>
      if isOpen then
        let here ← segment steps p part
        return here ++ (← segments steps p isOpen (.parameter "@" .value false isQuoted word ::
          .mark false :: rest))
      else
        let here ← segment steps { p with isQuoted := true } (.parameter "@" .value false true [])
        return here ++ (← segments steps p false rest)
    | .mark opens, rest =>
      return .mark :: (← segments steps p opens rest)
    | part, rest =>
      let here ← segment steps p part
      return here ++ (← segments steps p isOpen rest)

def withTilde : (steps : Nat) → Purpose → List Part → Sh (List Segment)
  | 0, _, _ => return []
  | steps + 1, p, parts => do
    match parts with
    | .plain text :: rest =>
      let (home, left) := afterTilde (← get) false rest.isEmpty text
      let front := if left.isEmpty then rest else .plain left :: rest
      return home ++ (← segments steps p false front)
    | parts => segments steps p false parts

def segment : (steps : Nat) → Purpose → Part → Sh (List Segment)
  | 0, _, _ => return []
  | steps + 1, p, part => do
    match part with
    | .plain text =>
      return [.text [text] p.isQuoted (if p.isValue then p.cutting else .never)]
    | .quoted text => return [.text [text] true .never]
    | .mark _ => return [.mark]
    | .command body isQuoted =>
      let text ← output body
      let isQuoted := isQuoted || p.isQuoted
      return [.text [text] isQuoted (if isQuoted then .never else .atSeparators)]
    | .arithmetic expression isQuoted =>
      let field := Field.ofSegments (← segments steps ⟨false, false, false⟩ false expression)
      let text := field.text
      let s ← get
      let lookUp (name : String) : String := (s.value? name).getD ""
      let (result, assigned) := Arithmetic.evaluate lookUp text.toList
      for (name, n) in assigned do assign name (toString n.toInt) false
      let n ← match result with
        | .ok n => pure n
        | .error .overflow => do
          discard (ask (Job.kill s.process 8))
          pure 0
        | .error e => fail (e.message text)
      let isQuoted := isQuoted || p.isQuoted
      return [.text [(decimalInt n.toInt).toList] isQuoted
        (if isQuoted then .never else .atSeparators)]
    | .parameter name use orEmpty isQuoted word =>
      parameter steps p name use orEmpty (isQuoted || p.isQuoted) word

def parameter : (steps : Nat) → Purpose → (name : String) → Use → (orEmpty isQuoted : Bool) →
    (word : List Part) → Sh (List Segment)
  | 0, _, _, _, _, _, _ => return []
  | steps + 1, p, name, use, orEmpty, isQuoted, word => do
    let s ← get
    let found := pieces? p s name isQuoted
    let present := if orEmpty then found.filter fun ps => ps.length > 1 || ps.any (!·.isEmpty)
      else found
    let valued (pieces : List (List Char)) : List Segment :=
      let cutting :=
        if !isQuoted then Cutting.atSeparators
        else if name = "@" && !s.parameters.isEmpty then .betweenPieces
        else .never
      [.text pieces isQuoted cutting]
    let expanded : Sh (List Segment) := do
      withTilde steps { p with isQuoted, isValue := true } word
    let strict {α : Type} (then_ : Sh α) : Sh α := do
      if present.isNone && s.options.contains 'u' then missing name "parameter not set" else then_
    match use with
    | .unknown => fail "Bad substitution"
    | .value =>
      if orEmpty then return []
      strict (return (present.map valued).getD [])
    | .orElse =>
      match present with
      | some ps => return valued ps
      | none => expanded
    | .instead => if present.isSome then expanded else return []
    | .assign =>
      match present with
      | some ps => return valued ps
      | none =>
        let text := (Field.ofSegments (← withTilde steps ⟨false, false, false⟩ word)).text
        unless isName name do fail (name ++ ": bad variable name")
        assign name text false
        return valued [text.toList]
    | .require =>
      match present with
      | some ps => return valued ps
      | none =>
        let text := (Field.ofSegments (← withTilde steps ⟨false, false, false⟩ word)).text
        missing name (if word.isEmpty then
          "parameter not set" ++ (if orEmpty then " or null" else "") else text)
    | .length =>
      strict do
        let joined := pieces? { p with isFull := false } s name isQuoted
        let n := (joined.map fun ps => ps.flatten.length).getD 0
        return [.text [(decimal n).toList] isQuoted (if isQuoted then .never else .atSeparators)]
    | .cut front longest =>
      strict do
        match pieces? { p with isFull := false } s name isQuoted with
        | none => return []
        | some ps =>
          let field := Field.ofSegments (← withTilde steps ⟨false, false, false⟩ word)
          let pattern := Pattern.pieces field.cells
          let value := ps.flatten
          let value := if front then Pattern.cutFront pattern longest value
            else Pattern.cutEnd pattern longest value
          return valued [value]

end

def wordSteps : Nat := 1000000000000

def expandField (w : Word) : Sh Field :=
  return Field.ofSegments (← withTilde output wordSteps ⟨false, false, false⟩ w)

def expandText (w : Word) : Sh String := return (← expandField output w).text

/-- Expands the parts of what is assigned; `isFirst` in front of them all, `isOpen` inside quotation
marks. -/
def valueSegments (s : State) : List Part → (isFirst isOpen : Bool) → Sh (List Segment)
  | [], _, _ => return []
  | part :: rest, isFirst, isOpen => do
    match part with
    | .plain text =>
      let here := if isOpen then [Segment.text [text] false .never]
        else betweenColons s isFirst rest.isEmpty (text.length + 1) text
      return here ++ (← valueSegments s rest false isOpen)
    | .mark opens => valueSegments s rest false opens
    | part =>
      let here ← segment output wordSteps ⟨false, false, false⟩ part
      return here ++ (← valueSegments s rest false isOpen)

/-- What is assigned by a word; a tilde may stand in front, and behind each colon. -/
def expandValue (w : Word) : Sh String := do
  let segments ← valueSegments output (← get) w true false
  return (Field.ofSegments segments).text

def expandDocument (w : Word) : Sh String :=
  return (Field.ofSegments (← segments output wordSteps ⟨false, true, false⟩ false w)).text

/-- The files in a directory that match a pattern, in order. A dot at the front of a name is matched
by a dot alone. -/
def matching (directory : String) (pattern : List Cell) : Sh (List String) := do
  match ← ask (Job.list (if directory.isEmpty then "." else directory)) with
  | .error _ => return []
  | .ok names =>
    let ps := Pattern.pieces pattern
    let showsHidden := (pattern.head?.map (·.char == '.')).getD false
    let names := if showsHidden then "." :: ".." :: names else names
    let found := names.filter fun n =>
      (showsHidden || !n.startsWith ".") && Pattern.matchesAll ps n.toList
    return found.mergeSort fun a b => !(b < a)

/-- The paths behind a directory that match the names that follow, each a pattern. -/
def paths : (names : List (List Cell)) → (directory : String) → Sh (List String)
  | [], directory => return [directory]
  | name :: rest, directory => do
    let behind (n : String) : String := directory ++ n ++ (if rest.isEmpty then "" else "/")
    let isFile (path : String) : Sh Bool := do
      match ← ask (Job.inspect path true) with
      | .ok facts => return rest.isEmpty || facts.isDirectory
      | .error _ => match ← ask (Job.inspect path false) with
        | .ok _ => return rest.isEmpty
        | .error _ => return false
    if Pattern.isActive name then
      let found ← matching directory name
      let mut all : List String := []
      for n in found do
        if rest.isEmpty then all := all ++ [directory ++ n]
        else if ← isFile (directory ++ n) then all := all ++ (← paths rest (behind n))
      return all
    else
      let n := String.ofList (name.map (·.char))
      if n.isEmpty then paths rest (behind n)
      else if ← isFile (directory ++ n) then paths rest (behind n)
      else return []

def slashParts (cells : List Cell) : List (List Cell) :=
  let (done, last) := cells.foldl (fun (done, part) cell =>
    if cell.char = '/' then (part.reverse :: done, []) else (done, cell :: part)) ([], [])
  (last.reverse :: done).reverse

def filesOf (f : Field) : Sh (List String) := do
  let cells := f.cells
  if !Pattern.isActive cells || (← isOn 'f') then return [f.text]
  match ← paths (slashParts cells) "" with
  | [] => return [f.text]
  | found => return found

def expandFields (w : Word) : Sh (List String) := do
  match w with
  | [.plain text] =>
    if text.head? ≠ some '~' && !text.any fun c => c == '*' || c == '?' || c == '[' then
      return [String.ofList text]
  | _ => pure ()
  let cut := fieldsOf (← get).separators
    (← withTilde output wordSteps ⟨true, false, false⟩ w)
  let mut all : List String := []
  for f in cut do all := all ++ (← filesOf f)
  return all

def expandAll (ws : List Word) : Sh (List String) := do
  let mut all : List (List String) := []
  for w in ws do all := (← expandFields output w) :: all
  return all.reverse.flatten

end

end Replay.Shell.Sh
