import Replay.Workbench.Shell.Source

/-!
Reading words. A word goes on until a character ends it that neither quotation marks nor braces
protect; what it asks the shell to expand is read with it, commands included.
-/
namespace Replay.Shell.Reading

inductive Mode where
  /-- Nothing, or the braces of a parameter. -/
  | plain (inBraces : Bool)
  /-- Quotation marks in such a text. -/
  | double (inBraces : Bool)
  /-- The braces of a parameter in a quoted text; `isInner` between quotation marks in them. -/
  | braces (isInner inDocument : Bool)
  | arithmetic (depth : Nat)
  | document (delimiter : List Char) (stripsTabs : Bool)

namespace Mode

def isPlain : Mode → Bool
  | plain _ => true
  | _ => false

def inBraces : Mode → Bool
  | plain b | double b => b
  | braces .. => true
  | arithmetic _ | document .. => false

def isDocument : Mode → Bool
  | document .. => true
  | _ => false

def isQuoted : Mode → Bool
  | plain _ | arithmetic _ => false
  | double _ | braces .. | document .. => true

/-- What surrounds the word of a parameter; patterns have quotation marks of their own. -/
def ofParameter (m : Mode) (use : Use) : Mode :=
  match use, m with
  | .cut .., _ => plain true
  | _, plain _ => plain true
  | _, braces _ inDocument => braces false inDocument
  | _, document .. => braces false true
  | _, _ => braces false false

def lack? : Mode → Option String
  | plain false | document .. => none
  | plain true | braces _ true => some "Missing '\x7d'"
  | double _ | braces _ false => some "Unterminated quoted string"
  | arithmetic _ => some "Missing '))'"

end Mode

/-- Adds a character; the texts of the parts read so far are kept last character first. -/
def push (m : Mode) (c : Char) (done : List Part) : List Part :=
  if m.isPlain then
    match done with
    | .plain text :: rest => .plain (c :: text) :: rest
    | done => .plain [c] :: done
  else
    match done with
    | .quoted text :: rest => .quoted (c :: text) :: rest
    | done => .quoted [c] :: done

def pushQuoted (c : Char) (done : List Part) : List Part := push (.arithmetic 0) c done

def finish (done : List Part) : Word :=
  done.foldl (fun w p => (match p with
    | .plain text => .plain text.reverse
    | .quoted text => .quoted text.reverse
    | p => p) :: w) []

def backquote : Char := '\x60'

def endsWord (c : Char) : Bool := [' ', '\t', '\n', '<', '>', '(', ')', ';', '&', '|'].contains c

def escaped (m : Mode) (done : List Part) : Reading (List Part) := do
  skip
  match ← peekBare with
  | none => return pushQuoted '\\' done
  | some c =>
    if c == '\n' then skipLine else skip
    let isQuotable := ['\\', backquote, '$'].contains c || (c == '"' && !m.isDocument) ||
      (c == '\x7d' && m.inBraces)
    return pushQuoted c (if m.isPlain || isQuotable then done else pushQuoted '\\' done)

/-- Whether the line that begins here ends the document; if so, it is skipped. -/
def atDelimiter (delimiter : List Char) (stripsTabs : Bool) : Reading Bool := fun s =>
  let rest := if stripsTabs then s.rest.dropWhile (· == '\t') else s.rest
  if delimiter.isPrefixOf rest then
    match rest.drop delimiter.length with
    | '\n' :: behind => .ok true { s with rest := behind, line := s.line + 1 }
    | [] => if s.isOpen then .error .unfinished s else .ok true { s with rest := [] }
    | _ => .ok false { s with rest }
  else if s.isOpen && rest.isPrefixOf delimiter then .error .unfinished s
  else .ok false { s with rest }

/-- The text up to a backquote, without the backslashes that guard its characters. -/
def upToBackquote (inQuotes : Bool) : (steps : Nat) → List Char → Reading (List Char)
  | 0, done => return done.reverse
  | steps + 1, done => do
    match ← peek with
    | none => fail "EOF in backquote substitution"
    | some c =>
      if c == '\n' then skipLine else skip
      if c = backquote then return done.reverse
      else if c = '\\' then
        match ← peekBare with
        | none => fail "EOF in backquote substitution"
        | some d =>
          if d == '\n' then skipLine else skip
          let isGuarded := ['\\', backquote, '$'].contains d || (inQuotes && d == '"')
          upToBackquote inQuotes steps (if isGuarded then d :: done else d :: '\\' :: done)
      else upToBackquote inQuotes steps (c :: done)

/-- Reads commands from a text of its own. -/
def within (commands : Reading (Option Command)) (text : List Char) : Reading (Option Command) :=
  fun s =>
    match commands { Source.ofText text s.aliases with issued := s.issued } with
    | .ok c inner => .ok (c.map (Command.fill inner.bodies)) { s with issued := inner.issued }
    | .error e inner => .error e { s with issued := inner.issued }

def enclosed (commands : Reading (Option Command)) (closing : Reading Unit) :
    Reading (Option Command) := do
  let s ← get
  set { s with announced := [], isPushed := false }
  let c ← commands
  closing
  let bodies := (← get).bodies
  modify fun inner => { inner with announced := s.announced, isPushed := false, checks := s.checks }
  return c.map (Command.fill bodies)

/-- The name of a parameter between braces, and whether its length is asked for; no name if there
is none. -/
def bracedName : Reading (Option (String × Bool)) := do
  match ← peek with
  | none => return none
  | some c =>
    if isNameStart c then return some (← nameChars, false)
    else if c.isDigit then return some (← digits, false)
    else if c = '\x7d' then return none
    else
      skip
      let special (c : Char) : Option (String × Bool) :=
        if isSpecial c then some (String.singleton c, false) else none
      if c ≠ '#' then return special c
      match ← peek with
      | none => return special c
      | some d =>
        if isNameStart d then return some (← nameChars, true)
        else if d.isDigit then return some (← digits, true)
        else if d = '\x7d' then return special c
        else
          let s ← get
          skip
          if (← peek) == some '\x7d' then
            return if isSpecial d then some (String.singleton d, true) else none
          else
            set s
            return special c

/-- What is made of the value of a parameter, and whether an empty value counts as missing. -/
def bracedUse : Reading (Use × Bool) := do
  let operator? (c : Char) : Option Use :=
    match c with
    | '\x7d' => some .value
    | '-' => some .orElse
    | '+' => some .instead
    | '?' => some .require
    | '=' => some .assign
    | _ => none
  match ← peek with
  | none => return (.unknown, false)
  | some c =>
    skip
    if c = ':' then
      match ← peek with
      | none => return (.unknown, true)
      | some d =>
        skip
        return ((operator? d).getD .unknown, true)
    else if c = '%' || c = '#' then
      let longest ← accept c
      return (.cut (c == '#') longest, false)
    else return ((operator? c).getD .unknown, false)

section

variable (commands : Reading (Option Command)) (closing : Reading Unit)

mutual

/-- Reads on to the end of a text; the parts read are kept last first. -/
def parts : (steps : Nat) → Mode → (done : List Part) → Reading (List Part)
  | 0, _, done => return done
  | steps + 1, m, done => do
    match ← peek with
    | none =>
      match m.lack? with
      | some text => fail text
      | none => return done
    | some c =>
      match c with
      | '\\' => parts steps m (← escaped m done)
      | '$' =>
        skip
        parts steps m (← dollar steps m done)
      | '\n' =>
        match m with
        | .plain false => return done
        | .document delimiter stripsTabs =>
          skipLine
          let done := push m c done
          if ← atDelimiter delimiter stripsTabs then return done else parts steps m done
        | _ =>
          skipLine
          parts steps m (push m c done)
      | '\'' =>
        if m.isPlain then
          skip
          let text ← upToQuote
          let marked := .mark true :: done
          parts steps m (.mark false ::
            (if text.isEmpty then marked else .quoted text.reverse :: marked))
        else
          skip
          parts steps m (push m c done)
      | '"' =>
        skip
        match m with
        | .plain inBraces =>
          let done ← parts steps (.double inBraces) (.mark true :: done)
          parts steps m (.mark false :: done)
        | .double _ => return done
        | .braces isInner inDocument => parts steps (.braces (!isInner) inDocument) done
        | _ => parts steps m (push m c done)
      | '\x7d' =>
        match m with
        | .plain true | .braces false _ =>
          skip
          return done
        | _ =>
          skip
          parts steps m (push m c done)
      | '(' =>
        match m with
        | .plain false => return done
        | .arithmetic depth =>
          skip
          parts steps (.arithmetic (depth + 1)) (push m c done)
        | _ =>
          skip
          parts steps m (push m c done)
      | ')' =>
        match m with
        | .plain false => return done
        | .arithmetic 0 =>
          skip
          if ← accept ')' then return done else parts steps m (push m c done)
        | .arithmetic (depth + 1) =>
          skip
          parts steps (.arithmetic depth) (push m c done)
        | _ =>
          skip
          parts steps m (push m c done)
      | c =>
        if c = backquote && !(← get).checks.isDelimiter then
          skip
          let text ← upToBackquote (!m.isPlain) Reading.steps []
          let body ← within commands text
          parts steps m (.command body m.isQuoted :: done)
        else
          match m with
          | .plain false =>
            if endsWord c then return done
            else
              skip
              parts steps m (push m c done)
          | _ =>
            skip
            parts steps m (push m c done)

def dollar : (steps : Nat) → Mode → (done : List Part) → Reading (List Part)
  | 0, _, done => return done
  | steps + 1, m, done => do
    let bare := push m '$' done
    if (← get).checks.isDelimiter then return bare
    match ← peek with
    | none => return bare
    | some c =>
      if c = '(' then
        skip
        if ← accept '(' then
          let expression ← parts steps (.arithmetic 0) []
          return .arithmetic (finish expression) m.isQuoted :: done
        else
          let body ← enclosed commands closing
          return .command body m.isQuoted :: done
      else if c = '\x7b' then
        skip
        match ← bracedName with
        | none =>
          let word ← parts steps (m.ofParameter .unknown) []
          return .parameter "" .unknown false m.isQuoted (finish word) :: done
        | some (name, true) =>
          let use := if (← peek) == some '\x7d' then Use.length else .unknown
          let word ← parts steps (m.ofParameter use) []
          return .parameter name use false m.isQuoted (finish word) :: done
        | some (name, false) =>
          let (use, orEmpty) ← bracedUse
          if use = .value && !orEmpty then return .parameter name use false m.isQuoted [] :: done
          let word ← parts steps (m.ofParameter use) []
          return .parameter name use orEmpty m.isQuoted (finish word) :: done
      else if isNameStart c then
        return .parameter (← nameChars) .value false m.isQuoted [] :: done
      else if isSpecial c then
        skip
        return .parameter (String.singleton c) .value false m.isQuoted [] :: done
      else return bare

end

def word : Reading Word := return finish (← parts commands closing steps (.plain false) [])

end

end Replay.Shell.Reading
