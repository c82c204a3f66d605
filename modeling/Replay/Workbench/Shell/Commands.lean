import Replay.Workbench.Shell.Grammar

/-!
The grammar of commands: lists, pipelines, compound commands, functions and simple commands.
-/
namespace Replay.Shell.Reading

/-- How a list of commands ends. -/
inductive Extent where
  /-- With the line. -/
  | line
  /-- Before a closing token, after at least one command. -/
  | block
  /-- Before a closing token, perhaps at once. -/
  | optional
  deriving DecidableEq

/-- A list of commands as one command; the list is kept last first. -/
def sequenceOf (done : List Command) : Option Command :=
  match done with
  | [] => none
  | [c] => some c
  | cs => some (.sequence cs.reverse)

def inBackground (line : Nat) : Command → Command
  | .pipeline commands _ => .pipeline commands true
  | .redirected line body redirects => .background line body redirects
  | c => .background line c []

def commandOrNothing (c : Option Command) : Command := c.getD default

def isListEnd (t : Token) (extent : Extent) (done : List Command) : Bool :=
  t.endsList && (extent = .optional || (extent = .block && !done.isEmpty))

def targetOf (fd : Nat) (op : Operator) (w : Word) (isQuoted : Bool) : Reading Redirect :=
  match op with
  | .file o => return .file fd o w
  | .copy =>
    match literal? w, w with
    | some text, _ =>
      if text = "-" then return .copy fd none
      else match text.toList with
        | [c] => return if c.isDigit then .copy fd (some (c.toNat - 48)) else .copyOf fd w
        | _ => return .copyOf fd w
    | none, _ => return .copyOf fd w
  | .document stripsTabs => do
    let number := (← get).issued
    modify fun s => { s with
      issued := number + 1
      announced := s.announced ++ [⟨number, (bareText w).toList, stripsTabs, !isQuoted⟩] }
    return .document fd number (!isQuoted) []

mutual

/-- Reads a list of commands; nothing if the text ends before its first command. Commands read so
far are kept last first. -/
def list : (steps : Nat) → Extent → (done : List Command) → Reading (Option (Option Command))
  | 0, _, _ => return none
  | steps + 1, extent, done => do
    expect { Checks.words with newlines := extent ≠ .line }
    match ← next steps with
    | .newline =>
      documentsAt steps
      return some (sequenceOf done)
    | .ending =>
      documentsAt steps
      unread
      return if done.isEmpty && extent = .line then none else some (sequenceOf done)
    | t =>
      unread
      if isListEnd t extent done then return some (sequenceOf done)
      let line := (← get).line
      let c ← andOr steps none
      match ← next steps with
      | .ampersand => list steps extent (inBackground line c :: done)
      | .semicolon => list steps extent (c :: done)
      | .newline =>
        unread
        list steps extent (c :: done)
      | .ending =>
        documentsAt steps
        unread
        return some (sequenceOf (c :: done))
      | _ =>
        if extent = .line then unexpected none
        unread
        return some (sequenceOf (c :: done))

def nested : (steps : Nat) → Extent → Reading (Option Command)
  | 0, _ => return none
  | steps + 1, extent => do return (← list steps extent []).getD none

def next : (steps : Nat) → Reading Token
  | 0 => return .ending
  | steps + 1 => token (nested steps .optional) (closeParen steps)

def closeParen : (steps : Nat) → Reading Unit
  | 0 => return
  | steps + 1 => do
    match ← next steps with
    | .parenClose => return
    | _ => unexpected (some "\")\"")

def documentsAt : (steps : Nat) → Reading Unit
  | 0 => return
  | steps + 1 => documents (nested steps .optional) (closeParen steps)

def andOr : (steps : Nat) → (first : Option (Command × Bool)) → Reading Command
  | 0, _ => return default
  | steps + 1, first => do
    let p ← pipeline steps
    let c := match first with
      | none => p
      | some (a, true) => .both a p
      | some (a, false) => .either a p
    match ← next steps with
    | .and =>
      expect Checks.words
      andOr steps (some (c, true))
    | .or =>
      expect Checks.words
      andOr steps (some (c, false))
    | _ =>
      unread
      return c

def pipeline : (steps : Nat) → Reading Command
  | 0 => return default
  | steps + 1 => do
    let isNegated := (← next steps).isKeyword "!"
    if isNegated then expect { Checks.words with newlines := false } else unread
    let first ← command steps
    let c ← match ← next steps with
      | .bar => do
        let others ← piped steps []
        pure (Command.pipeline (first :: others) false)
      | _ => do
        unread
        pure first
    return if isNegated then .not c else c

def piped : (steps : Nat) → (done : List Command) → Reading (List Command)
  | 0, done => return done.reverse
  | steps + 1, done => do
    expect Checks.words
    let c ← command steps
    match ← next steps with
    | .bar => piped steps (c :: done)
    | _ =>
      unread
      return (c :: done).reverse

def listUpTo : (steps : Nat) → (keyword : String) → Reading Command
  | 0, _ => return default
  | steps + 1, keyword => do
    let c ← nested steps .block
    if (← next steps).isKeyword keyword then return commandOrNothing c
    expecting keyword

def choice : (steps : Nat) → Reading Command
  | 0 => return default
  | steps + 1 => do
    let test ← listUpTo steps "then"
    let body := commandOrNothing (← nested steps .block)
    match ← next steps with
    | .keyword "elif" => return .choice test body (some (← choice steps))
    | .keyword "else" => return .choice test body (← nested steps .block)
    | _ =>
      unread
      return .choice test body none

def loopWords : (steps : Nat) → (done : List Word) → Reading (List Word)
  | 0, done => return done.reverse
  | steps + 1, done => do
    match ← next steps with
    | .word w _ => loopWords steps (w :: done)
    | .newline | .semicolon => return done.reverse
    | _ => unexpected none

def forEach : (steps : Nat) → (line : Nat) → Reading Command
  | 0, _ => return default
  | steps + 1, line => do
    let name ← match ← next steps with
      | .word w false =>
        match literal? w with
        | some name => if isName name then pure name else fail "Bad for loop variable"
        | none => fail "Bad for loop variable"
      | _ => fail "Bad for loop variable"
    expect Checks.words
    let t ← next steps
    let words ← if t.isKeyword "in" then loopWords steps [] else do
      match t with
      | .semicolon => pure ()
      | _ => unread
      pure [[.mark true, .parameter "@" .value false true [], .mark false]]
    expect Checks.words
    unless (← next steps).isKeyword "do" do expecting "do"
    return .forEach line name words (commandOrNothing (← nested steps .block))

/-- The patterns of one arm of a choice by pattern, from the first one on; whatever stands where one
should is taken for it. -/
def patterns : (steps : Nat) → Token → (done : List Word) → Reading (List Word)
  | 0, _, done => return done.reverse
  | steps + 1, t, done => do
    let w := t.word?.getD []
    match ← next steps with
    | .bar => patterns steps (← next steps) (w :: done)
    | .parenClose => return (w :: done).reverse
    | _ => unexpected (some "\")\"")

def arms : (steps : Nat) → (done : List (List Word × Option Command)) →
    Reading (List (List Word × Option Command))
  | 0, done => return done.reverse
  | steps + 1, done => do
    expect { Checks.words with aliases := false }
    let t ← next steps
    if t.isKeyword "esac" then return done.reverse
    let t ← match t with
      | .parenOpen => next steps
      | t => pure t
    let ps ← patterns steps t []
    let body ← nested steps .optional
    expect { Checks.words with aliases := false }
    match ← next steps with
    | .caseEnd => arms steps ((ps, body) :: done)
    | .keyword "esac" => return ((ps, body) :: done).reverse
    | _ => unexpected (some "\";;\"")

def case : (steps : Nat) → (line : Nat) → Reading Command
  | 0, _ => return default
  | steps + 1, line => do
    match ← next steps with
    | .word subject _ =>
      expect Checks.words
      unless (← next steps).isKeyword "in" do expecting "in"
      return .case line subject (← arms steps [])
    | _ => unexpected (some "word")

def target : (steps : Nat) → (fd : Nat) → Operator → Reading Redirect
  | 0, fd, _ => return .copy fd none
  | steps + 1, fd, op => do
    match op with
    | .document _ => expect { Checks.none with isDelimiter := true }
    | _ => pure ()
    match ← next steps with
    | .word w isQuoted => targetOf fd op w isQuoted
    | _ => unexpected none

def redirects : (steps : Nat) → (done : List Redirect) → Reading (List Redirect)
  | 0, done => return done.reverse
  | steps + 1, done => do
    match ← next steps with
    | .redirect fd op => redirects steps ((← target steps fd op) :: done)
    | _ =>
      unread
      return done.reverse

def command : (steps : Nat) → Reading Command
  | 0 => return default
  | steps + 1 => do
    let line := (← get).line
    let closed (c : Command) (keyword : String) : Reading Command := do
      if (← next steps).isKeyword keyword then return c
      expecting keyword
    let c ← match ← next steps with
      | .keyword "if" => do closed (← choice steps) "fi"
      | .keyword "while" => do
        let test ← listUpTo steps "do"
        closed (.loop true test (commandOrNothing (← nested steps .block))) "done"
      | .keyword "until" => do
        let test ← listUpTo steps "do"
        closed (.loop false test (commandOrNothing (← nested steps .block))) "done"
      | .keyword "for" => do closed (← forEach steps line) "done"
      | .keyword "case" => case steps line
      | .keyword "\x7b" => do closed (commandOrNothing (← nested steps .block)) "\x7d"
      | .parenOpen => do
        let body ← nested steps .block
        closeParen steps
        pure (Command.subshell line (commandOrNothing body) [])
      | .word .. | .redirect .. => do
        unread
        return ← simple steps (← get).line true [] [] []
      | _ => unexpected none
    expect { Checks.words with newlines := false }
    match ← redirects steps [], c with
    | [], c => return c
    | rs, .subshell line body _ => return .subshell line body rs
    | rs, c => return .redirected line c rs

/-- Reads the words of a simple command, or the definition of a function; what is read is kept last
first. -/
def simple : (steps : Nat) → (line : Nat) → (mayAssign : Bool) →
    (assignments words : List Word) → (rs : List Redirect) → Reading Command
  | 0, line, _, assignments, words, rs =>
    return .simple line assignments.reverse words.reverse rs.reverse
  | steps + 1, line, mayAssign, assignments, words, rs => do
    expect { Checks.none with aliases := mayAssign }
    let done : Reading Command := do
      unread
      return .simple line assignments.reverse words.reverse rs.reverse
    match ← next steps with
    | .word w _ =>
      if mayAssign && (assignment? w).isSome then
        simple steps line true (w :: assignments) words rs
      else simple steps line false assignments (w :: words) rs
    | .redirect fd op =>
      simple steps line mayAssign assignments words ((← target steps fd op) :: rs)
    | .parenOpen =>
      match assignments, words, rs with
      | [], [w], [] =>
        unless (← next steps) matches .parenClose do unexpected (some "\")\"")
        let name := (literal? w).getD ""
        if !isName name || specialBuiltins.contains name then fail "Bad function name"
        expect Checks.words
        return .define name (← command steps)
      | _, _, _ => done
    | _ => done

end

/-- Why no further command comes of a source, or the command with the source behind it. -/
inductive Outcome where
  /-- The text ended. -/
  | ended
  | unfinished
  | malformed (line : Nat) (text : String)
  /-- A command, none if there was only an empty line. -/
  | command (c : Option Command) (s : Source)

end Reading

/-- Reads the next complete command of a source. -/
def Source.next (s : Source) : Reading.Outcome :=
  let fresh := { s with isPushed := false, checks := .none, announced := [], bodies := [] }
  match Reading.list Reading.steps .line [] fresh with
  | .error .unfinished _ => .unfinished
  | .error (.malformed line text) _ => .malformed line text
  | .ok none _ => .ended
  | .ok (some c) after =>
    .command (c.map (Command.fill after.bodies)) after

end Replay.Shell
