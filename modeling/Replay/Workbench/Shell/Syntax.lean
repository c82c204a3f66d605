/-! What a script says: commands, and the words they are made of. -/
namespace Replay.Shell

/-- What is made of the value of a parameter. -/
inductive Use where
  | value
  | length
  /-- The word in the place of a value that is missing. -/
  | orElse
  /-- The word in the place of a value that is there. -/
  | instead
  /-- The word is the complaint about a value that is missing. -/
  | require
  /-- The word becomes the value that is missing. -/
  | assign
  /-- The value without what the word, a pattern, matches at one of its ends. -/
  | cut (front longest : Bool)
  /-- Nothing: no such use is known. -/
  | unknown
  deriving DecidableEq

/-- What a redirection opens its file for. -/
inductive Opening where
  | read
  | write
  /-- Writing, even where other files must not be overwritten. -/
  | overwrite
  | append
  | update
  deriving DecidableEq

mutual

/-- A part of a word. A text that is quoted stands for itself; other text may be a pattern. -/
inductive Part where
  | plain (text : List Char)
  | quoted (text : List Char)
  /-- A quotation mark: what is quoted makes a field even if it is empty. -/
  | mark (opens : Bool)
  | parameter (name : String) (use : Use) (orEmpty quoted : Bool) (word : List Part)
  | command (body : Option Command) (quoted : Bool)
  | arithmetic (expression : List Part) (quoted : Bool)

/-- What a descriptor is connected with while a command runs. -/
inductive Redirect where
  | file (fd : Nat) (opening : Opening) (target : List Part)
  /-- What another descriptor is connected with; no descriptor closes this one. -/
  | copy (fd : Nat) (source : Option Nat)
  /-- What the descriptor that a word expands to is connected with. -/
  | copyOf (fd : Nat) (source : List Part)
  /-- A document that the script holds. -/
  | document (fd number : Nat) (expands : Bool) (body : List Part)

inductive Command where
  | simple (line : Nat) (assignments words : List (List Part)) (redirects : List Redirect)
  | pipeline (commands : List Command) (inBackground : Bool)
  | both (first second : Command)
  | either (first second : Command)
  | not (body : Command)
  | sequence (commands : List Command)
  | background (line : Nat) (body : Command) (redirects : List Redirect)
  | subshell (line : Nat) (body : Command) (redirects : List Redirect)
  | redirected (line : Nat) (body : Command) (redirects : List Redirect)
  | choice (test body : Command) (otherwise : Option Command)
  /-- Runs its body as long as the test succeeds, or fails. -/
  | loop (whileSuccess : Bool) (test body : Command)
  | forEach (line : Nat) (name : String) (words : List (List Part)) (body : Command)
  | case (line : Nat) (subject : List Part) (arms : List (List (List Part) × Option Command))
  | define (name : String) (body : Command)

end

instance : Inhabited Command := ⟨.sequence []⟩

abbrev Word := List Part

def literal? : Word → Option String
  | [] => some ""
  | [.plain text] => some (String.ofList text)
  | _ => none

def bareText (w : Word) : String :=
  String.ofList (w.foldr (fun p rest => match p with
    | .plain text | .quoted text => text ++ rest
    | _ => rest) [])

def isNameStart (c : Char) : Bool := c.isAlpha || c == '_'

def isNameChar (c : Char) : Bool := c.isAlphanum || c == '_'

def isName (s : String) : Bool :=
  match s.toList with
  | [] => false
  | c :: rest => isNameStart c && rest.all isNameChar

/-- The name of the variable that a word assigns to, if it does, with what is assigned. -/
def assignment? : Word → Option (String × Word)
  | .plain text :: rest =>
    match text.span isNameChar with
    | (name, '=' :: value) =>
      if isName (String.ofList name) then
        some (String.ofList name, if value.isEmpty then rest else .plain value :: rest)
      else none
    | _ => none
  | _ => none

def isSpecial (c : Char) : Bool := ['!', '#', '$', '*', '-', '?', '@'].contains c || c.isDigit

/-- Builtins that a function cannot take the name of, and whose failures end a script. -/
def specialBuiltins : List String :=
  [".", ":", "break", "continue", "eval", "exec", "exit", "export", "local", "readonly", "return",
   "set", "shift", "times", "trap", "unset"]

/-- Puts the body of a document in the place where it is asked for. -/
def Redirect.fill (bodies : List (Nat × Word)) : Redirect → Redirect
  | .document fd number expands body =>
    .document fd number expands ((bodies.lookup number).getD body)
  | r => r

mutual

def Command.fill (bodies : List (Nat × Word)) : Command → Command
  | .simple line assignments words redirects =>
    .simple line assignments words (redirects.map (Redirect.fill bodies))
  | .pipeline commands inBackground => .pipeline (fillAll bodies commands) inBackground
  | .both a b => .both (a.fill bodies) (b.fill bodies)
  | .either a b => .either (a.fill bodies) (b.fill bodies)
  | .not a => .not (a.fill bodies)
  | .sequence commands => .sequence (fillAll bodies commands)
  | .background line a rs => .background line (a.fill bodies) (rs.map (Redirect.fill bodies))
  | .subshell line a rs => .subshell line (a.fill bodies) (rs.map (Redirect.fill bodies))
  | .redirected line a rs => .redirected line (a.fill bodies) (rs.map (Redirect.fill bodies))
  | .choice test body otherwise =>
    .choice (test.fill bodies) (body.fill bodies) (fillOption bodies otherwise)
  | .loop whileSuccess test body => .loop whileSuccess (test.fill bodies) (body.fill bodies)
  | .forEach line name words body => .forEach line name words (body.fill bodies)
  | .case line subject arms => .case line subject (fillArms bodies arms)
  | .define name body => .define name (body.fill bodies)

def fillAll (bodies : List (Nat × Word)) : List Command → List Command
  | [] => []
  | c :: rest => c.fill bodies :: fillAll bodies rest

def fillOption (bodies : List (Nat × Word)) : Option Command → Option Command
  | none => none
  | some c => some (c.fill bodies)

def fillArms (bodies : List (Nat × Word)) :
    List (List Word × Option Command) → List (List Word × Option Command)
  | [] => []
  | (patterns, body) :: rest => (patterns, fillOption bodies body) :: fillArms bodies rest

end

end Replay.Shell
