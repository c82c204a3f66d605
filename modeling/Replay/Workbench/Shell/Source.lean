import Replay.Workbench.Shell.Syntax

/-!
The text of a script while it is read: its characters and lines, the token that was read last, and
the documents that are to come.
-/
namespace Replay.Shell

/-- Why no command can be read. -/
inductive Fault where
  /-- The command goes on in text that is not there yet. -/
  | unfinished
  | malformed (line : Nat) (text : String)

def keywords : List String :=
  ["!", "case", "do", "done", "elif", "else", "esac", "fi", "for", "if", "in", "then", "until",
   "while", "\x7b", "\x7d"]

def closingKeywords : List String :=
  ["do", "done", "elif", "else", "esac", "fi", "then", "\x7d"]

/-- What a redirection operator says. -/
inductive Operator where
  | file (o : Opening)
  | copy
  | document (stripsTabs : Bool)
  deriving DecidableEq

inductive Token where
  | ending
  | newline
  | semicolon
  | ampersand
  | and
  | or
  | bar
  | parenOpen
  | parenClose
  | caseEnd
  | redirect (fd : Nat) (o : Operator)
  /-- Whether any of the word is quoted is told with it. -/
  | word (w : Word) (isQuoted : Bool)
  | keyword (name : String)

namespace Token

def describe : Token → String
  | ending => "end of file"
  | newline => "newline"
  | semicolon => "\";\""
  | ampersand => "\"&\""
  | and => "\"&&\""
  | or => "\"||\""
  | bar => "\"|\""
  | parenOpen => "\"(\""
  | parenClose => "\")\""
  | caseEnd => "\";;\""
  | redirect .. => "redirection"
  | word .. => "word"
  | keyword name => "\"" ++ name ++ "\""

def endsList : Token → Bool
  | ending | parenClose | caseEnd => true
  | keyword name => closingKeywords.contains name
  | _ => false

def word? : Token → Option Word
  | word w _ => some w
  | keyword name => some [.plain name.toList]
  | _ => none

def isKeyword (t : Token) (name : String) : Bool :=
  match t with
  | keyword n => n == name
  | _ => false

end Token

/-- What a token may be taken for besides a word. -/
structure Checks where
  /-- Newlines before it are skipped. -/
  newlines : Bool
  keywords : Bool
  aliases : Bool
  /-- It says how a document ends, and nothing in it is expanded. -/
  isDelimiter : Bool

namespace Checks

def none : Checks := ⟨false, false, false, false⟩

def merge (a b : Checks) : Checks :=
  ⟨a.newlines, a.keywords || b.keywords, a.aliases || b.aliases, a.isDelimiter⟩

def words : Checks := ⟨true, true, true, false⟩

end Checks

/-- A document that is announced and not read yet. -/
structure Announced where
  number : Nat
  delimiter : List Char
  stripsTabs : Bool
  expands : Bool

/-- A name that stands for a text until that text is read to its end. -/
structure InUse where
  name : String
  /-- How many characters are left behind the text. -/
  behind : Nat
  /-- Whether the word behind the text may be an alias too. -/
  chains : Bool

structure Source where
  rest : List Char
  line : Nat
  /-- Whether more text may follow. -/
  isOpen : Bool
  last : Token
  /-- Whether the last token is to be read again. -/
  isPushed : Bool
  checks : Checks
  announced : List Announced
  bodies : List (Nat × Word)
  issued : Nat
  aliases : List (String × String)
  inUse : List InUse

namespace Source

def ofText (text : List Char) (aliases : List (String × String)) : Source :=
  ⟨text, 1, false, .newline, false, .none, [], [], 0, aliases, []⟩

end Source

abbrev Reading := EStateM Fault Source

namespace Reading

def fail {α : Type} (text : String) : Reading α := fun s => .error (.malformed s.line text) s

/-- The text without the line ends that a backslash hides at its front, and how many they are. -/
def joined : List Char → (lines : Nat) → List Char × Nat
  | '\\' :: '\n' :: rest, lines => joined rest (lines + 1)
  | cs, lines => (cs, lines)

/-- The next character, which stays where it is; line ends that a backslash hides are skipped. -/
def peek : Reading (Option Char) := fun s =>
  match s.rest with
  | '\\' :: '\n' :: rest =>
    match joined rest (s.line + 1) with
    | ([], line) =>
      if s.isOpen then .error .unfinished s else .ok none { s with rest := [], line }
    | (['\\'], line) =>
      if s.isOpen then .error .unfinished s else .ok (some '\\') { s with rest := ['\\'], line }
    | (c :: rest, line) => .ok (some c) { s with rest := c :: rest, line }
  | [] => if s.isOpen then .error .unfinished s else .ok none s
  | ['\\'] => if s.isOpen then .error .unfinished s else .ok (some '\\') s
  | c :: _ => .ok (some c) s

def peekBare : Reading (Option Char) := fun s =>
  match s.rest with
  | [] => if s.isOpen then .error .unfinished s else .ok none s
  | c :: _ => .ok (some c) s

def skip : Reading Unit := modify fun s => { s with rest := s.rest.drop 1 }

def skipLine : Reading Unit := modify fun s => { s with rest := s.rest.drop 1, line := s.line + 1 }

def accept (c : Char) : Reading Bool := do
  if (← peek) == some c then
    skip
    return true
  return false

/-- The characters that belong to a class, read last first; `steps` bounds how many they are. -/
def many (isIn : Char → Bool) : (steps : Nat) → List Char → Reading (List Char)
  | 0, done => return done
  | steps + 1, done => do
    match ← peek with
    | some c =>
      if isIn c then
        skip
        many isIn steps (c :: done)
      else return done
    | none => return done

def steps : Nat := 1000000000000

def nameChars : Reading String := do
  return String.ofList (← many isNameChar steps []).reverse

def digits : Reading String := do
  return String.ofList (← many Char.isDigit steps []).reverse

def upToQuote : Reading (List Char) := fun s =>
  let (text, rest) := s.rest.span (· != '\'')
  let line := s.line + text.count '\n'
  match rest with
  | _ :: rest => .ok text { s with rest, line }
  | [] =>
    if s.isOpen then .error .unfinished s
    else .error (.malformed line "Unterminated quoted string") { s with rest, line }

end Reading

end Replay.Shell
