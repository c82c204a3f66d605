import Replay.Workbench.Shell.Words

/-!
Reading commands. A script is read one complete command at a time, which is one line unless a
construct or a word goes on behind it; documents are read where their line ends.
-/
namespace Replay.Shell.Reading

def unread : Reading Unit := modify fun s => { s with isPushed := true }

def expect (checks : Checks) : Reading Unit := modify fun s => { s with checks }

def unexpected {α : Type} (wanted : Option String) : Reading α := do
  let text := (← get).last.describe ++ " unexpected" ++
    (wanted.map fun w => " (expecting " ++ w ++ ")").getD ""
  fail (text.take 63).toString

def expecting {α : Type} (keyword : String) : Reading α :=
  unexpected (some ("\"" ++ keyword ++ "\""))

def skipBlanks : (steps : Nat) → Reading Unit
  | 0 => return
  | steps + 1 => do
    match ← peek with
    | some ' ' | some '\t' =>
      skip
      skipBlanks steps
    | some '#' => fun s =>
      let rest := s.rest.dropWhile (· != '\n')
      if rest.isEmpty && s.isOpen then .error .unfinished s else .ok () { s with rest }
    | _ => return

/-- Reads the rest of a document in which nothing is expanded; its text is kept last first. -/
def bareDocument (delimiter : List Char) (stripsTabs : Bool) :
    (steps : Nat) → (done : List Char) → Reading (List Char)
  | 0, done => return done
  | steps + 1, done => do
    match ← peekBare with
    | none => return done
    | some _ =>
      let s ← get
      let (text, rest) := s.rest.span (· != '\n')
      let done := text.reverseAux done
      match rest with
      | [] =>
        set { s with rest := [] }
        bareDocument delimiter stripsTabs steps done
      | _ :: rest =>
        set { s with rest, line := s.line + 1 }
        let done := '\n' :: done
        if ← atDelimiter delimiter stripsTabs then return done
        else bareDocument delimiter stripsTabs steps done

section

variable (commands : Reading (Option Command)) (closing : Reading Unit)

def document (d : Announced) : Reading Word := do
  if (← get).rest.isEmpty && !(← get).isOpen then return []
  if ← atDelimiter d.delimiter d.stripsTabs then return []
  if d.expands then
    return finish (← parts commands closing steps (.document d.delimiter d.stripsTabs) [])
  else
    return [.quoted (← bareDocument d.delimiter d.stripsTabs steps []).reverse]

/-- Reads the documents that were announced before the end of the line. -/
def documents : Reading Unit := do
  let announced := (← get).announced
  unless announced.isEmpty do
    modify fun s => { s with announced := [] }
    for d in announced do
      let body ← document commands closing d
      modify fun s => { s with bodies := (d.number, body) :: s.bodies }

/-- Reads an operator that redirects, from its first character on. -/
def redirection (fd : Option Nat) : Reading Token := do
  let isOutput := (← peek) == some '>'
  skip
  if isOutput then
    let op ← if ← accept '>' then pure (Operator.file .append)
      else if ← accept '|' then pure (.file .overwrite)
      else if ← accept '&' then pure .copy
      else pure (.file .write)
    return .redirect (fd.getD 1) op
  else
    let op ← if ← accept '<' then pure (Operator.document (← accept '-'))
      else if ← accept '&' then pure .copy
      else if ← accept '>' then pure (.file .update)
      else pure (.file .read)
    return .redirect (fd.getD 0) op

def releaseAliases : Reading Unit := do
  let s ← get
  unless s.inUse.isEmpty do
    let length := s.rest.length
    let (done, inUse) := s.inUse.partition fun u => length ≤ u.behind
    set { s with
      inUse
      checks := { s.checks with aliases := s.checks.aliases || done.any (·.chains) } }

def freshToken : Reading Token := do
  skipBlanks steps
  releaseAliases
  let simple (t : Token) : Reading Token := do
    skip
    return t
  match ← peek with
  | none => return .ending
  | some '\n' =>
    skipLine
    return .newline
  | some '&' =>
    skip
    return if ← accept '&' then .and else .ampersand
  | some '|' =>
    skip
    return if ← accept '|' then .or else .bar
  | some ';' =>
    skip
    return if ← accept ';' then .caseEnd else .semicolon
  | some '(' => simple .parenOpen
  | some ')' => simple .parenClose
  | some _ =>
    let w ← word commands closing
    let isQuoted := w.any fun p => match p with
      | .quoted _ | .mark _ => true
      | _ => false
    let redirected (fd : Option Nat) : Reading Token := do
      match ← peek with
      | some '<' | some '>' => redirection fd
      | _ => return .word w isQuoted
    match w with
    | [] => redirected none
    | [.plain [c]] => if c.isDigit then redirected (some (c.toNat - 48)) else return .word w false
    | _ => return .word w isQuoted

def skipNewlines : (steps : Nat) → Token → Reading Token
  | steps + 1, .newline => do
    documents commands closing
    modify fun s => { s with checks := .none }
    skipNewlines steps (← freshToken commands closing)
  | _, t => return t

def substitute (name text : String) : Reading Unit :=
  modify fun s => { s with
    rest := text.toList ++ s.rest
    inUse := ⟨name, s.rest.length, text.endsWith " " || text.endsWith "\t"⟩ :: s.inUse }

def tokenAs (wanted : Checks) : (steps : Nat) → Reading Token
  | 0 => return .ending
  | steps + 1 => do
    let s ← get
    let first ← if s.isPushed then do
        set { s with isPushed := false }
        pure s.last
      else freshToken commands closing
    let t ← if wanted.newlines then skipNewlines commands closing Reading.steps first
      else pure first
    let s ← get
    let wanted := wanted.merge s.checks
    set { s with checks := .none }
    let done (t : Token) : Reading Token := do
      modify fun s => { s with last := t }
      return t
    match t with
    | .word w false =>
      match literal? w with
      | none => done t
      | some name =>
        if wanted.keywords && keywords.contains name then done (.keyword name)
        else if wanted.aliases then
          match s.aliases.lookup name with
          | some text =>
            if s.inUse.any (·.name == name) then done t
            else
              substitute name text
              tokenAs wanted steps
          | none => done t
        else done t
    | t => done t

def token : Reading Token := do tokenAs commands closing (← get).checks steps

end

end Replay.Shell.Reading
