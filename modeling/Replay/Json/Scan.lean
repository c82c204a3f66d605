import Replay.Json.Node

/-!
Scanning: one pass over the characters with a stack of the open lists and objects. The scanner is a
fold, so the scan of a text is the scan of its front carried on over its rest
(`Scan.run_append`), and no nesting is too deep for it.
-/
namespace Replay.Json

/-- How far the reading of a string has come, behind its opening quote. -/
inductive TextStage where
  | plain
  | escape
  /-- In the four bytes behind `\u`: the bytes and the value so far; no value if one of them is not
  a digit. -/
  | hex (bytes : Nat) (value : Option Nat)

/-- A string that is partly read: its characters, last first, and the surrogate that waits for its
second half. -/
structure TextDraft where
  stage : TextStage
  content : List Char
  lead : Option Nat
  flaw : Option Flaw

namespace TextDraft

def empty : TextDraft := ⟨.plain, [], none, none⟩

/-- Notes what is wrong with a surrogate, unless something was noted before. -/
def note (t : TextDraft) (f : Flaw) : TextDraft :=
  { t with lead := none, flaw := t.flaw.or (some f) }

def push (t : TextDraft) (c : Char) : TextDraft :=
  { t with stage := .plain, content := c :: t.content }

def unpaired (t : TextDraft) : TextDraft :=
  if t.lead.isSome then t.note .unpairedSurrogate else t

def pushUnit (t : TextDraft) (n : Nat) : TextDraft :=
  let t := { t with stage := .plain }
  match t.lead with
  | some high =>
    if 0xdc00 ≤ n ∧ n ≤ 0xdfff then
      { t.push (.ofNat ((high - 0xd800) * 1024 + (n - 0xdc00) + 0x10000)) with lead := none }
    else t.note .wrongSurrogate
  | none =>
    if 0xdc00 ≤ n ∧ n ≤ 0xdfff then t.note .wrongSurrogate
    else if 0xd800 ≤ n ∧ n ≤ 0xdbff then { t with lead := some n }
    else t.push (.ofNat n)

/-- A flaw of the string as a whole. What was noted earlier comes first for a reader. -/
def fault (t : TextDraft) (f : Flaw) : Fault := ⟨t.flaw.getD f, f⟩

/-- The end of the text comes first for a surrogate that still waits. -/
def finish (t : TextDraft) : Fault := t.fault .endInText

inductive Step where
  | more (t : TextDraft)
  | done (t : Text)
  | bad (f : Fault)

def escaped? (c : Char) : Option Char :=
  if c = '"' then some '"'
  else if c = '\\' then some '\\'
  else if c = '/' then some '/'
  else if c = 'b' then some '\x08'
  else if c = 'f' then some '\x0c'
  else if c = 'n' then some '\n'
  else if c = 'r' then some '\r'
  else if c = 't' then some '\t'
  else none

def hexValue? (c : Char) : Option Nat :=
  if '0' ≤ c ∧ c ≤ '9' then some (c.toNat - 48)
  else if 'a' ≤ c ∧ c ≤ 'f' then some (c.toNat - 87)
  else if 'A' ≤ c ∧ c ≤ 'F' then some (c.toNat - 55)
  else none

def feed (t : TextDraft) (c : Char) : Step :=
  match t.stage with
  | .plain =>
    if c = '\\' then .more { t with stage := .escape }
    else
      let t := t.unpaired
      if c = '"' then .done ⟨String.ofList t.content.reverse, t.flaw⟩
      else if c.toNat < 0x20 then .bad (t.fault .controlCharacter)
      else .more (t.push c)
  | .escape =>
    if c = 'u' then .more { t with stage := .hex 0 (some 0) }
    else
      let t := t.unpaired
      match escaped? c with
      | some e => .more (t.push e)
      | none => .bad (t.fault .invalidEscape)
  | .hex bytes value =>
    let value := match value, hexValue? c with
      | some n, some d => some (n * 16 + d)
      | _, _ => none
    let bytes := bytes + c.utf8Size
    if bytes < 4 then .more { t with stage := .hex bytes value }
    else match value with
      | some n => .more (t.pushUnit n)
      | none => .bad (t.fault .invalidEscape)

end TextDraft

/-- An open list or object with what it holds so far, last first; an object either waits for the
value of a key or holds whole members. -/
inductive Frame where
  | list (items : List Node)
  | object (members : List (Text × Node))
  | member (members : List (Text × Node)) (key : Text)

/-- What the scanner looks for. -/
inductive Sought where
  /-- A value. -/
  | value
  /-- The first item of a list, or its end. -/
  | item
  /-- The first key of an object, or its end. -/
  | firstKey
  /-- The key behind a comma. -/
  | nextKey
  | colon (key : Text)
  /-- A comma or the end of the innermost list or object. -/
  | separator
  /-- The item behind a comma. -/
  | nextItem
  | word (rest : List Char) (node : Node)
  | number (draft : NumeralDraft)
  | text (draft : TextDraft)
  | key (draft : TextDraft)
  /-- Nothing more, for the value is whole. -/
  | nothing (root : Node)
  /-- Nothing more, for the grammar is broken. -/
  | broken (root : Node)
  /-- Nothing more, for something follows the value. -/
  | trailing (root : Node)

structure Scan where
  sought : Sought
  frames : List Frame

namespace Scan

def start : Scan := ⟨.value, []⟩

def isSpace (c : Char) : Bool := c == ' ' || c == '\t' || c == '\n' || c == '\r'

/-- Closes every open list and object around a node with a breach in it. -/
def closeAll (f : Fault) : Node → List Frame → Node
  | node, [] => node
  | node, .list items :: frames => closeAll f (.list (node :: items).reverse (.within f)) frames
  | _, .object members :: frames => closeAll f (.object members.reverse (.within f)) frames
  | node, .member members key :: frames =>
    closeAll f (.object ((key, node) :: members).reverse (.within f)) frames

def stop (frames : List Frame) (ending : Ending) : Scan :=
  match frames with
  | .list items :: rest =>
    let f := ⟨(ending.readList?).getD .expectedValue, (ending.skipList?).getD .expectedValue⟩
    ⟨.broken (closeAll f (.list items.reverse ending) rest), []⟩
  | .object members :: rest | .member members _ :: rest =>
    let f := ⟨(ending.readObject?).getD .expectedValue, (ending.skipObject?).getD .expectedValue⟩
    ⟨.broken (closeAll f (.object members.reverse ending) rest), []⟩
  | [] => ⟨.broken (.broken false Flaw.expectedValue.toFault), []⟩

def fail (frames : List Frame) (begun : Bool) (f : Fault) : Scan :=
  ⟨.broken (closeAll f (.broken begun f) frames), []⟩

def complete (frames : List Frame) (node : Node) : Scan :=
  match frames with
  | [] => ⟨.nothing node, []⟩
  | .list items :: rest => ⟨.separator, .list (node :: items) :: rest⟩
  | .member members key :: rest => ⟨.separator, .object ((key, node) :: members) :: rest⟩
  | .object members :: rest => ⟨.separator, .object members :: rest⟩

def beginValue (frames : List Frame) (c : Char) : Scan :=
  if c = 'n' then ⟨.word ['u', 'l', 'l'] .null, frames⟩
  else if c = 't' then ⟨.word ['r', 'u', 'e'] (.bool true), frames⟩
  else if c = 'f' then ⟨.word ['a', 'l', 's', 'e'] (.bool false), frames⟩
  else if c = '"' then ⟨.text .empty, frames⟩
  else if c = '[' then ⟨.item, .list [] :: frames⟩
  else if c = '\x7b' then ⟨.firstKey, .object [] :: frames⟩
  else if c = '-' then ⟨.number .ofMinus, frames⟩
  else match NumeralDraft.digit? c with
    | some d => ⟨.number (.ofDigit false d), frames⟩
    | none => fail frames false Flaw.expectedValue.toFault

/-- A comma, the end of the innermost list or object, or a breach. -/
def separate (frames : List Frame) (c : Char) : Scan :=
  match frames with
  | .list items :: rest =>
    if c = ',' then ⟨.nextItem, frames⟩
    else if c = ']' then complete rest (.list items.reverse .closed)
    else stop frames .unseparated
  | .object members :: rest =>
    if c = ',' then ⟨.nextKey, frames⟩
    else if c = '\x7d' then complete rest (.object members.reverse .closed)
    else stop frames .unseparated
  | _ => stop frames .unseparated

/-- Carries out a character at a place where blanks are passed over. -/
def dispatch (s : Scan) (c : Char) : Scan :=
  if isSpace c then s
  else match s.sought with
    | .value => beginValue s.frames c
    | .item =>
      if c = ']' then separate s.frames c else beginValue s.frames c
    | .nextItem =>
      if c = ']' then stop s.frames .strayComma else beginValue s.frames c
    | .firstKey =>
      if c = '"' then ⟨.key .empty, s.frames⟩
      else if c = '\x7d' then separate s.frames c
      else stop s.frames .noKey
    | .nextKey =>
      if c = '"' then ⟨.key .empty, s.frames⟩
      else if c = '\x7d' then stop s.frames .strayComma
      else stop s.frames .noKey
    | .colon key =>
      match s.frames with
      | .object members :: rest =>
        if c = ':' then ⟨.value, .member members key :: rest⟩
        else fail (.member members key :: rest) false Flaw.expectedColon.toFault
      | frames => fail frames false Flaw.expectedColon.toFault
    | .separator => separate s.frames c
    | .nothing root => ⟨.trailing root, []⟩
    | _ => s

/-- One character. A number has no end of its own: what follows it is carried out behind it. -/
def feed (s : Scan) (c : Char) : Scan :=
  match s.sought with
  | .word (e :: rest) node =>
    if c = e then
      if rest.isEmpty then complete s.frames node else ⟨.word rest node, s.frames⟩
    else fail s.frames true Flaw.expectedWord.toFault
  | .word [] node => dispatch (complete s.frames node) c
  | .number draft =>
    match draft.feed c with
    | .more d => ⟨.number d, s.frames⟩
    | .done n => dispatch (complete s.frames (.number n)) c
    | .bad f => fail s.frames true f
  | .text draft =>
    match draft.feed c with
    | .more t => ⟨.text t, s.frames⟩
    | .done t => complete s.frames (.text t)
    | .bad f => fail s.frames false f
  | .key draft =>
    match draft.feed c with
    | .more t => ⟨.key t, s.frames⟩
    | .done t => ⟨.colon t, s.frames⟩
    | .bad f => stop s.frames (.badKey f)
  | .broken _ | .trailing _ => s
  | _ => dispatch s c

def run (s : Scan) (cs : List Char) : Scan := cs.foldl feed s

@[simp] theorem run_append (s : Scan) (front rest : List Char) :
    s.run (front ++ rest) = (s.run front).run rest := List.foldl_append

def finish (s : Scan) : Document :=
  let rooted (s : Scan) : Document := match s.sought with
    | .nothing root | .broken root => ⟨root, false⟩
    | .trailing root => ⟨root, true⟩
    | _ => ⟨.broken false Flaw.endInValue.toFault, false⟩
  match s.sought with
  | .value => rooted (fail s.frames false Flaw.endInValue.toFault)
  | .item | .firstKey | .separator => rooted (stop s.frames .cutShort)
  | .nextItem | .nextKey => rooted (stop s.frames .cutAfterComma)
  | .colon key =>
    match s.frames with
    | .object members :: rest =>
      rooted (fail (.member members key :: rest) false Flaw.endInObject.toFault)
    | frames => rooted (fail frames false Flaw.endInObject.toFault)
  | .word _ _ => rooted (fail s.frames true Flaw.endInValue.toFault)
  | .number draft =>
    match draft.finish with
    | .ok n => rooted (afterNumber (complete s.frames (.number n)))
    | .error f => rooted (fail s.frames true f)
  | .text draft => rooted (fail s.frames false draft.finish)
  | .key draft => rooted (stop s.frames (.badKey draft.finish))
  | .nothing _ | .broken _ | .trailing _ => rooted s
where
  /-- A number at the end of the text leaves its list or object open. -/
  afterNumber (s : Scan) : Scan :=
    match s.sought with
    | .separator => stop s.frames .cutShort
    | _ => s

end Scan

def scan (text : String) : Document := (Scan.start.run text.toList).finish

end Replay.Json
