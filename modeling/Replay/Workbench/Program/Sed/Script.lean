import Replay.Workbench.Regex.Reader

/-! Scripts of the stream editor: addresses, commands, and the text they work with. -/
namespace Replay.Program.Sed

/-- An expression lines are searched for; without one, that which was used last. -/
structure Search where
  expression : Option Regex
  foldsCase : Bool
  hasLines : Bool

inductive Address where
  | line (n : Nat)
  /-- Every so many lines from one on. -/
  | step (first step : Nat)
  | last
  | search (s : Search)
  /-- So many lines behind the first address. -/
  | plus (n : Nat)
  /-- As far as a multiple of a number. -/
  | multiple (n : Nat)

/-- How letters change as a replacement is written. -/
inductive Casing where
  | keep
  | upper
  | lower
  deriving DecidableEq

inductive Piece where
  | char (c : Char)
  | group (n : Nat)
  /-- From here on. -/
  | casing (c : Casing)
  /-- For the next character only. -/
  | nextCasing (c : Casing)

structure Substitution where
  search : Search
  replacement : List Piece
  isGlobal : Bool
  prints : Bool
  /-- Which match is the first to be replaced. -/
  number : Nat
  /-- The file that changed lines are written to. -/
  file : Option String

inductive Jump where
  | always
  | ifReplaced
  | unlessReplaced
  deriving DecidableEq

inductive Action where
  /-- The commands up to a place are passed over unless the lines fit. -/
  | block (stop : Nat)
  | nothing
  | append (text : List Char)
  | insert (text : List Char)
  | change (text : List Char)
  | jump (j : Jump) (label : String) (target : Option Nat)
  | substitute (s : Substitution)
  | replaceChars (pairs : List (Char × Char))
  | delete
  | deleteLine
  | getHeld
  | appendHeld
  | hold
  | appendToHeld
  | exchange
  | next
  | appendNext
  | print
  | printLine
  | number
  | fileName
  | empty
  | showHidden (width : Option Nat)
  | quit (status : Nat)
  | quitSilently (status : Nat)
  | readFile (path : String)
  | readFileLine (path : String)
  | write (path : String)
  | writeLine (path : String)

structure Command where
  first : Option Address
  second : Option Address
  isNegated : Bool
  action : Action

/-- A script, and whether it asks that lines are not written by themselves. -/
structure Script where
  commands : Array Command
  isQuiet : Bool

end Replay.Program.Sed
