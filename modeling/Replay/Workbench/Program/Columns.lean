import Replay.Workbench.Program.Lines
import Replay.Workbench.Program.Stream

/-! Programs that take lines apart and put them together: `cut` and `paste`. -/
namespace Replay.Program.Columns

open Machine

/-- A range of positions, from one on; without an end it reaches to the end of the line. -/
structure Range where
  first : Nat
  last : Option Nat

namespace Range

def holds (r : Range) (n : Nat) : Bool := r.first ≤ n && r.last.all (n ≤ ·)

/-- Reads one range of a list; `isField` tells what is counted. -/
def read (isField : Bool) (text : List Char) : Except String Range :=
  let bad (cs : List Char) : Except String Range :=
    .error ((if isField then "invalid field value " else "invalid byte/character position ") ++
      quoteWord (String.ofList cs))
  let zero : Except String Range :=
    .error (if isField then "fields are numbered from 1"
      else "byte/character positions are numbered from 1")
  let (low, rest) := text.span Char.isDigit
  match low, rest with
  | [], [] => zero
  | low, [] =>
    let n := ofDigits low
    if 18446744073709551615 ≤ n then
      .error ((if isField then "field number " else "byte/character offset ") ++
        quoteWord (String.ofList low) ++ " is too large")
    else if n = 0 then zero else .ok ⟨n, some n⟩
  | low, '-' :: behind =>
    let (high, rest) := behind.span Char.isDigit
    match rest with
    | '-' :: _ => .error (if isField then "invalid field range"
        else "invalid byte or character range")
    | _ :: _ => bad rest
    | [] =>
      if low.isEmpty && high.isEmpty then .error "invalid range with no endpoint: -"
      else
        let first := if low.isEmpty then 1 else ofDigits low
        if first = 0 then zero
        else if high.isEmpty then .ok ⟨first, none⟩
        else if ofDigits high < first then .error "invalid decreasing range"
        else .ok ⟨first, some (ofDigits high)⟩
  | _, rest => bad rest

/-- Reads the ranges of a list, which stand between commas or blanks. -/
def readAll (isField : Bool) (list : String) : Except String (List Range) :=
  let commas := list.toList.map fun c => if c = ' ' || c = '\t' then ',' else c
  (splitAt ',' commas).mapM (read isField)

/-- The ranges in order; those that overlap or touch are one where `joins` says so. -/
def ordered (rs : List Range) : List Range :=
  let sorted := rs.mergeSort fun a b => a.first ≤ b.first
  (sorted.foldl (fun done r => match done with
    | [] => [r]
    | d :: rest =>
      let overlaps : Bool := d.last.all fun last => r.first ≤ last
      if overlaps then
        ⟨d.first, do return max (← d.last) (← r.last)⟩ :: rest
      else r :: d :: rest) []).reverse

/-- The positions that are in none of some ranges that are in order. -/
def complement (rs : List Range) : List Range :=
  let (done, next) : List Range × Option Nat := rs.foldl (fun (done, next) r =>
    match next with
    | none => (done, none)
    | some n =>
      let here := if n < r.first then ⟨n, some (r.first - 1)⟩ :: done else done
      (here, r.last.map (· + 1))) ([], some 1)
  (match next with
    | none => done
    | some n => ⟨n, none⟩ :: done).reverse

/-- The part of a list that a range takes. -/
def take {α : Type} (r : Range) (xs : List α) : List α :=
  let rest := xs.drop (r.first - 1)
  (r.last.map fun n => rest.take (n + 1 - r.first)).getD rest

end Range

/-- What is cut out of lines. -/
structure Cutting where
  isField : Bool
  ranges : List Range
  delimiter : Char
  /-- What stands between parts in place of the delimiter. -/
  between : Option String
  /-- Lines without a delimiter are left out. -/
  isStrict : Bool
  lineEnd : Char

namespace Cutting

/-- What is left of a line; nothing if the line is left out. -/
def apply (x : Cutting) (line : List Char) : Option (List Char) :=
  if x.isField then
    match splitAt x.delimiter line with
    | [_] => if x.isStrict then none else some line
    | fields =>
      let between := (x.between.map String.toList).getD [x.delimiter]
      some (between.intercalate (x.ranges.flatMap fun r => r.take fields))
  else
    let parts := (x.ranges.map fun r => r.take line).filter fun part => !part.isEmpty
    some (((x.between.map String.toList).getD []).intercalate parts)

def lines (name : String) (x : Cutting) :
    (turns : Nat) → LineSource → Job (Except Refusal Unit)
  | 0, _ => return .ok ()
  | turns + 1, source => do
    match ← source.next x.lineEnd with
    | .error r => return .error r
    | .ok (none, _) => return .ok ()
    | .ok (some (line, _), source) =>
      match x.apply line with
      | some text => emit name (text ++ [x.lineEnd])
      | none => pure ()
      lines name x turns source

def all (name : String) (x : Cutting) : List String → (status : Nat) → Job Nat
  | [], status => return status
  | path :: rest, status => do
    let refuse (r : Refusal) : Job Nat := do
      complaint name (plainTrouble path r)
      all name x rest 1
    match ← openOperand path with
    | .error r => refuse r
    | .ok fd =>
      let result ← x.lines name Job.forever (.ofDescriptor fd)
      closeOperand path fd
      match result with
      | .ok () => all name x rest status
      | .error r => refuse r

end Cutting

def cut : List String → Job Nat := withOptions
  [.taking "bytes" ['b'] ["bytes"], .taking "chars" ['c'] ["characters"],
   .taking "fields" ['f'] ["fields"], .taking "delimiter" ['d'] ["delimiter"],
   .flag "whole" ['n'] [], .flag "strict" ['s'] ["only-delimited"],
   .flag "complement" [] ["complement"], .taking "between" [] ["output-delimiter"],
   .flag "zero" ['z'] ["zero-terminated"]] true 1 fun name a => do
    let lists := a.options.filter fun o => ["bytes", "chars", "fields"].contains o.1
    let delimiter := (a.last? "delimiter").map String.toList
    match lists, delimiter with
    | _, some (_ :: _ :: _) => misuse name "the delimiter must be a single character" 1
    | [], _ => misuse name "you must specify a list of bytes, characters, or fields" 1
    | _ :: _ :: _, _ => misuse name "only one list may be specified" 1
    | [(key, list)], delimiter =>
      let isField := key == "fields"
      if !isField && delimiter.isSome then
        misuse name "an input delimiter may be specified only when operating on fields" 1
      else if !isField && a.has "strict" then
        misuse name ("suppressing non-delimited lines makes sense\n\tonly when operating on " ++
          "fields") 1
      else match Range.readAll isField list with
        | .error text => misuse name text 1
        | .ok rs =>
          let ranges := Range.ordered rs
          let x : Cutting :=
            { isField, ranges := if a.has "complement" then Range.complement ranges else ranges
              delimiter := match delimiter with
                | some cs => cs.headD '\x00'
                | none => '\t'
              between := a.last? "between", isStrict := a.has "strict"
              lineEnd := if a.has "zero" then '\x00' else '\n' }
          x.all name (sourcesOf a) 0

/-- The delimiters a text stands for; one that is empty stands for none. -/
def delimiters : List Char → List (List Char)
  | '\\' :: 'n' :: rest => ['\n'] :: delimiters rest
  | '\\' :: 't' :: rest => ['\t'] :: delimiters rest
  | '\\' :: '0' :: rest => [] :: delimiters rest
  | '\\' :: c :: rest => [c] :: delimiters rest
  | c :: rest => [c] :: delimiters rest
  | [] => []

/-- Texts with the delimiters between them, which are taken in turn. -/
def joined (ds : List (List Char)) (texts : List (List Char)) : List Char :=
  (texts.zipIdx.map fun (text, i) =>
    (if i = 0 || ds.isEmpty then [] else ds.getD ((i - 1) % ds.length) []) ++ text).flatten

/-- Lines next to one another, as many as the longest column has. -/
def sideBySide (ds : List (List Char)) (columns : List (List (List Char))) : List Char :=
  let count := (columns.map List.length).foldl max 0
  ((List.range count).map fun i => joined ds (columns.map fun c => c.getD i []) ++ ['\n']).flatten

def paste : List String → Job Nat := withOptions
  [.taking "delimiters" ['d'] ["delimiters"],
   .flag "serial" ['s'] ["serial"]] true 1 fun name a => do
    let ds := delimiters ((a.last? "delimiters").getD "\t").toList
    let sources := sourcesOf a
    let isShared := 1 < (sources.filter (· == "-")).length
    let (contents, isWhole) ← readAllOperands name plainTrouble sources
    if a.has "serial" then
      emit name ((contents.map textLines).flatMap fun ls => joined ds ls ++ ['\n'])
    else if !isWhole then return 1
    else if isShared && sources.all (· == "-") then
      let lines := textLines (contents.headD .empty)
      let n := sources.length
      let rows := (List.range ((lines.length + n - 1) / n)).map fun i =>
        joined ds ((List.range n).map fun j => lines.getD (i * n + j) []) ++ ['\n']
      emit name rows.flatten
    else emit name (sideBySide ds (contents.map textLines))
    return if isWhole then 0 else 1

end Replay.Program.Columns
