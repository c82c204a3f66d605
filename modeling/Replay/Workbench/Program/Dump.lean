import Replay.Workbench.Program.Ends
import Replay.Workbench.Program.Stream

/-! Programs that write bytes in characters: `base64` and `od`. -/
namespace Replay.Program.Dump

open Machine

/-- How the bytes of a field are read. -/
inductive Kind where
  | named
  | char
  | signed
  | unsigned (base : Nat)
  deriving DecidableEq

/-- A type of fields: how many bytes each has, and whether the bytes are shown behind them too. -/
structure Field where
  kind : Kind
  size : Nat
  showsText : Bool

/-- The names of control characters, of the blank, and of the last character. -/
def controlNames : List String :=
  ["nul", "soh", "stx", "etx", "eot", "enq", "ack", "bel", "bs", "ht", "nl", "vt", "ff", "cr", "so",
   "si", "dle", "dc1", "dc2", "dc3", "dc4", "nak", "syn", "etb", "can", "em", "sub", "esc", "fs",
   "gs", "rs", "us", "sp"]

namespace Field

def width (f : Field) : Nat :=
  match f.kind with
  | .named | .char => 3
  | .signed => (Nat.toDigits 10 (Nat.pow 2 (8 * f.size - 1))).length + 1
  | .unsigned base => (Nat.toDigits base (Nat.pow 2 (8 * f.size) - 1)).length

def numberOf (bytes : List UInt8) : Nat := bytes.foldr (fun b n => n * 256 + b.toNat) 0

def charText (b : UInt8) : List Char :=
  let c := charOf b
  if c = '\x00' then ['\\', '0']
  else match controlLetter? c with
    | some letter => ['\\', letter]
    | none => if isPrintable c then [c] else (escapedChars c).drop 1

def nameText (b : UInt8) : List Char :=
  let n := b.toNat % 128
  if n = 127 then "del".toList
  else match controlNames[n]? with
    | some name => name.toList
    | none => [Char.ofNat n]

def text (f : Field) (bytes : List UInt8) : List Char :=
  match f.kind with
  | .named => (bytes.head?.map nameText).getD []
  | .char => (bytes.head?.map charText).getD []
  | .signed =>
    let n := numberOf bytes
    let whole := Nat.pow 2 (8 * f.size)
    (decimalInt (if whole / 2 ≤ n then (n : Int) - whole else n)).toList
  | .unsigned base =>
    let ds := Nat.toDigits base (numberOf bytes)
    if base = 10 then ds else List.replicate (f.width - ds.length) '0' ++ ds

/-- Fields next to one another in `count` places. The `pad` that is left is shared among them. -/
def line (f : Field) (pad count : Nat) : (left : Nat) → List UInt8 → List Char
  | 0, _ | _, [] => []
  | left + 1, bytes =>
    let here := bytes.take f.size
    let here := here ++ List.replicate (f.size - here.length) 0
    let shown := f.text here
    let extra := pad * (left + 1) / count - pad * left / count
    ' ' :: List.replicate (extra + f.width - shown.length) ' ' ++ shown ++
      line f pad count left (bytes.drop f.size)

end Field

structure Layout where
  fields : List Field
  /-- The base of the addresses, if they are shown. -/
  base : Option Nat
  perLine : Nat
  showsAll : Bool

namespace Layout

def address (x : Layout) (n : Nat) : List Char :=
  match x.base with
  | none => []
  | some base =>
    let ds := Nat.toDigits base n
    List.replicate ((if base = 16 then 6 else 7) - ds.length) '0' ++ ds

def block (x : Layout) (n : Nat) (bytes : List UInt8) : List Char :=
  let taken (f : Field) : Nat := x.perLine / f.size * (f.width + 1)
  let total := (x.fields.map taken).foldl max 0
  (x.fields.zipIdx.map fun (f, i) =>
    let count := x.perLine / f.size
    let front := if i = 0 then x.address n else List.replicate (x.address n).length ' '
    let shown := f.line (total - taken f) count count bytes
    let text := bytes.map fun b => if isPrintable (charOf b) then charOf b else '.'
    let behind := if f.showsText then
      List.replicate (total - shown.length + 2) ' ' ++ '>' :: text ++ ['<'] else []
    front ++ shown ++ behind ++ ['\n']).flatten

/-- Shows blocks; a block like the one before it is left out, and a star stands for all of these. -/
def blocks (x : Layout) : (steps : Nat) → (start : Nat) → (before : Option (List UInt8)) →
    (isLeftOut : Bool) → List UInt8 → List Char
  | 0, _, _, _, _ | _, _, _, _, [] => []
  | steps + 1, start, before, isLeftOut, bytes =>
    let here := bytes.take x.perLine
    let rest := bytes.drop x.perLine
    let next := start + here.length
    if !x.showsAll && before = some here && here.length = x.perLine then
      (if isLeftOut then [] else ['*', '\n']) ++ blocks x steps next before true rest
    else x.block start here ++ blocks x steps next (some here) false rest

end Layout

def fieldsOf (text : String) : (steps : Nat) → List Char → Except String (List Field)
  | 0, _ | _, [] => .ok []
  | steps + 1, c :: rest => do
    let kind ← match c with
      | 'a' => pure Kind.named
      | 'c' => pure .char
      | 'd' => pure .signed
      | 'o' => pure (.unsigned 8)
      | 'u' => pure (.unsigned 10)
      | 'x' => pure (.unsigned 16)
      | _ =>
        throw ("invalid character '" ++ String.singleton c ++ "' in type string " ++ quoteWord text)
    let (size, rest) ← if kind = .named || kind = .char then pure (1, rest)
      else match rest with
        | 'C' :: rest => pure (1, rest)
        | 'S' :: rest => pure (2, rest)
        | 'I' :: rest => pure (4, rest)
        | 'L' :: rest => pure (8, rest)
        | _ =>
          let (ds, behind) := rest.span Char.isDigit
          if ds.isEmpty then pure (4, rest)
          else if [1, 2, 4, 8].contains (ofDigits ds) then pure (ofDigits ds, behind)
          else throw ("invalid type string " ++ quoteWord text ++
            ";\nthis system doesn't provide a " ++ String.ofList ds ++ "-byte integral type")
    let (showsText, rest) := if rest.head? = some 'z' then (true, rest.drop 1) else (false, rest)
    return ⟨kind, size, showsText⟩ :: (← fieldsOf text steps rest)

def fieldsAsked (a : Arguments) : Except String (List Field) := do
  let short := [("a", "a"), ("b", "o1"), ("c", "c"), ("d", "u2"), ("i", "d4"), ("l", "d8"),
    ("o", "o2"), ("s", "d2"), ("x", "x2")]
  let texts := a.options.filterMap fun o =>
    if o.1 = "type" then some o.2 else if o.1 = "short" then short.lookup o.2 else none
  let fields ← texts.mapM fun text => fieldsOf text (text.length + 1) text.toList
  return if texts.isEmpty then [⟨.unsigned 8, 2, false⟩] else fields.flatten

def od : List String → Job Nat := withOptions
  [⟨"short", ['a', 'b', 'c', 'd', 'i', 'l', 'o', 's', 'x'], [], .nothing⟩,
   .taking "type" ['t'] ["format"], .taking "base" ['A'] ["address-radix"],
   .taking "most" ['N'] ["read-bytes"], .taking "skip" ['j'] ["skip-bytes"],
   .flag "all" ['v'] ["output-duplicates"],
   ⟨"width", ['w'], ["width"], .perhaps⟩] true 1 fun name a => do
    let refuse (text : String) : Job Nat := do
      complaint name text
      return 1
    let bases : List (String × Option Nat) :=
      [("d", some 10), ("o", some 8), ("x", some 16), ("n", none)]
    let baseText := (a.last? "base").getD "o"
    match bases.lookup (String.ofList (baseText.toList.take 1)), fieldsAsked a,
        (a.last? "most").map countOf?, (a.last? "skip").map countOf? with
    | none, _, _, _ => refuse ("invalid output address radix '" ++
        String.ofList (baseText.toList.take 1) ++ "'; it must be one character from [doxn]")
    | _, .error text, _, _ => refuse text
    | _, _, some none, _ => refuse ("invalid -N argument " ++ quoteWord ((a.last? "most").getD ""))
    | _, _, _, some none => refuse ("invalid -j argument " ++ quoteWord ((a.last? "skip").getD ""))
    | some base, .ok fields, most, skip =>
      let sources := sourcesOf a
      let isOpen ← sources.anyM fun path => do
        return path == "-" || (← Job.inspect path true).isOk
      let (contents, isWhole) ← readAllOperands name plainTrouble sources
      let bytes := contents.flatMap ByteArray.toList
      let start := (skip.join).getD 0
      if !isOpen then return 1
      else if bytes.length < start then refuse "cannot skip past end of combined input"
      else
        let bytes := bytes.drop start
        let bytes := ((most.join).map bytes.take).getD bytes
        let perLine := match a.last? "width" with
          | none => 16
          | some "" => 32
          | some text => ((natural? text).filter (0 < ·)).getD 16
        let x : Layout := ⟨fields, base, perLine, a.has "all"⟩
        let last := x.address (start + bytes.length)
        emit name (x.blocks (bytes.length + 1) start none false bytes ++
          (if last.isEmpty then [] else last ++ ['\n']))
        return if isWhole then 0 else 1

def codeChars : List Char :=
  "ABCDEFGHIJKLMNOPQRSTUVWXYZabcdefghijklmnopqrstuvwxyz0123456789+/".toList

def codeChar (n : Nat) : Char := codeChars.getD (n % 64) 'A'

def codeValue? (c : Char) : Option Nat := codeChars.findIdx? (· == c)

def encode : List UInt8 → List Char
  | a :: b :: c :: rest =>
    let n := a.toNat * 65536 + b.toNat * 256 + c.toNat
    codeChar (n / 262144) :: codeChar (n / 4096) :: codeChar (n / 64) :: codeChar n :: encode rest
  | [a, b] =>
    let n := a.toNat * 1024 + b.toNat * 4
    [codeChar (n / 4096), codeChar (n / 64), codeChar n, '=']
  | [a] =>
    let n := a.toNat * 16
    [codeChar (n / 64), codeChar n, '=', '=']
  | [] => []

/-- The bytes that characters stand for, as far as they make sense, and whether all of them do. -/
def decode : List Char → List UInt8 × Bool
  | [] => ([], true)
  | [a, b] =>
    match codeValue? a, codeValue? b with
    | some m, some n => ([(m * 4 + n / 16).toUInt8], false)
    | _, _ => ([], false)
  | [_] => ([], false)
  | a :: b :: c :: rest =>
    match codeValue? a, codeValue? b with
    | some m, some n =>
      let first := (m * 4 + n / 16).toUInt8
      match codeValue? c, rest with
      | some o, d :: rest =>
        let second := (n * 16 + o / 4).toUInt8
        match codeValue? d with
        | some p =>
          let (bytes, isWhole) := decode rest
          (first :: second :: (o * 64 + p).toUInt8 :: bytes, isWhole)
        | none =>
          if d = '=' then
            let (bytes, isWhole) := decode rest
            (first :: second :: bytes, isWhole)
          else ([first, second], false)
      | some o, [] => ([first, (n * 16 + o / 4).toUInt8], false)
      | none, d :: rest =>
        if c = '=' && d = '=' then
          let (bytes, isWhole) := decode rest
          (first :: bytes, isWhole)
        else ([first], false)
      | none, [] => ([first], false)
    | _, _ => ([], false)

def wrapped (width : Nat) : (steps : Nat) → List Char → List Char
  | 0, _ | _, [] => []
  | steps + 1, cs => cs.take width ++ '\n' :: wrapped width steps (cs.drop width)

def base64 : List String → Job Nat := withOptions
  [.flag "decode" ['d'] ["decode"], .flag "ignore" ['i'] ["ignore-garbage"],
   .taking "wrap" ['w'] ["wrap"]] true 1 fun name a => do
    let wrap := (a.last? "wrap").getD "76"
    match natural? wrap, a.operands with
    | none, _ =>
      complaint name ("invalid wrap size: " ++ quoteWord wrap)
      return 1
    | _, _ :: extra :: _ => misuse name ("extra operand " ++ quoteWord extra) 1
    | some width, operands =>
      let source := operands.headD "-"
      match ← readOperand source with
      | .error r =>
        complaint name
          (if r = .isDirectory then "read error: " ++ r.text else plainTrouble source r)
        return 1
      | .ok bytes =>
        if a.has "decode" then
          let isCode (c : Char) : Bool := (codeValue? c).isSome || c = '='
          let cs := (unpackList bytes).filter fun c => c ≠ '\n' && (!a.has "ignore" || isCode c)
          let (bytes, isWhole) := decode cs
          emitBytes name 1 ⟨bytes.toArray⟩
          if !isWhole then complaint name "invalid input"
          return if isWhole then 0 else 1
        else
          let cs := encode bytes.toList
          emit name (if width = 0 then cs else wrapped width (cs.length + 1) cs)
          return 0

end Replay.Program.Dump
