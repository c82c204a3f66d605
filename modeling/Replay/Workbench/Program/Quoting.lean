import Replay.Workbench.Machine.Octets

/-! How programs quote names in their complaints. -/
namespace Replay.Program

open Machine

/-- The letter that stands for a control character behind a backslash. -/
def controlLetter? (c : Char) : Option Char :=
  [('\x07', 'a'), ('\x08', 'b'), ('\x0c', 'f'), ('\n', 'n'), ('\r', 'r'), ('\t', 't'),
   ('\x0b', 'v')].lookup c

def isPrintable (c : Char) : Bool := ' ' ≤ c && c ≤ '~'

def escapedChars (c : Char) : List Char :=
  match controlLetter? c with
  | some letter => ['\\', letter]
  | none =>
    let ds := Nat.toDigits 8 c.toNat
    '\\' :: List.replicate (3 - ds.length) '0' ++ ds

def quoteWord (s : String) : String :=
  let inside := s.toList.flatMap fun c =>
    if c = '\'' || c = '\\' then ['\\', c] else if isPrintable c then [c] else escapedChars c
  "'" ++ String.ofList inside ++ "'"

/-- Characters that a shell takes for themselves, wherever they stand. -/
def isPlainInShell (c : Char) : Bool :=
  c.isAlphanum || ['%', '+', ',', '-', '.', '/', ']', '_', '@'].contains c

def isPlainName (s : String) : Bool :=
  match s.toList with
  | [] => false
  | c :: rest =>
    let isPlain (c : Char) : Bool := isPlainInShell c || c = '\x7b' || c = '\x7d'
    (isPlain c && !(rest.isEmpty && (c = '\x7b' || c = '\x7d'))) &&
      rest.all fun d => isPlain d || d = '#' || d = '~'

/-- The characters of a name between single quotation marks; what cannot be shown stands in marks of
its own, and `isInside` tells whether such marks are open. -/
def shellChars : (isInside : Bool) → List Char → List Char
  | _, [] => []
  | isInside, c :: rest =>
    if isPrintable c then
      let front := if isInside then ['\'', '\''] else []
      let here := if c = '\'' then ['\'', '\\', '\'', '\''] else [c]
      front ++ here ++ shellChars false rest
    else
      let front := if isInside then [] else ['\'', '$', '\'']
      front ++ escapedChars c ++ shellChars true rest

/-- Whether a name with a quotation mark in it can stand between double ones. -/
def fitsDouble (s : String) : Bool :=
  match s.toList with
  | [] => true
  | c :: rest =>
    let isFit (c : Char) : Bool := isPlainInShell c || c = ' ' || c = ':' || c = '\''
    (isFit c || c = '#' || c = '~') && rest.all isFit

def quoteAlways (s : String) : String :=
  if s.contains '\'' && fitsDouble s then "\"" ++ s ++ "\""
  else "'" ++ String.ofList (shellChars false s.toList) ++ "'"

/-- A name as a shell would take it, in quotation marks only if it needs them. -/
def quoteName (s : String) : String := if isPlainName s then s else quoteAlways s

end Replay.Program
