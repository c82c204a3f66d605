import Replay.Workbench.Program.Plain

/-!
The program that replaces characters by others, takes some away, and makes repeated ones one. Its
strings name characters one by one, as ranges, by class, or as repetitions.
-/
namespace Replay.Program.Transliterate

open Machine

/-- A character of a string whose backslashes are resolved. -/
structure Letter where
  char : Char
  isEscaped : Bool

inductive Element where
  | char (c : Char)
  | range (first last : Char)
  | named (name : String)
  | equal (c : Char)
  /-- A repetition; without a count it fills the string up. -/
  | repeated (c : Char) (count : Nat)

/-- Resolves backslashes; an octal number has at most three digits and is no larger than a byte. -/
def lettersOf : (steps : Nat) → List Char → List Letter
  | 0, _ | _, [] => []
  | _, ['\\'] => [⟨'\\', false⟩]
  | steps + 1, '\\' :: c :: rest =>
    match octal? c with
    | some _ =>
      let (n, behind) := digitsAt 8 0 octal? 2 (c :: rest)
      match behind with
      | d :: further =>
        match octal? d with
        | some k =>
          if (c :: rest).length - behind.length = 2 && n * 8 + k ≤ 255 then
            ⟨Char.ofNat (n * 8 + k), true⟩ :: lettersOf steps further
          else ⟨Char.ofNat n, true⟩ :: lettersOf steps behind
        | none => ⟨Char.ofNat n, true⟩ :: lettersOf steps behind
      | [] => [⟨Char.ofNat n, true⟩]
    | none =>
      let d := if c = 'e' then c else (namedEscape? c).getD c
      ⟨d, true⟩ :: lettersOf steps rest
  | steps + 1, c :: rest => ⟨c, false⟩ :: lettersOf steps rest

/-- What is to be said of the backslashes of a string: some of them are taken in a doubtful way. -/
def doubts : List Char → List String
  | ['\\'] => ["an unescaped backslash at end of string is not portable"]
  | '\\' :: a :: b :: c :: rest =>
    let value := [a, b, c].filterMap octal?
    let text := String.ofList [a, b]
    let others := doubts (b :: c :: rest)
    if value.length = 3 && '4' ≤ a then
      ("the ambiguous octal escape \\" ++ text ++ String.singleton c ++ " is being\n\t" ++
        "interpreted as the 2-byte sequence \\0" ++ text ++ ", " ++ String.singleton c) :: others
    else others
  | '\\' :: _ :: rest => doubts rest
  | _ :: rest => doubts rest
  | [] => []

def Letter.is (l : Letter) (c : Char) : Bool := l.char = c && !l.isEscaped

/-- The letters up to a sign and a bracket that close something, and what follows them. -/
def upTo (sign : Char) : List Letter → List Char → Option (List Char × List Letter)
  | l :: m :: rest, done =>
    if l.is sign && m.is ']' then some (done.reverse, rest)
    else upTo sign (m :: rest) (l.char :: done)
  | _, _ => none

def isStarred : List Letter → Bool
  | star :: rest =>
    star.is '*' &&
      match rest.dropWhile fun l => l.char.isDigit && !l.isEscaped with
      | l :: _ => l.is ']'
      | [] => false
  | [] => false

def countOf? (digits : List Char) : Option Nat :=
  match digits with
  | [] => some 0
  | '0' :: _ =>
    if digits.all fun c => (octal? c).isSome then some (digitsAt 8 0 octal? digits.length digits).1
    else none
  | _ => natural? (String.ofList digits)

def shown (c : Char) : String :=
  if c = '\\' then "\\\\" else if isPrintable c then String.singleton c
  else String.ofList (escapedChars c)

def repetition (inner : List Letter) : Except String (Option (Element × List Letter)) :=
  match inner with
  | c :: star :: rest =>
    if star.is '*' then
      let front := rest.takeWhile fun l => !l.isEscaped && l.char ≠ ']'
      match rest.drop front.length with
      | close :: behind =>
        if close.isEscaped then .ok none
        else
          let digits := front.map (·.char)
          match countOf? digits with
          | some n => .ok (some (.repeated c.char n, behind))
          | none => .error ("invalid repeat count " ++ quoteWord (String.ofList digits) ++
              " in [c*n] construct")
      | [] => .ok none
    else .ok none
  | _ => .ok none

def elements : (steps : Nat) → List Letter → List Element → Except String (List Element)
  | 0, _, done | _, [], done => .ok done.reverse
  | steps + 1, l :: rest, done =>
    match rest with
    | sign :: inner =>
      if inner.isEmpty then elements steps rest (.char l.char :: done)
      else if l.is '[' then
        let repeated : Except String (List Element) := do
          match ← repetition rest with
          | some (e, behind) => elements steps behind (e :: done)
          | none => elements steps rest (.char '[' :: done)
        match if sign.is ':' || sign.is '=' then upTo sign.char inner [] else none with
        | none => repeated
        | some (name, behind) =>
          let text := String.ofList name
          if sign.char = ':' then
            if name.isEmpty then .error "missing character class name '[::]'"
            else if (classNamed? text).isSome then elements steps behind (.named text :: done)
            else if isStarred inner then repeated
            else .error ("invalid character class " ++ quoteWord text)
          else match name with
            | [] => .error "missing equivalence class character '[==]'"
            | [c] => elements steps behind (.equal c :: done)
            | _ =>
              if isStarred inner then repeated
              else .error (String.join (name.map shown) ++
                ": equivalence class operand must be a single character")
      else if sign.is '-' then
        match inner with
        | last :: behind =>
          if last.char < l.char then
            .error ("range-endpoints of '" ++ shown l.char ++ "-" ++ shown last.char ++
              "' are in reverse collating sequence order")
          else elements steps behind (.range l.char last.char :: done)
        | [] => elements steps rest (.char l.char :: done)
      else elements steps rest (.char l.char :: done)
    | [] => .ok (.char l.char :: done).reverse

def elementsOf (text : String) : Except String (List Element) :=
  let ls := lettersOf text.length text.toList
  elements (ls.length + 1) ls []

def everyChar : List Char := (List.range 256).map Char.ofNat

def isCaseClass (name : String) : Bool := name = "upper" || name = "lower"

namespace Element

def chars (fill : Nat) : Element → List Char
  | char c | equal c => [c]
  | range first last => everyChar.filter fun c => first ≤ c && c ≤ last
  | named name => everyChar.filter ((classNamed? name).getD fun _ => false)
  | repeated c 0 => List.replicate fill c
  | repeated c n => List.replicate (min n 65536) c

def isOpen : Element → Bool
  | repeated _ 0 => true
  | _ => false

def isEqual : Element → Bool
  | equal _ => true
  | _ => false

def isNamed : Element → Bool
  | named _ => true
  | _ => false

def isRestricted : Element → Bool
  | named name => !isCaseClass name
  | _ => false

end Element

def casePlaces (fill : Nat) : List Element → (place : Nat) → List Nat
  | [], _ => []
  | e :: rest, place =>
    let others := casePlaces fill rest (place + (e.chars fill).length)
    match e with
    | .named name => if isCaseClass name then place :: others else others
    | _ => others

structure Options where
  complements : Bool
  deletes : Bool
  squeezes : Bool
  truncates : Bool

def firstSet (o : Options) (es : List Element) : List Char :=
  let cs := es.flatMap (Element.chars 0)
  if o.complements then everyChar.filter fun c => !cs.contains c else cs

/-- What the characters of the first string are replaced by, or why they cannot be. -/
def replacements (o : Options) (one two : List Element) : Except String (List Char) := do
  let first := firstSet o one
  let bare := two.flatMap (Element.chars 0)
  let fill := first.length - bare.length
  let second := two.flatMap (Element.chars fill)
  if two.any (·.isEqual) then
    throw "[=c=] expressions may not appear in string2 when translating"
  if two.any (·.isRestricted) then
    throw ("when translating, the only character classes that may appear in\n" ++
      "string2 are 'upper' and 'lower'")
  let places := casePlaces 0 one 0
  if !o.complements && !(casePlaces fill two 0).all places.contains then
    throw "misaligned [:upper:] and/or [:lower:] construct"
  if first.length ≤ second.length || o.truncates then pure ()
  else if second.isEmpty then
    throw "when not truncating set1, string2 must be non-empty"
  else if (two.getLast?.map (·.isNamed)).getD false then
    throw ("when translating with string1 longer than string2,\n" ++
      "the latter string must not end with a character class")
  let extended := if o.truncates then second
    else second ++ List.replicate (first.length - second.length) (second.getLast?.getD ' ')
  let isOne := extended.length = first.length && extended.all fun c => some c = extended.head?
  if o.complements && one.any (·.isNamed) && !isOne then
    throw ("when translating with complemented character classes,\n" ++
      "string2 must map all characters in the domain to one")
  return extended

/-- What is done to the text: which characters go, what each becomes, and which are not repeated. -/
structure Plan where
  deleted : List Bool
  becomes : List Char
  squeezed : List Bool

def tableOf (cs : List Char) : List Bool := everyChar.map cs.contains

def plan (o : Options) (texts : List String) : Except String Plan := do
  let one ← elementsOf (texts.headD "")
  let two ← match texts[1]? with
    | some text => some <$> elementsOf text
    | none => pure none
  if one.any (·.isOpen) then throw "the [c*] repeat construct may not appear in string1"
  let nothing := tableOf []
  let first := firstSet o one
  match two with
  | none =>
    return if o.deletes then ⟨tableOf first, everyChar, nothing⟩
      else ⟨nothing, everyChar, tableOf first⟩
  | some two =>
    if 1 < (two.filter (·.isOpen)).length then
      throw "only one [c*] repeat construct may appear in string2"
    if o.deletes then
      if two.any (·.isOpen) then
        throw "the [c*] construct may appear in string2 only when translating"
      return ⟨tableOf first, everyChar, tableOf (two.flatMap (Element.chars 0))⟩
    else
      let second ← replacements o one two
      let pairs := (first.zip second).reverse
      return ⟨nothing, everyChar.map fun c => (pairs.lookup c).getD c,
        if o.squeezes then tableOf second else nothing⟩

/-- The text that the plan makes of some bytes, last byte first; `last` is the byte written last. -/
def apply (p : Array Bool × Array Char × Array Bool) (last : Option Char) (bytes : ByteArray) :
    List Char × Option Char :=
  bytes.foldl (fun (done, last) b =>
    let n := b.toNat
    if p.1[n]?.getD false then (done, last)
    else
      let c := p.2.1[n]?.getD ' '
      if some c = last && p.2.2[c.toNat]?.getD false then (done, last)
      else (c :: done, some c)) ([], last)

def options : List Known :=
  [.flag "complement" ['c', 'C'] ["complement"], .flag "delete" ['d'] ["delete"],
   .flag "squeeze" ['s'] ["squeeze-repeats"], .flag "truncate" ['t'] ["truncate-set1"]]

def run : List String → Job Nat := withOptions options false 1 fun name a => do
  let o : Options :=
    ⟨a.has "complement", a.has "delete", a.has "squeeze", a.has "truncate"⟩
  let least := 1 + if o.deletes == o.squeezes then 1 else 0
  let most := 1 + if o.deletes && !o.squeezes then 0 else 1
  let count := a.operands.length
  if count = 0 then misuse name "missing operand" 1
  else if count < least then
    misuse name ("missing operand after " ++ quoteWord (a.operands.getLastD "") ++ "\n" ++
      (if o.squeezes then "Two strings must be given when both deleting and squeezing repeats."
        else "Two strings must be given when translating.")) 1
  else if most < count then
    misuse name ("extra operand " ++ quoteWord ((a.operands[most]?).getD "") ++
      (if count = 2 then
        "\nOnly one string may be given when deleting without squeezing repeats." else "")) 1
  else
    for text in a.operands do
      for doubt in doubts text.toList do complaint name ("warning: " ++ doubt)
    match plan o a.operands with
    | .error text =>
      complaint name text
      return 1
    | .ok p =>
      let tables := (p.deleted.toArray, p.becomes.toArray, p.squeezed.toArray)
      match ← eachBlock 0 Job.blockSize (fun last bytes => do
        let (done, last) := apply tables last bytes
        emit name done.reverse
        return (last, true)) Job.forever none with
      | .ok _ => return 0
      | .error r =>
        complaint name ("read error: " ++ r.text)
        return 1

end Replay.Program.Transliterate
