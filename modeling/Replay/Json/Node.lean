import Replay.Json.Numeral

/-!
The shape of a text read as JSON, up to its first breach of the grammar. A reader that walks the
shape from left to right therefore meets a breach exactly when it has found nothing wrong with what
stands before it.
-/
namespace Replay.Json

/-- The content of a string. Passing over a string does not look at surrogates, so what is wrong
with them is noted here; everything behind it is void. -/
structure Text where
  content : String
  flaw : Option Flaw
  deriving DecidableEq

/-- How a list or an object stops. -/
inductive Ending where
  | closed
  /-- The text ends after the opening or after an item. -/
  | cutShort
  /-- The text ends after a comma. -/
  | cutAfterComma
  /-- A comma and the closing bracket. -/
  | strayComma
  /-- An item is followed by something else than a comma or the closing bracket. -/
  | unseparated
  /-- Something else than a string where a key should stand. -/
  | noKey
  /-- A key is malformed. -/
  | badKey (f : Fault)
  /-- The breach lies in the last item. -/
  | within (f : Fault)

inductive Node where
  | null
  | bool (b : Bool)
  | number (n : Numeral)
  | text (t : Text)
  | list (items : List Node) (ending : Ending)
  | object (members : List (Text × Node)) (ending : Ending)
  /-- No value; `begun` tells whether the first character of a word or a number is there. -/
  | broken (begun : Bool) (f : Fault)

namespace Ending

/-- The flaw a list with this ending shows to one who passes over it. -/
def skipList? : Ending → Option Flaw
  | closed => none
  | cutShort => some .endInList
  | cutAfterComma => some .endInValue
  | strayComma => some .expectedValue
  | within f => some f.skipping
  | unseparated | noKey | badKey _ => some .expectedCommaOrBracket

/-- The flaw an object with this ending shows to one who passes over it. -/
def skipObject? : Ending → Option Flaw
  | closed => none
  | cutShort | cutAfterComma => some .endInObject
  | strayComma | noKey => some .keyNotText
  | unseparated => some .expectedCommaOrBrace
  | within f | badKey f => some f.skipping

def readList? : Ending → Option Flaw
  | closed => none
  | cutShort => some .endInList
  | cutAfterComma => some .endInValue
  | strayComma => some .trailingComma
  | within f => some f.reading
  | unseparated | noKey | badKey _ => some .expectedCommaOrBracket

def readObject? : Ending → Option Flaw
  | closed => none
  | cutShort => some .endInObject
  | cutAfterComma => some .endInValue
  | strayComma => some .trailingComma
  | unseparated => some .expectedCommaOrBrace
  | noKey => some .keyNotText
  | within f | badKey f => some f.reading

end Ending

def Node.skip? : Node → Option Flaw
  | .broken _ f => some f.skipping
  | .list _ ending => ending.skipList?
  | .object _ ending => ending.skipObject?
  | _ => none

/-- A scanned text: its value, and whether something other than blanks follows it. -/
structure Document where
  root : Node
  trailing : Bool

end Replay.Json
