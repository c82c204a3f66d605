/-! What can be wrong with a text as JSON, and with a value as an instance of a type. -/
namespace Replay.Json

inductive Flaw where
  | endInValue
  | endInList
  | endInObject
  | endInText
  | expectedValue
  | expectedWord
  | invalidNumber
  | expectedColon
  | expectedCommaOrBracket
  | expectedCommaOrBrace
  | trailingComma
  | keyNotText
  | trailingCharacters
  | numberOutOfRange
  | invalidEscape
  | unpairedSurrogate
  | wrongSurrogate
  | controlCharacter
  | tooDeep
  deriving DecidableEq, Repr

namespace Flaw

/-- Whether the text stopped too early, as opposed to going on wrongly. -/
def isEnd : Flaw → Bool
  | endInValue | endInList | endInObject | endInText => true
  | _ => false

def message : Flaw → String
  | endInValue => "EOF while parsing a value"
  | endInList => "EOF while parsing a list"
  | endInObject => "EOF while parsing an object"
  | endInText => "EOF while parsing a string"
  | expectedValue => "expected value"
  | expectedWord => "expected ident"
  | invalidNumber => "invalid number"
  | expectedColon => "expected `:`"
  | expectedCommaOrBracket => "expected `,` or `]`"
  | expectedCommaOrBrace => "expected `,` or `\x7d`"
  | trailingComma => "trailing comma"
  | keyNotText => "key must be a string"
  | trailingCharacters => "trailing characters"
  | numberOutOfRange => "number out of range"
  | invalidEscape => "invalid escape"
  | unpairedSurrogate => "unexpected end of hex escape"
  | wrongSurrogate => "lone leading surrogate in hex escape"
  | controlCharacter => "control character (\\u0000-\\u001F) found while parsing a string"
  | tooDeep => "recursion limit exceeded"

end Flaw

/-- A flaw as it shows to a reader of the value, and to one that passes over the value: the latter
looks at the shape only. -/
structure Fault where
  reading : Flaw
  skipping : Flaw
  deriving DecidableEq, Repr

def Flaw.toFault (f : Flaw) : Fault := ⟨f, f⟩

end Replay.Json
