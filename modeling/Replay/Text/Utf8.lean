/-!
Bytes read as UTF-8. A strict reading refuses anything ill formed; a lossy one puts U+FFFD in the
place of each maximal piece that can start no well-formed sequence.
-/
namespace Replay.Text

/-- What the first byte of a sequence asks of the bytes behind it: how many there are, the bits it
contributes itself, and the range of the byte that follows it. -/
structure Lead where
  count : Nat
  bits : Nat
  low : UInt8
  high : UInt8

/-- The narrowed second bytes keep out overlong forms, surrogates and what lies past U+10FFFF. -/
def Lead.ofByte (b : UInt8) : Option Lead :=
  let n := b.toNat
  if n < 0x80 then some ⟨0, n, 0x80, 0xbf⟩
  else if 0xc2 ≤ n ∧ n ≤ 0xdf then some ⟨1, n - 0xc0, 0x80, 0xbf⟩
  else if n = 0xe0 then some ⟨2, 0, 0xa0, 0xbf⟩
  else if n = 0xed then some ⟨2, 0xd, 0x80, 0x9f⟩
  else if 0xe1 ≤ n ∧ n ≤ 0xef then some ⟨2, n - 0xe0, 0x80, 0xbf⟩
  else if n = 0xf0 then some ⟨3, 0, 0x90, 0xbf⟩
  else if n = 0xf4 then some ⟨3, 4, 0x80, 0x8f⟩
  else if 0xf1 ≤ n ∧ n ≤ 0xf3 then some ⟨3, n - 0xf0, 0x80, 0xbf⟩
  else none

/-- A sequence that is partly read: bytes still wanted, value so far, range of the next byte. -/
structure Pending where
  wanted : Nat
  value : Nat
  low : UInt8
  high : UInt8

/-- A reading under way: what was read so far, last piece first, with `none` for a piece that
could not be read. -/
structure Utf8Reading where
  pending : Option Pending := none
  pieces : List (Option Char) := []

namespace Utf8Reading

def push (r : Utf8Reading) (piece : Option Char) : Utf8Reading := ⟨none, piece :: r.pieces⟩

/-- Begins a sequence at `b`. -/
def start (r : Utf8Reading) (b : UInt8) : Utf8Reading :=
  match Lead.ofByte b with
  | none => r.push none
  | some ⟨0, bits, _, _⟩ => r.push (some (Char.ofNat bits))
  | some ⟨n + 1, bits, low, high⟩ => { r with pending := some ⟨n + 1, bits, low, high⟩ }

/-- A byte outside the range the sequence asks for ends that piece unread and begins the next. -/
def feed (r : Utf8Reading) (b : UInt8) : Utf8Reading :=
  match r.pending with
  | none => r.start b
  | some p =>
    if p.low ≤ b ∧ b ≤ p.high then
      let value := p.value * 64 + (b.toNat - 0x80)
      if p.wanted ≤ 1 then r.push (some (Char.ofNat value))
      else { r with pending := some ⟨p.wanted - 1, value, 0x80, 0xbf⟩ }
    else (r.push none).start b

/-- The pieces in order; a sequence cut off by the end is one unread piece. -/
def finish (r : Utf8Reading) : List (Option Char) :=
  match r.pending with
  | none => r.pieces.reverse
  | some _ => (none :: r.pieces).reverse

end Utf8Reading

def utf8Pieces (bytes : List UInt8) : List (Option Char) :=
  (bytes.foldl Utf8Reading.feed {}).finish

def utf8Lossy (bytes : List UInt8) : String :=
  String.ofList ((utf8Pieces bytes).map (·.getD '\ufffd'))

def utf8? (bytes : List UInt8) : Option String :=
  if (utf8Pieces bytes).all Option.isSome then
    some (String.ofList ((utf8Pieces bytes).map (·.getD '\ufffd')))
  else none

end Replay.Text
