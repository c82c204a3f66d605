import Replay.Workbench.Program.Ends
import Replay.Workbench.Program.Stream

/-! Copying in blocks: `dd`. -/
namespace Replay.Program.Blocks

open Machine

/-- A size: a number, perhaps with a unit, or a product of such. -/
def sizeOf? (text : String) : Option Nat :=
  (splitString 'x' text).foldl (fun product factor => do
    let n ← product
    let unit ← match factor.toList.reverse with
      | 'c' :: ds => countOf? (String.ofList ds.reverse)
      | 'w' :: ds => (countOf? (String.ofList ds.reverse)).map (2 * ·)
      | _ => countOf? factor
    return n * unit) (some 1)

def operand? (known : List String) (word : String) : Option (String × String) :=
  match word.toList.span (· != '=') with
  | (name, _ :: text) =>
    let name := String.ofList name
    if known.contains name then some (name, String.ofList text) else none
  | (_, []) => none

structure Copy where
  input : String
  output : String
  /-- The sizes of blocks that are read and written. -/
  readSize : Nat
  writeSize : Nat
  count : Option Nat
  skip : Nat
  seek : Nat
  /-- Blocks that are read are written as they are. -/
  isDirect : Bool
  isWhole : Bool
  convert : UInt8 → UInt8

/-- Blocks that were full and blocks that were not, read and written, and all bytes written. -/
structure Records where
  fullIn : Nat
  partIn : Nat
  fullOut : Nat
  partOut : Nat
  bytes : Nat

/-- Reads a block; if it has to be whole, until it is or the input ends. -/
def readBlock (fd size : Nat) (isWhole : Bool) :
    (turns : Nat) → ByteArray → Job (Except Refusal ByteArray)
  | 0, done => return .ok done
  | turns + 1, done => do
    match ← Job.read fd (size - done.size) with
    | .error r => return .error r
    | .ok bytes =>
      let done := done ++ bytes
      if bytes.isEmpty || !isWhole || size ≤ done.size then return .ok done
      else readBlock fd size isWhole turns done

namespace Copy

def write (x : Copy) (name : String) (fd : Nat) (takesAll : Bool) :
    (turns : Nat) → ByteArray → Records → Job (Except Records (ByteArray × Records))
  | 0, kept, r => return .ok (kept, r)
  | turns + 1, kept, r => do
    let size := if takesAll then min x.writeSize kept.size else x.writeSize
    if kept.isEmpty || kept.size < size then return .ok (kept, r)
    else match ← Job.writeBytes fd (kept.extract 0 size) with
      | .error refusal =>
        complaint name ("error writing " ++ quoteAlways x.output ++ ": " ++ refusal.text)
        return .error r
      | .ok () =>
        let r := { r with bytes := r.bytes + size }
        let r := if size = x.writeSize then { r with fullOut := r.fullOut + 1 }
          else { r with partOut := r.partOut + 1 }
        write x name fd takesAll turns (kept.extract size kept.size) r

/-- Copies block by block; the records so far come back, and whether all went well. -/
def blocks (x : Copy) (name : String) (input output : Nat) :
    (turns : Nat) → ByteArray → Records → Job (Records × Bool)
  | 0, _, r => return (r, true)
  | turns + 1, kept, r => do
    let finish : Job (Records × Bool) := do
      match ← x.write name output true Job.forever kept r with
      | .ok (_, r) => return (r, true)
      | .error r => return (r, false)
    if x.count.any (· ≤ r.fullIn + r.partIn) then finish
    else match ← readBlock input x.readSize x.isWhole Job.forever .empty with
      | .error refusal =>
        complaint name ("error reading " ++ quoteAlways x.input ++ ": " ++ refusal.text)
        let (r, _) ← finish
        return (r, false)
      | .ok bytes =>
        if bytes.isEmpty then finish
        else
          let r := if bytes.size = x.readSize then { r with fullIn := r.fullIn + 1 }
            else { r with partIn := r.partIn + 1 }
          let kept := kept ++ ⟨bytes.data.map x.convert⟩
          match ← x.write name output x.isDirect Job.forever kept r with
          | .error r => return (r, false)
          | .ok (kept, r) => blocks x name input output turns kept r

def skipBlocks (x : Copy) (fd : Nat) : (count : Nat) → Job Unit
  | 0 => return
  | count + 1 => do
    match ← readBlock fd x.readSize true Job.forever .empty with
    | .ok bytes => if bytes.isEmpty then return else skipBlocks x fd count
    | .error _ => return

def run (x : Copy) (name : String) (isNamed keepsContent : Bool) (status : String) : Job Nat := do
  let opened ← if x.input = "standard input" then pure (.ok 0) else Job.openFile x.input .read
  let refuse (path : String) (r : Refusal) : Job Nat := do
    complaint name ("failed to open " ++ quoteAlways path ++ ": " ++ r.text)
    return 1
  match opened with
  | .error r => refuse x.input r
  | .ok input =>
    let access : Access := if keepsContent then .update else .write false
    let target ← if isNamed then Job.openFile x.output access else pure (.ok 1)
    match target with
    | .error r => refuse x.output r
    | .ok output =>
      x.skipBlocks input x.skip
      if 0 < x.seek then
        discard (Job.writeBytes output ⟨Array.replicate (x.seek * x.writeSize) 0⟩)
      let (r, isGood) ← x.blocks name input output Job.forever .empty ⟨0, 0, 0, 0, 0⟩
      if status ≠ "none" then
        Job.complain (decimal r.fullIn ++ "+" ++ decimal r.partIn ++ " records in\n" ++
          decimal r.fullOut ++ "+" ++ decimal r.partOut ++ " records out\n")
        if status ≠ "noxfer" then
          Job.complain (decimal r.bytes ++ " bytes copied, 0.0001 s, " ++
            decimal (r.bytes / 100) ++ " MB/s\n")
      return if isGood then 0 else 1

end Copy

def known : List String :=
  ["if", "of", "bs", "ibs", "obs", "count", "skip", "seek", "status", "conv", "iflag", "oflag"]

def conversions : List (String × (UInt8 → UInt8)) :=
  [("ucase", fun b => byteOf (charOf b).toUpper), ("lcase", fun b => byteOf (charOf b).toLower),
   ("notrunc", id), ("sync", id), ("noerror", id), ("fsync", id), ("fdatasync", id)]

def dd (words : List String) : Job Nat := do
  let name := words.headD ""
  let args := (words.drop 1).filter (· ≠ "--")
  match args.find? fun w => (operand? known w).isNone with
  | some odd => misuse name ("unrecognized operand " ++ quoteWord odd) 1
  | none =>
    let given := args.filterMap (operand? known)
    let last? (key : String) : Option String := given.reverse.lookup key
    let sizes := ["bs", "ibs", "obs", "count", "skip", "seek"]
    let isBad (entry : String × String) : Bool :=
      let isSize := ["bs", "ibs", "obs"].contains entry.1
      sizes.contains entry.1 && (sizeOf? entry.2).all fun n => n = 0 && isSize
    let size (key : String) : Option Nat := (last? key).bind sizeOf?
    let converted := (last? "conv").map (splitString ',') |>.getD []
    let levels := ["none", "noxfer", "progress"]
    match given.find? isBad, converted.find? fun c => (conversions.lookup c).isNone,
        (last? "status").filter fun s => !levels.contains s with
    | some (_, text), _, _ =>
      complaint name ("invalid number: " ++ quoteWord text)
      return 1
    | _, some c, _ => misuse name ("invalid conversion: " ++ quoteWord c) 1
    | _, _, some s => misuse name ("invalid status level: " ++ quoteWord s) 1
    | none, none, none =>
      let whole := size "bs"
      let x : Copy :=
        { input := (last? "if").getD "standard input", output := (last? "of").getD "standard output"
          readSize := (whole.or (size "ibs")).getD 512
          writeSize := (whole.or (size "obs")).getD 512
          count := size "count", skip := (size "skip").getD 0, seek := (size "seek").getD 0
          isDirect := whole.isSome
          isWhole := ((last? "iflag").map (splitString ',')).any (·.contains "fullblock")
          convert := fun b =>
            converted.foldl (fun b c => ((conversions.lookup c).getD id) b) b }
      x.run name (last? "of").isSome (converted.contains "notrunc") ((last? "status").getD "")

end Replay.Program.Blocks
