import Replay.Workbench.Machine.Octets
import Replay.Refusal

/-!
File trees. Every file is a node with a number; directories name nodes, and know the node they are
in.
-/
namespace Replay.Machine

inductive Device where
  | null
  | zero
  | full
  /-- What a descriptor of the process is connected with. -/
  | descriptor (number : Nat)
  deriving DecidableEq

inductive FileNode where
  | directory (parent : Nat) (entries : List (String × Nat))
  | file (content : ByteArray) (executable : Bool)
  | link (target : String)
  | device (d : Device)
  /-- A program that the machine knows by name. -/
  | program (name : String)

instance : Inhabited FileNode := ⟨.device .null⟩

structure Tree where
  nodes : Array FileNode

namespace Tree

def root : Nat := 0

def empty : Tree := ⟨#[.directory 0 []]⟩

def node (t : Tree) (n : Nat) : FileNode := t.nodes[n]?.getD default

def set (t : Tree) (n : Nat) (f : FileNode) : Tree := ⟨t.nodes.setIfInBounds n f⟩

def parts (path : String) : List String := splitString '/' path

def longestName : Nat := 255

def longestPath : Nat := 4096

def mostLinks : Nat := 40

/-- Follows the parts of a path from a directory; `steps` bounds how many parts there are, with
those of the links on the way. A link at the end is followed if `follow` says so. -/
def walk (t : Tree) (follow : Bool) :
    (steps : Nat) → (here links : Nat) → List String → Except Refusal Nat
  | 0, _, _, _ => .error .tooManyLinks
  | _, here, _, [] => .ok here
  | steps + 1, here, links, name :: rest =>
    match t.node here with
    | .directory parent entries =>
      if name = "" || name = "." then walk t follow steps here links rest
      else if name = ".." then walk t follow steps parent links rest
      else if longestName < name.length then .error .nameTooLong
      else match entries.lookup name with
        | none => .error .notFound
        | some next =>
          match t.node next with
          | .link target =>
            if rest.isEmpty && !follow then .ok next
            else if mostLinks ≤ links then .error .tooManyLinks
            else
              walk t follow steps (if target.startsWith "/" then root else here) (links + 1)
                (parts target ++ rest)
          | _ => walk t follow steps next links rest
    | _ => .error .notDirectory

def resolve (t : Tree) (directory : Nat) (path : String) (follow : Bool) : Except Refusal Nat :=
  if path = "" then .error .notFound
  else if longestPath ≤ path.length then .error .nameTooLong
  else
    let ps := parts path
    let start := if path.startsWith "/" then root else directory
    t.walk follow (ps.length + 100 * mostLinks) start 0 ps

def splitPath (path : String) : String × String :=
  let cs := (path.toList.reverse.dropWhile (· == '/'))
  let name := cs.takeWhile (· != '/')
  let parent := cs.drop name.length
  (if parent.isEmpty then "." else String.ofList parent.reverse, String.ofList name.reverse)

/-- The directory that a new file at a path would be in, with its name. -/
def place (t : Tree) (directory : Nat) (path : String) : Except Refusal (Nat × String) :=
  if path = "" then .error .notFound
  else if longestPath ≤ path.length then .error .nameTooLong
  else
    let (parent, name) := splitPath path
    match t.resolve directory parent true with
    | .error r => .error r
    | .ok n =>
      match t.node n with
      | .directory .. => if longestName < name.length then .error .nameTooLong else .ok (n, name)
      | _ => .error .notDirectory

def entries (t : Tree) (directory : Nat) : List (String × Nat) :=
  match t.node directory with
  | .directory _ entries => entries
  | _ => []

def setEntries (t : Tree) (directory : Nat) (entries : List (String × Nat)) : Tree :=
  match t.node directory with
  | .directory parent _ => t.set directory (.directory parent entries)
  | _ => t

def isDirectory (t : Tree) (n : Nat) : Bool :=
  match t.node n with
  | .directory .. => true
  | _ => false

def add (t : Tree) (directory : Nat) (name : String) (f : FileNode) : Nat × Tree :=
  let n := t.nodes.size
  (n, (⟨t.nodes.push f⟩ : Tree).setEntries directory ((name, n) :: t.entries directory))

def dropEntry (t : Tree) (directory : Nat) (name : String) : Tree :=
  t.setEntries directory ((t.entries directory).filter (·.1 ≠ name))

def pathOf (t : Tree) : (steps : Nat) → Nat → List Char
  | 0, _ => []
  | steps + 1, n =>
    match t.node n with
    | .directory parent _ =>
      if parent = n then []
      else
        let name := ((t.entries parent).find? (·.2 = n)).map (·.1)
        pathOf t steps parent ++ '/' :: (name.getD "").toList
    | _ => []

def path (t : Tree) (n : Nat) : String :=
  match t.pathOf t.nodes.size n with
  | [] => "/"
  | cs => String.ofList cs

def plant (t : Tree) (path : String) (f : Nat → FileNode) : Tree :=
  match t.place root path with
  | .ok (parent, name) => (t.add parent name (f parent)).2
  | .error _ => t

end Tree

end Replay.Machine
