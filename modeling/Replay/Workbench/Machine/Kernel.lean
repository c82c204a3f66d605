import Replay.Workbench.Machine.Task

/-!
The system that processes ask: descriptors, pipes, signals and time. Processes take turns, one
request at a time; time passes with work and with sleep, and while all sleep it jumps to the next
awakening.
-/
namespace Replay.Machine

open Interpreter (Ending)

/-- What an open file is connected with. -/
inductive Channel where
  /-- The end of a pipe that is read. -/
  | source (pipe : Nat)
  /-- The end of a pipe that is written. -/
  | drain (pipe : Nat)
  | file (node : Nat)
  | device (d : Device)
  /-- An output that is collected for those who look at the machine from outside. -/
  | sink (number : Nat)
  deriving DecidableEq

structure OpenFile where
  channel : Channel
  offset : Nat
  access : Access

structure Handle where
  file : Nat
  /-- Whether programs inherit it. -/
  inherited : Bool

structure Process where
  id : Nat
  parent : Nat
  task : Task
  handles : List (Nat × Handle)
  directory : Nat
  ignored : List Nat
  caught : List Nat
  pending : List Nat
  wake : Option Nat
  stopped : Bool

structure System where
  now : Nat
  tree : Tree
  files : List (Nat × OpenFile)
  /-- The bytes in each pipe, in pieces. -/
  pipes : List (Nat × List ByteArray)
  /-- The processes in the order of their turns. -/
  processes : List Process
  /-- The children that ended and were not waited for, with their parents. -/
  ended : List (Nat × Nat × Ending)
  issued : Nat
  /-- What was written to the sinks, last first. -/
  collected : List (Nat × ByteArray)

namespace System

def pipeSize : Nat := 65536

def handle? (p : Process) (fd : Nat) : Option Handle := p.handles.lookup fd

def file? (s : System) (p : Process) (fd : Nat) : Option (Nat × OpenFile) := do
  let h ← handle? p fd
  let f ← s.files.lookup h.file
  return (h.file, f)

def setFile (s : System) (n : Nat) (f : OpenFile) : System :=
  { s with files := s.files.map fun entry => if entry.1 = n then (n, f) else entry }

def sweep (s : System) : System :=
  let isNamed (n : Nat) : Bool := s.processes.any fun p => p.handles.any fun h => h.2.file = n
  { s with files := s.files.filter fun entry => isNamed entry.1 }

def isOpen (s : System) (c : Channel) : Bool := s.files.any fun entry => entry.2.channel = c

def pieces (s : System) (pipe : Nat) : List ByteArray := (s.pipes.lookup pipe).getD []

def setPieces (s : System) (pipe : Nat) (pieces : List ByteArray) : System :=
  { s with pipes := (pipe, pieces) :: s.pipes.filter (·.1 ≠ pipe) }

def size (pieces : List ByteArray) : Nat := pieces.foldl (fun n b => n + b.size) 0

def requeue (s : System) (p : Process) : System := { s with processes := s.processes ++ [p] }

/-- The process goes on with a task. -/
def resume (s : System) (p : Process) (task : Task) : System :=
  s.requeue { p with task, wake := none }

/-- The lowest descriptor from `low` on that is free; `steps` bounds how many are tried. -/
def free (p : Process) : (steps : Nat) → (low : Nat) → Nat
  | 0, low => low
  | steps + 1, low => if (handle? p low).isSome then free p steps (low + 1) else low

def lowest (p : Process) (low : Nat) : Nat := free p (p.handles.length + 1) low

def setHandle (p : Process) (fd : Nat) (h : Handle) : Process :=
  { p with handles := (fd, h) :: p.handles.filter (·.1 ≠ fd) }

def dropHandle (p : Process) (fd : Nat) : Process :=
  { p with handles := p.handles.filter (·.1 ≠ fd) }

/-- A process is over: its children are left to nobody, and its parent may learn of its end. -/
def finish (s : System) (p : Process) (e : Ending) : System :=
  let orphan (q : Process) : Process := if q.parent = p.id then { q with parent := 0 } else q
  let told (q : Process) : Process :=
    if q.id = p.parent && q.caught.contains 17 then { q with pending := q.pending ++ [17] } else q
  let left := s.ended.filter fun e => e.1 ≠ p.id
  sweep { s with
    processes := s.processes.map (told ∘ orphan)
    ended := left ++ if p.parent = 0 then [] else [(p.parent, p.id, e)] }

def addFile (s : System) (p : Process) (f : OpenFile) : Nat × Process × System :=
  let n := s.issued
  let fd := lowest p 0
  (fd, setHandle p fd ⟨n, true⟩, { s with issued := n + 1, files := (n, f) :: s.files })

def setContent (s : System) (node : Nat) (content : ByteArray) : System :=
  match s.tree.node node with
  | .file _ executable => { s with tree := s.tree.set node (.file content executable) }
  | _ => s

def content (s : System) (node : Nat) : ByteArray :=
  match s.tree.node node with
  | .file content _ => content
  | _ => .empty

/-- Opens a node of the tree, or what a descriptor is connected with. -/
def openNode (s : System) (p : Process) (node : Nat) (access : Access) :
    Except Refusal (Nat × Process × System) :=
  match s.tree.node node with
  | .directory .. =>
    if access = .read then .ok (s.addFile p ⟨.file node, 0, access⟩) else .error .isDirectory
  | .device (.descriptor n) =>
    match s.file? p n with
    | some (_, f) => .ok (s.addFile p { f with access })
    | none => .error .noDevice
  | .device d => .ok (s.addFile p ⟨.device d, 0, access⟩)
  | .file .. =>
    match access with
    | .write true => .error .occupied
    | .write false => .ok ((s.setContent node .empty).addFile p ⟨.file node, 0, access⟩)
    | _ => .ok (s.addFile p ⟨.file node, 0, access⟩)
  | .program _ => .ok (s.addFile p ⟨.file node, 0, access⟩)
  | .link _ => .error .tooManyLinks

def openPath (s : System) (p : Process) (path : String) (access : Access) :
    Except Refusal (Nat × Process × System) :=
  match s.tree.resolve p.directory path true with
  | .ok node => s.openNode p node access
  | .error .notFound =>
    if access = .read then .error .notFound
    else match s.tree.place p.directory path with
      | .error r => .error r
      | .ok (parent, name) =>
        if name = "" || path.endsWith "/" then .error .isDirectory
        else
          let (node, tree) := s.tree.add parent name (.file .empty false)
          .ok ({ s with tree }.addFile p ⟨.file node, 0, access⟩)
  | .error r => .error r

def takeFront (most : Nat) : List ByteArray → ByteArray × List ByteArray
  | [] => (.empty, [])
  | b :: rest =>
    if b.size ≤ most then
      if b.size = most then (b, rest)
      else
        let (more, left) := takeFront (most - b.size) rest
        (b ++ more, left)
    else (b.extract 0 most, b.extract most b.size :: rest)

def facts (s : System) (node : Nat) : FileFacts :=
  let bare : FileFacts :=
    { node, isDirectory := false, isRegular := false, isLink := false, isDevice := false
      isPipe := false, isExecutable := false, size := 0 }
  match s.tree.node node with
  | .directory .. => { bare with isDirectory := true, isExecutable := true, size := 4096 }
  | .file content executable =>
    { bare with isRegular := true, isExecutable := executable, size := content.size }
  | .link target => { bare with isLink := true, isExecutable := true, size := target.length }
  | .device _ => { bare with isDevice := true }
  | .program _ => { bare with isRegular := true, isExecutable := true, size := 1 }

/-- What can be told of what a path leads to; the paths of descriptors are links to it. -/
def inspectPath (s : System) (p : Process) (path : String) (follow : Bool) :
    Except Refusal FileFacts := do
  let node ← s.tree.resolve p.directory path follow
  match s.tree.node node with
  | .device (.descriptor n) =>
    let facts := { s.facts node with isDevice := false }
    if !follow then return { facts with isLink := true, isExecutable := true, size := 15 }
    else match s.file? p n with
      | none => .error .notFound
      | some (_, f) =>
        match f.channel with
        | .file node => return s.facts node
        | .device _ => return { facts with isDevice := true }
        | _ => return { facts with isPipe := true }
  | _ => return s.facts node

def alter (s : System) (p : Process) (c : Change) : Except Refusal System :=
  let t := s.tree
  match c with
  | .makeDirectory path =>
    match t.resolve p.directory path false with
    | .ok _ => .error .occupied
    | .error .notFound => do
      let (parent, name) ← t.place p.directory path
      return { s with tree := (t.add parent name (.directory parent [])).2 }
    | .error r => .error r
  | .removeDirectory path => do
    let node ← t.resolve p.directory path false
    match t.node node with
    | .directory parent [] =>
      let (_, name) ← t.place p.directory path
      return { s with tree := t.dropEntry parent name }
    | .directory .. => .error .notEmpty
    | _ => .error .notDirectory
  | .removeFile path => do
    let node ← t.resolve p.directory path false
    if t.isDirectory node then .error .isDirectory
    else
      let (parent, name) ← t.place p.directory path
      return { s with tree := t.dropEntry parent name }
  | .rename path target => do
    let node ← t.resolve p.directory path false
    let (parent, name) ← t.place p.directory path
    let (newParent, newName) ← t.place p.directory target
    match (t.entries newParent).lookup newName with
    | some old =>
      if t.isDirectory old && !t.isDirectory node then .error .isDirectory
      else if t.isDirectory old && !(t.entries old).isEmpty then .error .notEmpty
    | none => pure ()
    let t := (t.dropEntry parent name).dropEntry newParent newName
    let t := t.setEntries newParent ((newName, node) :: t.entries newParent)
    let t := match t.node node with
      | .directory _ entries => t.set node (.directory newParent entries)
      | _ => t
    return { s with tree := t }
  | .makeLink target path =>
    match t.resolve p.directory path false with
    | .ok _ => .error .occupied
    | .error .notFound => do
      let (parent, name) ← t.place p.directory path
      return { s with tree := (t.add parent name (.link target)).2 }
    | .error r => .error r
  | .shareFile path name => do
    let node ← t.resolve p.directory path false
    match t.resolve p.directory name false with
    | .ok _ => .error .occupied
    | .error .notFound => do
      let (parent, name) ← t.place p.directory name
      return { s with tree := t.setEntries parent ((name, node) :: t.entries parent) }
    | .error r => .error r
  | .setExecutable path executable => do
    let node ← t.resolve p.directory path true
    match t.node node with
    | .file content _ => return { s with tree := t.set node (.file content executable) }
    | _ => return s

/-- What a node runs: a program the machine knows, or the interpreter a script names in its first
line, with what comes before the path among its arguments. -/
def runnable (s : System) (node : Nat) : Except Refusal (Option (List Char) × String) :=
  match s.tree.node node with
  | .program name => .ok (none, name)
  | .file content true =>
    match unpackList (content.extract 0 256) with
    | '#' :: '!' :: rest => .ok (some (rest.takeWhile (· != '\n')), "")
    | _ => .error .notExecutable
  | _ => .error .notAllowed

/-- Starts a program in the place of a process: descriptors that programs do not inherit are closed,
and signals are caught no more. -/
def replace (s : System) (p : Process) (task : Task) : System :=
  (s.resume { p with handles := p.handles.filter (·.2.inherited), caught := [], pending := [] }
    task).sweep

/-- What a process that is to run a path does, by the programs there are; `steps` bounds how many
scripts name one another. -/
def execute (programs : String → Option Program) (s : System) (p : Process) :
    (steps : Nat) → (path : String) → (arguments : List String) → Environment →
      Except Refusal Task
  | 0, _, _, _ => .error .tooManyLinks
  | steps + 1, path, arguments, environment => do
    let node ← s.tree.resolve p.directory path true
    match ← s.runnable node with
    | (none, name) =>
      match programs name with
      | some program => return program arguments environment
      | none => .error .notExecutable
    | (some line, _) =>
      let isBlank (c : Char) : Bool := c == ' ' || c == '\t'
      let line := line.dropWhile isBlank
      let interpreter := String.ofList (line.takeWhile (!isBlank ·))
      let option := (((line.dropWhile (!isBlank ·)).dropWhile isBlank).reverse.dropWhile
        isBlank).reverse
      let options := if option.isEmpty then [] else [String.ofList option]
      execute programs s p steps interpreter
        (interpreter :: options ++ path :: arguments.drop 1) environment

/-- Delivers a signal to a process that is not the one whose turn it is. -/
def signalTo (s : System) (target signal : Nat) : System :=
  match s.processes.find? (·.id = target) with
  | none => s
  | some q =>
    let others := { s with processes := s.processes.filter (·.id ≠ target) }
    let put (q : Process) : System :=
      { s with processes := s.processes.map fun r => if r.id = target then q else r }
    if signal = 0 then s
    else if signal = 9 then others.finish q (.signal 9 false)
    else if signal = 18 then put { q with stopped := false }
    else if signal = 19 then put { q with stopped := true }
    else if q.ignored.contains signal then s
    else if q.caught.contains signal then put { q with pending := q.pending ++ [signal] }
    else if isPassedOver signal then s
    else if isStop signal then put { q with stopped := true }
    else others.finish q (.signal signal false)

def signalSelf (s : System) (p : Process) (signal : Nat) (task : Task) : System :=
  (s.resume p task).signalTo p.id signal

/-- What comes of the turn of a process, which is none of those in the system meanwhile: the system
afterwards, or nothing if the process has to wait. -/
def turn (programs : String → Option Program) (s : System) (p : Process) : Option System :=
  match p.task with
  | .exit status => some (s.finish p (.exit (status % 256)))
  | .work time k => some ({ s with now := s.now + time }.resume p (k ()))
  | .sleep time k =>
    match p.wake with
    | none => some (s.requeue { p with wake := some (s.now + time) })
    | some wake =>
      if wake ≤ s.now || !p.pending.isEmpty then some (s.resume p (k ())) else none
  | .read fd most k =>
    match s.file? p fd with
    | none => some (s.resume p (k (.error .badDescriptor)))
    | some (n, f) =>
      match f.channel with
      | .source pipe =>
        match s.pieces pipe with
        | [] =>
          if !s.isOpen (.drain pipe) then some (s.resume p (k (.ok .empty)))
          else if !p.pending.isEmpty then some (s.resume p (k (.error .interrupted)))
          else none
        | pieces =>
          let (bytes, left) := takeFront most pieces
          some ((s.setPieces pipe left).resume p (k (.ok bytes)))
      | .file node =>
        if s.tree.isDirectory node then some (s.resume p (k (.error .isDirectory)))
        else if f.access matches .write _ | .append then
          some (s.resume p (k (.error .badDescriptor)))
        else
          let bytes := (s.content node).extract f.offset (f.offset + most)
          some ((s.setFile n { f with offset := f.offset + bytes.size }).resume p (k (.ok bytes)))
      | .device .zero | .device .full =>
        some ({ s with now := s.now + most / 200 }.resume p (k (.ok ⟨Array.replicate most 0⟩)))
      | .device _ => some (s.resume p (k (.ok .empty)))
      | .drain _ | .sink _ => some (s.resume p (k (.error .badDescriptor)))
  | .write fd bytes k =>
    match s.file? p fd with
    | none => some (s.resume p (k (.error .badDescriptor)))
    | some (n, f) =>
      match f.channel with
      | .drain pipe =>
        if !s.isOpen (.source pipe) then
          some (s.signalSelf p 13 (k (.error .brokenPipe)))
        else
          let pieces := s.pieces pipe
          let room := pipeSize - size pieces
          if bytes.size ≤ room then
            some ((s.setPieces pipe (pieces ++ [bytes])).resume p (k (.ok ())))
          else if 4096 ≤ room then
            some ((s.setPieces pipe (pieces ++ [bytes.extract 0 room])).requeue
              { p with task := .write fd (bytes.extract room bytes.size) k })
          else none
      | .file node =>
        if f.access = .read then some (s.resume p (k (.error .badDescriptor)))
        else
          let old := s.content node
          let offset := if f.access = .append then old.size else f.offset
          let gap : ByteArray := ⟨Array.replicate (offset - old.size) 0⟩
          let last := offset + bytes.size
          let new := old.extract 0 offset ++ gap ++ bytes ++ old.extract last old.size
          some (((s.setContent node new).setFile n { f with offset := last }).resume p (k (.ok ())))
      | .sink number =>
        some ({ s with
          now := s.now + bytes.size / 1000
          collected := (number, bytes) :: s.collected }.resume p (k (.ok ())))
      | .device .full => some (s.resume p (k (.error .noSpace)))
      | .device _ => some ({ s with now := s.now + bytes.size / 5000 }.resume p (k (.ok ())))
      | .source _ => some (s.resume p (k (.error .badDescriptor)))
  | .open path access k =>
    match s.openPath p path access with
    | .ok (fd, p, s) => some (s.resume p (k (.ok fd)))
    | .error r => some (s.resume p (k (.error r)))
  | .close fd k => some ((s.resume (dropHandle p fd) (k ())).sweep)
  | .copy source target k =>
    match handle? p source with
    | none => some (s.resume p (k (.error .badDescriptor)))
    | some h =>
      if source = target then some (s.resume p (k (.ok ())))
      else some ((s.resume (setHandle p target ⟨h.file, true⟩) (k (.ok ()))).sweep)
  | .keep source low k =>
    match handle? p source with
    | none => some (s.resume p (k (.error .badDescriptor)))
    | some h =>
      let fd := lowest p low
      some (s.resume (setHandle p fd ⟨h.file, false⟩) (k (.ok fd)))
  | .pipe k =>
    let pipe := s.issued
    let s := { s with issued := pipe + 1 }
    let (reading, p, s) := s.addFile p ⟨.source pipe, 0, .read⟩
    let (writing, p, s) := s.addFile p ⟨.drain pipe, 0, .append⟩
    some (s.resume p (k (reading, writing)))
  | .fork child k =>
    let id := s.issued
    let q := { p with id, parent := p.id, task := child, pending := [] }
    let s := { s with issued := id + 1, now := s.now + 500 }
    some ((s.resume p (k id)).requeue q)
  | .wait child interruptible k =>
    let isIt (e : Nat × Nat × Ending) : Bool := e.1 == p.id && child.all (· == e.2.1)
    match s.ended.find? isIt with
    | some e =>
      some ({ s with ended := s.ended.filter (·.2.1 ≠ e.2.1) }.resume p (k (.ok e.2)))
    | none =>
      if !s.processes.any (fun q => q.parent = p.id && child.all (· == q.id)) then
        some (s.resume p (k (.error .noChild)))
      else if interruptible && !p.pending.isEmpty then
        some (s.resume p (k (.error .interrupted)))
      else none
  | .poll child k =>
    match s.ended.find? fun e => e.1 == p.id && child == e.2.1 with
    | some e =>
      some ({ s with ended := s.ended.filter (·.2.1 ≠ e.2.1) }.resume p (k (some e.2.2)))
    | none => some (s.resume p (k none))
  | .kill target signal k =>
    if lastSignal < signal then some (s.resume p (k (.error .invalid)))
    else if target = p.id then some (s.signalSelf p signal (k (.ok ())))
    else if s.processes.any (·.id = target) || s.ended.any (·.2.1 = target) then
      some ((s.resume p (k (.ok ()))).signalTo target signal)
    else some (s.resume p (k (.error .noProcess)))
  | .onSignal signal d k =>
    let p := { p with
      ignored := p.ignored.filter (· ≠ signal), caught := p.caught.filter (· ≠ signal) }
    let p := match d with
      | .standard => p
      | .ignore => { p with ignored := signal :: p.ignored }
      | .catch => { p with caught := signal :: p.caught }
    some (s.resume p (k ()))
  | .signals k => some (s.resume { p with pending := [] } (k p.pending))
  | .self k => some (s.resume p (k (p.id, p.parent)))
  | .exec path arguments environment k =>
    match execute programs s p 5 path arguments environment with
    | .ok task => some ({ s with now := s.now + 500 }.replace p task)
    | .error r => some (s.resume p (k r))
  | .enter path k =>
    match s.tree.resolve p.directory path true with
    | .ok node =>
      if s.tree.isDirectory node then some (s.resume { p with directory := node } (k (.ok ())))
      else some (s.resume p (k (.error .notDirectory)))
    | .error r => some (s.resume p (k (.error r)))
  | .whereabouts k => some (s.resume p (k (s.tree.path p.directory)))
  | .inspect path follow k =>
    some (s.resume p (k (s.inspectPath p path follow)))
  | .list path k =>
    match s.tree.resolve p.directory path true with
    | .ok node =>
      if s.tree.isDirectory node then
        some (s.resume p (k (.ok ((s.tree.entries node).map (·.1)))))
      else some (s.resume p (k (.error .notDirectory)))
    | .error r => some (s.resume p (k (.error r)))
  | .change c k =>
    match s.alter p c with
    | .ok s => some (s.resume p (k (.ok ())))
    | .error r => some (s.resume p (k (.error r)))
  | .clock k => some (s.resume p (k s.now))

def awakening? (s : System) : Option Nat :=
  ((s.processes.filter (!·.stopped)).filterMap (·.wake)).min?

/-- Lets processes take turns until `isDone`, the deadline, or a moment at which nothing can happen
any more. `waiting` counts how many processes in a row had to wait. -/
def run (programs : String → Option Program) (isDone : System → Bool) (deadline : Nat) :
    (turns : Nat) → (waiting : Nat) → System → System
  | 0, _, s => s
  | turns + 1, waiting, s =>
    if isDone s || deadline ≤ s.now then s
    else if s.processes.length ≤ waiting then
      match s.awakening? with
      | some wake => run programs isDone deadline turns 0 { s with now := max s.now wake }
      | none => s
    else match s.processes with
      | [] => s
      | p :: rest =>
        let others := { s with processes := rest }
        match if p.stopped then none else others.turn programs p with
        | some s => run programs isDone deadline turns 0 { s with now := s.now + 1 }
        | none => run programs isDone deadline turns (waiting + 1) (others.requeue p)

end System

end Replay.Machine
