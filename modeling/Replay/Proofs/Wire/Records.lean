import Replay.Interpreter.Config
import Replay.Playback
import Replay.Proofs.Json.Gathering
import Replay.Proofs.Trace.RoundTrip
import Replay.Variable

/-!
Records that are written and read again. They come back from what is written of them, from the same
members in any other order and among any others, and with those left out that need not be there.
-/
namespace Replay

open Json

theorem getD_of_absent {β : Type} {met : Bool} {b standard : β}
    (spare : met = false → b = standard) : (if met then some b else none).getD standard = b := by
  cases met with
  | true => rfl
  | false => exact (spare rfl).symm

/-! Contents of elements -/

namespace Element.Spec

variable {s : Spec}

/-- All members of a content, with an absent source as `null`. -/
def members (s : Spec) : Members :=
  [("kind", s.kind.toJson), ("label", .text s.label), ("text", .text s.text),
    ("source", s.source.elim .null .text)]

def Spare (s : Spec) (name : String) : Prop := name = "source" ∧ s.source = none

def part (s : Spec) (met : String → Bool) : Draft where
  kind := if met "kind" then some s.kind else none
  label := if met "label" then some s.label else none
  text := if met "text" then some s.text else none
  source := if met "source" then some s.source else none

theorem renders_written (s : Spec) : ∃ written, s.toJson = .object written ∧
    Renders s.members s.Spare written := by
  refine ⟨_, rfl, _, [], .of_eq (List.append_nil _).symm, ?_, ?_, nofun⟩
  · cases source : s.source <;> simp [members, source]
  · cases source : s.source <;> simp [members, Spare, source]

theorem kind_of_value? {node : Node} {room : Nat} {k : Kind} (shown : node.value? = some k.toJson) :
    Kind.reader room node = .ok k := by
  cases k
  exact Reader.variant_of_value? rfl shown

theorem gathers (s : Spec) : record.Gathers 126
    (fun name node => ∃ j, (name, j) ∈ s.members ∧ Presents node j) s.part := by
  refine ⟨rfl, ?_⟩
  unfold record
  simp only [List.forall_mem_cons]
  refine ⟨?_, ?_, ?_, ?_, nofun⟩
  · exact Record.Field.takes_of_member s.kind (by simp [members]) (fun _ => rfl)
      (fun met => by simp [part]) fun _ shown => kind_of_value? (shown.value rfl)
  · exact Record.Field.takes_of_member s.label (by simp [members]) (fun _ => rfl)
      (fun met => by simp [part]) fun _ shown => Reader.text_of_value? (shown.value rfl)
  · exact Record.Field.takes_of_member s.text (by simp [members]) (fun _ => rfl)
      (fun met => by simp [part]) fun _ shown => Reader.text_of_value? (shown.value rfl)
  · refine Record.Field.takes_of_member s.source (by simp [members]) (fun _ => rfl)
      (fun met => by simp [part]) fun _ shown => Reader.optional_of_value? (shown.value ?_)
    cases s.source <;> rfl

theorem run_reader_of_renders {members : Members} {text : String}
    (renders : Renders s.members s.Spare members) (spells : IsText (.object members) text) :
    Reader.run reader text = .ok s := by
  refine s.gathers.run_of_isText rfl (by decide) (fun met absent => ?_) renders spells
  have there (name : String) (named : name ∈ record.names) (other : name ≠ "source") :
      met name = true := Bool.of_not_eq_false fun none => other (absent name named none).1
  have kind := there "kind" (by decide) (by decide)
  have label := there "label" (by decide) (by decide)
  have text := there "text" (by decide) (by decide)
  have source : (if met "source" then some s.source else none).getD none = s.source :=
    getD_of_absent fun none => (absent "source" (by decide) none).2
  simp only [record, part, kind, label, text, source]
  rfl

end Element.Spec

/-! Configurations of interpreters -/

namespace Interpreter.Config

variable {c : Config}

/-- All members of a configuration, with an absent directory as `null`. -/
def members (c : Config) : Members :=
  [("program", .text c.program), ("args", texts c.arguments),
    ("working_dir", c.directory.elim .null .text), ("timeout_ms", natural c.timeout)]

/-- The members that may be left out: no arguments, no directory, and the time there is if none is
told. -/
def Spare (c : Config) (name : String) : Prop :=
  name = "args" ∧ c.arguments = [] ∨ name = "working_dir" ∧ c.directory = none ∨
    name = "timeout_ms" ∧ c.timeout = defaultTimeout

def part (c : Config) (met : String → Bool) : Draft where
  program := if met "program" then some c.program else none
  arguments := if met "args" then some c.arguments else none
  directory := if met "working_dir" then some c.directory else none
  timeout := if met "timeout_ms" then some c.timeout else none

theorem renders_written (c : Config) : ∃ written, c.toJson = .object written ∧
    Renders c.members c.Spare written := by
  refine ⟨_, rfl, _, [], .of_eq (List.append_nil _).symm, ?_, ?_, nofun⟩
  · cases directory : c.directory <;> simp [members, directory]
  · cases directory : c.directory <;> simp [members, Spare, directory]

theorem gathers (c : Config) : record.Gathers 126
    (fun name node => ∃ j, (name, j) ∈ c.members ∧ Presents node j) c.part := by
  refine ⟨rfl, ?_⟩
  unfold record
  simp only [List.forall_mem_cons]
  refine ⟨?_, ?_, ?_, ?_, nofun⟩
  · exact Record.Field.takes_of_member c.program (by simp [members]) (fun _ => rfl)
      (fun met => by simp [part]) fun _ shown => Reader.text_of_value? (shown.value rfl)
  · exact Record.Field.takes_of_member c.arguments (by simp [members]) (fun _ => rfl)
      (fun met => by simp [part]) fun _ shown =>
        Reader.texts_of_value? (shown.value (floats_texts _))
  · refine Record.Field.takes_of_member c.directory (by simp [members]) (fun _ => rfl)
      (fun met => by simp [part]) fun _ shown => Reader.optional_of_value? (shown.value ?_)
    cases c.directory <;> rfl
  · exact Record.Field.takes_of_member c.timeout (by simp [members]) (fun _ => rfl)
      (fun met => by simp [part]) fun _ shown => Reader.natural_of_value? (shown.value rfl)

theorem run_reader_of_renders {members : Members} {text : String}
    (renders : Renders c.members c.Spare members) (spells : IsText (.object members) text) :
    Reader.run reader text = .ok c := by
  refine c.gathers.run_of_isText rfl (by decide) (fun met absent => ?_) renders spells
  have program : met "program" = true := Bool.of_not_eq_false fun none => by
    simpa [Spare] using absent "program" (by decide) none
  have arguments : (if met "args" then some c.arguments else none).getD [] = c.arguments :=
    getD_of_absent fun none => by simpa [Spare] using absent "args" (by decide) none
  have directory : (if met "working_dir" then some c.directory else none).getD none =
      c.directory :=
    getD_of_absent fun none => by simpa [Spare] using absent "working_dir" (by decide) none
  have timeout : (if met "timeout_ms" then some c.timeout else none).getD defaultTimeout =
      c.timeout :=
    getD_of_absent fun none => by simpa [Spare] using absent "timeout_ms" (by decide) none
  simp only [record, part, program, arguments, directory, timeout]
  rfl

end Interpreter.Config

/-! Configurations of playback -/

namespace Playback.Config

variable {c : Config}

def members (c : Config) : Members :=
  [("speed_ms", natural c.speed), ("pause_poll_ms", natural c.pausePoll)]

/-- The members that may be left out, as they hold what is there if nothing is told. -/
def Spare (c : Config) (name : String) : Prop :=
  name = "speed_ms" ∧ c.speed = ({} : Config).speed ∨
    name = "pause_poll_ms" ∧ c.pausePoll = ({} : Config).pausePoll

def part (c : Config) (met : String → Bool) : Draft where
  speed := if met "speed_ms" then some c.speed else none
  pausePoll := if met "pause_poll_ms" then some c.pausePoll else none

theorem gathers (c : Config) : record.Gathers 126
    (fun name node => ∃ j, (name, j) ∈ c.members ∧ Presents node j) c.part := by
  refine ⟨rfl, ?_⟩
  unfold record
  simp only [List.forall_mem_cons]
  refine ⟨?_, ?_, nofun⟩
  · exact Record.Field.takes_of_member c.speed (by simp [members]) (fun _ => rfl)
      (fun met => by simp [part]) fun _ shown => Reader.natural_of_value? (shown.value rfl)
  · exact Record.Field.takes_of_member c.pausePoll (by simp [members]) (fun _ => rfl)
      (fun met => by simp [part]) fun _ shown => Reader.natural_of_value? (shown.value rfl)

theorem run_reader_of_renders {members : Members} {text : String}
    (renders : Renders c.members c.Spare members) (spells : IsText (.object members) text) :
    Reader.run reader text = .ok c := by
  refine c.gathers.run_of_isText rfl (by decide) (fun met absent => ?_) renders spells
  have speed : (if met "speed_ms" then some c.speed else none).getD ({} : Config).speed =
      c.speed :=
    getD_of_absent fun none => by simpa [Spare] using absent "speed_ms" (by decide) none
  have pausePoll : (if met "pause_poll_ms" then some c.pausePoll else none).getD
      ({} : Config).pausePoll = c.pausePoll :=
    getD_of_absent fun none => by simpa [Spare] using absent "pause_poll_ms" (by decide) none
  exact congrArg₂ (fun speed pausePoll => (.ok ⟨speed, pausePoll⟩ : Except ReadError Config))
    speed pausePoll

end Playback.Config

/-! Places and types -/

theorem Location.run_reader_print : (l : Location) → Reader.run reader l.toJson.print = .ok l
  | .variable name => by
    rw [Reader.run_print]
    rfl
  | .slot array index => by
    have read (wanted : String) (n : UInt64) :
        Reader.natural wanted 125 (natural n).node = .ok n :=
      Reader.natural_of_value? (value?_node rfl)
    rw [Reader.run_print]
    show (slotRecord.readObject 126 [(⟨"id", none⟩, (natural array).node),
      (⟨"index", none⟩, (natural index).node)] .closed >>= _) = _
    rw [Record.readObject_pair rfl rfl rfl (fun _ => rfl) fun _ _ => rfl, read, read]
    rfl

theorem ElementType.readerWithin_node (levels : Nat) : ∀ (t : ElementType) (room : Nat),
    t.toJson.depth ≤ room → room < levels → readerWithin levels room t.toJson.node = .ok t := by
  induction levels with
  | zero => exact fun _ room _ below => absurd below (Nat.not_lt_zero room)
  | succ levels ih =>
    intro t room fits below
    cases t with
    | array element =>
      have deep : (element.array).toJson.depth = element.toJson.depth + 1 :=
        congrArg (· + 1) (Nat.max_zero _)
      obtain ⟨room, rfl⟩ : ∃ inside, room = inside + 1 := ⟨room - 1, by omega⟩
      have read := ih element room (by omega) (by omega)
      show ((array <$> readerWithin levels room element.toJson.node) >>= fun t => _) = _
      rw [read]
      rfl
    | _ => rfl

theorem ElementType.run_reader_print {t : ElementType} (fits : t.toJson.depth ≤ Reader.maxOpen) :
    Reader.run reader t.toJson.print = .ok t := by
  rw [Reader.run_print]
  exact readerWithin_node _ t _ fits (Nat.lt_succ_self _)

/-! Tracked values -/

namespace Tracked

def Returns (t : Tracked) : Prop := Reader.run reader t.toJson.print = .ok t

/-- What is made of a value is read from its shape, where there is room for the value. -/
theorem whole_node_eq_ok_iff {α : Type} {f : Json → α} {room : Nat} {j : Json} {a : α} :
    Reader.whole f room j.node = .ok a ↔
      j.depth ≤ room ∧ ∃ k, j.node.value? = some k ∧ f k = a := by
  show f <$> Reader.any room j.node = .ok a ↔ _
  simp only [Reader.map_eq_ok_iff, Reader.any_eq_ok_iff]
  constructor
  · rintro ⟨k, ⟨shown, fits⟩, same⟩
    exact ⟨depth_of_node j k shown ▸ fits, k, shown, same⟩
  · rintro ⟨fits, k, shown, same⟩
    exact ⟨k, ⟨shown, depth_of_node j k shown ▸ fits⟩, same⟩

theorem reader_node_eq_ok_iff {t u : Tracked} {room : Nat} : reader room t.toJson.node = .ok u ↔
    t.toJson.depth ≤ room ∧
      (∃ j, t.value.toJson.node.value? = some j ∧ Value.ofJson j = u.value) ∧
      ∃ j, t.source.toJson.node.value? = some j ∧ Source.ofJson j = u.source := by
  obtain ⟨value, source⟩ := t
  obtain ⟨value', source'⟩ := u
  have deep : (Tracked.toJson ⟨value, source⟩).depth =
      max value.toJson.depth (max source.toJson.depth 0) + 1 := by
    rw [Tracked.toJson]
    rfl
  have node : (Tracked.toJson ⟨value, source⟩).node =
      .object [(⟨"value", none⟩, value.toJson.node), (⟨"source", none⟩, source.toJson.node)]
        .closed := by
    rw [Tracked.toJson]
    rfl
  rw [deep, node]
  cases room with
  | zero => exact ⟨nofun, fun h => absurd h.1 (Nat.not_succ_le_zero _)⟩
  | succ room =>
    show record.readObject (room + 1) _ .closed = _ ↔ _
    rw [Record.readObject_pair rfl rfl rfl (fun _ => rfl) fun _ _ => rfl]
    simp only [Reader.bind_eq_ok_iff, Reader.pure_eq_ok_iff]
    show (∃ v, Reader.whole Value.ofJson room _ = .ok v ∧
      ∃ s, Reader.whole Source.ofJson room _ = .ok s ∧ _) ↔ _
    simp only [whole_node_eq_ok_iff, Nat.add_le_add_iff_right, Nat.max_le]
    constructor
    · rintro ⟨v, ⟨fits, shown⟩, s, ⟨fits', shown'⟩, same⟩
      cases same
      exact ⟨⟨fits, fits', Nat.zero_le _⟩, shown, shown'⟩
    · rintro ⟨⟨fits, fits', -⟩, shown, shown'⟩
      exact ⟨value', ⟨fits, shown⟩, source', ⟨fits', shown'⟩, rfl⟩

theorem Returns.read {t : Tracked} (returns : t.Returns) {room : Nat}
    (fits : t.toJson.depth ≤ room) : reader room t.toJson.node = .ok t := by
  rw [Returns, Reader.run_print] at returns
  exact reader_node_eq_ok_iff.mpr ⟨fits, (reader_node_eq_ok_iff.mp returns).2⟩

theorem keptReader_node (t : Tracked) {room : Nat} :
    record.keptReader room t.toJson.node = reader room t.toJson.node := by
  obtain ⟨value, source⟩ := t
  rw [Tracked.toJson]
  rfl

theorem Returns.exists_value {t : Tracked} (returns : t.Returns) :
    ∃ j, t.toJson.node.value? = some j := by
  rw [Returns, Reader.run_print] at returns
  obtain ⟨-, ⟨j, value, -⟩, k, source, -⟩ := reader_node_eq_ok_iff.mp returns
  obtain ⟨v, s⟩ := t
  refine ⟨.object [("value", j), ("source", k)], ?_⟩
  rw [Tracked.toJson]
  show (Node.members? [(⟨"value", none⟩, v.toJson.node), (⟨"source", none⟩, s.toJson.node)]).map
    Json.object = _
  simp [Node.members?, Text.value?, value, source]

end Tracked

/-! Variables -/

namespace Variable

variable {v : Variable}

def members (v : Variable) : Members := [("name", .text v.name), ("data", v.data.toJson)]

def part (v : Variable) (met : String → Bool) : Draft where
  name := if met "name" then some v.name else none
  data := if met "data" then some v.data else none

theorem gathers (returns : v.data.Returns) (fits : v.data.toJson.depth ≤ 126) :
    record.Gathers 126 (fun name node => ∃ j, (name, j) ∈ v.members ∧ node = j.node) v.part := by
  refine ⟨rfl, ?_⟩
  unfold record
  simp only [List.forall_mem_cons]
  refine ⟨?_, ?_, nofun⟩
  · refine Record.Field.takes_of_member (j := .text v.name) v.name (by simp [members])
      (fun _ => rfl) (fun met => by simp [part]) ?_
    rintro _ rfl
    rfl
  · refine Record.Field.takes_of_member (j := v.data.toJson) v.data (by simp [members])
      (fun _ => rfl) (fun met => by simp [part]) ?_
    rintro _ rfl
    exact returns.read fits

theorem depth_toJson (v : Variable) : v.toJson.depth = v.data.toJson.depth + 1 := by
  show max 0 (max v.data.toJson.depth 0) + 1 = _
  omega

theorem run_reader_of_renders (returns : v.data.Returns) (fits : v.toJson.depth ≤ Reader.maxOpen)
    {members : Members} (renders : Renders v.members (fun _ => False) members) :
    Reader.run reader (Json.object members).print = .ok v := by
  obtain ⟨nodes, scanned, stand⟩ := exists_scan_print members
  rw [depth_toJson] at fits
  refine (gathers returns (Nat.le_of_succ_le_succ fits)).run_of_renders rfl (by decide) ?_
    (fun met absent => ?_) renders scanned stand
  · exact fun _ j same => same ▸ skip?_node j
  · have name : met "name" = true := Bool.of_not_eq_false (absent "name" (by decide))
    have data : met "data" = true := Bool.of_not_eq_false (absent "data" (by decide))
    simp only [record, part, name, data]
    rfl

/-- Nothing but its depth keeps a variable from coming back from what is printed of it. -/
theorem run_reader_print_eq_ok_iff (returns : v.data.Returns) :
    Reader.run reader v.toJson.print = .ok v ↔ v.toJson.depth ≤ Reader.maxOpen := by
  refine ⟨fun read => ?_, fun fits => run_reader_of_renders returns fits (renders_self _ _)⟩
  rw [Reader.run_print] at read
  have there : (⟨"data", none⟩, v.data.toJson.node) ∈ memberNodes v.members := by
    simp [members, memberNodes_eq]
  obtain ⟨data, read⟩ := Record.exists_read_of_readObject (r := record) "data" rfl there read
  rw [depth_toJson]
  exact Nat.succ_le_succ (Tracked.reader_node_eq_ok_iff.mp read).1

end Variable

end Replay
