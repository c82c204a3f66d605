import Replay.Proofs.Json.Gathering
import Replay.Proofs.World.Refusal

/-!
Levels from texts. A level is read from every text that spells its members, in any order and among
any others, if it is a valid one; otherwise what is wrong with it is told.
-/
namespace Replay.Level

open Json

variable {l : Level}

def members (l : Level) : Members :=
  [("id", .text l.id), ("title", .text l.title), ("objective", .text l.objective),
    ("initialCode", .text l.code), ("modules", texts l.modules)]

def part (l : Level) (met : String → Bool) : Draft where
  id := if met "id" then some l.id else none
  title := if met "title" then some l.title else none
  objective := if met "objective" then some l.objective else none
  code := if met "initialCode" then some l.code else none
  modules := if met "modules" then some l.modules else none

theorem gathers (l : Level) : record.Gathers 126
    (fun name node => ∃ j, (name, j) ∈ l.members ∧ Presents node j) l.part := by
  refine ⟨rfl, ?_⟩
  unfold record
  simp only [List.forall_mem_cons]
  refine ⟨?_, ?_, ?_, ?_, ?_, nofun⟩
  · exact Record.Field.takes_of_member l.id (by simp [members]) (fun _ => rfl)
      (fun met => by simp [part]) fun _ shown => Reader.text_of_value? (shown.value rfl)
  · exact Record.Field.takes_of_member l.title (by simp [members]) (fun _ => rfl)
      (fun met => by simp [part]) fun _ shown => Reader.text_of_value? (shown.value rfl)
  · exact Record.Field.takes_of_member l.objective (by simp [members]) (fun _ => rfl)
      (fun met => by simp [part]) fun _ shown => Reader.text_of_value? (shown.value rfl)
  · exact Record.Field.takes_of_member l.code (by simp [members]) (fun _ => rfl)
      (fun met => by simp [part]) fun _ shown => Reader.text_of_value? (shown.value rfl)
  · exact Record.Field.takes_of_member l.modules (by simp [members]) (fun _ => rfl)
      (fun met => by simp [part]) fun _ shown =>
        Reader.texts_of_value? (shown.value (floats_texts _))

theorem build_part {met : String → Bool} (all : ∀ name ∈ record.names, met name = true) :
    record.build (l.part met) = .ok l := by
  have id := all "id" (by decide)
  have title := all "title" (by decide)
  have objective := all "objective" (by decide)
  have code := all "initialCode" (by decide)
  have modules := all "modules" (by decide)
  unfold part
  rw [id, title, objective, code, modules]
  rfl

theorem run_reader_of_renders {members : Members} {text : String}
    (renders : Renders l.members (fun _ => False) members)
    (spells : IsText (.object members) text) : Reader.run record.reader text = .ok l := by
  refine l.gathers.run_of_isText rfl (by decide) (fun met absent => ?_) renders spells
  exact build_part fun name named => Bool.of_not_eq_false (absent name named)

/-! What is wrong with a level -/

/-- Whether a list has at a position what it has at an earlier one. -/
def RepeatsAt (names : List String) (k : Nat) : Prop :=
  ∃ i < k, k < names.length ∧ names[i]? = names[k]?

instance (names : List String) (k : Nat) : Decidable (RepeatsAt names k) :=
  inferInstanceAs (Decidable (∃ i < k, k < names.length ∧ names[i]? = names[k]?))

theorem firstRepeated_eq_some_iff {names : List String} {again : String} :
    firstRepeated [] names = some again ↔
      ∃ k, names[k]? = some again ∧ RepeatsAt names k ∧ ∀ i < k, ¬RepeatsAt names i := by
  rw [firstRepeated_eq_some]
  constructor
  · rintro ⟨front, back, rfl, once, -, before⟩
    have mem := before.resolve_right List.not_mem_nil
    have here : (front ++ again :: back)[front.length]? = some again := by simp
    have inFront {i : Nat} (lt : i < front.length) :
        (front ++ again :: back)[i]? = front[i]? := List.getElem?_append_left lt
    refine ⟨front.length, here, ?_, ?_⟩
    · obtain ⟨i, earlier⟩ := List.getElem?_of_mem mem
      have lt := (List.getElem?_eq_some_iff.mp earlier).1
      exact ⟨i, lt, by simp, by rw [inFront lt, here, earlier]⟩
    · rintro k lt ⟨i, earlier, -, same⟩
      rw [inFront lt, inFront (Nat.lt_trans earlier lt)] at same
      exact List.nodup_iff_getElem?_ne_getElem?.mp once i k earlier lt same
  · rintro ⟨k, here, ⟨i, earlier, -, same⟩, first⟩
    obtain ⟨lt, at'⟩ := List.getElem?_eq_some_iff.mp here
    have front {j : Nat} (before : j < k) : (names.take k)[j]? = names[j]? :=
      List.getElem?_take_of_lt before
    refine ⟨names.take k, names.drop (k + 1), ?_, ?_, fun _ _ => List.not_mem_nil, .inl ?_⟩
    · rw [← at', List.getElem_cons_drop, List.take_append_drop]
    · refine List.nodup_iff_getElem?_ne_getElem?.mpr fun i j lt' below same' => ?_
      have below : j < k := Nat.lt_of_lt_of_le below (List.length_take_le k names)
      rw [front below, front (Nat.lt_trans lt' below)] at same'
      exact first j below ⟨i, lt', Nat.lt_trans below lt, same'⟩
    · exact List.mem_of_getElem? ((front earlier).trans (same.trans here))

theorem isBlankText_eq_false {s : String} :
    Text.isBlankText s = false ↔ ∃ c ∈ s.toList, Text.isBlank c = false :=
  List.all_eq_false.trans (by simp)

theorem validate_eq_ok : l.validate = .ok () ↔
    (∃ c ∈ l.id.toList, Text.isBlank c = false) ∧ l.modules.Nodup := by
  have once : firstRepeated [] l.modules = none ↔ l.modules.Nodup := by
    simp [firstRepeated_eq_none]
  rw [← isBlankText_eq_false, ← once]
  unfold validate
  cases Text.isBlankText l.id with
  | true => exact ⟨nofun, fun h => nomatch h.1⟩
  | false => cases firstRepeated [] l.modules <;> simp

theorem validate_eq_error {e : Error} : l.validate = .error e ↔
    (∀ c ∈ l.id.toList, Text.isBlank c = true) ∧
        e = .invalidLevel l.title "level id is empty" ∨
      (∃ c ∈ l.id.toList, Text.isBlank c = false) ∧ ∃ k name, l.modules[k]? = some name ∧
        RepeatsAt l.modules k ∧ (∀ i < k, ¬RepeatsAt l.modules i) ∧
        e = .invalidLevel l.id ("module " ++ name ++ " is listed more than once") := by
  have blank : (∀ c ∈ l.id.toList, Text.isBlank c = true) ↔ Text.isBlankText l.id = true :=
    List.all_eq_true.symm
  have first (P : String → Prop) : (∃ k name, l.modules[k]? = some name ∧ RepeatsAt l.modules k ∧
      (∀ i < k, ¬RepeatsAt l.modules i) ∧ P name) ↔
      ∃ name, firstRepeated [] l.modules = some name ∧ P name := by
    constructor
    · rintro ⟨k, name, here, again, least, holds⟩
      exact ⟨name, firstRepeated_eq_some_iff.mpr ⟨k, here, again, least⟩, holds⟩
    · rintro ⟨name, found, holds⟩
      obtain ⟨k, here, again, least⟩ := firstRepeated_eq_some_iff.mp found
      exact ⟨k, name, here, again, least, holds⟩
  rw [blank, ← isBlankText_eq_false, first]
  unfold validate
  cases Text.isBlankText l.id with
  | true => simp [eq_comm]
  | false => cases firstRepeated [] l.modules <;> simp [eq_comm]

/-- A level is accepted from a text of its members, in any order and among any others, just if it
is valid, and what is wrong with it is told otherwise. It is valid if some character of its id is
not white space and no module is listed twice. An id that is blank is told first, by the title;
of the modules it is the first to stand at a position behind another of its name. -/
theorem parse_accepts_valid (l : Level) :
    l.toJson = .object l.members ∧
    (∀ members text, Renders l.members (fun _ => False) members →
      IsText (.object members) text → parse text = l.validate.map fun _ => l) ∧
    (l.validate = .ok () ↔
      (∃ c ∈ l.id.toList, Text.isBlank c = false) ∧ l.modules.Nodup) ∧
    ∀ e, l.validate = .error e ↔
      (∀ c ∈ l.id.toList, Text.isBlank c = true) ∧
          e = .invalidLevel l.title "level id is empty" ∨
        (∃ c ∈ l.id.toList, Text.isBlank c = false) ∧ ∃ k name, l.modules[k]? = some name ∧
          RepeatsAt l.modules k ∧ (∀ i < k, ¬RepeatsAt l.modules i) ∧
          e = .invalidLevel l.id ("module " ++ name ++ " is listed more than once") := by
  refine ⟨rfl, fun members text renders spells => ?_, validate_eq_ok, fun e => validate_eq_error⟩
  unfold parse
  rw [run_reader_of_renders renders spells]
  show (l.validate >>= fun _ => pure l) = _
  cases l.validate <;> rfl

def crowded : Level :=
  ⟨"loops", "Loops", "Count to three", "", ["output", "variables", "variables", "output"]⟩

theorem parse_accepts_valid_of_crowded :
    parse (Json.object (("hints", .list [.null]) :: crowded.members.reverse)).print =
      .error (.invalidLevel "loops" "module variables is listed more than once") := by
  obtain ⟨-, parsed, -, told⟩ := parse_accepts_valid crowded
  have renders : Renders crowded.members (fun _ => False)
      (("hints", .list [.null]) :: crowded.members.reverse) := by
    refine ⟨crowded.members, [("hints", .list [.null])], ?_, .refl _, ?_, by decide⟩
    · exact ((List.reverse_perm _).cons _).trans (List.perm_append_singleton _ _).symm
    · exact fun _ mem out => absurd mem out
  have named : ∃ c ∈ crowded.id.toList, Text.isBlank c = false :=
    ⟨'l', List.mem_cons_self, by decide⟩
  rw [parsed _ _ renders (.inl rfl),
    (told _).mpr (.inr ⟨named, 2, "variables", rfl, by decide, by decide, rfl⟩)]
  rfl

end Replay.Level
