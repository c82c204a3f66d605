import Replay.Proofs.Session.Timeline
import Replay.Proofs.World.Discipline

/-!
Calls of module instances. A call is entered in the journal; then the variables module answers by
its reaction, and whatever foreign code does about it is a sequence of effects. Instances that are
called one after the other are called from a world that the earlier ones have left.
-/
namespace Replay

variable {σ : Type}

def Call.hear (c : Call) (before : List (Event × Trace)) : List (Event × Trace) :=
  match c with
  | .handle event history => before ++ [(event, history)]
  | .reset => []
  | .init .. | .destroy | .update _ => before

def Call.isPlay : Call → Bool
  | .handle .. | .reset => true
  | .init .. | .destroy | .update _ => false

/-- The events an instance got since its last reset, each with the history that came with it. -/
def Entry.heard (i : InstanceId) : List Entry → List (Event × Trace)
  | [] => []
  | .notice _ :: rest => heard i rest
  | .call j c :: rest => if j = i then c.hear (heard i rest) else heard i rest

def Entry.call? (i : InstanceId) : Entry → Option Call
  | .notice _ => none
  | .call j c => if j = i then some c else none

def Body.foreign? : Body σ → Option (ForeignModule σ)
  | .tracker _ => none
  | .foreign m => some m

namespace World

def tell : Option Notice → Act σ Unit
  | some n => discard (publish n)
  | none => pure ()

def heard (w : World σ) (i : InstanceId) : List (Event × Trace) := Entry.heard i w.journal

def calls (w : World σ) (i : InstanceId) : List Call := w.journal.reverse.filterMap (Entry.call? i)

/-- What the instances are, whatever state the variables module is in. -/
def cast (w : World σ) : List (Option (ForeignModule σ)) := w.instances.map Body.foreign?

variable {w w' : World σ} {i j : InstanceId} {b : Body σ} {c : Call} {m : ForeignModule σ}

theorem cast_eq_none : w.cast[i.number]? = none ↔ w.body? i = none := by
  unfold cast body?
  rw [List.getElem?_map, Option.map_eq_none_iff]

theorem cast_eq_foreign : w.cast[i.number]? = some (some m) ↔ w.body? i = some (.foreign m) := by
  unfold cast body?
  rw [List.getElem?_map, Option.map_eq_some_iff]
  constructor
  · rintro ⟨_ | _, h, eq⟩
    · cases eq
    · cases eq
      exact h
  · exact fun h => ⟨_, h, rfl⟩

theorem session_begin : (w.begin i b c).session = w.session := by
  cases b <;> rfl

theorem registry_begin : (w.begin i b c).registry = w.registry := by
  cases b <;> rfl

theorem busy_begin : (w.begin i b c).busy = w.busy := by
  cases b <;> rfl

theorem bus_begin : (w.begin i b c).bus = w.bus := by
  cases b <;> rfl

theorem heard_begin :
    (w.begin i b c).heard j = if i = j then c.hear (w.heard j) else w.heard j := by
  cases b <;> rfl

theorem calls_begin :
    (w.begin i b c).calls j = if i = j then w.calls j ++ [c] else w.calls j := by
  have journal : (w.begin i b c).journal = .call i c :: w.journal := by cases b <;> rfl
  unfold calls
  rw [journal, List.reverse_cons, List.filterMap_append]
  by_cases same : i = j
  · rw [if_pos same]
    simp [Entry.call?, same]
  · rw [if_neg same]
    simp [Entry.call?, same]

theorem heard_eq (w : World σ) (i : InstanceId) :
    w.heard i = (w.calls i).foldl (fun before c => c.hear before) [] := by
  unfold heard calls
  rw [List.filterMap_reverse, List.foldl_reverse]
  induction w.journal with
  | nil => rfl
  | cons entry rest ih =>
    cases entry with
    | notice n => exact ih
    | call j c =>
      unfold Entry.heard
      by_cases same : j = i
      · simp [Entry.call?, same, ih]
      · simp [Entry.call?, same, ih]

theorem cast_begin (h : w.body? i = some b) : (w.begin i b c).cast = w.cast := by
  cases b with
  | foreign m => rfl
  | tracker m =>
    obtain ⟨lt, here⟩ := List.getElem?_eq_some_iff.mp h
    have lt : i.number < (w.instances.map Body.foreign?).length := by
      rw [List.length_map]
      exact lt
    have same (m' : Variables) : Body.foreign? (.tracker m' : Body σ) =
        (w.instances.map Body.foreign?)[i.number] := by
      rw [List.getElem_map, here]
      rfl
    unfold cast begin setBody
    dsimp only
    rw [List.map_set, same, List.set_getElem_self]

theorem body?_begin {m : Variables} (here : w.body? i = some b) :
    (w.begin i (.tracker m) c).body? i = some (.tracker (m.respond w.renderer c).module) :=
  List.getElem?_set_self (List.getElem?_eq_some_iff.mp here).1

theorem body?_begin_of_ne (ne : i ≠ j) : (w.begin i b c).body? j = w.body? j := by
  cases b with
  | foreign m => rfl
  | tracker m => exact List.getElem?_set_ne fun same => ne (congrArg InstanceId.mk same)

theorem call_of_none (h : w.body? i = none) : (call i c).run w = (.ok (), w) := by
  unfold call
  rw [Act.run_get_bind, h]
  rfl

theorem call_of_busy (h : w.body? i = some b) (busy : w.isBusy i = true) :
    (call i c).run w = (.error .deadlock, w) := by
  unfold call
  rw [Act.run_get_bind]
  simp only [h, busy, if_true]
  rfl

theorem call_of_foreign (h : w.body? i = some (.foreign m)) (free : w.isBusy i = false) :
    (call i c).run w = (holding i (run (m.respond i c))).run (w.begin i (.foreign m) c) := by
  unfold call
  simp only [Act.run_get_bind, h, free, Bool.false_eq_true, if_false]
  rfl

/-- The variables module answers, and publishes what it has to tell in the middle of the call. -/
theorem call_of_tracker {m : Variables} (h : w.body? i = some (.tracker m))
    (free : w.isBusy i = false) : (call i c).run w =
      (holding i (tell (m.respond w.renderer c).notice)).run (w.begin i (.tracker m) c) := by
  unfold call
  simp only [Act.run_get_bind, h, free, Bool.false_eq_true, if_false]
  rw [Act.run_set_bind, run_holding, run_holding]
  unfold call.answer
  simp only [Act.run_get_bind, Act.run_set_bind]
  cases (m.respond w.renderer c).notice <;> rfl

end World

namespace Effect

variable {w : World σ} {e : Effect σ} {i : InstanceId}

theorem apply_register : ∃ registry, (Effect.register i).apply w = { w with registry } := by
  unfold apply World.register
  dsimp only
  split
  · exact ⟨_, rfl⟩
  · exact ⟨_, rfl⟩

theorem busy_apply : (e.apply w).busy = w.busy := by
  cases e with
  | register i =>
    obtain ⟨registry, eq⟩ := apply_register (w := w) (i := i)
    rw [eq]
  | _ => rfl

theorem instances_apply : (e.apply w).instances = w.instances := by
  cases e with
  | register i =>
    obtain ⟨registry, eq⟩ := apply_register (w := w) (i := i)
    rw [eq]
  | _ => rfl

theorem body?_apply : (e.apply w).body? i = w.body? i := by
  unfold World.body?
  rw [instances_apply]

theorem cast_apply : (e.apply w).cast = w.cast := by
  unfold World.cast
  rw [instances_apply]

theorem visualiser_apply : (e.apply w).visualiser = w.visualiser := by
  cases e with
  | register i =>
    obtain ⟨registry, eq⟩ := apply_register (w := w) (i := i)
    rw [eq]
  | _ => rfl

theorem calls_apply : (e.apply w).calls i = w.calls i := by
  cases e with
  | register j =>
    obtain ⟨registry, eq⟩ := apply_register (w := w) (i := j)
    rw [eq]
    rfl
  | notice n =>
    unfold World.calls apply
    dsimp only
    rw [List.reverse_cons, List.filterMap_append]
    exact List.append_nil _
  | _ => rfl

theorem heard_apply : (e.apply w).heard i = w.heard i := by
  rw [World.heard_eq, calls_apply, World.heard_eq]

end Effect

namespace Discipline

variable {D : Discipline σ} {w w' : World σ} {i : InstanceId} {is : List InstanceId} {b : Body σ}
  {c : Call}

def Moves (D : Discipline σ) (c : Call) : World σ → World σ → Prop :=
  Relation.ReflTransGen fun w w' =>
    (∃ e, D.may w e ∧ w' = e.apply w) ∨ ∃ i b, w.body? i = some b ∧ w' = w.begin i b c

/-- Those of some instances that are foreign keep to the discipline when they get a call. -/
def Answers (D : Discipline σ) (is : List InstanceId) (w : World σ) (c : Call) : Prop :=
  ∀ i ∈ is, ∀ m, w.body? i = some (.foreign m) → D.ok w (m.respond i c)

theorem Steps.moves (h : D.Steps w w') (c : Call) : D.Moves c w w' :=
  Relation.ReflTransGen.mono (fun _ _ step => .inl step) _ _ h

theorem Steps.calls (h : D.Steps w w') : w'.calls i = w.calls i := by
  induction h with
  | refl => rfl
  | tail _ step ih =>
    obtain ⟨e, -, rfl⟩ := step
    exact Effect.calls_apply.trans ih

theorem Steps.heard (h : D.Steps w w') : w'.heard i = w.heard i := by
  rw [World.heard_eq, h.calls, World.heard_eq]

/-- What neither an allowed effect nor a reaction of the variables module touches stays as it is. -/
theorem Moves.kept {α : Type} {f : World σ → α}
    (apply : ∀ {w e}, D.may w e → f (e.apply w) = f w)
    (begun : ∀ {w i b}, w.body? i = some b → f (w.begin i b c) = f w)
    (h : D.Moves c w w') : f w' = f w := by
  induction h with
  | refl => rfl
  | tail _ step ih =>
    rcases step with ⟨e, may, rfl⟩ | ⟨i, b, here, rfl⟩
    · exact (apply may).trans ih
    · exact (begun here).trans ih

theorem Moves.busy (h : D.Moves c w w') : w'.busy = w.busy :=
  h.kept (fun _ => Effect.busy_apply) fun _ => World.busy_begin

theorem Moves.cast (h : D.Moves c w w') : w'.cast = w.cast :=
  h.kept (fun _ => Effect.cast_apply) World.cast_begin

theorem Moves.grow (h : D.Moves c w w') : D.grow w w' := by
  induction h with
  | refl => exact D.grow_refl w
  | tail _ step ih =>
    rcases step with ⟨e, may, rfl⟩ | ⟨i, b, here, rfl⟩
    · exact D.grow_trans ih (D.grow_apply may)
    · exact D.grow_trans ih (D.grow_begin here c)

theorem Moves.tame (h : D.Moves c w w') (tame : D.Tame w) : D.Tame w' := by
  induction h with
  | refl => exact tame
  | tail _ step ih =>
    rcases step with ⟨e, may, rfl⟩ | ⟨i, b, here, rfl⟩
    · exact ih.apply may
    · exact ih.grow World.bus_begin (D.grow_begin here c)

theorem Moves.answers {c' : Call} (h : D.Moves c w w') (answers : D.Answers is w c') :
    D.Answers is w' c' := by
  intro i mem m here
  rw [← World.cast_eq_foreign, h.cast, World.cast_eq_foreign] at here
  exact D.ok_grow h.grow (answers i mem m here)

theorem Moves.session {allowed : Session.Command → Prop}
    (may : ∀ {w command}, D.may w (.command command) → allowed command) (h : D.Moves c w w') :
    Session.Steered allowed w.session w'.session := by
  induction h with
  | refl => exact .refl
  | tail _ step ih =>
    rcases step with ⟨e, allow, rfl⟩ | ⟨i, b, -, rfl⟩
    · cases e with
      | command command => exact ih.tail ⟨command, may allow, rfl⟩
      | register i =>
        obtain ⟨registry, eq⟩ := Effect.apply_register (i := i)
        rw [eq]
        exact ih
      | _ => exact ih
    · rw [World.session_begin]
      exact ih

/-- What foreign code does about a call, once it is entered and the variables module has
answered. -/
theorem steps_call (h : w.body? i = some b) (free : w.isBusy i = false)
    (ok : ∀ m, b = .foreign m → D.ok (w.begin i b c) (m.respond i c))
    (tame : D.Tame (w.begin i b c)) : D.Steps (w.begin i b c) ((World.call i c).run w).2 := by
  have held : D.Tame { w.begin i b c with busy := i :: w.busy } :=
    tame.grow rfl (D.grow_busy _ _)
  have unheld {v : World σ} (steps : D.Steps { w.begin i b c with busy := i :: w.busy } v) :
      D.Steps (w.begin i b c) { v with busy := w.busy } := by
    have := D.steps_of_busy steps
    rwa [World.busy_begin] at this
  cases b with
  | foreign m =>
    rw [World.call_of_foreign h free]
    exact unheld (D.steps_run (D.ok_grow (D.grow_busy _ _) (ok m rfl)) held)
  | tracker m =>
    rw [World.call_of_tracker h free]
    cases (m.respond w.renderer c).notice with
    | none => exact unheld .refl
    | some n => exact unheld (D.steps_bind (D.steps_publish n _ held) fun _ => .refl)

theorem call_cases (tame : D.Tame w) (answers : D.Answers is w c) (mem : i ∈ is) :
    w.body? i = none ∧ (World.call i c).run w = (.ok (), w) ∨
      (World.call i c).run w = (.error .deadlock, w) ∨
      ∃ b, w.body? i = some b ∧ D.Steps (w.begin i b c) ((World.call i c).run w).2 := by
  cases h : w.body? i with
  | none => exact .inl ⟨rfl, World.call_of_none h⟩
  | some b =>
    cases busy : w.isBusy i with
    | true => exact .inr (.inl (World.call_of_busy h busy))
    | false =>
      refine .inr (.inr ⟨b, rfl, D.steps_call h busy ?_ ?_⟩)
      · rintro m rfl
        exact D.ok_grow (D.grow_begin h c) (answers i mem m h)
      · exact tame.grow World.bus_begin (D.grow_begin h c)

theorem moves_call (tame : D.Tame w) (answers : D.Answers is w c) (mem : i ∈ is) :
    D.Moves c w ((World.call i c).run w).2 := by
  rcases call_cases tame answers mem with ⟨-, eq⟩ | eq | ⟨b, h, steps⟩
  · rw [eq]
    exact .refl
  · rw [eq]
    exact .refl
  · exact .head (.inr ⟨i, b, h, rfl⟩) (steps.moves c)

theorem moves_bind {α β : Type} {act : Act σ α} {f : α → Act σ β}
    (first : D.Moves c w (act.run w).2)
    (rest : ∀ a, D.Moves c (act.run w).2 ((f a).run (act.run w).2).2) :
    D.Moves c w ((act >>= f).run w).2 :=
  Act.bind_of_trans .trans first rest

theorem moves_callAll (is : List InstanceId) : ∀ {w : World σ}, D.Tame w → D.Answers is w c →
    D.Moves c w ((World.callAll c is).run w).2 := by
  induction is with
  | nil => exact fun _ _ => .refl
  | cons i rest ih =>
    intro w tame answers
    have first := moves_call tame answers List.mem_cons_self
    refine moves_bind first fun _ => ih (first.tame tame) (first.answers ?_)
    exact fun j mem => answers j (List.mem_cons_of_mem i mem)

end Discipline

namespace World

variable {w w' : World σ} {i j : InstanceId} {c : Call} {is : List InstanceId}

/-- A call is got by the called instance and by nobody else; if it comes to its end it is got. -/
theorem calls_call {result : Except Halt Unit} (h : (call i c).run w = (result, w')) :
    ∃ n, w'.calls j = w.calls j ++ List.replicate n c ∧ n ≤ [i].count j ∧
      (result = .ok () → w.body? i ≠ none → n = [i].count j) := by
  rcases Discipline.call_cases (c := c) Discipline.tame_free (fun _ _ _ _ => trivial)
    (List.mem_singleton_self i) with ⟨none, eq⟩ | eq | ⟨b, -, steps⟩
  · cases h.symm.trans eq
    exact ⟨0, (List.append_nil _).symm, Nat.zero_le _, fun _ there => absurd none there⟩
  · cases h.symm.trans eq
    exact ⟨0, (List.append_nil _).symm, Nat.zero_le _, nofun⟩
  · rw [h] at steps
    refine ⟨[i].count j, ?_, Nat.le_refl _, fun _ _ => rfl⟩
    rw [steps.calls, calls_begin, List.count_singleton]
    by_cases same : i = j
    · simp [same]
    · simp [same]

/-- Each of some instances is called as often as it stands among them, unless something is cut off;
nobody else is. -/
theorem calls_callAll {result : Except Halt Unit} (h : (callAll c is).run w = (result, w')) :
    ∃ n, w'.calls j = w.calls j ++ List.replicate n c ∧ n ≤ is.count j ∧
      (result = .ok () → (∀ i ∈ is, w.body? i ≠ none) → n = is.count j) := by
  induction is generalizing w with
  | nil =>
    cases h
    exact ⟨0, (List.append_nil _).symm, Nat.le_refl _, fun _ _ => rfl⟩
  | cons i rest ih =>
    have split : (i :: rest).count j = [i].count j + rest.count j := by
      rw [← List.singleton_append, List.count_append]
    unfold callAll at h
    rw [Act.run_bind] at h
    have moves := Discipline.moves_call (w := w) (c := c) Discipline.tame_free
      (fun _ _ _ _ => trivial) (List.mem_singleton_self i)
    generalize called : (call i c).run w = outcome at h moves
    obtain ⟨n, eq, le, all⟩ := calls_call (j := j) called
    obtain ⟨halt | _, after⟩ := outcome
    · cases h
      exact ⟨n, eq, by omega, nofun⟩
    · obtain ⟨m, eq', le', all'⟩ := ih h
      refine ⟨n + m, ?_, by omega, fun ended there => ?_⟩
      · rw [eq', eq, List.append_assoc, List.replicate_append_replicate]
      · have still : ∀ k ∈ rest, after.body? k ≠ none := fun k mem none => by
          rw [← cast_eq_none, moves.cast, cast_eq_none] at none
          exact there k (List.mem_cons_of_mem i mem) none
        rw [all rfl (there i List.mem_cons_self), all' ended still, split]

theorem heard_callAll (h : (callAll c is).run w = (.ok (), w')) (nodup : is.Nodup)
    (there : ∀ i ∈ is, w.body? i ≠ none) :
    w'.heard j = if j ∈ is then c.hear (w.heard j) else w.heard j := by
  obtain ⟨n, eq, -, all⟩ := calls_callAll (j := j) h
  rw [heard_eq, heard_eq, eq, all rfl there, nodup.count]
  split
  · rw [List.foldl_append]
    rfl
  · rw [List.replicate_zero, List.append_nil]

end World

end Replay
