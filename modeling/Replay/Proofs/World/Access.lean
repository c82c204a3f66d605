import Replay.Proofs.World.Moment
import Replay.Proofs.World.Register

/-!
Typed access to the registered modules. It never waits: at every moment, in whatever is called,
published or accessed by then, it is refused of exactly the instances in the middle of a call or of
an access, and of those that are of another kind. An instance is locked no longer than that.
-/
namespace Replay

variable {σ α : Type}

namespace World

def access (id kind : String) (f : InstanceId → Body σ → Act σ α) : Act σ (Except Error α) := do
  let w ← get
  match w.reach id kind with
  | .error e => return .error e
  | .ok (i, b) => return .ok (← holding i (f i b))

def visit (c : Call) : Act σ Unit := do
  let w ← get
  callAll c w.registry.all

/-- Which typed accesses there are to a world where some instances are locked. In the first three
cases nothing is done; in the last one the action is carried out once, while the instance is
locked. -/
def Opens (w : World σ) (locked : List InstanceId) : Prop :=
  ∀ {α : Type} (id kind : String) (f : InstanceId → Body σ → Act σ α),
    (id ∉ w.registry.ids → (access id kind f).run w = (.ok (.error (.moduleNotFound id)), w)) ∧
    (id ∈ w.registry.ids → ∃ i, w.registry.get id = .ok i ∧
      (i ∈ locked → (access id kind f).run w = (.ok (.error (.moduleBusy id)), w)) ∧
      (i ∉ locked → ∃ b, w.body? i = some b ∧
        (b.kind ≠ kind →
          (access id kind f).run w = (.ok (.error (.wrongModuleKind id kind)), w)) ∧
        (b.kind = kind → (access id kind f).run w = (((f i b).run (w.lock i)).1.map .ok,
          { ((f i b).run (w.lock i)).2 with busy := w.busy }))))

variable {w v : World σ} {id kind : String} {i : InstanceId} {f : InstanceId → Body σ → Act σ α}

theorem access_of_error {e : Error} (reach : w.reach id kind = .error e) :
    (access id kind f).run w = (.ok (.error e), w) := by
  unfold access
  rw [Act.run_get_bind, reach]
  rfl

theorem access_of_ok {b : Body σ} (reach : w.reach id kind = .ok (i, b)) :
    (access id kind f).run w =
      (((f i b).run (w.lock i)).1.map .ok, { ((f i b).run (w.lock i)).2 with busy := w.busy }) := by
  unfold access
  rw [Act.run_get_bind, reach]
  dsimp only
  rw [Act.run_bind, run_holding]
  have same : (f i b).run { w with busy := i :: w.busy } = (f i b).run (w.lock i) := rfl
  rw [same]
  cases (f i b).run (w.lock i) with
  | mk result v => cases result <;> rfl

theorem exists_get (mem : id ∈ w.registry.ids) : ∃ i, w.registry.get id = .ok i := by
  cases found : w.registry.entries.lookup id with
  | none => exact absurd mem (Registry.lookup_eq_none.mp found)
  | some i => exact ⟨i, by simp [Registry.get, found]⟩

theorem Formed.opens (formed : w.Formed) : w.Opens w.busy := by
  intro α id kind f
  constructor
  · intro fresh
    refine access_of_error ?_
    simp [reach, Registry.get, Registry.lookup_eq_none.mpr fresh]
  · intro mem
    obtain ⟨i, got⟩ := exists_get mem
    refine ⟨i, got, fun busy => access_of_error ?_, fun free => ?_⟩
    · simp [reach, got, isBusy, busy]
    · obtain ⟨b, there⟩ := Option.ne_none_iff_exists'.mp
        (formed.there (Registry.mem_all_of_get got))
      refine ⟨b, there, fun other => access_of_error ?_, fun same => access_of_ok ?_⟩
      · simp [reach, got, isBusy, free, there, other]
      · simp [reach, got, isBusy, free, there, same]

theorem exec_access (publish : Notice → Act σ Nat) (id kind : String) (body : View → Script σ)
    (k : Except Error View → Script σ) (w : World σ) :
    ((Script.access id kind body k).exec publish).run w = (do
      let found ← access id kind fun i b => do
        (body (b.view i)).exec publish
        return b.view i
      (k found).exec publish : Act σ Unit).run w := by
  simp only [Script.exec, Act.run_get_bind]
  rw [Act.run_bind]
  cases reach : w.reach id kind with
  | error e => rw [access_of_error reach]
  | ok found =>
    obtain ⟨i, b⟩ := found
    rw [access_of_ok reach]
    dsimp only
    rw [Act.run_bind, Act.run_bind, run_holding]
    have same : ((body (b.view i)).exec publish).run { w with busy := i :: w.busy } =
        ((body (b.view i)).exec publish).run (w.lock i) := rfl
    rw [same]
    generalize ((body (b.view i)).exec publish).run (w.lock i) = outcome
    obtain ⟨_ | _, v⟩ := outcome <;> rfl

theorem removeVariable_eq (w : World σ) (id name : String) : ∃ result v,
    (access id variablesKind fun i b => match b with
      | .tracker m => do
        let w ← get
        let (removed, m, renderer) := m.remove w.renderer name
        set { w.setBody i (.tracker m) with renderer }
        return Except.ok removed
      | .foreign _ => return .error (.wrongModuleKind id variablesKind)).run w =
        (.ok result, v) ∧ w.removeVariable id name = (result >>= fun removed => removed, v) := by
  unfold removeVariable
  cases reach : w.reach id variablesKind with
  | error e => exact ⟨.error e, w, access_of_error reach, rfl⟩
  | ok found =>
    obtain ⟨i, b⟩ := found
    rw [access_of_ok reach]
    cases b with
    | tracker m => exact ⟨_, _, rfl, rfl⟩
    | foreign m => exact ⟨_, _, rfl, rfl⟩

end World

namespace Moment

variable {w : World σ} {m m' : Moment σ} {f : Frame σ} {fs : List (Frame σ)}

def held (m : Moment σ) : List InstanceId := m.frames.filterMap Frame.held?

def called (m : Moment σ) : Nat := m.frames.countP Frame.isCall

/-- What keeps between the moments that follow on a world: locked is what was locked before and what
is in the middle of something, and calls are made one at a time. -/
structure Keeps (w : World σ) (m : Moment σ) : Prop where
  busy : m.world.busy = m.held ++ w.busy
  formed : m.world.Formed
  called : m.called ≤ 1
  between : ∀ {c is}, m.focus = .instances c is → m.called = 0

theorem held_cons {focus : Focus σ} {v : World σ} :
    held ⟨focus, f :: fs, v⟩ = f.held?.toList ++ fs.filterMap Frame.held? := by
  unfold held
  rw [List.filterMap_cons]
  cases f.held? <;> rfl

theorem busy_release {v : World σ} {rest : List InstanceId}
    (busy : v.busy = f.held?.toList ++ rest) : (f.release v).busy = rest := by
  unfold Frame.release
  rw [busy]
  cases f.held? with
  | none => rfl
  | some i => exact List.erase_cons_head i rest

theorem formed_release {v : World σ} (formed : v.Formed) : (f.release v).Formed :=
  formed.extend rfl List.prefix_rfl

theorem formed_lock {v : World σ} (formed : v.Formed) (i : InstanceId) : (v.lock i).Formed :=
  formed.extend rfl List.prefix_rfl

theorem formed_begin {v : World σ} {i : InstanceId} {b : Body σ} (formed : v.Formed)
    (there : v.body? i = some b) (c : Call) : (v.begin i b c).Formed :=
  formed.extend World.registry_begin ((World.cast_begin there).symm ▸ List.prefix_rfl)

theorem called_le {focus focus' : Focus σ} {v v' : World σ} :
    called ⟨focus, fs, v⟩ ≤ called ⟨focus', f :: fs, v'⟩ := by
  unfold called
  rw [List.countP_cons]
  exact Nat.le_add_right _ _

theorem Keeps.step (h : Keeps w m) (step : Step m m') : Keeps w m' := by
  obtain ⟨busy, formed, called, between⟩ := h
  cases step with
  | @goes _ _ e =>
    cases e with
    | none => exact ⟨busy, formed, called, nofun⟩
    | some e => exact ⟨Effect.busy_apply.trans busy, formed.apply e, called, nofun⟩
  | panics => exact ⟨busy, formed, called, nofun⟩
  | @publishes n => exact ⟨busy, formed.apply (.notice n), called, nofun⟩
  | overflows => exact ⟨busy, formed, called, nofun⟩
  | refused => exact ⟨busy, formed, called, nofun⟩
  | @enters _ _ _ _ i => exact ⟨congrArg (i :: ·) busy, formed_lock formed i, called, nofun⟩
  | leaves => exact ⟨busy_release busy, formed_release formed, called, nofun⟩
  | tells => exact ⟨busy, formed, called, nofun⟩
  | told => exact ⟨busy, formed, called, nofun⟩
  | published => exact ⟨busy, formed, called, nofun⟩
  | skips => exact ⟨busy, formed, called, fun _ => between rfl⟩
  | blocks => exact ⟨busy, formed, called, nofun⟩
  | @calls c i is b fs v there free =>
    have none : fs.countP Frame.isCall = 0 := between rfl
    have one : (Frame.call i c is :: fs).countP Frame.isCall = 1 := by
      rw [List.countP_cons_of_pos rfl, none]
    exact ⟨congrArg (i :: ·) (World.busy_begin.trans busy),
      formed_lock (formed_begin formed there c) i, Nat.le_of_eq one, nofun⟩
  | @returns c i is fs v =>
    have one : fs.countP Frame.isCall + 1 ≤ 1 := by
      rw [← List.countP_cons_of_pos (p := Frame.isCall) (a := Frame.call i c is) rfl]
      exact called
    have none : fs.countP Frame.isCall = 0 := by omega
    exact ⟨busy_release busy, formed_release formed, (Nat.le_of_eq none).trans (Nat.zero_le 1),
      fun _ => none⟩
  | @unwinds h f fs v passes =>
    rw [held_cons, List.append_assoc] at busy
    exact ⟨busy_release busy, formed_release formed, called_le.trans called, nofun⟩
  | catches => exact ⟨busy, formed, called, nofun⟩

theorem Keeps.steps (h : Keeps w m) (steps : Steps m m') : Keeps w m' := by
  induction steps with
  | refl => exact h
  | tail _ step ih => exact ih.step step

end Moment

inductive Undertaking (σ : Type) where
  | visit (c : Call)
  | code (s : Script σ)

namespace Undertaking

open Moment

def act : Undertaking σ → Act σ Unit
  | visit c => World.visit c
  | code s => World.run s

def start (u : Undertaking σ) (w : World σ) : Moment σ := match u with
  | visit c => ⟨.instances c w.registry.all, [], w⟩
  | code s => ⟨.code s, [], w⟩

def goal : Undertaking σ → Except Halt Unit → Focus σ
  | _, .error h => .halted h
  | visit c, .ok _ => .instances c []
  | code _, .ok _ => .code .done

theorem steps_goal (u : Undertaking σ) (w : World σ) :
    Steps (u.start w) ⟨u.goal (u.act.run w).1, [], (u.act.run w).2⟩ := by
  cases u with
  | visit c =>
    have lands : Lands ((visit c).start w) [] (fun _ => .instances c [])
        ((visit c).act.run w) := lands_callAll c w.registry.all
    generalize (visit c).act.run w = outcome at lands ⊢
    obtain ⟨_ | _, v⟩ := outcome <;> exact lands
  | code s =>
    have lands : Lands ((code s).start w) [] (fun _ => .code .done) ((code s).act.run w) :=
      lands_run s w
    generalize (code s).act.run w = outcome at lands ⊢
    obtain ⟨_ | _, v⟩ := outcome <;> exact lands

theorem keeps_start {w : World σ} (formed : w.Formed) (u : Undertaking σ) :
    Keeps w (u.start w) := by
  cases u with
  | visit c => exact ⟨rfl, formed, Nat.zero_le 1, fun _ => rfl⟩
  | code s => exact ⟨rfl, formed, Nat.zero_le 1, nofun⟩

end Undertaking

namespace World

variable {w v : World σ}

theorem run_ne_deadlock (s : Script σ) (w : World σ) :
    ((run s).run w).1 ≠ .error .deadlock :=
  (tells_exec (fun n w => publishes_publishWithin w.nesting n w) s w).free

/-- Calls wait for ever only for an instance that was locked before. -/
theorem mem_busy_of_deadlock {c : Call} {is : List InstanceId}
    (h : (callAll c is).run w = (.error .deadlock, v)) : ∃ i ∈ is, i ∈ w.busy := by
  obtain ⟨before, i, rest, u, rfl, ended, cut⟩ := callAll_error h
  have moves := w.confined_true.moves_callAll c before
  rw [ended] at moves
  refine ⟨i, List.mem_append_right _ List.mem_cons_self, ?_⟩
  cases there : u.body? i with
  | none =>
    rw [call_of_none there] at cut
    cases cut
  | some b =>
    cases busy : u.isBusy i with
    | true =>
      rw [← moves.busy]
      exact List.contains_iff_mem.mp busy
    | false =>
      rw [Moment.call_eq there busy, run_holding] at cut
      exact absurd (congrArg Prod.fst cut) (run_ne_deadlock _ _)

end World

/-- Typed access is refused, at every moment of what is begun from outside, for an id that is not
registered, then for an instance in the middle of a call or of an access, then for one of another
kind, and is granted otherwise. It never waits: calls do, and only for an instance that was locked
before they began. At the end no more is locked than at the start. -/
theorem access_never_blocks {w : World σ} (formed : w.Formed) :
    (∀ event history,
      World.broadcast event history = World.visit (σ := σ) (.handle event history)) ∧
    World.reset (σ := σ) = World.visit .reset ∧
    (∀ elapsed, World.update (σ := σ) elapsed = World.visit (.update elapsed)) ∧
    (∀ publish id kind body (k : Except Error View → Script σ) v,
      ((Script.access id kind body k).exec publish).run v = (do
        let found ← World.access id kind fun i b => do
          (body (b.view i)).exec publish
          return b.view i
        (k found).exec publish : Act σ Unit).run v) ∧
    ∀ (u : Undertaking σ) (result : Except Halt Unit) (v : World σ), u.act.run w = (result, v) →
      Moment.Steps (u.start w) ⟨u.goal result, [], v⟩ ∧ v.busy = w.busy ∧
      (result = .error .deadlock → ∃ i ∈ w.registry.all, i ∈ w.busy) ∧
      ∀ m, Moment.Steps (u.start w) m →
        m.world.busy = m.held ++ w.busy ∧ m.called ≤ 1 ∧ m.world.Opens (m.held ++ w.busy) := by
  refine ⟨fun _ _ => rfl, rfl, fun _ => rfl, World.exec_access, fun u result v ran => ?_⟩
  have reached := u.steps_goal w
  rw [ran] at reached
  have keeps {m : Moment σ} (steps : Moment.Steps (u.start w) m) : m.Keeps w :=
    (Undertaking.keeps_start formed u).steps steps
  refine ⟨reached, (keeps reached).busy, ?_, fun m steps => ?_⟩
  · rintro rfl
    cases u with
    | visit c => exact World.mem_busy_of_deadlock ran
    | code s => exact absurd (congrArg Prod.fst ran) (World.run_ne_deadlock s w)
  · obtain ⟨busy, formed, called, -⟩ := keeps steps
    exact ⟨busy, called, busy ▸ formed.opens⟩

def peeking (_ : Notice) : Script Unit :=
  .access Variables.name variablesKind (fun _ => .done) fun _ => .done

def World.overlooked : World Unit :=
  { World.new .builtin .recording {} 8 () with
    renderer := (Renderer.recording.createSurface none Variables.name).2
    instances := [.tracker (Variables.mounted ⟨⟨1⟩, Variables.name⟩), .foreign (.usurper "b")]
    registry := ⟨[(Variables.name, ⟨0⟩), ("b", ⟨1⟩)]⟩
    bus := (Bus.empty.subscribe .declared peeking).2 }

theorem World.formed_overlooked : World.overlooked.Formed := by
  refine ⟨by decide, fun {id i} mem => ?_⟩
  obtain h | h := List.mem_pair.mp mem
  · cases h
    rfl
  · cases h
    rfl

theorem access_never_blocks_of_overlooked :
    let c : Call := .handle (.init (.variable "x") ⟨.nil, .literal⟩) []
    ∃ (m : Moment Unit) (v : World Unit),
      Moment.Steps ⟨.instances c [⟨0⟩, ⟨1⟩], [], World.overlooked⟩ m ∧
      m.focus = .code (peeking (.declared "x" ⟨.nil, .literal⟩)) ∧ m.held = [⟨0⟩] ∧
      (∀ kind (f : InstanceId → Body Unit → Act Unit Unit), (World.access Variables.name kind f).run
        m.world = (.ok (.error (.moduleBusy Variables.name)), m.world)) ∧
      (∀ f : InstanceId → Body Unit → Act Unit Unit,
        (World.access "b" variablesKind f).run m.world =
          (.ok (.error (.wrongModuleKind "b" variablesKind)), m.world)) ∧
      (World.visit c).run World.overlooked = (.ok (), v) ∧ v.busy = [] := by
  intro c
  obtain ⟨-, -, -, -, all⟩ := access_never_blocks World.formed_overlooked
  have ran : (World.visit c).run World.overlooked = (.ok (), _) :=
    Act.run_eq_of_fst (by decide +kernel)
  obtain ⟨-, idle, -, opens⟩ := all (.visit c) _ _ ran
  have steps : Moment.Steps ((Undertaking.visit c).start World.overlooked)
      ⟨.code (peeking (.declared "x" ⟨.nil, .literal⟩)), _, _⟩ :=
    ((Relation.ReflTransGen.single (.calls rfl rfl)).tail (.publishes (by decide +kernel))).tail
      .tells
  obtain ⟨-, -, opens⟩ := opens _ steps
  refine ⟨_, _, steps, rfl, rfl, fun kind f => ?_, fun f => ?_, ran, idle⟩
  · obtain ⟨i, got, busy, -⟩ := (opens Variables.name kind f).2 (by decide +kernel)
    cases got
    exact busy (by decide +kernel)
  · obtain ⟨i, got, -, free⟩ := (opens "b" variablesKind f).2 (by decide +kernel)
    cases got
    obtain ⟨b, there, other, -⟩ := free (by decide +kernel)
    cases there
    exact other (by decide +kernel)

end Replay
