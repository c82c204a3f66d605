import Replay.Proofs.World.Pause
import Replay.Session.Clock

/-!
The virtual clock beat by beat: the host does something, the first run that is ready is polled, or a
millisecond passes, which it does only when nothing is ready. Every run waits in one place at most,
and nobody is asleep whose time has come.
-/
namespace Replay

variable {σ : Type}

theorem World.Orderly.recall {w : World σ} (h : w.Orderly) (memory : σ) :
    World.Orderly { w with memory } where
  sound := h.sound
  awaits := h.awaits
  formed := h.formed.extend rfl List.prefix_rfl
  free := h.free

namespace Clocked

/-- The world in which a run is polled, and the answer of the interpreter that it is polled with. A
run that is polled for the first time has the interpreter asked. -/
def tender (interpret : Interpreting σ) (c : Clocked σ) (r : RunId) : World σ × Option Answer :=
  match c.world.session.run? r with
  | some ⟨.start _ code, .unpolled⟩ =>
    let (reply, memory) := interpret c.world.memory code
    ({ c.world with memory }, if reply.delay = 0 then some reply.answer else none)
  | some ⟨_, .fetching⟩ => (c.world, (c.pending.find? (·.1 = r)).map (·.2))
  | _ => (c.world, none)

def queued (c : Clocked σ) : List RunId :=
  c.ready ++ c.spinning ++ c.held ++ c.asleep.map (·.run)

end Clocked

inductive Beat (σ : Type) where
  | host (s : Script σ)
  | init (l : Level) (hook : Hook σ)
  /-- The first run that is ready is polled. -/
  | poll
  /-- A millisecond passes. -/
  | pass
  /-- The runs that spin look once more. -/
  | stir
  | hold (r : RunId)
  | launch (r : RunId)
  | drop (r : RunId)

namespace Beat

def act (interpret : Interpreting σ) (c : Clocked σ) : Beat σ → Clocked σ
  | .host s => (c.launching (Turn.host s).act).2
  | .init l hook => (c.launching (Turn.init l hook).act).2
  | .poll =>
    match c.ready with
    | [] => c
    | r :: rest => { c with ready := rest }.pollRun interpret r
  | .pass =>
    let now := c.now + 1
    let (due, later) := c.asleep.partition (·.wake ≤ now)
    { c with now, ready := c.ready ++ due.map (·.run), asleep := later }
  | .stir => { c with ready := c.spinning ++ c.ready, spinning := [] }
  | .hold r => c.hold r
  | .launch r => c.launch r
  | .drop r => c.drop r

/-- The clock moves when all is done that can be done, and a run is held before it is polled. -/
def may (c : Clocked σ) : Beat σ → Bool
  | .pass => c.ready.isEmpty
  | .hold r => c.ready.contains r && (c.world.session.run? r).all (·.stage matches .unpolled)
  | _ => true

def survives (interpret : Interpreting σ) (c : Clocked σ) : Beat σ → Bool
  | .host s => World.survives ((Turn.host s).act.run c.world).1
  | .init l hook => World.survives ((Turn.init l hook).act.run c.world).1
  | .poll =>
    match c.ready with
    | [] => true
    | r :: _ =>
      let (w, answer) := c.tender interpret r
      World.survives ((World.poll r answer).run w).1
  | _ => true

def Leads (interpret : Interpreting σ) (b : Beat σ) (c d : Clocked σ) : Prop :=
  b.may c = true ∧ b.survives interpret c = true ∧ b.act interpret c = d

theorem act_idle {interpret : Interpreting σ} {c : Clocked σ} (idle : c.ready = []) :
    act interpret c .poll = c := by
  unfold act
  rw [idle]

theorem act_poll {interpret : Interpreting σ} {c : Clocked σ} {r : RunId} {rest : List RunId}
    (ready : c.ready = r :: rest) :
    act interpret c .poll = { c with ready := rest }.pollRun interpret r := by
  unfold act
  rw [ready]

end Beat

inductive Passage (interpret : Interpreting σ) : Clocked σ → List (Beat σ) → Clocked σ → Prop
  | done (c : Clocked σ) : Passage interpret c [] c
  | beat {b : Beat σ} {c d e : Clocked σ} {bs : List (Beat σ)} (leads : b.Leads interpret c d)
      (rest : Passage interpret d bs e) : Passage interpret c (b :: bs) e

namespace Clocked

variable {interpret : Interpreting σ} {c d : Clocked σ} {r q : RunId}

def after (interpret : Interpreting σ) (c : Clocked σ) : List (Beat σ) → Clocked σ
  | [] => c
  | b :: bs => (b.act interpret c).after interpret bs

def outlives (interpret : Interpreting σ) (c : Clocked σ) : List (Beat σ) → Bool
  | [] => true
  | b :: bs => b.may c && b.survives interpret c && (b.act interpret c).outlives interpret bs

theorem passage_after {bs : List (Beat σ)} (h : c.outlives interpret bs = true) :
    Passage interpret c bs (c.after interpret bs) := by
  induction bs generalizing c with
  | nil => exact .done c
  | cons b bs ih =>
    unfold outlives at h
    rw [Bool.and_eq_true_iff, Bool.and_eq_true_iff] at h
    obtain ⟨⟨may, survives⟩, rest⟩ := h
    exact .beat ⟨may, survives, rfl⟩ (ih rest)

/-! The clock as a host lets it run -/

/-- What is ready is polled, one run after the other, until nothing is or there were enough
polls. -/
theorem drain_eq_after (steps : Nat) (c : Clocked σ) : ∃ polls ≤ steps,
    c.drain interpret steps = c.after interpret (List.replicate polls .poll) ∧
      (polls < steps → (c.drain interpret steps).ready = []) := by
  induction steps generalizing c with
  | zero => exact ⟨0, Nat.le_refl 0, rfl, fun lt => absurd lt (Nat.lt_irrefl 0)⟩
  | succ steps ih =>
    cases ready : c.ready with
    | nil =>
      have rests : c.drain interpret (steps + 1) = c := by
        unfold drain
        rw [ready]
      rw [rests]
      exact ⟨0, Nat.zero_le _, rfl, fun _ => ready⟩
    | cons r rest =>
      obtain ⟨polls, le, eq, rests⟩ := ih ({ c with ready := rest }.pollRun interpret r)
      have first : c.drain interpret (steps + 1) =
          ({ c with ready := rest }.pollRun interpret r).drain interpret steps := by
        conv_lhs => unfold drain
        rw [ready]
      rw [first]
      refine ⟨polls + 1, Nat.succ_le_succ le, ?_, fun lt => rests (Nat.lt_of_succ_lt_succ lt)⟩
      rw [eq, ← Beat.act_poll ready]
      rfl

theorem settle_eq_after (c : Clocked σ) : ∃ polls ≤ patience,
    c.settle interpret = c.after interpret (.stir :: List.replicate polls .poll) ∧
      (polls < patience → (c.settle interpret).ready = []) :=
  drain_eq_after patience _

/-- A millisecond on the clock is a beat, and then whatever is ready is polled. -/
theorem tick_eq_after (c : Clocked σ) : ∃ polls ≤ patience,
    c.tick interpret = c.after interpret (.pass :: .stir :: List.replicate polls .poll) ∧
      (polls < patience → (c.tick interpret).ready = []) :=
  settle_eq_after _

/-! Where runs wait -/

theorem requeue_cases (c : Clocked σ) (r : RunId) :
    (∀ purpose delay, c.world.session.run? r ≠ some ⟨purpose, .waiting delay⟩) ∧
        c.requeue r = c ∨ ∃ purpose delay, c.world.session.run? r = some ⟨purpose, .waiting delay⟩ ∧
      (delay ≠ 0 ∧ c.requeue r = { c with asleep := c.asleep ++ [⟨c.now + delay.toNat, r⟩] } ∨
        delay = 0 ∧ (spins c.world.session (Run.generation? ⟨purpose, .waiting delay⟩) = true ∧
            c.requeue r = { c with spinning := c.spinning ++ [r] } ∨
          spins c.world.session (Run.generation? ⟨purpose, .waiting delay⟩) = false ∧
            c.requeue r = { c with ready := c.ready ++ [r] })) := by
  unfold requeue
  split
  · rename_i purpose delay stands
    refine .inr ⟨purpose, delay, stands, ?_⟩
    by_cases zero : delay = 0
    · subst zero
      refine .inr ⟨rfl, ?_⟩
      cases spins c.world.session (Run.generation? ⟨purpose, .waiting 0⟩) <;> simp
    · exact .inl ⟨zero, if_pos zero⟩
  · rename_i not
    exact .inl ⟨not, rfl⟩

theorem tender_keeps (interpret : Interpreting σ) (c : Clocked σ) (r : RunId) :
    ∃ memory, (c.tender interpret r).1 = { c.world with memory } := by
  unfold tender
  split <;> exact ⟨_, rfl⟩

theorem pollRun_cases (interpret : Interpreting σ) (c : Clocked σ) (r : RunId) :
    c.pollRun interpret r = ((launching { c with world := (c.tender interpret r).1 }
        (World.poll r (c.tender interpret r).2)).2).requeue r ∨
      ∃ delay pending, delay ≠ 0 ∧ (c.tender interpret r).2 = none ∧
        (∃ purpose, c.world.session.run? r = some ⟨purpose, .unpolled⟩) ∧
        c.pollRun interpret r = { (launching { c with world := (c.tender interpret r).1 }
            (World.poll r (c.tender interpret r).2)).2 with
          asleep := c.asleep ++ [⟨c.now + delay, r⟩]
          pending } := by
  unfold pollRun tender
  cases stands : c.world.session.run? r with
  | none => exact .inl rfl
  | some run =>
    obtain ⟨purpose, stage⟩ := run
    cases stage with
    | unpolled =>
      cases purpose with
      | start generation code =>
        unfold ask
        dsimp only
        by_cases prompt : (interpret c.world.memory code).1.delay = 0
        · rw [if_pos prompt, if_pos prompt]
          exact .inl rfl
        · rw [if_neg prompt, if_neg prompt]
          exact .inr ⟨_, _, prompt, rfl, ⟨_, rfl⟩, rfl⟩
      | _ => exact .inl rfl
    | _ => cases purpose <;> exact .inl rfl

theorem requeue_keeps (c : Clocked σ) (r : RunId) :
    (c.requeue r).world = c.world ∧ (c.requeue r).now = c.now := by
  rcases requeue_cases c r with ⟨-, eq⟩ | ⟨_, _, -, ⟨-, eq⟩ | ⟨-, ⟨-, eq⟩ | ⟨-, eq⟩⟩⟩ <;>
    rw [eq] <;> exact ⟨rfl, rfl⟩

theorem requeue_grows (c : Clocked σ) (r : RunId) :
    c.ready ⊆ (c.requeue r).ready ∧ c.asleep ⊆ (c.requeue r).asleep := by
  rcases requeue_cases c r with ⟨-, eq⟩ | ⟨_, _, -, ⟨-, eq⟩ | ⟨-, ⟨-, eq⟩ | ⟨-, eq⟩⟩⟩ <;>
    rw [eq] <;> simp

theorem pollRun_grows (interpret : Interpreting σ) (c : Clocked σ) (r : RunId) :
    c.ready ⊆ (c.pollRun interpret r).ready ∧ c.asleep ⊆ (c.pollRun interpret r).asleep := by
  rcases pollRun_cases interpret c r with eq | ⟨delay, pending, -, -, -, eq⟩ <;> rw [eq]
  · obtain ⟨ready, asleep⟩ := requeue_grows (launching { c with world := (c.tender interpret r).1 }
      (World.poll r (c.tender interpret r).2)).2 r
    exact ⟨fun _ mem => ready (List.mem_append_left _ mem), asleep⟩
  · exact ⟨List.subset_append_left _ _, List.subset_append_left _ _⟩

theorem launch_keeps (c : Clocked σ) (r : RunId) : (c.launch r).world = c.world ∧
    (c.launch r).now = c.now ∧ (c.launch r).asleep = c.asleep ∧
      c.ready ⊆ (c.launch r).ready := by
  unfold launch
  split
  · exact ⟨rfl, rfl, rfl, List.subset_append_left _ _⟩
  · exact ⟨rfl, rfl, rfl, List.Subset.refl _⟩

theorem asleep_requeue {z : Sleeper} (mem : z ∈ (c.requeue r).asleep) :
    z ∈ c.asleep ∨ c.now < z.wake := by
  rcases requeue_cases c r with ⟨-, eq⟩ | ⟨_, delay, -, ⟨positive, eq⟩ | ⟨-, ⟨-, eq⟩ | ⟨-, eq⟩⟩⟩
  · exact .inl (eq ▸ mem)
  · rw [eq] at mem
    rcases List.mem_append.mp mem with old | new
    · exact .inl old
    · rw [List.mem_singleton.mp new]
      have lt : 0 < delay.toNat := Nat.pos_of_ne_zero fun zero =>
        positive (UInt64.toNat_inj.mp zero)
      exact .inr (Nat.lt_add_of_pos_right lt)
  · rw [eq] at mem
    exact .inl mem
  · rw [eq] at mem
    exact .inl mem

theorem asleep_pollRun {interpret : Interpreting σ} {z : Sleeper}
    (mem : z ∈ (c.pollRun interpret r).asleep) : z ∈ c.asleep ∨ c.now < z.wake := by
  rcases pollRun_cases interpret c r with eq | ⟨delay, pending, positive, -, -, eq⟩
  · rw [eq] at mem
    have launched := asleep_requeue mem
    exact launched
  · rw [eq] at mem
    rcases List.mem_append.mp mem with old | new
    · exact .inl old
    · rw [List.mem_singleton.mp new]
      exact .inr (Nat.lt_add_of_pos_right (Nat.pos_of_ne_zero positive))

theorem pollRun_keeps (c : Clocked σ) (r : RunId) : (c.pollRun interpret r).world =
      ((World.poll r (c.tender interpret r).2).run (c.tender interpret r).1).2 ∧
    (c.pollRun interpret r).now = c.now := by
  rcases pollRun_cases interpret c r with eq | ⟨delay, pending, -, -, -, eq⟩ <;> rw [eq]
  · exact requeue_keeps _ r
  · exact ⟨rfl, rfl⟩

theorem count_runsSince (s : Session) (n : Nat) (r : RunId) : (runsSince s n).count r ≤
    if n ≤ r.number ∧ r.number < s.runs.length then 1 else 0 := by
  have nodup : (runsSince s n).Nodup := by
    refine List.nodup_range.map fun m m' eq => ?_
    exact Nat.add_left_cancel (congrArg RunId.number eq)
  split
  · exact List.nodup_iff_count_le_one.mp nodup r
  · rename_i none
    refine Nat.le_of_eq (List.count_eq_zero.mpr fun mem => none ?_)
    obtain ⟨m, below, rfl⟩ := List.mem_map.mp mem
    have lt := List.mem_range.mp below
    dsimp only
    omega

theorem count_launching {α : Type} (c : Clocked σ) (act : Act σ α) (r : RunId) :
    (c.launching act).2.queued.count r = c.queued.count r +
      (runsSince (c.launching act).2.world.session c.world.session.runs.length).count r := by
  have launched : (c.launching act).2 = { c with
      world := (act.run c.world).2
      ready := c.ready ++ runsSince (act.run c.world).2.session c.world.session.runs.length } := rfl
  rw [launched]
  simp only [queued, List.count_append]
  omega

theorem count_requeue (c : Clocked σ) (q r : RunId) :
    (c.requeue q).queued.count r ≤ c.queued.count r + [q].count r := by
  rcases requeue_cases c q with ⟨-, eq⟩ | ⟨_, _, -, ⟨-, eq⟩ | ⟨-, ⟨-, eq⟩ | ⟨-, eq⟩⟩⟩ <;>
    rw [eq] <;> simp only [queued, List.count_append, List.map_append, List.map_cons,
      List.map_nil] <;> omega

theorem count_pollRun (interpret : Interpreting σ) (c : Clocked σ) (q r : RunId) :
    (c.pollRun interpret q).queued.count r ≤ c.queued.count r + [q].count r +
      (runsSince (c.pollRun interpret q).world.session c.world.session.runs.length).count r := by
  let before : Clocked σ := { c with world := (c.tender interpret q).1 }
  let polled := (before.launching (World.poll q (c.tender interpret q).2)).2
  have launched : polled.queued.count r = c.queued.count r +
      (runsSince polled.world.session c.world.session.runs.length).count r := by
    obtain ⟨memory, kept⟩ := c.tender_keeps interpret q
    have same : before.world.session = c.world.session := by simp only [before, kept]
    rw [← same]
    exact before.count_launching _ r
  rcases pollRun_cases interpret c q with eq | ⟨delay, pending, -, -, -, eq⟩
  · have eq : c.pollRun interpret q = polled.requeue q := eq
    have again := polled.count_requeue q r
    rw [eq, (polled.requeue_keeps q).1]
    omega
  · have eq : c.pollRun interpret q =
        { polled with asleep := polled.asleep ++ [⟨c.now + delay, q⟩], pending } := eq
    have asleep : queued { polled with
        asleep := polled.asleep ++ [⟨c.now + delay, q⟩], pending } = polled.queued ++ [q] := by
      simp only [queued, List.map_append, List.map_cons, List.map_nil, List.append_assoc]
    rw [eq, asleep, List.count_append]
    dsimp only
    omega

theorem count_move {rs : List RunId} (mem : q ∈ rs) (r : RunId) :
    (rs.filter (· ≠ q)).count r + [q].count r ≤ rs.count r := by
  by_cases same : q = r
  · subst same
    have none : (rs.filter (· ≠ q)).count q = 0 :=
      List.count_eq_zero.mpr fun mem => by simp at mem
    have some := List.count_pos_iff.mpr mem
    rw [none, List.count_singleton_self]
    omega
  · rw [List.count_singleton, beq_eq_false_iff_ne.mpr same]
    exact List.filter_sublist.count_le r

/-- A clocked world in good order: every run waits in one place at most, and nobody is asleep whose
time has come. -/
structure Regular (c : Clocked σ) : Prop where
  orderly : c.world.Orderly
  once : ∀ r, c.queued.count r ≤ if r.number < c.world.session.runs.length then 1 else 0
  late : ∀ z ∈ c.asleep, c.now < z.wake

theorem regular_start {w : World σ} (orderly : w.Orderly) : (start w).Regular where
  orderly := orderly
  once r := Nat.zero_le _
  late z mem := by cases mem

end Clocked

namespace Beat

variable {interpret : Interpreting σ} {b : Beat σ} {c d : Clocked σ}

def turn? (interpret : Interpreting σ) (c : Clocked σ) : Beat σ → Option (Turn σ)
  | .host s => some (.host s)
  | .init l hook => some (.init l hook)
  | .poll => c.ready.head?.map fun r => .poll r (c.tender interpret r).2
  | .drop r => some (.drop r)
  | .pass | .stir | .hold _ | .launch _ => none

theorem Leads.polled (h : Leads interpret .poll c d) {r : RunId} {rest : List RunId}
    (ready : c.ready = r :: rest) : d = Clocked.pollRun interpret { c with ready := rest } r ∧
      (Turn.poll r (c.tender interpret r).2).Leads (c.tender interpret r).1 d.world := by
  obtain ⟨-, survives, rfl⟩ := h
  unfold Beat.survives at survives
  rw [ready] at survives
  have world : (Clocked.pollRun interpret { c with ready := rest } r).world = _ :=
    (Clocked.pollRun_keeps _ r).1
  rw [act_poll ready]
  exact ⟨rfl, survives, world.symm⟩

/-- A beat leaves the world alone, or takes a turn in it; the interpreter may have changed its
memory before that. -/
theorem Leads.world (h : b.Leads interpret c d) :
    b.turn? interpret c = none ∧ d.world = c.world ∨
      ∃ t memory, b.turn? interpret c = some t ∧ t.Leads { c.world with memory } d.world := by
  obtain ⟨may, survives, rfl⟩ := id h
  cases b with
  | host s => exact .inr ⟨_, c.world.memory, rfl, survives, rfl⟩
  | init l hook => exact .inr ⟨_, c.world.memory, rfl, survives, rfl⟩
  | poll =>
    unfold turn?
    cases ready : c.ready with
    | nil =>
      rw [act_idle ready]
      exact .inl ⟨rfl, rfl⟩
    | cons r rest =>
      obtain ⟨memory, kept⟩ := c.tender_keeps interpret r
      refine .inr ⟨_, memory, rfl, ?_⟩
      rw [← kept]
      exact (h.polled ready).2
  | pass => exact .inl ⟨rfl, rfl⟩
  | stir => exact .inl ⟨rfl, rfl⟩
  | hold r => exact .inl ⟨rfl, rfl⟩
  | launch r => exact .inl ⟨rfl, (c.launch_keeps r).1⟩
  | drop r => exact .inr ⟨_, c.world.memory, rfl, rfl, rfl⟩

theorem Leads.length_le (h : b.Leads interpret c d) :
    c.world.session.runs.length ≤ d.world.session.runs.length := by
  rcases h.world with ⟨-, eq⟩ | ⟨t, memory, -, leads⟩
  · rw [eq]
  · exact leads.length_le

theorem Leads.generation_le (h : b.Leads interpret c d) :
    c.world.session.generation ≤ d.world.session.generation := by
  rcases h.world with ⟨-, eq⟩ | ⟨t, memory, -, leads⟩
  · rw [eq]
  · exact leads.generation_le

theorem Leads.past (h : b.Leads interpret c d) {r : RunId} {run : Run}
    (hr : c.world.session.run? r = some run) (past : run.stage.isOutstanding = false) :
    d.world.session.run? r = some run := by
  rcases h.world with ⟨-, eq⟩ | ⟨t, memory, -, leads⟩
  · rw [eq]
    exact hr
  · exact leads.past hr past

theorem Leads.count_queued (h : b.Leads interpret c d) (r : RunId) : d.queued.count r ≤
    c.queued.count r + (Clocked.runsSince d.world.session c.world.session.runs.length).count r := by
  obtain ⟨may, -, rfl⟩ := h
  cases b with
  | host s => exact Nat.le_of_eq (c.count_launching _ r)
  | init l hook => exact Nat.le_of_eq (c.count_launching _ r)
  | poll =>
    cases ready : c.ready with
    | nil =>
      rw [act_idle ready]
      exact Nat.le_add_right _ _
    | cons q rest =>
      have polled := Clocked.count_pollRun interpret { c with ready := rest } q r
      have taken : c.queued.count r =
          (Clocked.queued { c with ready := rest }).count r + [q].count r := by
        simp only [Clocked.queued, ready, List.count_append, List.count_cons, List.count_nil]
        omega
      rw [act_poll ready, taken]
      exact polled
  | pass =>
    -- whoever is due moves from one place to the other
    have parts := (List.filter_append_perm (fun z : Sleeper => decide (z.wake ≤ c.now + 1))
      c.asleep).map (·.run)
    have counts := parts.count_eq r
    rw [List.map_append, List.count_append] at counts
    simp only [act, Clocked.queued, List.partition_eq_filter_filter, List.count_append]
    simp only [Function.comp_def] at counts ⊢
    omega
  | stir =>
    simp only [act, Clocked.queued, List.count_append, List.count_nil]
    omega
  | hold q =>
    have mem : q ∈ c.ready := by
      unfold Beat.may at may
      exact List.contains_iff_mem.mp (Bool.and_eq_true_iff.mp may).1
    have moved := Clocked.count_move mem r
    simp only [act, Clocked.hold, Clocked.queued, List.count_append]
    omega
  | launch q =>
    have launched : act interpret c (.launch q) = c.launch q := rfl
    rw [launched]
    unfold Clocked.launch
    split
    · rename_i mem
      have moved := Clocked.count_move (List.contains_iff_mem.mp mem) r
      simp only [Clocked.queued, List.count_append]
      omega
    · exact Nat.le_add_right _ _
  | drop q =>
    have fewer : (c.held.filter (· ≠ q)).count r ≤ c.held.count r :=
      List.filter_sublist.count_le _
    simp only [act, Clocked.drop, Clocked.queued, List.count_append]
    omega

theorem Leads.asleep (h : b.Leads interpret c d) {z : Sleeper} (mem : z ∈ d.asleep) :
    z ∈ c.asleep ∧ (d.now = c.now ∨ d.now < z.wake) ∨ d.now = c.now ∧ c.now < z.wake := by
  obtain ⟨-, -, rfl⟩ := h
  cases b with
  | poll =>
    cases ready : c.ready with
    | nil =>
      rw [act_idle ready] at mem ⊢
      exact .inl ⟨mem, .inl rfl⟩
    | cons r rest =>
      have now : (Clocked.pollRun interpret { c with ready := rest } r).now = c.now :=
        (Clocked.pollRun_keeps _ r).2
      rw [act_poll ready] at mem ⊢
      rcases Clocked.asleep_pollRun mem with old | late
      · exact .inl ⟨old, .inl now⟩
      · exact .inr ⟨now, late⟩
  | pass =>
    simp only [act, List.partition_eq_filter_filter, List.mem_filter, Function.comp_apply,
      Bool.not_eq_true', decide_eq_false_iff_not, Nat.not_le] at mem ⊢
    exact .inl ⟨mem.1, .inr mem.2⟩
  | launch r =>
    obtain ⟨-, now, asleep, -⟩ := c.launch_keeps r
    exact .inl ⟨asleep ▸ mem, .inl now⟩
  | host | init | stir | hold | drop => exact .inl ⟨mem, .inl rfl⟩

theorem Leads.regular (h : b.Leads interpret c d) (regular : c.Regular) : d.Regular := by
  have le := h.length_le
  constructor
  · rcases h.world with ⟨-, eq⟩ | ⟨t, memory, -, leads⟩
    · rw [eq]
      exact regular.orderly
    · exact leads.orderly (regular.orderly.recall memory)
  · intro r
    have counts := h.count_queued r
    have once := regular.once r
    have made := Clocked.count_runsSince d.world.session c.world.session.runs.length r
    -- a run was there before or is among those just made, but not both
    split at once
    · rw [if_pos (by omega)]
      rw [if_neg (by omega)] at made
      omega
    · split
      · rw [if_pos (by omega)] at made
        omega
      · rw [if_neg (by omega)] at made
        omega
  · intro z mem
    rcases h.asleep mem with ⟨old, same | late⟩ | ⟨same, late⟩
    · rw [same]
      exact regular.late z old
    · exact late
    · rw [same]
      exact late

end Beat

namespace Passage

variable {interpret : Interpreting σ} {c d : Clocked σ} {bs : List (Beat σ)}

theorem regular (h : Passage interpret c bs d) (regular : c.Regular) : d.Regular := by
  induction h with
  | done => exact regular
  | beat leads _ ih => exact ih (leads.regular regular)

theorem generation_le (h : Passage interpret c bs d) :
    c.world.session.generation ≤ d.world.session.generation := by
  induction h with
  | done => exact Nat.le_refl _
  | beat leads _ ih => exact Nat.le_trans leads.generation_le ih

theorem past (h : Passage interpret c bs d) {r : RunId} {run : Run}
    (hr : c.world.session.run? r = some run) (past : run.stage.isOutstanding = false) :
    d.world.session.run? r = some run := by
  induction h with
  | done => exact hr
  | beat leads _ ih => exact ih (leads.past hr past)

end Passage

end Replay
