import Replay.Proofs.Clock.Timetable

/-!
Runs on the clock keep their timetable. A run that waits for its next look is due at some instant,
and nothing but a poll at that instant changes when; what the poll finds says when it is due again.
-/
namespace Replay

variable {σ : Type}

namespace Clocked

variable {interpret : Interpreting σ} {c d : Clocked σ} {q r : RunId} {T g n : Nat}
  {events : Trace}

def Due (c : Clocked σ) (q : RunId) (T : Nat) : Prop :=
  q ∈ c.ready ∧ c.now = T ∨ ⟨T, q⟩ ∈ c.asleep

structure Poised (c : Clocked σ) (q : RunId) (g : Nat) (events : Trace) (n T : Nat) : Prop where
  regular : c.Regular
  waits : c.world.session.Waits q
  offers : c.world.session.Offers g events n
  positive : c.world.session.config.pausePoll ≠ 0
  due : c.Due q T

theorem tender_of_waits (interpret : Interpreting σ) (waits : c.world.session.Waits q) :
    c.tender interpret q = (c.world, none) := by
  obtain ⟨⟨purpose, stage⟩, delay, hq, rfl, -⟩ := waits
  unfold tender
  rw [hq]
  cases purpose <;> rfl

/-- What comes of a look: the run is due again after the time of a poll, or when the speed has
passed, or it has ended. -/
inductive Looked (c : Clocked σ) (events : Trace) (q : RunId) (g n : Nat) (l : Look σ)
    (d : Clocked σ) : Prop
  | holds (holds : l.Holds events n) (poised : d.Poised q g events n
      (c.now + c.world.session.config.pausePoll.toNat))
  | delivers (delivers : l.Delivers events n) (poised : d.Poised q g events (n + 1)
      (c.now + d.world.session.speed.toNat))
  | ends (ends : l.Ends events n q) (rests : d.world.session.Rests q events)

theorem Looked.left_eq {l : Look σ} (h : c.Looked events q g n l d) :
    l.left.deliveries = l.found.deliveries ++ l.handed := by
  cases h with
  | holds holds =>
    exact Look.left_eq (holds.deliveries.trans (List.append_nil _).symm)
  | delivers delivers =>
    obtain ⟨event, -, handed⟩ := delivers.delivered
    exact Look.left_eq handed
  | ends ends =>
    exact Look.left_eq (ends.deliveries.trans (List.append_nil _).symm)

theorem Due.now_le (h : c.Due q T) (regular : c.Regular) : c.now ≤ T := by
  rcases h with ⟨-, now⟩ | asleep
  · exact Nat.le_of_eq now
  · exact Nat.le_of_lt (regular.late _ asleep)

theorem Due.now_eq (h : c.Due q T) (regular : c.Regular) (ready : q ∈ c.ready) : c.now = T := by
  rcases h with ⟨-, now⟩ | asleep
  · exact now
  · -- it would wait in two places
    have twice := regular.once q
    have first := List.count_pos_iff.mpr ready
    have second := List.count_pos_iff.mpr (List.mem_map.mpr ⟨_, asleep, rfl⟩ :
      q ∈ c.asleep.map (·.run))
    simp only [queued, List.count_append] at twice
    split at twice <;> omega

theorem Due.polled {rest : List RunId} (h : c.Due q T) (ready : c.ready = r :: rest)
    (ne : q ≠ r) : ({ c with ready := rest }.pollRun interpret r).Due q T := by
  have now : ({ c with ready := rest }.pollRun interpret r).now = c.now := (pollRun_keeps _ r).2
  obtain ⟨still, asleep⟩ := pollRun_grows interpret { c with ready := rest } r
  rcases h with ⟨mem, due⟩ | mem
  · rw [ready] at mem
    rcases List.mem_cons.mp mem with eq | mem
    · exact absurd eq ne
    · exact .inl ⟨still mem, now.trans due⟩
  · exact .inr (asleep mem)

/-- A millisecond later a run is due at the same instant, unless it should have been polled. -/
theorem Due.passed (h : c.Due q T) (regular : c.Regular) (idle : c.ready = []) :
    (Beat.act interpret c .pass).Due q T := by
  rcases h with ⟨mem, -⟩ | mem
  · rw [idle] at mem
    cases mem
  · have late := regular.late _ mem
    simp only [Beat.act, List.partition_eq_filter_filter]
    by_cases now : T ≤ c.now + 1
    · refine .inl ⟨List.mem_append_right _ (List.mem_map.mpr ⟨⟨T, q⟩, ?_, rfl⟩), ?_⟩
      · exact List.mem_filter.mpr ⟨mem, decide_eq_true now⟩
      · exact Nat.le_antisymm late now
    · exact .inr (List.mem_filter.mpr ⟨mem, by simpa using now⟩)

theorem due_requeue {purpose : Run.Purpose} {delay : UInt64}
    (stands : c.world.session.run? q = some ⟨purpose, .waiting delay⟩)
    (positive : c.world.session.config.pausePoll ≠ 0) :
    (c.requeue q).Due q (c.now + delay.toNat) := by
  rcases requeue_cases c q with ⟨not, -⟩ | ⟨purpose', delay', there, rest⟩
  · exact absurd stands (not _ _)
  cases stands.symm.trans there
  rcases rest with ⟨-, eq⟩ | ⟨rfl, ⟨spins, -⟩ | ⟨-, eq⟩⟩
  · rw [eq]
    exact .inr (List.mem_append_right _ List.mem_cons_self)
  · -- nobody spins where the time of a poll is not zero
    unfold Clocked.spins at spins
    rw [Bool.and_eq_true_iff, beq_iff_eq] at spins
    exact absurd spins.2 positive
  · rw [eq]
    exact .inl ⟨List.mem_append_right _ List.mem_cons_self, rfl⟩

theorem due_of_poll {purpose : Run.Purpose} {delay : UInt64}
    (asked : (c.tender interpret q).2 ≠ none ∨
      ∀ purpose, c.world.session.run? q ≠ some ⟨purpose, .unpolled⟩)
    (stands : (c.pollRun interpret q).world.session.run? q = some ⟨purpose, .waiting delay⟩)
    (positive : (c.pollRun interpret q).world.session.config.pausePoll ≠ 0) :
    (c.pollRun interpret q).Due q (c.now + delay.toNat) := by
  rcases pollRun_cases interpret c q with eq | ⟨_, _, -, answered, ⟨purpose', new⟩, -⟩
  · rw [eq, (requeue_keeps _ q).1] at stands positive
    rw [eq]
    exact due_requeue stands positive
  · rcases asked with answer | polled
    · exact absurd answered answer
    · exact absurd new (polled purpose')

end Clocked

namespace Beat

variable {interpret : Interpreting σ} {b : Beat σ} {c d : Clocked σ} {q r : RunId} {T g n : Nat}
  {events : Trace}

def polls (q : RunId) (c : Clocked σ) : Beat σ → Bool
  | .poll => c.ready.head? = some q
  | _ => false

/-- Until it is polled, a run is due at the same instant, for no time passes while it is ready. -/
theorem Leads.due (h : b.Leads interpret c d) (regular : c.Regular) (due : c.Due q T)
    (waits : c.world.session.Waits q) (other : b.polls q c = false) : d.Due q T := by
  obtain ⟨may, -, rfl⟩ := h
  have more {d : Clocked σ} (ready : c.ready ⊆ d.ready) (asleep : c.asleep ⊆ d.asleep)
      (now : d.now = c.now) : d.Due q T := by
    rcases due with ⟨mem, eq⟩ | mem
    · exact .inl ⟨ready mem, now.trans eq⟩
    · exact .inr (asleep mem)
  cases b with
  | host s => exact more (List.subset_append_left _ _) (List.Subset.refl _) rfl
  | init l hook => exact more (List.subset_append_left _ _) (List.Subset.refl _) rfl
  | poll =>
    cases ready : c.ready with
    | nil =>
      rw [act_idle ready]
      exact due
    | cons r rest =>
      rw [act_poll ready]
      refine due.polled ready ?_
      rintro rfl
      simp [polls, ready] at other
  | pass => exact due.passed regular (List.isEmpty_iff.mp may)
  | stir => exact more (List.subset_append_right _ _) (List.Subset.refl _) rfl
  | hold r =>
    have ne : q ≠ r := by
      rintro rfl
      obtain ⟨run, delay, stands, stage, -⟩ := waits
      have new := (Bool.and_eq_true_iff.mp may).2
      simp [stands, stage] at new
    rcases due with ⟨mem, now⟩ | mem
    · exact .inl ⟨List.mem_filter.mpr ⟨mem, decide_eq_true ne⟩, now⟩
    · exact .inr mem
  | launch r =>
    obtain ⟨-, now, asleep, ready⟩ := c.launch_keeps r
    refine more ready (fun z mem => ?_) now
    have launched : act interpret c (.launch r) = c.launch r := rfl
    rw [launched, asleep]
    exact mem
  | drop r => exact more (List.Subset.refl _) (List.Subset.refl _) rfl

theorem look?_of_polls (other : b.polls q c = false) : b.look? interpret q c = none := by
  cases b with
  | poll => exact if_neg (of_decide_eq_false other)
  | _ => rfl

theorem polls_turn {t : Turn σ} (turn : b.turn? interpret c = some t) :
    t.polls q = b.polls q c := by
  cases b with
  | poll =>
    obtain ⟨r, ready, rfl⟩ := Option.map_eq_some_iff.mp turn
    unfold polls
    rw [ready]
    simp [Turn.polls]
  | host | init | drop =>
    cases turn
    rfl
  | pass | stir | hold | launch => cases turn

theorem Leads.config (h : b.Leads interpret c d) :
    d.world.session.config = c.world.session.config := by
  rcases h.world with ⟨-, eq⟩ | ⟨t, memory, -, leads⟩
  · rw [eq]
  · exact leads.config

/-- Until it is polled, a run waits for the same look, and nobody else delivers events. -/
theorem Leads.poised (h : b.Leads interpret c d) (poised : c.Poised q g events n T)
    (other : b.polls q c = false) (same : d.world.session.generation = g)
    (spared : d.world.session.Spares q) :
    d.Poised q g events n T ∧ d.world.deliveries = c.world.deliveries := by
  obtain ⟨regular, waits, offers, positive, due⟩ := poised
  have config := h.config
  suffices d.world.session.Waits q ∧ d.world.session.Offers g events n ∧
      d.world.deliveries = c.world.deliveries by
    obtain ⟨waits', offers', deliveries⟩ := this
    exact ⟨⟨h.regular regular, waits', offers', config ▸ positive, h.due regular due waits other⟩,
      deliveries⟩
  rcases h.world with ⟨-, eq⟩ | ⟨t, memory, turn, leads⟩
  · rw [eq]
    exact ⟨waits, offers, rfl⟩
  · refine leads.waits (regular.orderly.recall memory) waits offers
      ((polls_turn turn).trans other) ?_ same
    rintro rfl
    obtain ⟨-, world⟩ := leads
    rw [← world] at spared
    exact waits.not_spares_drop spared

/-- A poll of a run that is about to look says when it is due again, unless it ends. -/
theorem Leads.looked {rest : List RunId} {found u : World σ} {stage : Run.Stage}
    (h : Leads interpret .poll c d) (regular : c.Regular) (ready : c.ready = q :: rest)
    (asked : (c.tender interpret q).2 ≠ none ∨
      ∀ purpose, c.world.session.run? q ≠ some ⟨purpose, .unpolled⟩)
    (positive : c.world.session.config.pausePoll ≠ 0) (faces : found.Faces q g events n)
    (config : found.session.config = c.world.session.config)
    (looks : World.Looks g found stage u)
    (eq : d.world = { u with session := u.session.settle q stage })
    (same : d.world.session.generation = g) (spared : d.world.session.Spares q) :
    c.Looked events q g n ⟨c.now, found, d.world⟩ d := by
  have session : d.world.session = u.session.settle q stage := by rw [eq]
  have deliveries : d.world.deliveries = u.deliveries := by rw [eq]; rfl
  have config' := h.config
  obtain ⟨run, hq, -⟩ := faces.plays
  have stands : d.world.session.run? q = some ⟨run.purpose, stage⟩ := by
    rw [session, Session.run?_settle, if_pos rfl, looks.glanced.run? hq]
    rfl
  have calm : stage ≠ .panicked := (spared _ stands).2
  rw [session, Session.generation_settle] at same
  -- no time passes in a poll, so the wait begins now
  have due {delay : UInt64} (waits : stage = .waiting delay) :
      d.Due q (c.now + delay.toNat) := by
    obtain ⟨eq, -⟩ := h.polled ready
    rw [waits, eq] at stands
    rw [← config', eq] at positive
    rw [eq]
    exact Clocked.due_of_poll (c := { c with ready := rest }) asked stands positive
  rcases looks.kinds faces same calm session deliveries with
    ⟨holds, stage, waits, offers⟩ | ⟨delivers, stage, waits, offers⟩ | ⟨ends, rests⟩
  · rw [config] at stage
    exact .holds holds ⟨h.regular regular, waits, offers, config' ▸ positive, due stage⟩
  · exact .delivers delivers ⟨h.regular regular, waits, offers, config' ▸ positive, due stage⟩
  · exact .ends ends rests

theorem Leads.looks_again (h : Leads interpret .poll c d) (poised : c.Poised q g events n T)
    (first : c.ready.head? = some q) (same : d.world.session.generation = g)
    (spared : d.world.session.Spares q) :
    look? interpret q c .poll = some ⟨c.now, c.world, d.world⟩ ∧
      c.Looked events q g n ⟨c.now, c.world, d.world⟩ d := by
  obtain ⟨regular, waits, offers, positive, -⟩ := poised
  obtain ⟨rest, ready⟩ := List.head?_eq_some_iff.mp first
  have tender := Clocked.tender_of_waits interpret waits
  obtain ⟨-, leads⟩ := h.polled ready
  have acted : act interpret c .poll = d := h.2.2
  constructor
  · unfold look?
    rw [if_pos first, tender, World.sight?_of_waits waits, acted]
    rfl
  rw [tender] at leads
  obtain ⟨stage, u, looks, eq⟩ := leads.looks waits
  rw [offers.generation_eq] at looks
  have faces : c.world.Faces q g events n :=
    ⟨regular.orderly.sound, regular.orderly.formed, waits.plays, offers⟩
  obtain ⟨run, delay, hq, stage, -⟩ := waits
  refine h.looked regular ready (.inr fun purpose unpolled => ?_) positive faces rfl looks eq same
    spared
  cases hq.symm.trans unpolled
  cases stage

theorem Leads.looks_first {run : Run} (h : Leads interpret .poll c d) (regular : c.Regular)
    (first : c.ready.head? = some q) (positive : c.world.session.config.pausePoll ≠ 0)
    (hq : c.world.session.run? q = some run) (new : run.isFetching = true)
    (claims : run.generation? = some c.world.session.generation)
    (answered : (c.tender interpret q).2 = some (.ok events))
    (same : d.world.session.generation = c.world.session.generation)
    (spared : d.world.session.Spares q) :
    ∃ found, found.deliveries = c.world.deliveries ∧
      look? interpret q c .poll = some ⟨c.now, found, d.world⟩ ∧
      c.Looked events q c.world.session.generation 0 ⟨c.now, found, d.world⟩ d := by
  obtain ⟨rest, ready⟩ := List.head?_eq_some_iff.mp first
  obtain ⟨memory, kept⟩ := c.tender_keeps interpret q
  obtain ⟨-, leads⟩ := h.polled ready
  have acted : act interpret c .poll = d := h.2.2
  rw [kept, answered] at leads
  obtain ⟨found, stage, u, sight, deliveries, config, faces, looks, eq⟩ :=
    leads.looks_of_fetching (regular.orderly.recall memory) hq new claims same spared
  refine ⟨found, deliveries, ?_, ?_⟩
  · unfold look?
    rw [if_pos first, kept, answered, acted]
    dsimp only at sight ⊢
    rw [sight]
    rfl
  · refine h.looked regular ready (.inl ?_) positive faces config looks eq same spared
    rw [answered]
    exact nofun

theorem Leads.rests (h : b.Leads interpret c d) (rests : c.world.session.Rests q events)
    (same : d.world.session.generation = c.world.session.generation) :
    b.look? interpret q c = none ∧ d.world.session.Rests q events ∧
      d.world.deliveries = c.world.deliveries := by
  constructor
  · cases other : b.polls q c with
    | false => exact look?_of_polls other
    | true =>
      cases b with
      | poll =>
        obtain ⟨memory, kept⟩ := c.tender_keeps interpret q
        have idle : ¬(c.tender interpret q).1.session.Plays q := by
          rw [kept]
          exact rests.idle q
        unfold look?
        rw [World.sight?_of_idle idle]
        exact ite_self _
      | _ => cases other
  · rcases h.world with ⟨-, eq⟩ | ⟨t, memory, -, leads⟩
    · rw [eq]
      exact ⟨rests, rfl⟩
    · exact leads.rests rests same

end Beat

/-- What a run has performed by some time that was due at an instant: its looks are as its
timetable has them, it is due when that says so next, unless it has ended, and all events that were
delivered meanwhile were delivered in its looks. -/
structure Punctual (events : Trace) (poll : Nat) (q : RunId) (wake n : Nat) (w : World σ)
    (looks : List (Look σ)) (d : Clocked σ) (next : Option Nat) : Prop where
  timetable : Timetable events poll q wake n looks next
  due : ∀ T, next = some T → d.Due q T ∧ d.now ≤ T
  ended : next = none → d.world.session.Rests q events
  deliveries : d.world.deliveries = w.deliveries ++ looks.flatMap Look.handed

namespace Passage

variable {interpret : Interpreting σ} {c d e : Clocked σ} {q : RunId} {T g n : Nat}
  {events : Trace} {bs : List (Beat σ)} {l : Look σ}

theorem rests (h : Passage interpret c bs e) (rests : c.world.session.Rests q events)
    (same : e.world.session.generation = c.world.session.generation) :
    c.looks interpret q bs = [] ∧ e.world.session.Rests q events ∧
      e.world.deliveries = c.world.deliveries := by
  induction h with
  | done => exact ⟨rfl, rests, rfl⟩
  | @beat b c d e bs leads rest ih =>
    have before := leads.generation_le
    have after := rest.generation_le
    obtain ⟨none, rests', deliveries⟩ := leads.rests rests (by omega)
    obtain ⟨looks, ended, later⟩ := ih rests' (by omega)
    obtain ⟨-, -, acted⟩ := leads
    refine ⟨?_, ended, later.trans deliveries⟩
    unfold Clocked.looks
    rw [none, acted, looks]
    rfl

theorem config (h : Passage interpret c bs e) :
    e.world.session.config = c.world.session.config := by
  induction h with
  | done => rfl
  | beat leads _ ih => exact ih.trans leads.config

theorem spares (h : Passage interpret c bs e) (spared : e.world.session.Spares q) :
    c.world.session.Spares q := by
  intro run hq
  constructor
  · intro dropped
    exact (spared run (h.past hq (by rw [dropped]; rfl))).1 dropped
  · intro panicked
    exact (spared run (h.past hq (by rw [panicked]; rfl))).2 panicked

theorem punctual_of_looked {poll : Nat} {ls : List (Look σ)}
    (looked : c.Looked events q g n l d) (instant : l.instant = c.now) (left : l.left = d.world)
    (quiet : l.found.deliveries = c.world.deliveries)
    (interval : c.world.session.config.pausePoll.toNat = poll)
    (goes : ∀ n T, d.Poised q g events n T →
      ∃ next, Punctual events poll q T n d.world ls e next)
    (ends : d.world.session.Rests q events → ls = [] ∧ e.world.session.Rests q events ∧
      e.world.deliveries = d.world.deliveries) :
    ∃ next, Punctual events poll q c.now n c.world (l :: ls) e next := by
  subst interval
  have handed {after : List (InstanceId × Event × Trace)}
      (later : e.world.deliveries = d.world.deliveries ++ after) :
      e.world.deliveries = c.world.deliveries ++ (l.handed ++ after) := by
    rw [later, ← left, looked.left_eq, quiet, List.append_assoc]
  cases looked with
  | holds holds poised =>
    obtain ⟨next, timetable, due, ended, deliveries⟩ := goes n _ poised
    exact ⟨next, timetable.hold instant holds, due, ended, handed deliveries⟩
  | delivers delivers poised =>
    obtain ⟨next, timetable, due, ended, deliveries⟩ := goes (n + 1) _ poised
    rw [← instant, ← left] at timetable
    have now : l.instant = c.now + 0 * c.world.session.config.pausePoll.toNat := by
      rw [instant, Nat.zero_mul, Nat.add_zero]
    exact ⟨next, .delivers .nil now delivers timetable, due, ended, handed deliveries⟩
  | ends last rests =>
    obtain ⟨rfl, rests', deliveries⟩ := ends rests
    have none : e.world.deliveries = d.world.deliveries ++ [] :=
      deliveries.trans (List.append_nil _).symm
    exact ⟨.none, .ends instant last, nofun, fun _ => rests', handed none⟩

theorem punctual (h : Passage interpret c bs e) (poised : c.Poised q g events n T)
    (same : e.world.session.generation = g) (spared : e.world.session.Spares q) :
    ∃ next, Punctual events c.world.session.config.pausePoll.toNat q T n c.world
      (c.looks interpret q bs) e next := by
  -- by induction on the beats; the run stays poised for the same instant until it is polled, and
  -- what it then finds says for which instant it is poised next
  induction h generalizing n T with
  | done c =>
    refine ⟨some T, ?_, ?_, nofun, (List.append_nil _).symm⟩
    · have waits := Timetable.waits (Look.HeldUp.nil : Look.HeldUp events
        c.world.session.config.pausePoll.toNat n T ([] : List (Look σ))) (q := q)
      rwa [List.length_nil, Nat.zero_mul, Nat.add_zero] at waits
    · rintro T' ⟨⟩
      exact ⟨poised.due, poised.due.now_le poised.regular⟩
  | @beat b c d e bs leads rest ih =>
    have before := leads.generation_le
    have after := rest.generation_le
    rw [poised.offers.generation_eq] at before
    have same' : d.world.session.generation = g := by omega
    have spared' := rest.spares spared
    have acted : b.act interpret c = d := leads.2.2
    unfold Clocked.looks
    rw [acted]
    cases other : b.polls q c with
    | false =>
      obtain ⟨poised', quiet⟩ := leads.poised poised other same' spared'
      obtain ⟨next, timetable, due, ended, deliveries⟩ := ih poised' same spared
      rw [leads.config] at timetable
      rw [Beat.look?_of_polls other]
      exact ⟨next, timetable, due, ended, quiet ▸ deliveries⟩
    | true =>
      cases b with
      | poll =>
        -- it is polled when it is ready, so its instant has come
        have first : c.ready.head? = some q := of_decide_eq_true other
        have now : c.now = T :=
          poised.due.now_eq poised.regular (List.mem_of_mem_head? first)
        obtain ⟨looks, looked⟩ := leads.looks_again poised first same' spared'
        rw [looks, ← now]
        refine punctual_of_looked looked rfl rfl rfl rfl (fun n T poised' => ?_) fun rests => ?_
        · rw [← leads.config]
          exact ih poised' same spared
        · exact rest.rests rests (same.trans same'.symm)
      | _ => cases other

end Passage

/-- Wherever a run gets its trace, and whatever is done after that, as long as it is neither dropped
nor overtaken by another start nor cut off by a panic, it keeps the timetable that begins at that
instant: it looks at the instants which that names and at no others, and nothing is delivered but in
these looks. -/
theorem playback_keeps_time {interpret : Interpreting σ} {catalog : Catalog σ}
    {renderer : Renderer} {config : Playback.Config} {nesting : Nat} {memory : σ}
    {before bs : List (Beat σ)} {c d : Clocked σ} {q : RunId} {run : Run} {events : Trace}
    (positive : config.pausePoll ≠ 0)
    (reached : Passage interpret (.start (.new catalog renderer config nesting memory)) before c)
    (first : c.ready.head? = some q) (hq : c.world.session.run? q = some run)
    (new : run.isFetching = true)
    (claims : run.generation? = some c.world.session.generation)
    (answered : (c.tender interpret q).2 = some (.ok events))
    (passed : Passage interpret c (.poll :: bs) d)
    (same : d.world.session.generation = c.world.session.generation)
    (spared : d.world.session.Spares q) :
    ∃ next, Punctual events config.pausePoll.toNat q c.now 0 c.world
      (c.looks interpret q (.poll :: bs)) d next := by
  have regular : c.Regular := reached.regular
    (Clocked.regular_start (World.orderly_new catalog renderer config nesting memory))
  have interval : c.world.session.config = config := reached.config
  cases passed with
  | @beat _ _ e _ _ leads rest =>
    have le := leads.generation_le
    have le' := rest.generation_le
    have same' : e.world.session.generation = c.world.session.generation := by omega
    have spared' := rest.spares spared
    have acted : Beat.act interpret c .poll = e := leads.2.2
    rw [← interval] at positive
    obtain ⟨found, quiet, looks, looked⟩ :=
      leads.looks_first regular first positive hq new claims answered same' spared'
    unfold Clocked.looks
    rw [acted, looks]
    refine Passage.punctual_of_looked looked rfl rfl quiet (by rw [interval])
      (fun n T poised => ?_) fun rests => ?_
    · rw [← interval, ← leads.config]
      exact rest.punctual poised same spared
    · exact rest.rests rests (same.trans same'.symm)

def Interpreting.prompt : Interpreting Unit := fun memory _ => (⟨.ok Trace.twice, 0⟩, memory)

def Clocked.slowing : Clocked Unit :=
  (Clocked.start (World.new .builtin .recording ⟨1, 2⟩ 8 ())).after .prompt
    [.init ⟨"level", "", "", "code", [Variables.name]⟩
        fun _ => .subscribe .declared (fun _ => .setSpeed 3 .done) fun _ => .done,
      .host (.start fun _ => .done)]

def Beat.steering : List (Beat Unit) :=
  [.host (.setSpeed 4 .done), .pass, .pass, .host (.pause .done), .pass, .poll, .pass,
    .host (.resume fun _ => .done), .poll, .pass, .poll, .host (.pause .done), .pass, .pass, .pass,
    .pass, .poll]

def Clocked.steered : Clocked Unit := Clocked.slowing.after .prompt (.poll :: Beat.steering)

theorem playback_keeps_time_of_steering :
    (Clocked.slowing.looks .prompt ⟨0⟩ (.poll :: Beat.steering)).map (·.instant) = [0, 3, 5, 9] ∧
      ∃ next, Punctual Trace.twice 2 ⟨0⟩ 0 0 Clocked.slowing.world
        (Clocked.slowing.looks .prompt ⟨0⟩ (.poll :: Beat.steering)) Clocked.steered next := by
  refine ⟨by decide +kernel, ?_⟩
  have reached : Passage .prompt (.start (.new .builtin .recording ⟨1, 2⟩ 8 ())) _
      Clocked.slowing := Clocked.passage_after (by decide +kernel)
  have passed : Passage .prompt Clocked.slowing (.poll :: Beat.steering) Clocked.steered :=
    Clocked.passage_after (by decide +kernel)
  have here : (Clocked.slowing.world.session.run? ⟨0⟩).any (fun run => run.isFetching &&
      run.generation? == some Clocked.slowing.world.session.generation) = true := by
    decide +kernel
  obtain ⟨run, hq, goes⟩ := (Option.any_eq_true _ _).mp here
  rw [Bool.and_eq_true_iff, beq_iff_eq] at goes
  have kept : Clocked.steered.world.session.Spares ⟨0⟩ :=
    Session.spares_of_all (by decide +kernel)
  have now : Clocked.slowing.now = 0 := by decide +kernel
  have answered : (Clocked.slowing.tender .prompt ⟨0⟩).2 = some (.ok Trace.twice) := by
    cbv
  have keeps := playback_keeps_time (by decide) reached (by decide +kernel) hq goes.1 goes.2
    answered passed (by decide +kernel) kept
  rwa [now] at keeps

end Replay
