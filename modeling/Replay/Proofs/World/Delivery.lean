import Mathlib
import Replay.Proofs.Session.Evolution
import Replay.Proofs.World.Lasting

/-!
Delivery. However runs are made, polled and dropped, and whatever listeners ask of the session in
the middle of a delivery: since its last reset, every registered module has got exactly the events
that the index counts, in their order, each with the history that belongs to it.
-/
namespace Replay

variable {σ : Type}

namespace Trace

def handed (events : Trace) (count : Nat) : List (Event × Trace) :=
  (events.take count).mapIdx fun k event => (event, events.take (k + 1))

theorem handed_succ {events : Trace} {n : Nat} {event : Event} (h : events[n]? = some event) :
    events.handed (n + 1) = events.handed n ++ [(event, events.take (n + 1))] := by
  have lt : n < events.length := (List.getElem?_eq_some_iff.mp h).1
  have length : (events.take n).length = n := List.length_take_of_le (Nat.le_of_lt lt)
  unfold handed
  rw [List.take_add_one, h, Option.toList_some, List.mapIdx_concat, length, List.take_add_one, h]
  rfl

theorem length_handed (events : Trace) (n : Nat) :
    (events.handed n).length = min n events.length := by
  unfold handed
  rw [List.length_mapIdx, List.length_take]

theorem map_fst_handed (events : Trace) (count : Nat) :
    (events.handed count).map Prod.fst = events.take count := by
  unfold handed
  refine List.ext_getElem? fun k => ?_
  rw [List.getElem?_map, List.getElem?_mapIdx, Option.map_map]
  exact Option.map_id'

end Trace

namespace World

variable {v w : World σ} {i : InstanceId}

theorem heard_of_broadcast {event : Event} {history : Trace} (formed : w.Formed)
    (told : (broadcast event history).run w = (.ok (), v)) (mem : i ∈ w.registry.all) :
    v.heard i = w.heard i ++ [(event, history)] := by
  have all : (callAll (.handle event history) w.registry.all).run w = (.ok (), v) := told
  rw [heard_callAll all formed.all_nodup fun _ => formed.there, if_pos mem]
  rfl

theorem heard_of_reset (formed : w.Formed) (told : reset.run w = (.ok (), v))
    (mem : i ∈ w.registry.all) : v.heard i = [] := by
  have all : (callAll .reset w.registry.all).run w = (.ok (), v) := told
  rw [heard_callAll all formed.all_nodup fun _ => formed.there, if_pos mem]
  rfl

end World

def Session.Answered (interpret : Interpretation) (s : Session) : Prop :=
  s.loaded = true →
    ∃ r code, s.lastStart? = some (r, code) ∧ interpret r code = .ok s.events

namespace Session

variable {interpret : Interpretation} {s t : Session} {generation : Nat}

theorem Answered.follows (h : s.Answered interpret) (follows : s.Follows t) :
    t.Answered interpret := by
  intro loaded
  rcases follows with ⟨-, loaded', events, -, last⟩ | ⟨-, unloaded⟩
  · rw [last, events]
    exact h (loaded'.symm.trans loaded)
  · cases loaded.symm.trans unloaded

theorem loaded_settle (s : Session) (r : RunId) (stage : Run.Stage) :
    (s.settle r stage).loaded = s.loaded := by
  rw [settle_eq]
  rfl

theorem Answered.glanced (h : s.Answered interpret) (glanced : s.Glanced generation t) :
    t.Answered interpret := by
  obtain ⟨u, steered, eq⟩ := glanced
  have before : u.Answered interpret := h.follows steered.follows
  rcases eq with rfl | ⟨-, -, rfl⟩
  · exact before
  · rw [advance_eq]
    exact before

end Session

namespace World

variable {v w : World σ} {generation : Nat} {stage : Run.Stage} {r : RunId} {run : Run}
  {interpret : Interpretation}

theorem Receives.answered {a : Answer} {code : String} (orderly : w.Orderly)
    (receives : Receives generation a w stage v) (hr : w.session.run? r = some run)
    (purpose : run.purpose = .start generation code) (answers : a = interpret r code)
    (h : w.session.Answered interpret) : v.session.Answered interpret := by
  -- the run that gets the answer was made by the latest start
  have taken (current : w.session.generation = generation) {events : Trace}
      (success : a = .ok events) : (w.session.load events).Answered interpret :=
    fun _ => ⟨r, code, orderly.sound.latest hr (current ▸ purpose), answers ▸ success⟩
  cases receives with
  | stale => exact h
  | failed _ _ told => exact h.follows (t := v.session) (tended_of_reset told).session.follows
  | loaded current success told looks =>
    exact ((taken current success).follows (tended_of_reset told).session.follows).glanced
      looks.glanced
  | broken current from' told =>
    rcases from' with rfl | ⟨events, success, rfl⟩
    · exact h.follows (t := v.session) (tended_of_reset told).session.follows
    · exact (taken current success).follows (tended_of_reset told).session.follows

end World

theorem Turn.Leads.answered {interpret : Interpretation} {t : Turn σ} {w v : World σ}
    (leads : t.Leads w v) (orderly : w.Orderly) (answers : t.Answers interpret w)
    (h : w.session.Answered interpret) : v.session.Answered interpret := by
  rcases Turn.leads_cases leads with tended | ⟨r, -, rfl⟩ | ⟨r, answer, rfl, rfl | progressed⟩
  · exact h.follows tended.session.follows
  · exact h.follows (Session.follows_drop _ r)
  · exact h
  obtain ⟨run, stage, u, hr, -, progresses, rfl⟩ := progressed
  have answered : u.session.Answered interpret := by
    cases progresses with
    | fetched purpose new answered receives =>
      exact receives.answered orderly hr purpose (answers _ answered run _ _ hr purpose) h
    | unanswered => exact h
    | played _ _ looks => exact h.glanced looks.glanced
    | idle => exact h
  exact answered.follows (Session.follows_settle _ r stage)

theorem Turn.Leads.evolves {t : Turn σ} {w v : World σ} (leads : t.Leads w v) :
    w.session.Evolves (fun _ => True) v.session := by
  rcases Turn.leads_cases leads with tended | ⟨r, -, rfl⟩ | ⟨r, answer, -, rfl | progressed⟩
  · exact tended.session.evolves
  · exact Session.evolves_drop _ r
  · exact .refl
  · obtain ⟨run, stage, u, -, -, progresses, rfl⟩ := progressed
    exact progresses.progressed.evolves.tail (.settled r stage)

theorem Course.evolves {allowed : World σ → Turn σ → Prop} {w v : World σ} {ts : List (Turn σ)}
    (h : Course allowed w ts v) : w.session.Evolves (fun _ => True) v.session := by
  induction h with
  | done => exact .refl
  | turn _ leads _ ih => exact leads.evolves.trans ih

theorem Course.each_calm {allowed : World σ → Turn σ → Prop} {w v : World σ} {ts : List (Turn σ)}
    (h : Course allowed w ts v) (calm : w.session.Calm v.session) :
    Course (fun u t => allowed u t ∧ ∀ x, t.Leads u x → u.session.Calm x.session) w ts v := by
  induction h with
  | done => exact .done _
  | turn may leads rest ih =>
    refine .turn ⟨may, ?_⟩ leads (ih (leads.calm calm))
    rintro x ⟨-, rfl⟩
    exact leads.2 ▸ rest.calm calm

namespace World

variable {v w : World σ} {generation : Nat} {stage : Run.Stage} {r : RunId} {run : Run}
  {interpret : Interpretation}

/-- What was heard since the last reset are the events that the index counts, but for some at the
front; how many of them are missed is a matter of the generation. -/
structure Told (missed : Nat → Nat) (w : World σ) : Prop where
  later : ∀ g, w.session.generation < g → missed g = 0
  unloaded : w.session.loaded = false → missed w.session.generation = 0
  delivered : w.session.loaded = true → missed w.session.generation ≤ w.session.index ∧
    ∀ i ∈ w.registry.all, w.heard i =
      (w.session.events.handed w.session.index).drop (missed w.session.generation)

/-- The same of some of the instances, of which ones is a matter of the generation too. -/
structure Attends (missed : Nat → Nat) (among : Nat → InstanceId → Prop) (w : World σ) :
    Prop where
  later : ∀ g, w.session.generation < g → missed g = 0
  unloaded : w.session.loaded = false → missed w.session.generation = 0
  delivered : w.session.loaded = true → missed w.session.generation ≤ w.session.index ∧
    ∀ i ∈ w.registry.all, among w.session.generation i → w.heard i =
      (w.session.events.handed w.session.index).drop (missed w.session.generation)

/-- Whether some instances are spared on the way from one world to another: no run panics, or they
hear of no event and are reset if there is a trace to begin with. -/
def Spares (among : InstanceId → Prop) (w v : World σ) : Prop :=
  w.session.Calm v.session ∨ (v.session.loaded = true → ∀ i ∈ w.registry.all, among i →
    v.heard i = if w.session.loaded = true then w.heard i else [])

variable {missed : Nat → Nat} {among : Nat → InstanceId → Prop}

theorem told_iff : w.Told missed ↔ w.Attends missed fun _ _ => True := by
  constructor
  · exact fun h => ⟨h.later, h.unloaded, fun loaded =>
      (h.delivered loaded).imp_right fun all i mem _ => all i mem⟩
  · exact fun h => ⟨h.later, h.unloaded, fun loaded =>
      (h.delivered loaded).imp_right fun all i mem => all i mem trivial⟩

theorem Attends.follows (h : w.Attends missed among) (follows : w.session.Follows v.session)
    (heard : v.session.loaded = true → v.session.generation = w.session.generation →
      v.registry = w.registry ∧
        ∀ i ∈ w.registry.all, among v.session.generation i → v.heard i = w.heard i) :
    v.Attends missed among := by
  rcases follows with ⟨same, loaded, events, index, -⟩ | ⟨lt, unloaded⟩
  · constructor
    · rw [same]
      exact h.later
    · rw [same, loaded]
      exact h.unloaded
    · intro now
      obtain ⟨registry, heard⟩ := heard now same
      obtain ⟨le, delivered⟩ := h.delivered (loaded.symm.trans now)
      rw [same] at heard ⊢
      rw [index, events, registry]
      exact ⟨le, fun i mem here => (heard i mem here).trans (delivered i mem here)⟩
  · constructor
    · exact fun g lt' => h.later g (Nat.lt_trans lt lt')
    · exact fun _ => h.later _ lt
    · intro now
      cases now.symm.trans unloaded

variable {D : Discipline σ} {known : Registry}

theorem Attends.looks (leave : ∀ {w e}, D.may w e → e.LeavesRegistry) (rules : D.Rules known w)
    (formed : w.Formed) (looks : Looks generation w stage v)
    (spared : stage = .panicked → v.session.loaded = true →
      ∀ i ∈ w.registry.all, among v.session.generation i → v.heard i = w.heard i)
    (h : w.Attends missed among) : v.Attends missed among := by
  have lasting := D.lasting_rules leave known
  cases looks with
  | stale => exact h
  | ended => exact ⟨h.later, h.unloaded, h.delivered⟩
  | held => exact h
  | delivered current next playing told =>
    rename_i event after
    have follows := (tended_of_broadcast told).session.follows
    have registry := (lasting.moves_of_broadcast told rules).registry leave
    by_cases same : after.session.generation = generation
    · rcases follows with ⟨same', loaded, events, index, -⟩ | ⟨lt, -⟩
      · rw [Session.advance_eq, if_pos same]
        constructor
        · dsimp only
          rw [same']
          exact h.later
        · dsimp only
          rw [same', loaded]
          exact h.unloaded
        · intro now
          obtain ⟨le, delivered⟩ := h.delivered (loaded.symm.trans now)
          dsimp only
          rw [same', events, registry, Trace.handed_succ next, List.drop_append_of_le_length]
          · refine ⟨Nat.le_succ_of_le le, fun i mem here => ?_⟩
            have told := heard_of_broadcast formed told mem
            rw [← delivered i mem here]
            exact told
          · have lt := (List.getElem?_eq_some_iff.mp next).1
            rw [Trace.length_handed]
            omega
      · omega
    · have still : after.session.advance generation w.session.index = after.session := if_neg same
      rw [still]
      exact h.follows follows fun _ same' => absurd (same'.trans current) same
  | broken _ _ _ told =>
    exact h.follows (tended_of_broadcast told).session.follows fun loaded _ =>
      ⟨(lasting.moves_of_broadcast told rules).registry leave, spared rfl loaded⟩

theorem Attends.rewound {events : Trace} {result : Except Halt Unit}
    (leave : ∀ {w e}, D.may w e → e.LeavesRegistry) (rules : D.Rules known w)
    (unloaded : w.session.loaded = false)
    (told : reset.run { w with session := w.session.load events } = (result, v))
    (heard : v.session.loaded = true →
      ∀ i ∈ w.registry.all, among v.session.generation i → v.heard i = [])
    (h : w.Attends missed among) : v.Attends missed among := by
  have lasting := D.lasting_rules leave known
  have moves := lasting.moves_of_reset told (lasting.session _ rules)
  have none : missed w.session.generation = 0 := h.unloaded unloaded
  rcases (tended_of_reset told).session.follows with ⟨same, -, events', index, -⟩ | ⟨lt, unloaded'⟩
  · have same : v.session.generation = w.session.generation := same
    rw [← same] at none
    refine ⟨same ▸ h.later, fun _ => none, fun now => ⟨none ▸ Nat.zero_le _, fun i mem here => ?_⟩⟩
    rw [moves.registry leave] at mem
    rw [heard now i mem here, none, events', index]
    rfl
  · have lt : w.session.generation < v.session.generation := lt
    refine ⟨fun g lt' => h.later g (Nat.lt_trans lt lt'), fun _ => h.later _ lt, fun now => ?_⟩
    cases now.symm.trans unloaded'

theorem Attends.receives {a : Answer} {code : String}
    (leave : ∀ {w e}, D.may w e → e.LeavesRegistry) (rules : D.Rules known w) (orderly : w.Orderly)
    (receives : Receives generation a w stage v)
    (spared : stage = .panicked → v.session.loaded = true →
      ∀ i ∈ w.registry.all, among v.session.generation i →
        v.heard i = if w.session.loaded = true then w.heard i else [])
    (hr : w.session.run? r = some run) (purpose : run.purpose = .start generation code)
    (new : run.stage = .unpolled ∨ run.stage = .fetching) (h : w.Attends missed among) :
    v.Attends missed among := by
  have lasting := D.lasting_rules leave known
  -- the run was to fetch the trace that would be loaded
  have unloaded (current : w.session.generation = generation) : w.session.loaded = false :=
    orderly.awaits r ⟨run, code, hr, current ▸ purpose, new⟩ nofun
  -- without a trace there is none after the reset
  have failed {result : Except Halt Unit} (current : w.session.generation = generation)
      (told : reset.run { w with session := w.session.pause } = (result, v)) :
      v.Attends missed among := by
    have follows : w.session.Follows v.session := (tended_of_reset told).session.follows
    refine h.follows follows fun loaded same => ?_
    rcases follows with ⟨-, loaded', -⟩ | ⟨-, unloaded'⟩
    · cases (loaded'.symm.trans loaded).symm.trans (unloaded current)
    · cases loaded.symm.trans unloaded'
  have spared (current : w.session.generation = generation) (panicked : stage = .panicked)
      (loaded : v.session.loaded = true) (i : InstanceId) (mem : i ∈ w.registry.all)
      (here : among v.session.generation i) : v.heard i = [] := by
    rw [spared panicked loaded i mem here, unloaded current]
    rfl
  cases receives with
  | stale => exact h
  | failed current _ told => exact failed current told
  | loaded current success told looks =>
    rename_i events after
    have begun : D.Rules known { w with session := w.session.load events } :=
      lasting.session _ rules
    have moves := lasting.moves_of_reset told begun
    have formed : World.Formed { w with session := w.session.load events } :=
      orderly.formed.extend rfl List.prefix_rfl
    have silent (i : InstanceId) (mem : i ∈ w.registry.all) : after.heard i = [] :=
      heard_of_reset formed told mem
    refine Attends.looks leave (lasting.moves rfl moves begun)
      ((tended_of_reset told).formed formed) looks (fun panicked loaded i mem here => ?_)
      (h.rewound leave rules (unloaded current) told fun _ i mem _ => silent i mem)
    rw [moves.registry leave] at mem
    rw [silent i mem]
    exact spared current panicked loaded i mem here
  | broken current taken told =>
    rcases taken with rfl | ⟨events, -, rfl⟩
    · exact failed current told
    · exact h.rewound leave rules (unloaded current) told (spared current rfl)

theorem Attends.leads {t : Turn σ} (leave : ∀ {w e}, D.may w e → e.LeavesRegistry)
    (rules : D.Rules known w) (orderly : w.Orderly) (keeps : t.Keeps D w) (leads : t.Leads w v)
    (spares : w.Spares (among v.session.generation) v) (h : w.Attends missed among) :
    v.Attends missed among := by
  cases t with
  | host s =>
    obtain ⟨-, rfl⟩ := leads
    have steps := D.steps_run keeps rules.tame
    have registry := (steps.moves .reset).registry leave
    exact h.follows steps.tended.session.follows fun _ _ => ⟨registry, fun _ _ _ => steps.heard⟩
  | init l hook => exact keeps.elim
  | drop r =>
    obtain ⟨-, rfl⟩ := leads
    exact h.follows (Session.follows_drop _ r) fun _ _ => ⟨rfl, fun _ _ _ => rfl⟩
  | poll r answer =>
    rcases Turn.leads_poll leads with ⟨-, rfl⟩ | ⟨run, stage, u, hr, outstanding, progresses, rfl⟩
    · exact h
    have spared (panicked : stage = .panicked) (loaded : u.session.loaded = true) :
        ∀ i ∈ w.registry.all, among u.session.generation i →
          u.heard i = if w.session.loaded = true then w.heard i else [] := by
      have same : (u.session.settle r stage).generation = u.session.generation := by
        rw [Session.settle_eq]
        rfl
      rw [← same]
      rcases spares with calm | spares
      · exact absurd panicked (progresses.calm hr outstanding calm)
      · exact spares ((Session.loaded_settle _ r stage).trans loaded)
    have told : u.Attends missed among := by
      cases progresses with
      | fetched purpose new _ receives =>
        exact h.receives leave rules orderly receives spared hr purpose new
      | unanswered => exact h
      | played _ _ looks =>
        refine h.looks leave rules orderly.formed looks fun panicked loaded i mem here => ?_
        subst panicked
        have trace : w.session.loaded = true := by
          cases looks with
          | broken _ next => exact orderly.sound.loaded_of_lt (List.getElem?_eq_some_iff.mp next).1
        rw [spared rfl loaded i mem here, if_pos trace]
      | idle => exact h
    exact told.follows (Session.follows_settle _ r stage) fun _ _ => ⟨rfl, fun _ _ _ => rfl⟩

theorem Attends.course {allowed : World σ → Turn σ → Prop} {ts : List (Turn σ)}
    (leave : ∀ {w e}, D.may w e → e.LeavesRegistry)
    (keeps : ∀ {w t}, allowed w t → t.Keeps D w)
    (spares : ∀ {u t v}, allowed u t → t.Leads u v → u.Spares (among v.session.generation) v)
    (rules : D.Rules known w)
    (orderly : w.Orderly) (course : Course allowed w ts v) (h : w.Attends missed among) :
    v.Attends missed among := by
  induction course with
  | done => exact h
  | turn may leads _ ih =>
    have after := h.leads leave rules orderly (keeps may) leads (spares may leads)
    have rules := (D.lasting_rules leave known).leads (keeps may) leads rules
    exact ih rules (leads.orderly orderly) after

theorem Told.course {allowed : World σ → Turn σ → Prop} {ts : List (Turn σ)}
    (leave : ∀ {w e}, D.may w e → e.LeavesRegistry)
    (keeps : ∀ {w t}, allowed w t → t.Keeps D w) (rules : D.Rules known w) (orderly : w.Orderly)
    (course : Course allowed w ts v) (calm : w.session.Calm v.session) (h : w.Told missed) :
    v.Told missed :=
  told_iff.mpr ((told_iff.mp h).course leave (fun may => keeps may.1)
    (fun may leads => .inl (may.2 _ leads)) rules orderly (course.each_calm calm))

/-- A loaded trace is what the interpreter answered to the latest start, and is delivered up to the
index. -/
def Delivered (interpret : Interpretation) (w : World σ) : Prop :=
  w.session.loaded = true → ∃ r code, w.session.lastStart? = some (r, code) ∧
    interpret r code = .ok w.session.events ∧
    ∀ i ∈ w.registry.all, w.heard i = w.session.events.handed w.session.index

theorem delivered_iff :
    w.Delivered interpret ↔ w.session.Answered interpret ∧ w.Told fun _ => 0 := by
  constructor
  · intro h
    refine ⟨fun loaded => ?_, fun _ _ => rfl, fun _ => rfl, fun loaded => ?_⟩
    · obtain ⟨r, code, latest, answered, -⟩ := h loaded
      exact ⟨r, code, latest, answered⟩
    · obtain ⟨-, -, -, -, delivered⟩ := h loaded
      exact ⟨Nat.zero_le _, delivered⟩
  · rintro ⟨answered, told⟩ loaded
    obtain ⟨r, code, latest, answers⟩ := answered loaded
    exact ⟨r, code, latest, answers, (told.delivered loaded).2⟩

theorem Delivered.course {ts : List (Turn σ)} (leave : ∀ {w e}, D.may w e → e.LeavesRegistry)
    (rules : D.Rules known w) (orderly : w.Orderly)
    (course : Course (Turn.Plain D interpret) w ts v)
    (calm : ∀ r run, v.session.run? r = some run → run.stage ≠ .panicked)
    (h : w.Delivered interpret) : v.Delivered interpret := by
  obtain ⟨answered, told⟩ := delivered_iff.mp h
  refine delivered_iff.mpr ⟨?_, told.course leave And.left rules orderly course (.of_none calm)⟩
  clear rules told calm h
  induction course with
  | done => exact answered
  | turn plain leads _ ih =>
    exact ih (leads.orderly orderly) (leads.answered orderly plain.2 answered)

end World

/-- Once a level is loaded for good, foreign code may do whatever it likes, except that it has to
leave the registry as it is, and so may the host. Then a loaded trace is the one that the
interpreter answers for the code that was in force when the latest start was asked for, and it is
delivered, event by event, up to the index. -/
theorem delivered_in_order {catalog : Catalog σ} {renderer : Renderer} {config : Playback.Config}
    {nesting : Nat} {memory : σ} {interpret : Interpretation} {before ts : List (Turn σ)}
    {w v : World σ}
    (reached : Course (fun _ _ => True) (.new catalog renderer config nesting memory) before w)
    (unloaded : w.session.loaded = false)
    (modules : ∀ i ∈ w.registry.all, ∀ m, w.body? i = some (.foreign m) →
      ∀ c, c.isPlay = true → (m.respond i c).Within Effect.LeavesRegistry)
    (listeners : ∀ kind, ∀ l ∈ w.bus.listeners kind,
      ∀ n, (l.callback n).Within Effect.LeavesRegistry)
    (course : Course (Turn.Plain (.within Effect.LeavesRegistry) interpret) w ts v)
    (calm : ∀ r run, v.session.run? r = some run → run.stage ≠ .panicked)
    (loaded : v.session.loaded = true) :
    (∃ s, Session.LatestStart (.new config) s v.session) ∧
      (∀ s, Session.LatestStart (.new config) s v.session →
        interpret s.start.1 s.code = .ok v.session.events) ∧
      v.session.index ≤ v.session.events.length ∧
      ∀ i ∈ v.registry.all, v.heard i = v.session.events.handed v.session.index := by
  have orderly := reached.orderly (World.orderly_new catalog renderer config nesting memory)
  have rules : (Discipline.within Effect.LeavesRegistry).Rules w.registry w :=
    ⟨listeners, fun c running i mem m here => modules i mem m here c running, rfl⟩
  have before : w.Delivered interpret := by
    intro loaded
    cases loaded.symm.trans unloaded
  obtain ⟨r, code, last, answered, delivered⟩ := before.course
    (Discipline.leavesRegistry_of_within id) rules orderly course calm loaded
  have evolves : (Session.new config).Evolves (fun _ => True) v.session :=
    reached.evolves.trans course.evolves
  refine ⟨evolves.latestStart.resolve_left fun none => ?_, fun s latest => ?_,
    (course.orderly orderly).sound.index_le, delivered⟩
  · cases last.symm.trans none.lastStart?
  · cases last.symm.trans latest.lastStart?
    exact answered

def World.pausing : World Unit :=
  (World.new .builtin .recording {} 8 ()).after
    [.init ⟨"level", "", "", "code", [Variables.name]⟩
      fun _ => .subscribe .declared (fun _ => .pause .done) fun _ => .done]

def Trace.twice : Trace :=
  [.init (.variable "x") ⟨.boolean true, .literal⟩, .init (.variable "x") ⟨.nil, .literal⟩]

def Turn.asking : Turn Unit := .host (.start fun _ => .setCode "more" .done)

def Turn.resuming : List (Turn Unit) :=
  [.asking, .poll ⟨0⟩ (some (.ok Trace.twice)), .poll ⟨0⟩ none, .host (.resume fun _ => .done),
    .poll ⟨0⟩ none]

def Interpretation.choosy : Interpretation := fun _ code =>
  if code = "code" then .ok Trace.twice else .error (.interpreter code none)

theorem answers_choosy :
    (Turn.poll ⟨0⟩ (some (.ok Trace.twice))).Answers .choosy (Turn.asking.act.run .pausing).2 := by
  have coded : ((Turn.asking.act.run World.pausing).2.session.run? ⟨0⟩).bind (·.purpose.code?) =
      some "code" := by decide +kernel
  rintro a ⟨⟩ run generation code hr purpose
  rw [hr, Option.bind_some, purpose] at coded
  cases coded
  rfl

theorem course_resuming : Course (Turn.Plain (.within Effect.LeavesRegistry) .choosy)
    World.pausing Turn.resuming (World.pausing.after Turn.resuming) := by
  refine course_after_cons ⟨⟨trivial, fun _ => ⟨trivial, trivial⟩⟩, trivial⟩ (by decide +kernel)
    (course_after_cons ⟨trivial, answers_choosy⟩ (by decide +kernel)
      (course_after ?_ (by decide +kernel)))
  intro t mem v
  simp only [List.mem_cons, List.not_mem_nil, or_false] at mem
  rcases mem with rfl | rfl | rfl
  · exact ⟨trivial, nofun⟩
  · exact ⟨⟨trivial, fun _ => trivial⟩, trivial⟩
  · exact ⟨trivial, nofun⟩

theorem delivered_in_order_of_pausing :
    (∃ s, Session.LatestStart (.new {}) s (World.pausing.after Turn.resuming).session ∧
      Interpretation.choosy s.start.1 s.code = .ok Trace.twice) ∧
    (World.pausing.after Turn.resuming).session.code = "more" ∧
    (World.pausing.after Turn.resuming).session.index = 2 ∧
      ∀ i ∈ (World.pausing.after Turn.resuming).registry.all,
        (World.pausing.after Turn.resuming).heard i = Trace.twice.handed 2 := by
  have reached : Course (fun _ _ => True) (World.new (.builtin : Catalog Unit) .recording {} 8 ())
      _ World.pausing := course_after (fun _ _ _ => trivial) (by decide +kernel)
  have modules : ∀ i ∈ World.pausing.registry.all, ∀ m, World.pausing.body? i = some (.foreign m) →
      ∀ c, c.isPlay = true → (m.respond i c).Within Effect.LeavesRegistry := by
    intro i mem m here
    exact absurd here (World.not_foreign_of_all (by decide +kernel) mem)
  have listeners : ∀ kind, ∀ l ∈ World.pausing.bus.listeners kind,
      ∀ n, (l.callback n).Within Effect.LeavesRegistry := by
    have declared : World.pausing.bus.listeners .declared = [⟨⟨1⟩, fun _ => .pause .done⟩] := by
      cbv
    have changed : World.pausing.bus.listeners .changed = [] := by cbv
    intro kind l mem n
    cases kind with
    | declared =>
      rw [declared, List.mem_singleton] at mem
      subst mem
      exact ⟨trivial, trivial⟩
    | changed =>
      rw [changed] at mem
      cases mem
  have calm : ∀ r run, (World.pausing.after Turn.resuming).session.run? r = some run →
      run.stage ≠ .panicked := Session.calm_of_all (by decide +kernel)
  have index : (World.pausing.after Turn.resuming).session.index = 2 := by decide +kernel
  have events : (World.pausing.after Turn.resuming).session.events = Trace.twice := by
    decide +kernel
  obtain ⟨⟨s, latest⟩, answered, -, delivered⟩ := delivered_in_order reached (by decide +kernel)
    modules listeners course_resuming calm (by decide +kernel)
  rw [index, events] at delivered
  exact ⟨⟨s, latest, events ▸ answered s latest⟩, by decide +kernel, index, delivered⟩

end Replay
