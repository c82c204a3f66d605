import Replay.Proofs.World.Mute
import Replay.Proofs.World.Operation

/-!
Whose listeners live how long. Those that subscribe while a level is loaded belong to the level and
are taken off the bus with it; all others stay until somebody takes them off. The visualiser tells
the two apart by the number that was given last before it made the modules. It looks at the end of
the loading, so what subscribes in one that a panic cuts off belongs to no level.
-/
namespace Replay

variable {σ : Type}

def Effect.Spares (n : SubscriptionId) : Effect σ → Prop
  | .unsubscribe id => id ≠ n
  | .clearBus => False
  | _ => True

theorem Effect.succeeds (e : Effect σ) (w : World σ) : w.bus.Succeeds (e.apply w).bus := by
  cases e with
  | subscribe kind callback => exact Bus.succeeds_subscribe _ kind callback
  | unsubscribe id => exact Bus.succeeds_unsubscribe _ id
  | clearBus => exact Bus.succeeds_clear _
  | register i =>
    obtain ⟨registry, eq⟩ := apply_register (w := w) (i := i)
    rw [eq]
    exact .refl _
  | _ => exact .refl _

theorem Effect.retains {n : SubscriptionId} {e : Effect σ} {w : World σ}
    (spares : e.Among (Spares n)) : w.bus.Retains n (e.apply w).bus := by
  cases e with
  | subscribe kind callback => exact Bus.retains_subscribe _ kind callback n
  | unsubscribe id => exact Bus.retains_unsubscribe _ spares
  | clearBus => exact spares.elim
  | register i =>
    obtain ⟨registry, eq⟩ := apply_register (w := w) (i := i)
    rw [eq]
    exact .of_holds rfl id
  | _ => exact .of_holds rfl id

namespace World

structure Governs (P : Effect σ → Prop)
    (R : Bus (Notice → Script σ) → Bus (Notice → Script σ) → Prop) : Prop where
  refl : ∀ b, R b b
  trans : ∀ {b b' b''}, R b b' → R b' b'' → R b b''
  apply : ∀ {w : World σ} {e : Effect σ}, e.Among P → R w.bus (e.apply w).bus

variable {P : Effect σ → Prop} {R : Bus (Notice → Script σ) → Bus (Notice → Script σ) → Prop}
  {b : Bus (Notice → Script σ)} {ids : List SubscriptionId} {kind : Notice.Kind}
  {n : SubscriptionId} {u v w : World σ} {c : Call} {l : Level} {hook : Hook σ}
  {modules : List (String × InstanceId)} {catalog : Catalog σ} {halt : Halt}

theorem governs_succeeds : Governs (fun _ : Effect σ => True) Bus.Succeeds where
  refl := .refl
  trans := .trans
  apply _ := Effect.succeeds _ _

theorem governs_retains : Governs (Effect.Spares (σ := σ) n) (Bus.Retains n) where
  refl _ := .of_holds rfl id
  trans := .trans
  apply := Effect.retains

theorem Governs.moves (governs : Governs P R) (h : (Discipline.within P).Moves c w v) :
    R w.bus v.bus := by
  induction h with
  | refl => exact governs.refl _
  | tail _ step ih =>
    rcases step with ⟨e, may, rfl⟩ | ⟨i, b, -, rfl⟩
    · exact governs.trans ih (governs.apply may)
    · rw [bus_begin]
      exact ih

theorem Governs.fits (governs : Governs P R) : Fits P fun w v => R w.bus v.bus ∧
    v.visualiser.levelSubscriptions = w.visualiser.levelSubscriptions where
  refl _ := ⟨governs.refl _, rfl⟩
  trans first later := ⟨governs.trans first.1 later.1, later.2.trans first.2⟩
  called _ moves := ⟨governs.moves moves, by rw [moves.visualiser]⟩
  furnished _ _ := ⟨governs.refl _, rfl⟩
  kept _ _ := ⟨governs.refl _, rfl⟩
  withdrawn _ _ := ⟨governs.refl _, rfl⟩

/-! Taking a level out -/

theorem issued_unsubscribeAll : ∀ {b : Bus (Notice → Script σ)},
    (unsubscribeAll b ids).issued = b.issued := by
  induction ids with
  | nil => exact fun {_} => rfl
  | cons id rest ih => exact fun {_} => ih.trans Bus.issued_unsubscribe

theorem numbered_unsubscribeAll : ∀ {b : Bus (Notice → Script σ)}, b.Numbered →
    (unsubscribeAll b ids).Numbered := by
  induction ids with
  | nil => exact fun h => h
  | cons id rest ih => exact fun h => ih h.unsubscribe

theorem filter_unsubscribeAll : ∀ {b : Bus (Notice → Script σ)}, b.Numbered →
    (unsubscribeAll b ids).listeners kind = (b.listeners kind).filter (·.id ∉ ids) := by
  induction ids with
  | nil =>
    intro b _
    simp [unsubscribeAll]
  | cons id rest ih =>
    intro b h
    have next : unsubscribeAll b (id :: rest) = unsubscribeAll (b.unsubscribe id).2 rest := rfl
    rw [next, ih h.unsubscribe, h.listeners_unsubscribe, List.filter_filter]
    refine List.filter_congr fun l _ => ?_
    simp only [List.mem_cons, not_or, Bool.decide_and, Bool.and_comm, ne_eq]

/-- Where modules leave the bus alone when they are destroyed, nothing but the subscriptions of the
level is taken off. -/
theorem Cleans.bus (h : w.Cleans v) (stocked : w.Stocked catalog)
    (mute : catalog.EndsMute) :
    v.bus = unsubscribeAll w.bus w.visualiser.levelSubscriptions := by
  cases h with
  | bare bare =>
    rw [(isBare_iff.mp bare).2.2]
    rfl
  | torn _ destroyed =>
    have same := Stocked.bus_callAll mute w.registry.all (w := w.unsubscribed)
      ⟨stocked.same, stocked.made⟩
    rw [destroyed] at same
    exact same

theorem Loads.governs (loads : Loads l hook w (.ok modules) v) (governs : Governs P R)
    (confined : w.Confined P) (hooked : ∀ ids, (hook ids).Within P) : ∃ u, w.Cleans u ∧
      R u.bus v.bus ∧ v.visualiser.levelSubscriptions = v.bus.since u.bus.mark := by
  obtain ⟨u, y, bodies, cleans, -, -, ⟨governed, -⟩, rfl⟩ :=
    loads.fits governs.fits confined hooked
  exact ⟨u, cleans, governed, rfl⟩

/-- The level owns nothing while a level is taken out or loaded, and so it stays where that is cut
off. -/
theorem broken_cleanup (cut : cleanup.run w = (.error halt, v)) (stocked : w.Stocked catalog)
    (mute : catalog.EndsMute) :
    v.bus = unsubscribeAll w.bus w.visualiser.levelSubscriptions ∧
      v.visualiser.levelSubscriptions = [] := by
  have destroys := destroys_of_cleanup cut
  have same := Stocked.bus_callAll mute w.registry.all (w := w.unsubscribed)
    ⟨stocked.same, stocked.made⟩
  rw [destroys] at same
  refine ⟨same, ?_⟩
  rw [visualiser_callAll destroys]
  rfl

theorem Aborts.governs (aborts : Aborts l hook w halt v) (governs : Governs P R)
    (confined : w.Confined P) (hooked : ∀ ids, (hook ids).Within P) (stocked : w.Stocked catalog)
    (mute : catalog.EndsMute) :
    R (unsubscribeAll w.bus w.visualiser.levelSubscriptions) v.bus ∧
      v.visualiser.levelSubscriptions = [] := by
  rcases aborts.fits governs.fits confined hooked with cut | ⟨u, bodies, cleans, -, governed, same⟩
  · obtain ⟨bus, level⟩ := broken_cleanup cut stocked mute
    exact ⟨bus ▸ governs.refl _, level⟩
  · exact ⟨cleans.bus stocked mute ▸ governed, same.trans cleans.subscriptions⟩

end World

namespace Operation

/-- Whether an operation loads a level, and a subscription was made in the course of that. -/
def gives (w : World σ) (o : Operation σ) (n : SubscriptionId) : Bool :=
  match o.act.run w with
  | (.ok (some _), v) => decide (w.bus.issued < n.number) && decide (n.number ≤ v.bus.issued)
  | _ => false

variable {P : Effect σ → Prop} {R : Bus (Notice → Script σ) → Bus (Notice → Script σ) → Prop}
  {o : Operation σ} {w v : World σ} {loaded : Option String} {catalog : Catalog σ}
  {n : SubscriptionId} {id : String}

theorem Leads.gives (leads : o.Leads w (some id) v) : o.gives w n = true ↔
    w.bus.issued < n.number ∧ n.number ≤ v.bus.issued := by
  unfold Operation.gives
  rw [leads]
  exact Bool.and_eq_true_iff.trans (and_congr decide_eq_true_iff decide_eq_true_iff)

theorem Leads.gives_none (leads : o.Leads w none v) : o.gives w n = false := by
  unfold Operation.gives
  rw [leads]

theorem Breaks.gives (breaks : o.Breaks w v) : o.gives w n = false := by
  unfold Operation.gives
  rw [breaks]

theorem Leads.governs (leads : o.Leads w loaded v) (clears : o.clears = true)
    (governs : World.Governs P R) (confined : w.Confined P) (within : o.Within P)
    (stocked : w.Stocked catalog) (mute : catalog.EndsMute) :
    (loaded = none ∧
      v.bus = World.unsubscribeAll w.bus w.visualiser.levelSubscriptions ∧
      v.visualiser.levelSubscriptions = []) ∨
    (∃ id, loaded = some id ∧
      R (World.unsubscribeAll w.bus w.visualiser.levelSubscriptions) v.bus ∧
      v.visualiser.levelSubscriptions = v.bus.since w.bus.mark) := by
  cases leads.comes with
  | cleaned done =>
    have cleans := World.cleans_of_run done
    exact .inl ⟨rfl, cleans.bus stocked mute, cleans.subscriptions⟩
  | failed done =>
    cases World.loads_of_run done with
    | failed cleans => exact .inl ⟨rfl, cleans.bus stocked mute, cleans.subscriptions⟩
  | loaded done =>
    obtain ⟨u, cleans, governed, owned⟩ :=
      (World.loads_of_run done).governs governs confined within
    have bus := cleans.bus stocked mute
    have mark : u.bus.mark = w.bus.mark := by
      rw [bus]
      exact congrArg SubscriptionId.mk World.issued_unsubscribeAll
    rw [bus] at governed
    rw [mark] at owned
    exact .inr ⟨_, rfl, governed, owned⟩
  | played asks => cases clears.symm.trans (clears_of_call asks)
  | hosted => cases clears

theorem Breaks.governs (breaks : o.Breaks w v) (governs : World.Governs P R)
    (confined : w.Confined P) (within : o.Within P) (stocked : w.Stocked catalog)
    (mute : catalog.EndsMute) :
    R (World.unsubscribeAll w.bus w.visualiser.levelSubscriptions) v.bus ∧
      v.visualiser.levelSubscriptions = [] := by
  rcases breaks.comes with ⟨-, cut⟩ | ⟨l, hook, rfl, aborts⟩
  · obtain ⟨bus, level⟩ := World.broken_cleanup cut stocked mute
    exact ⟨bus ▸ governs.refl _, level⟩
  · exact aborts.governs governs confined within stocked mute

theorem Breaks.strokes (breaks : o.Breaks w v) (confined : w.Confined P) (within : o.Within P) :
    World.Strokes P w v := by
  rcases breaks.comes with ⟨-, cut⟩ | ⟨l, hook, rfl, -⟩
  · have strokes := confined.strokes_cleanup
    rwa [cut] at strokes
  · have strokes := confined.strokes_initLevel (l := l) within
    unfold Breaks act at breaks
    rw [Act.run_bind] at breaks
    generalize (World.initLevel l hook).run w = outcome at breaks strokes
    obtain ⟨_ | _ | _, u⟩ := outcome <;> cases breaks
    exact strokes

end Operation

namespace World

variable {given : SubscriptionId → Bool} {w v : World σ} {o : Operation σ}
  {os : List (Operation σ)} {loaded : Option String} {catalog : Catalog σ}

/-- The level owns the live subscriptions that were given to levels, and no others. -/
structure Owns (given : SubscriptionId → Bool) (w : World σ) : Prop where
  numbered : w.bus.Numbered
  le : ∀ {n}, given n = true → n.number ≤ w.bus.issued
  given_of_mem : ∀ {n}, n ∈ w.visualiser.levelSubscriptions → given n = true
  mem_of_given : ∀ {n}, w.bus.Holds n → given n = true → n ∈ w.visualiser.levelSubscriptions

/-- What is left when a level is taken out are the subscriptions that were given to none. -/
theorem Owns.filter (h : w.Owns given) (kind : Notice.Kind) :
    (unsubscribeAll w.bus w.visualiser.levelSubscriptions).listeners kind =
      (w.bus.listeners kind).filter (!given ·.id) := by
  rw [filter_unsubscribeAll h.numbered]
  refine List.filter_congr fun l mem => ?_
  have iff : l.id ∈ w.visualiser.levelSubscriptions ↔ given l.id = true :=
    ⟨h.given_of_mem, h.mem_of_given ⟨kind, l, mem, rfl⟩⟩
  simp [iff]

theorem Owns.not_given (h : w.Owns given) {n : SubscriptionId}
    (holds : (unsubscribeAll w.bus w.visualiser.levelSubscriptions).Holds n) :
    given n = false := by
  obtain ⟨kind, l, mem, rfl⟩ := holds
  rw [h.filter] at mem
  simpa using (List.mem_filter.mp mem).2

theorem Owns.holds (h : w.Owns given) {n : SubscriptionId} (holds : w.bus.Holds n)
    (other : given n = false) :
    (unsubscribeAll w.bus w.visualiser.levelSubscriptions).Holds n := by
  obtain ⟨kind, l, mem, rfl⟩ := holds
  refine ⟨kind, l, ?_, rfl⟩
  rw [h.filter]
  exact List.mem_filter.mpr ⟨mem, by rw [other]; rfl⟩

theorem Owns.cleaned (h : w.Owns given)
    (succeeds : (unsubscribeAll w.bus w.visualiser.levelSubscriptions).Succeeds v.bus)
    (level : v.visualiser.levelSubscriptions = []) : v.Owns given where
  numbered := succeeds.numbered (numbered_unsubscribeAll h.numbered)
  le now := Nat.le_trans (h.le now) (issued_unsubscribeAll ▸ succeeds.issued)
  given_of_mem mem := by
    rw [level] at mem
    cases mem
  mem_of_given {n} holds now := by
    have le : n.number ≤ (unsubscribeAll w.bus w.visualiser.levelSubscriptions).issued := by
      rw [issued_unsubscribeAll]
      exact h.le now
    cases (h.not_given (succeeds.holds holds le)).symm.trans now

theorem Owns.reloaded (h : w.Owns given) {id : String} (leads : o.Leads w (some id) v)
    (succeeds : (unsubscribeAll w.bus w.visualiser.levelSubscriptions).Succeeds v.bus)
    (level : v.visualiser.levelSubscriptions = v.bus.since w.bus.mark) :
    v.Owns fun n => given n || o.gives w n :=
  have numbered := succeeds.numbered (numbered_unsubscribeAll h.numbered)
  { numbered
    le := fun now => by
      rcases Bool.or_eq_true_iff.mp now with before | gives
      · exact Nat.le_trans (h.le before) (issued_unsubscribeAll ▸ succeeds.issued)
      · exact (leads.gives.mp gives).2
    given_of_mem := fun mem => by
      rw [level] at mem
      obtain ⟨holds, lt⟩ := Bus.mem_since.mp mem
      exact Bool.or_eq_true_iff.mpr (.inr (leads.gives.mpr ⟨lt, numbered.le holds⟩))
    mem_of_given := fun {n} holds now => by
      rw [level]
      refine Bus.mem_since.mpr ⟨holds, ?_⟩
      rcases Bool.or_eq_true_iff.mp now with before | gives
      · -- what was given to an earlier level is gone
        have le : n.number ≤ (unsubscribeAll w.bus w.visualiser.levelSubscriptions).issued := by
          rw [issued_unsubscribeAll]
          exact h.le before
        cases (h.not_given (succeeds.holds holds le)).symm.trans before
      · exact (leads.gives.mp gives).1 }

theorem Owns.kept (h : w.Owns given) (succeeds : w.bus.Succeeds v.bus)
    (same : v.visualiser = w.visualiser) : v.Owns given where
  numbered := succeeds.numbered h.numbered
  le now := Nat.le_trans (h.le now) succeeds.issued
  given_of_mem mem := h.given_of_mem (same ▸ mem)
  mem_of_given holds now := by
    rw [same]
    exact h.mem_of_given (succeeds.holds holds (h.le now)) now

theorem Owns.leads (h : w.Owns given) (leads : o.Leads w loaded v) (stocked : w.Stocked catalog)
    (mute : catalog.EndsMute) : v.Owns fun n => given n || o.gives w n := by
  rcases leads.cases w.confined_true o.within_true with ⟨clears, -⟩ | ⟨-, rfl, c, moves⟩
  · rcases leads.governs clears governs_succeeds w.confined_true o.within_true stocked mute with
      ⟨rfl, bus, level⟩ | ⟨id, rfl, succeeds, level⟩
    · simp only [leads.gives_none, Bool.or_false]
      exact h.cleaned (bus ▸ .refl _) level
    · exact h.reloaded leads succeeds level
  · simp only [leads.gives_none, Bool.or_false]
    exact h.kept (governs_succeeds.moves moves) moves.visualiser

theorem Owns.breaks (h : w.Owns given) (breaks : o.Breaks w v) (stocked : w.Stocked catalog)
    (mute : catalog.EndsMute) : v.Owns fun n => given n || o.gives w n := by
  obtain ⟨succeeds, level⟩ :=
    breaks.governs governs_succeeds w.confined_true o.within_true stocked mute
  simp only [breaks.gives, Bool.or_false]
  exact h.cleaned succeeds level

theorem Stocked.leads (h : w.Stocked catalog) (leads : o.Leads w loaded v) : v.Stocked catalog :=
  leads.keeps (fun stroke h => h.stroke stroke) (fun moves h => h.moves moves) h

theorem Stocked.breaks (h : w.Stocked catalog) (breaks : o.Breaks w v) : v.Stocked catalog :=
  (breaks.strokes w.confined_true o.within_true).keeps (fun stroke h => h.stroke stroke) h

/-- Whether one of some operations loads a level, and a subscription is made in the course of
that. -/
def gives (w : World σ) : List (Operation σ) → SubscriptionId → Bool
  | [], _ => false
  | o :: os, n => o.gives w n || (o.act.run w).2.gives os n

theorem Owns.attempts (mute : catalog.EndsMute) (run : Attempts w os v)
    (stocked : w.Stocked catalog) (h : w.Owns given) :
    v.Stocked catalog ∧ v.Owns fun n => given n || w.gives os n := by
  have next {o : Operation σ} {os : List (Operation σ)} {u v : World σ}
      (after : (o.act.run u).2 = v) (given : SubscriptionId → Bool) :
      (fun n => given n || u.gives (o :: os) n) =
        fun n => (given n || o.gives u n) || v.gives os n := by
    funext n
    rw [gives, after, Bool.or_assoc]
  induction run generalizing given with
  | done w =>
    have same : (fun n => given n || w.gives [] n) = given := funext fun n => Bool.or_false _
    rw [same]
    exact ⟨stocked, h⟩
  | ended leads _ ih =>
    rw [next (congrArg Prod.snd leads)]
    exact ih (stocked.leads leads) (h.leads leads stocked mute)
  | broken breaks _ ih =>
    rw [next (congrArg Prod.snd breaks)]
    exact ih (stocked.breaks breaks) (h.breaks breaks stocked mute)

end World

/-- Nothing is asked of the bus where modules are destroyed. Then whatever else foreign code asks of
it, and whether operations come to their end or are cut off by a panic, one that takes a level out
leaves no subscription of those that were made in the course of loading some level, apart from those
it makes itself; and it leaves all others, in their order, unless foreign code takes them off. Those
that are made in a loading that is cut off are among the others. -/
theorem level_owns_subscriptions {catalog : Catalog σ} {renderer : Renderer}
    {config : Playback.Config} {nesting : Nat} {memory : σ} {os : List (Operation σ)}
    {o : Operation σ} {u w : World σ} (mute : catalog.EndsMute)
    (run : Attempts (.new catalog renderer config nesting memory) os u)
    (next : (∃ loaded, o.Leads u loaded w) ∨ o.Breaks u w) :
    w.bus.Numbered ∧
    (o.clears = true → ∀ kind,
      (((w.bus.listeners kind).filter (·.id.number ≤ u.bus.issued)).Sublist
        ((u.bus.listeners kind).filter
          fun l => !(World.new catalog renderer config nesting memory).gives os l.id)) ∧
      (o.Leads u none w → w.bus.listeners kind = (u.bus.listeners kind).filter
        fun l => !(World.new catalog renderer config nesting memory).gives os l.id)) ∧
    ∀ n, u.Confined (Effect.Spares n) → o.Within (Effect.Spares n) →
      (u.bus.Holds n ∧ (World.new catalog renderer config nesting memory).gives os n = false ∨
        u.bus.issued < n.number ∧ n.number ≤ w.bus.issued) → w.bus.Holds n := by
  have start : (World.new catalog renderer config nesting memory).Owns fun _ => false :=
    ⟨Bus.numbered_empty, nofun, nofun, nofun⟩
  obtain ⟨stocked, owns⟩ := World.Owns.attempts mute run ⟨rfl, nofun⟩ start
  simp only [Bool.false_or] at owns
  have issued : (World.unsubscribeAll u.bus u.visualiser.levelSubscriptions).issued =
      u.bus.issued := World.issued_unsubscribeAll
  have older {kind : Notice.Kind}
      (succeeds : (World.unsubscribeAll u.bus u.visualiser.levelSubscriptions).Succeeds w.bus) :
      ((w.bus.listeners kind).filter (·.id.number ≤ u.bus.issued)).Sublist
        ((u.bus.listeners kind).filter
          fun l => !(World.new catalog renderer config nesting memory).gives os l.id) := by
    have older := succeeds.older kind
    rwa [issued, owns.filter kind] at older
  have stays {n : SubscriptionId}
      (retains : (World.unsubscribeAll u.bus u.visualiser.levelSubscriptions).Retains n w.bus)
      (either : u.bus.Holds n ∧ (World.new catalog renderer config nesting memory).gives os n =
        false ∨ u.bus.issued < n.number ∧ n.number ≤ w.bus.issued) : w.bus.Holds n := by
    refine retains.2 (either.imp (fun ⟨holds, other⟩ => owns.holds holds other) ?_)
    rw [issued]
    exact id
  rcases next with ⟨loaded, leads⟩ | breaks
  · refine ⟨(owns.leads leads stocked mute).numbered, fun clears kind => ?_,
      fun n confined within either => ?_⟩
    · rcases leads.governs clears World.governs_succeeds u.confined_true o.within_true stocked
        mute with ⟨-, bus, -⟩ | ⟨id, rfl, succeeds, -⟩
      · exact ⟨older (bus ▸ .refl _), fun _ => bus ▸ owns.filter kind⟩
      · exact ⟨older succeeds, fun none => nomatch leads.symm.trans none⟩
    · rcases leads.cases confined within with ⟨clears, -⟩ | ⟨-, -, c, moves⟩
      · rcases leads.governs clears World.governs_retains confined within stocked mute with
          ⟨-, bus, -⟩ | ⟨-, -, retains, -⟩
        · exact stays (bus ▸ World.governs_retains.refl _) either
        · exact stays retains either
      · exact (World.governs_retains.moves moves).2 (either.imp_left And.left)
  · refine ⟨(owns.breaks breaks stocked mute).numbered, fun _ kind => ⟨older ?_, ?_⟩,
      fun n confined within either => stays ?_ either⟩
    · exact (breaks.governs World.governs_succeeds u.confined_true o.within_true stocked mute).1
    · exact fun leads => nomatch breaks.symm.trans leads
    · exact (breaks.governs World.governs_retains confined within stocked mute).1

/-- A module that subscribes when it is initialised, and then panics. -/
def ForeignModule.alarming : ForeignModule Unit where
  id := "alarm"
  dependencies := []
  kind := "alarm"
  respond _
    | .init .. => .subscribe .declared (fun _ => .done) fun _ => .panic
    | .handle .. | .reset | .destroy | .update _ => .done

def Catalog.alarming : Catalog Unit := Catalog.builtin.insert "alarm" (.foreign .alarming)

def Level.alarming : Level := ⟨"loud", "", "", "", ["alarm"]⟩

theorem Catalog.endsMute_alarming : Catalog.alarming.EndsMute := by
  intro _ m there i
  rw [World.foreign_of_builtin_insert there]
  trivial

def Operation.subscribing : List (Operation Unit) :=
  let hook := fun _ => .subscribe .declared (fun _ => .done) fun _ => .done
  let level := .load ⟨"level", "", "", "", [Variables.name]⟩ hook
  [.host (hook []), level, level, .load .alarming fun _ => .done]

def World.subscribed : World Unit :=
  World.performing (.new .alarming .recording {} 8 ()) Operation.subscribing

theorem level_owns_subscriptions_of_subscribing :
    (World.subscribed.bus.listeners .declared).map (·.id.number) = [1, 4] ∧
      ((Operation.cleanup.act.run World.subscribed).2.bus.listeners .declared).map
        (·.id.number) = [1, 4] := by
  have run : Attempts (.new .alarming .recording {} 8 ()) Operation.subscribing
      World.subscribed := attempts_performing (by decide +kernel)
  have leads : Operation.cleanup.Leads World.subscribed none _ := Operation.leads_of_ok (by cbv)
  obtain ⟨-, left, -⟩ :=
    level_owns_subscriptions Catalog.endsMute_alarming run (.inl ⟨none, leads⟩)
  refine ⟨by decide +kernel, ?_⟩
  rw [(left rfl .declared).2 leads]
  decide +kernel

/-- Nobody but a module of the level subscribes, and the level is taken out; yet as often as it was
to be loaded, so many listeners are there. -/
theorem broken_loads_stack_listeners : Catalog.alarming.EndsMute ∧
    ∃ u w, Attempts (.new .alarming .recording {} 8 ())
        (List.replicate 3 (.load .alarming fun _ => .done)) u ∧
      Operation.cleanup.Leads u none w ∧
      (w.bus.listeners .declared).map (·.id.number) = [1, 2, 3] :=
  ⟨Catalog.endsMute_alarming, _, _, attempts_performing (by decide +kernel),
    Operation.leads_of_toOption (by decide +kernel), by decide +kernel⟩

end Replay
