import Replay.Proofs.World.Loading
import Replay.Proofs.World.Poll

/-!
What is asked of a visualiser. Whoever owns one loads levels and takes them out, delivers events,
resets, lets time pass, and does things of its own in between. A panic in a delivery, a reset or an
update goes no further than its owner. One in a module that is initialised or destroyed, or in a
hook, cuts off the operation: a performance has none of these, an attempt may have any.
-/
namespace Replay

variable {σ : Type}

inductive Operation (σ : Type) where
  | load (l : Level) (hook : Hook σ)
  | cleanup
  | deliver (event : Event) (history : Trace)
  | reset
  | update (elapsed : UInt64)
  /-- The owner of the visualiser does something beside it. -/
  | host (s : Script σ)

namespace Operation

/-- Carries out an operation; the result is the id of the level that it loads, if it loads one. -/
def act : Operation σ → Act σ (Option String)
  | .load l hook => do
    match ← World.initLevel l hook with
    | .ok _ => return some l.id
    | .error _ => return none
  | .cleanup => do
    World.cleanup
    return none
  | .deliver event history => tried (World.broadcast event history)
  | .reset => tried World.reset
  | .update elapsed => tried (World.update elapsed)
  | .host s => tried (World.run s)
where
  tried (act : Act σ Unit) : Act σ (Option String) := do
    let _ ← World.attempt act
    return none

/-- Where an operation gets that comes to its end, and the level it loads on the way. -/
def Leads (o : Operation σ) (w : World σ) (loaded : Option String) (v : World σ) : Prop :=
  o.act.run w = (.ok loaded, v)

theorem leads_of_ok {o : Operation σ} {w : World σ} {loaded : Option String}
    (h : (o.act.run w).1 = .ok loaded) : o.Leads w loaded (o.act.run w).2 :=
  Act.run_eq_of_fst h

theorem leads_of_toOption {o : Operation σ} {w : World σ} {loaded : Option String}
    (h : (o.act.run w).1.toOption = some loaded) : o.Leads w loaded (o.act.run w).2 := by
  refine leads_of_ok ?_
  generalize (o.act.run w).1 = result at h
  cases result with
  | error => cases h
  | ok => exact congrArg Except.ok (Option.some.inj h)

/-- Where an operation gets that a panic cuts off. -/
def Breaks (o : Operation σ) (w v : World σ) : Prop :=
  o.act.run w = (.error .panic, v)

/-- Whether an operation begins with taking out what is loaded. -/
def clears : Operation σ → Bool
  | .load .. | .cleanup => true
  | .deliver .. | .reset | .update _ | .host _ => false

def call? : Operation σ → Option Call
  | .deliver event history => some (.handle event history)
  | .reset => some .reset
  | .update elapsed => some (.update elapsed)
  | .load .. | .cleanup | .host _ => none

theorem clears_of_call {o : Operation σ} {c : Call} (h : o.call? = some c) : o.clears = false := by
  cases o with
  | load | cleanup | host => cases h
  | deliver | reset | update => rfl

/-- Whether all foreign code that comes with an operation confines itself to some effects. -/
def Within (P : Effect σ → Prop) : Operation σ → Prop
  | .load _ hook => ∀ ids, (hook ids).Within P
  | .host s => s.Within P
  | .cleanup | .deliver .. | .reset | .update _ => True

end Operation

/-- Operations one after the other, each of which is allowed in the world it comes to, and comes to
its end. -/
inductive Performance (allowed : World σ → Operation σ → Prop) :
    World σ → List (Operation σ) → World σ → Prop
  | done (w : World σ) : Performance allowed w [] w
  | step {o : Operation σ} {u v w : World σ} {loaded : Option String} {os : List (Operation σ)}
      (may : allowed u o) (leads : o.Leads u loaded v) (rest : Performance allowed v os w) :
      Performance allowed u (o :: os) w

/-- Operations one after the other; where a panic cuts one off, its owner goes on to the next. -/
inductive Attempts : World σ → List (Operation σ) → World σ → Prop
  | done (w : World σ) : Attempts w [] w
  | ended {o : Operation σ} {u v w : World σ} {loaded : Option String} {os : List (Operation σ)}
      (leads : o.Leads u loaded v) (rest : Attempts v os w) : Attempts u (o :: os) w
  | broken {o : Operation σ} {u v w : World σ} {os : List (Operation σ)}
      (breaks : o.Breaks u v) (rest : Attempts v os w) : Attempts u (o :: os) w

def World.performing (w : World σ) : List (Operation σ) → World σ
  | [] => w
  | o :: os => (o.act.run w).2.performing os

def World.performs (w : World σ) : List (Operation σ) → Bool
  | [] => true
  | o :: os => (o.act.run w).1.toOption.isSome && (o.act.run w).2.performs os

def World.attempts (w : World σ) : List (Operation σ) → Bool
  | [] => true
  | o :: os => survives (o.act.run w).1 && (o.act.run w).2.attempts os

theorem attempts_performing {os : List (Operation σ)} {w : World σ}
    (attempts : w.attempts os = true) : Attempts w os (w.performing os) := by
  induction os generalizing w with
  | nil => exact .done w
  | cons o os ih =>
    unfold World.attempts at attempts
    obtain ⟨survives, attempts⟩ := Bool.and_eq_true_iff.mp attempts
    cases h : (o.act.run w).1 with
    | ok loaded => exact .ended (Operation.leads_of_ok h) (ih attempts)
    | error halt =>
      rw [h] at survives
      cases halt with
      | panic => exact .broken (Act.run_eq_of_fst h) (ih attempts)
      | overflow | deadlock => cases survives

theorem performance_performing {allowed : World σ → Operation σ → Prop} {os : List (Operation σ)}
    {w : World σ} (may : ∀ o ∈ os, ∀ v, allowed v o) (performs : w.performs os = true) :
    Performance allowed w os (w.performing os) := by
  induction os generalizing w with
  | nil => exact .done w
  | cons o os ih =>
    unfold World.performs at performs
    obtain ⟨ends, performs⟩ := Bool.and_eq_true_iff.mp performs
    have later := ih (fun o mem => may o (List.mem_cons_of_mem _ mem)) performs
    cases h : (o.act.run w).1 with
    | error => cases (congrArg (·.toOption.isSome) h).symm.trans ends
    | ok loaded => exact .step (may o List.mem_cons_self w) (Operation.leads_of_ok h) later

namespace World

def staffed (w : World σ) (bodies : List (Body σ)) : World σ :=
  { w with
    instances := w.instances ++ bodies
    registry := ⟨entered w.instances.length bodies⟩ }

inductive Cleans (w : World σ) : World σ → Prop
  | bare (bare : w.isBare = true) : Cleans w w
  | torn {u : World σ} (stands : w.isBare = false)
      (destroyed : (callAll .destroy w.registry.all).run w.unsubscribed = (.ok (), u)) :
      Cleans w u.cleared

def Initialises (id : String) (i : InstanceId) (w v : World σ) : Prop :=
  ∃ u, (call i (.init w.visualiser.root (w.mount id).surface)).run (w.furnished id) = (.ok (), u) ∧
    v = u.keeping (w.mount id)

/-- What loading a level does; it may tell what is wrong with the level. -/
inductive Loads (l : Level) (hook : Hook σ) (w : World σ) :
    Except Error (List (String × InstanceId)) → World σ → Prop
  | failed {u : World σ} {e : Error} (cleans : w.Cleans u)
      (unmade : makeModules u.visualiser.catalog l = .error e) : Loads l hook w (.error e) u
  | loaded {u x y : World σ} {bodies : List (Body σ)} (cleans : w.Cleans u)
      (made : makeModules u.visualiser.catalog l = .ok bodies)
      (initialised : (initialiseAll (entered u.instances.length bodies)).run (u.staffed bodies) =
        (.ok (), x))
      (hooked : (run (hook (bodies.map Body.id))).run x = (.ok (), y)) :
      Loads l hook w (.ok (entered u.instances.length bodies)) (y.owning u.bus.mark l.id)

/-- What is left of loading a level when that is cut off. -/
inductive Aborts (l : Level) (hook : Hook σ) (w : World σ) : Halt → World σ → Prop
  | cleaning {halt : Halt} {v : World σ} (cut : cleanup.run w = (.error halt, v)) :
      Aborts l hook w halt v
  | initialising {halt : Halt} {u v : World σ} {bodies : List (Body σ)} (cleans : w.Cleans u)
      (made : makeModules u.visualiser.catalog l = .ok bodies)
      (cut : (initialiseAll (entered u.instances.length bodies)).run (u.staffed bodies) =
        (.error halt, v)) : Aborts l hook w halt v
  | hooking {halt : Halt} {u x v : World σ} {bodies : List (Body σ)} (cleans : w.Cleans u)
      (made : makeModules u.visualiser.catalog l = .ok bodies)
      (initialised : (initialiseAll (entered u.instances.length bodies)).run (u.staffed bodies) =
        (.ok (), x))
      (cut : (run (hook (bodies.map Body.id))).run x = (.error halt, v)) : Aborts l hook w halt v

variable {u v w : World σ} {i : InstanceId} {id : String} {l : Level} {hook : Hook σ}
  {c : Call} {result : Except Halt Unit} {bodies : List (Body σ)} {halt : Halt}

theorem visualiser_callAll {is : List InstanceId} (h : (callAll c is).run w = (result, v)) :
    v.visualiser = w.visualiser := by
  have moves := Discipline.moves_callAll (w := w) (c := c) is Discipline.tame_free
    fun _ _ _ _ => trivial
  rw [h] at moves
  exact moves.visualiser

theorem visualiser_run {s : Script σ} (h : (run s).run w = (result, v)) :
    v.visualiser = w.visualiser := by
  have steps := Discipline.free.steps_run (s := s) trivial (Discipline.tame_free (w := w))
  rw [h] at steps
  exact (steps.moves .reset).visualiser

theorem cleans_of_run (h : cleanup.run w = (.ok (), v)) : w.Cleans v := by
  unfold cleanup at h
  rw [Act.run_get_bind] at h
  cases bare : w.isBare with
  | true =>
    simp only [bare, if_true] at h
    cases h
    exact .bare bare
  | false =>
    simp only [bare, Bool.false_eq_true, if_false] at h
    rw [Act.run_set_bind, Act.run_bind] at h
    generalize destroyed : (callAll .destroy w.registry.all).run _ = outcome at h
    obtain ⟨_ | _, u⟩ := outcome
    · cases h
    · cases h
      exact .torn bare destroyed

theorem isBare_iff : w.isBare = true ↔ w.registry = .empty ∧ w.visualiser.mounts = [] ∧
    w.visualiser.levelSubscriptions = [] := by
  unfold isBare
  rw [Bool.and_eq_true, Bool.and_eq_true, List.isEmpty_iff, List.isEmpty_iff, List.isEmpty_iff,
    and_assoc]
  refine and_congr_left' ⟨congrArg Registry.mk, congrArg Registry.entries⟩

theorem Cleans.registry (h : w.Cleans v) : v.registry = .empty := by
  cases h with
  | torn => rfl
  | bare bare => exact (isBare_iff.mp bare).1

theorem Cleans.mounts (h : w.Cleans v) : v.visualiser.mounts = [] := by
  cases h with
  | torn => rfl
  | bare bare => exact (isBare_iff.mp bare).2.1

theorem initialises_of_run (h : (initialise id i).run w = (.ok (), v)) :
    Initialises id i w v := by
  unfold initialise at h
  rw [Act.run_get_bind] at h
  dsimp only at h
  rw [Act.run_set_bind, Act.run_bind] at h
  generalize called : (lending _ _).run _ = outcome at h
  obtain ⟨_ | _, u⟩ := outcome
  · cases h
  · exact ⟨u, run_of_lending called, (congrArg Prod.snd h).symm⟩

theorem initialiseAll_cons {rest : List (String × InstanceId)}
    (h : (initialiseAll ((id, i) :: rest)).run w = (.ok (), v)) :
    ∃ u, Initialises id i w u ∧ (initialiseAll rest).run u = (.ok (), v) := by
  unfold initialiseAll at h
  rw [Act.run_bind] at h
  generalize first : (initialise id i).run w = outcome at h
  obtain ⟨_ | _, u⟩ := outcome
  · cases h
  · exact ⟨u, initialises_of_run first, h⟩

/-- Once the level before is out and the modules are made, they are initialised and the hook is
run. -/
theorem run_initLevel (cleaned : cleanup.run w = (.ok (), u))
    (made : makeModules u.visualiser.catalog l = .ok bodies) :
    (initLevel l hook).run w = (do
      initialiseAll (entered u.instances.length bodies)
      run (hook (bodies.map Body.id))
      modify (·.owning u.bus.mark l.id)
      return .ok (entered u.instances.length bodies) : Act σ _).run (u.staffed bodies) := by
  have empty := (cleans_of_run cleaned).registry
  have once : (u.registry.ids ++ bodies.map Body.id).Nodup := by
    rw [empty]
    exact (of_makeModules made).1
  have staffed : (registerAll bodies).run u =
      (.ok (entered u.instances.length bodies), u.staffed bodies) := by
    rw [run_registerAll bodies u once, empty]
    rfl
  unfold initLevel
  rw [Act.run_bind, cleaned]
  dsimp only
  rw [Act.run_get_bind]
  simp only [made]
  rw [Act.run_bind, staffed]
  dsimp only
  rw [map_fst_entered]
  rfl

/-- Loading a level comes to its end or is cut off. -/
theorem initLevel_cases {outcome : Except Halt (Except Error (List (String × InstanceId)))}
    (h : (initLevel l hook).run w = (outcome, v)) :
    (∃ result, outcome = .ok result ∧ Loads l hook w result v) ∨
      ∃ halt, outcome = .error halt ∧ Aborts l hook w halt v := by
  generalize cleaned : cleanup.run w = before
  obtain ⟨halt | _, u⟩ := before
  · unfold initLevel at h
    rw [Act.run_bind, cleaned] at h
    cases h
    exact .inr ⟨halt, rfl, .cleaning cleaned⟩
  have cleans := cleans_of_run cleaned
  cases made : makeModules u.visualiser.catalog l with
  | error e =>
    unfold initLevel at h
    rw [Act.run_bind, cleaned] at h
    dsimp only at h
    rw [Act.run_get_bind, made] at h
    cases h
    exact .inl ⟨_, rfl, .failed cleans made⟩
  | ok bodies =>
    rw [run_initLevel cleaned made, Act.run_bind] at h
    generalize initialised : (initialiseAll _).run _ = between at h
    obtain ⟨halt | _, x⟩ := between
    · cases h
      exact .inr ⟨halt, rfl, .initialising cleans made initialised⟩
    dsimp only at h
    rw [Act.run_bind] at h
    generalize hooked : (run _).run x = after at h
    obtain ⟨halt | _, y⟩ := after
    · cases h
      exact .inr ⟨halt, rfl, .hooking cleans made initialised hooked⟩
    · cases h
      exact .inl ⟨_, rfl, .loaded cleans made initialised hooked⟩

theorem loads_of_run {result : Except Error (List (String × InstanceId))}
    (h : (initLevel l hook).run w = (.ok result, v)) : Loads l hook w result v := by
  obtain ⟨_, ⟨⟩, loads⟩ | ⟨_, ⟨⟩, -⟩ := initLevel_cases h
  exact loads

theorem aborts_of_run (h : (initLevel l hook).run w = (.error halt, v)) :
    Aborts l hook w halt v := by
  obtain ⟨_, ⟨⟩, -⟩ | ⟨_, ⟨⟩, aborts⟩ := initLevel_cases h
  exact aborts

theorem destroys_of_cleanup (cut : cleanup.run w = (.error halt, v)) :
    (callAll .destroy w.registry.all).run w.unsubscribed = (.error halt, v) := by
  unfold cleanup at cut
  rw [Act.run_get_bind] at cut
  split at cut
  · cases cut
  rw [Act.run_set_bind, Act.run_bind] at cut
  generalize destroyed : (callAll .destroy w.registry.all).run _ = outcome at cut
  obtain ⟨_ | _, u⟩ := outcome
  · cases cut
    exact destroyed
  · cases cut

theorem Cleans.subscriptions (h : w.Cleans v) : v.visualiser.levelSubscriptions = [] := by
  cases h with
  | bare bare => exact (isBare_iff.mp bare).2.2
  | @torn u _ destroyed =>
    have same : u.visualiser = w.unsubscribed.visualiser := visualiser_callAll destroyed
    unfold cleared
    rw [same]
    rfl

/-! Foreign code that confines itself to some effects -/

variable {P : Effect σ → Prop} {bodies : List (Body σ)}

theorem Cleans.strokes (h : w.Cleans v) (confined : w.Confined P) : Strokes P w v := by
  cases h with
  | bare => exact .refl
  | torn _ destroyed =>
    have first : Stroke P w w.unsubscribed := .unsubscribed w
    have moves := (first.confined confined).moves_callAll .destroy w.registry.all
    rw [destroyed] at moves
    exact .head first (.head (.called rfl moves) (.single (.cleared _)))

theorem Confined.staffed {bodies : List (Body σ)} (h : w.Confined P)
    (made : makeModules w.visualiser.catalog l = .ok bodies) : (w.staffed bodies).Confined P := by
  refine ⟨h.tame, fun {i m} here c => ?_, h.catalog⟩
  have here : (w.instances ++ bodies)[i.number]? = some (.foreign m) := here
  rw [List.getElem?_append] at here
  split at here
  · exact h.instances here c
  · obtain ⟨name, -, there⟩ := ((of_makeModules made).2 _).mp (List.mem_of_getElem? here)
    exact h.catalog there i c

theorem Cleans.staffed (cleans : w.Cleans u) (confined : w.Confined P)
    (made : makeModules u.visualiser.catalog l = .ok bodies) : (u.staffed bodies).Confined P :=
  ((cleans.strokes confined).confined confined).staffed made

/-- What becomes of a world while modules are initialised and then foreign code runs. -/
theorem Fits.hooked {R : World σ → World σ → Prop} {modules : List (String × InstanceId)}
    {s : Script σ} (fits : Fits P R) (confined : w.Confined P)
    (initialised : (World.initialiseAll modules).run w = (.ok (), u)) (within : s.Within P) :
    R w ((run s).run u).2 := by
  have strokes := fits_strokes.initialiseAll modules confined
  have fitted := fits.initialiseAll modules confined
  rw [initialised] at strokes fitted
  have steps := (strokes.confined confined).steps_run within
  exact fits.trans fitted (fits.called rfl (steps.moves .destroy))

theorem Loads.fits {R : World σ → World σ → Prop} {modules : List (String × InstanceId)}
    (loads : Loads l hook w (.ok modules) v) (fits : Fits P R) (confined : w.Confined P)
    (hooked : ∀ ids, (hook ids).Within P) : ∃ u y bodies, w.Cleans u ∧
      makeModules u.visualiser.catalog l = .ok bodies ∧
      modules = entered u.instances.length bodies ∧ R (u.staffed bodies) y ∧
      v = y.owning u.bus.mark l.id := by
  cases loads with
  | @loaded u x y bodies cleans made initialised hook =>
    have fitted := fits.hooked (cleans.staffed confined made) initialised
      (hooked (bodies.map Body.id))
    rw [hook] at fitted
    exact ⟨u, y, bodies, cleans, made, rfl, fitted, rfl⟩

theorem Aborts.fits {R : World σ → World σ → Prop} (aborts : Aborts l hook w halt v)
    (fits : Fits P R) (confined : w.Confined P) (hooked : ∀ ids, (hook ids).Within P) :
    cleanup.run w = (.error halt, v) ∨ ∃ u bodies, w.Cleans u ∧
      makeModules u.visualiser.catalog l = .ok bodies ∧ R (u.staffed bodies) v := by
  cases aborts with
  | cleaning cut => exact .inl cut
  | @initialising u _ bodies cleans made cut =>
    have fitted := fits.initialiseAll (entered u.instances.length bodies)
      (cleans.staffed confined made)
    rw [cut] at fitted
    exact .inr ⟨u, bodies, cleans, made, fitted⟩
  | @hooking u _ _ bodies cleans made initialised cut =>
    have fitted := fits.hooked (cleans.staffed confined made) initialised
      (hooked (bodies.map Body.id))
    rw [cut] at fitted
    exact .inr ⟨u, bodies, cleans, made, fitted⟩

theorem run_attempt {act : Act σ Unit} {result : Bool} (h : (attempt act).run w = (.ok result, v)) :
    ∃ result, act.run w = (result, v) := by
  have left : (act.run w).2 = v := by rw [← snd_run_attempt, h]
  exact ⟨(act.run w).1, Prod.ext rfl left⟩

end World

namespace World

variable {u v w : World σ} {i : InstanceId} {c : Call} {id : String} {l : Level} {hook : Hook σ}
  {result : Except Halt Unit}

theorem Initialises.visualiser (h : Initialises id i w v) : v.visualiser =
    { w.visualiser with mounts := w.visualiser.mounts ++ [w.mount id] } := by
  obtain ⟨u, called, rfl⟩ := h
  have moves := Discipline.moves_call (w := w.furnished id)
    (c := .init w.visualiser.root (w.mount id).surface) Discipline.tame_free
    (fun _ _ _ _ => trivial) (List.mem_singleton_self i)
  rw [called] at moves
  have same : u.visualiser = w.visualiser := moves.visualiser
  unfold keeping
  rw [same]

theorem visualiser_initialiseAll {modules : List (String × InstanceId)}
    (h : (initialiseAll modules).run w = (.ok (), v)) : ∃ mounts : List SurfaceHandle,
    mounts.length = modules.length ∧
      v.visualiser = { w.visualiser with mounts := w.visualiser.mounts ++ mounts } := by
  induction modules generalizing w with
  | nil =>
    cases h
    exact ⟨[], rfl, by rw [List.append_nil]⟩
  | cons entry rest ih =>
    obtain ⟨u, first, later⟩ := initialiseAll_cons h
    obtain ⟨mounts, length, eq⟩ := ih later
    refine ⟨w.mount entry.1 :: mounts, congrArg Nat.succ length, ?_⟩
    rw [eq, first.visualiser, List.append_assoc]
    rfl

end World

inductive Operation.Comes (w : World σ) : Operation σ → Option String → World σ → Prop
  | cleaned {v : World σ} (done : World.cleanup.run w = (.ok (), v)) : Comes w .cleanup none v
  | failed {l : Level} {hook : Hook σ} {e : Error} {v : World σ}
      (done : (World.initLevel l hook).run w = (.ok (.error e), v)) : Comes w (.load l hook) none v
  | loaded {l : Level} {hook : Hook σ} {modules : List (String × InstanceId)} {v : World σ}
      (done : (World.initLevel l hook).run w = (.ok (.ok modules), v)) :
      Comes w (.load l hook) (some l.id) v
  | played {o : Operation σ} {c : Call} {result : Except Halt Unit} {v : World σ}
      (asks : o.call? = some c) (done : (World.callAll c w.registry.all).run w = (result, v)) :
      Comes w o none v
  | hosted {s : Script σ} {result : Except Halt Unit} {v : World σ}
      (done : (World.run s).run w = (result, v)) : Comes w (.host s) none v

namespace Operation

variable {o : Operation σ} {w v : World σ} {loaded : Option String}

theorem of_tried {attempted : Act σ Unit} (h : (act.tried attempted).run w = (.ok loaded, v)) :
    loaded = none ∧ ∃ result, attempted.run w = (result, v) := by
  unfold act.tried at h
  rw [Act.run_bind] at h
  generalize run : (World.attempt attempted).run w = outcome at h
  obtain ⟨_ | _, u⟩ := outcome
  · cases h
  · cases h
    exact ⟨rfl, World.run_attempt run⟩

theorem Leads.comes (h : o.Leads w loaded v) : Comes w o loaded v := by
  unfold Leads at h
  cases o with
  | load l hook =>
    unfold act at h
    rw [Act.run_bind] at h
    generalize run : (World.initLevel l hook).run w = outcome at h
    obtain ⟨_ | _ | modules, u⟩ := outcome
    · cases h
    · cases h
      exact .failed run
    · cases h
      exact .loaded run
  | cleanup =>
    unfold act at h
    rw [Act.run_bind] at h
    generalize run : World.cleanup.run w = outcome at h
    obtain ⟨_ | _, u⟩ := outcome
    · cases h
    · cases h
      exact .cleaned run
  | deliver event history =>
    obtain ⟨rfl, result, told⟩ := of_tried h
    exact .played rfl told
  | reset =>
    obtain ⟨rfl, result, told⟩ := of_tried h
    exact .played rfl told
  | update elapsed =>
    obtain ⟨rfl, result, told⟩ := of_tried h
    exact .played rfl told
  | host s =>
    obtain ⟨rfl, result, done⟩ := of_tried h
    exact .hosted done

theorem not_breaks_tried {attempted : Act σ Unit} :
    (act.tried attempted).run w ≠ (.error .panic, v) := by
  intro h
  unfold act.tried World.attempt at h
  rw [Act.run_bind, ExceptT.run_mk] at h
  generalize attempted.run w = outcome at h
  obtain ⟨(_ | _ | _) | _, u⟩ := outcome <;> cases h

theorem Breaks.comes (h : o.Breaks w v) :
    o = .cleanup ∧ World.cleanup.run w = (.error .panic, v) ∨
      ∃ l hook, o = .load l hook ∧ World.Aborts l hook w .panic v := by
  unfold Breaks at h
  cases o with
  | load l hook =>
    unfold act at h
    rw [Act.run_bind] at h
    generalize run : (World.initLevel l hook).run w = outcome at h
    obtain ⟨_ | _ | modules, u⟩ := outcome
    · cases h
      exact .inr ⟨l, hook, rfl, World.aborts_of_run run⟩
    · cases h
    · cases h
  | cleanup =>
    unfold act at h
    rw [Act.run_bind] at h
    generalize run : World.cleanup.run w = outcome at h
    obtain ⟨_ | _, u⟩ := outcome
    · cases h
      exact .inl ⟨rfl, rfl⟩
    · cases h
  | deliver | reset | update | host => exact absurd h not_breaks_tried

/-- Where all foreign code confines itself to some effects, an operation is either a matter of
strokes, or calls of modules and foreign code and nothing more. -/
theorem Leads.cases {P : Effect σ → Prop} (h : o.Leads w loaded v) (confined : w.Confined P)
    (within : o.Within P) : o.clears = true ∧ World.Strokes P w v ∨
      o.clears = false ∧ loaded = none ∧ ∃ c, (Discipline.within P).Moves c w v := by
  cases h.comes with
  | cleaned done =>
    have strokes := confined.strokes_cleanup
    rw [done] at strokes
    exact .inl ⟨rfl, strokes⟩
  | @failed l _ _ _ done =>
    have strokes := confined.strokes_initLevel (l := l) within
    rw [done] at strokes
    exact .inl ⟨rfl, strokes⟩
  | @loaded l _ _ _ done =>
    have strokes := confined.strokes_initLevel (l := l) within
    rw [done] at strokes
    exact .inl ⟨rfl, strokes⟩
  | @played _ c _ _ asks done =>
    have moves := confined.moves_callAll c w.registry.all
    rw [done] at moves
    exact .inr ⟨clears_of_call asks, rfl, _, moves⟩
  | hosted done =>
    have steps := confined.steps_run within
    rw [done] at steps
    exact .inr ⟨rfl, rfl, .reset, steps.moves .reset⟩

theorem Leads.confined {P : Effect σ → Prop} (h : o.Leads w loaded v) (within : o.Within P)
    (confined : w.Confined P) : v.Confined P := by
  rcases h.cases confined within with ⟨-, strokes⟩ | ⟨-, -, c, moves⟩
  · exact strokes.confined confined
  · exact confined.moves moves

theorem within_true (o : Operation σ) : o.Within fun _ => True := by
  cases o with
  | load l hook => exact fun _ => Script.within_true _
  | host s => exact Script.within_true s
  | _ => trivial

/-- What strokes and calls keep, whatever foreign code there is, operations keep. -/
theorem Leads.keeps {I : World σ → Prop}
    (stroke : ∀ {w v}, World.Stroke (fun _ => True) w v → I w → I v)
    (moves : ∀ {c w v}, (Discipline.within fun _ => True).Moves c w v → I w → I v)
    (h : o.Leads w loaded v) (now : I w) : I v := by
  rcases h.cases w.confined_true o.within_true with ⟨-, strokes⟩ | ⟨-, -, c, moved⟩
  · exact strokes.keeps stroke now
  · exact moves moved now

end Operation

end Replay
