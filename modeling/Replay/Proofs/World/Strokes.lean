import Replay.Proofs.World.Confined
import Replay.Proofs.World.Order
import Replay.Session.Run

/-!
How a level is taken out and loaded, one stroke after the other. Whatever foreign code does on the
way, it is called by a visualiser that is busy with the modules, so no event is delivered; and where
all foreign code confines itself to some effects, so does what comes of it.
-/
namespace Replay

variable {σ : Type}

namespace World

def unsubscribed (w : World σ) : World σ :=
  { w with
    bus := unsubscribeAll w.bus w.visualiser.levelSubscriptions
    visualiser := { w.visualiser with levelSubscriptions := [] } }

def cleared (w : World σ) : World σ :=
  { w with
    renderer := releaseAll w.renderer w.visualiser.mounts
    registry := .empty
    visualiser := { w.visualiser with mounts := [], levelId := none } }

def entering (w : World σ) (b : Body σ) : World σ :=
  (w.addInstance b).2.register (w.addInstance b).1

def furnished (w : World σ) (id : String) : World σ :=
  { w with renderer := (SurfaceHandle.create w.renderer (some w.visualiser.root.id) id).2 }

def mount (w : World σ) (id : String) : SurfaceHandle :=
  (SurfaceHandle.create w.renderer (some w.visualiser.root.id) id).1

def keeping (w : World σ) (mount : SurfaceHandle) : World σ :=
  { w with visualiser := { w.visualiser with mounts := w.visualiser.mounts ++ [mount] } }

def owning (w : World σ) (mark : SubscriptionId) (id : String) : World σ :=
  { w with visualiser := { w.visualiser with
      levelSubscriptions := w.bus.since mark
      levelId := some id } }

/-- All foreign code there is, or that can be made, confines itself to some effects. -/
structure Confined (P : Effect σ → Prop) (w : World σ) : Prop where
  tame : (Discipline.within P).Tame w
  instances : ∀ {i : InstanceId} {m : ForeignModule σ}, w.body? i = some (.foreign m) →
    ∀ c, (m.respond i c).Within P
  catalog : ∀ {name : String} {m : ForeignModule σ},
    w.visualiser.catalog[name]? = some (.foreign m) → ∀ i c, (m.respond i c).Within P

inductive Stroke (P : Effect σ → Prop) : World σ → World σ → Prop
  | called {c : Call} {w v : World σ} (quiet : c.isPlay = false)
      (moves : (Discipline.within P).Moves c w v) : Stroke P w v
  | unsubscribed (w : World σ) : Stroke P w w.unsubscribed
  | cleared (w : World σ) : Stroke P w w.cleared
  | entered {w : World σ} {b : Body σ}
      (made : ∃ name : String, w.visualiser.catalog[name]? = some b) : Stroke P w (w.entering b)
  | furnished (w : World σ) (id : String) : Stroke P w (w.furnished id)
  | kept (w : World σ) (mount : SurfaceHandle) : Stroke P w (w.keeping mount)
  | withdrawn (w : World σ) (mount : SurfaceHandle) : Stroke P w (w.withdrawn mount)
  | owned (w : World σ) (mark : SubscriptionId) (id : String) : Stroke P w (w.owning mark id)
  | coded (w : World σ) (code : String) : Stroke P w { w with session := w.session.setCode code }

def Strokes (P : Effect σ → Prop) : World σ → World σ → Prop := Relation.ReflTransGen (Stroke P)

end World

theorem Script.within_true (s : Script σ) : s.Within fun _ => True := by
  induction s with
  | done => trivial
  | panic => trivial
  | consult k ih | publish n k ih | registered k ih | session k ih => exact ih
  | mark k ih | since m k ih | count kind k ih => exact ih
  | subscribe kind callback k ihCallback ih => exact ⟨trivial, ihCallback, ih⟩
  | access id kind body k ihBody ih => exact ⟨ihBody, ih⟩
  | _ => exact ⟨trivial, ‹_›⟩

theorem Discipline.Moves.visualiser {D : Discipline σ} {c : Call} {w v : World σ}
    (h : D.Moves c w v) : v.visualiser = w.visualiser :=
  h.kept (fun _ => Effect.visualiser_apply) fun {_ _ b} _ => by cases b <;> rfl

namespace World

variable {P : Effect σ → Prop} {u v w : World σ} {i : InstanceId} {b : Body σ} {c : Call}
  {l : Level} {hook : Hook σ}

theorem confined_true (w : World σ) : w.Confined fun _ => True where
  tame _ _ _ _ := Script.within_true _
  instances _ _ := Script.within_true _
  catalog _ _ _ := Script.within_true _

theorem confined_new {catalog : Catalog σ} {renderer : Renderer} {config : Playback.Config}
    {nesting : Nat} {memory : σ} (makes : ∀ {name : String} {m : ForeignModule σ},
      catalog[name]? = some (.foreign m) → ∀ i c, (m.respond i c).Within P) :
    (World.new catalog renderer config nesting memory).Confined P where
  tame kind l mem := by cases kind <;> cases mem
  instances := nofun
  catalog := makes

theorem builtin_eq_blank {name : String} (h : (Catalog.builtin : Catalog σ)[name]? = some b) :
    b = .tracker .blank := by
  unfold Catalog.builtin at h
  rw [Std.TreeMap.getElem?_insert] at h
  split at h
  · exact (Option.some.inj h).symm
  · simp at h

/-- In the built-in catalog with one foreign module more, that one is the only one. -/
theorem foreign_of_builtin_insert {id name : String} {m m' : ForeignModule σ}
    (h : ((Catalog.builtin : Catalog σ).insert id (.foreign m))[name]? = some (.foreign m')) :
    m' = m := by
  rw [Std.TreeMap.getElem?_insert] at h
  split at h
  · cases h
    rfl
  · cases builtin_eq_blank h

theorem Confined.answers (h : w.Confined P) (is : List InstanceId) (c : Call) :
    (Discipline.within P).Answers is w c :=
  fun _ _ _ here => h.instances here c

theorem Confined.moves (h : w.Confined P) (moves : (Discipline.within P).Moves c w v) :
    v.Confined P where
  tame := moves.tame h.tame
  instances {i m} here c := by
    rw [← cast_eq_foreign, moves.cast, cast_eq_foreign] at here
    exact h.instances here c
  catalog := by
    rw [moves.visualiser]
    exact h.catalog

theorem listeners_unsubscribeAll {ids : List SubscriptionId} {kind : Notice.Kind}
    {listener : Listener (Notice → Script σ)} : ∀ {b : Bus (Notice → Script σ)},
    listener ∈ (unsubscribeAll b ids).listeners kind → listener ∈ b.listeners kind := by
  induction ids with
  | nil => exact fun mem => mem
  | cons id rest ih => exact fun mem => Bus.mem_listeners_unsubscribe (ih mem)

theorem body?_addInstance {b' : Body σ} (h : (w.addInstance b).2.body? i = some b') :
    w.body? i = some b' ∨ w.body? i = none ∧ b' = b := by
  unfold body? addInstance at h
  dsimp only at h
  rw [List.getElem?_append] at h
  split at h
  · exact .inl h
  · exact .inr ⟨List.getElem?_eq_none (Nat.le_of_not_lt ‹_›),
      List.mem_singleton.mp (List.mem_of_getElem? h)⟩

theorem entering_eq (w : World σ) (b : Body σ) : ∃ registry,
    w.entering b = { (w.addInstance b).2 with registry } :=
  Effect.apply_register

theorem Stroke.confined (h : Stroke P w v) (confined : w.Confined P) : v.Confined P := by
  cases h with
  | called _ moves => exact confined.moves moves
  | unsubscribed =>
    exact ⟨fun kind l mem => confined.tame kind l (listeners_unsubscribeAll mem),
      confined.instances, confined.catalog⟩
  | @entered _ b made =>
    obtain ⟨registry, eq⟩ := entering_eq w b
    rw [eq]
    refine ⟨confined.tame, fun {i m} here c => ?_, confined.catalog⟩
    rcases body?_addInstance here with old | ⟨-, rfl⟩
    · exact confined.instances old c
    · exact confined.catalog made.choose_spec i c
  | _ => exact ⟨confined.tame, confined.instances, confined.catalog⟩

theorem Strokes.keeps {I : World σ → Prop} (step : ∀ {w v}, Stroke P w v → I w → I v)
    (h : Strokes P w v) (now : I w) : I v := by
  induction h with
  | refl => exact now
  | tail _ stroke ih => exact step stroke ih

theorem Strokes.confined (h : Strokes P w v) (confined : w.Confined P) : v.Confined P :=
  h.keeps Stroke.confined confined

theorem Stroke.catalog (h : Stroke P w v) : v.visualiser.catalog = w.visualiser.catalog := by
  cases h with
  | called _ moves => rw [moves.visualiser]
  | @entered _ b _ =>
    obtain ⟨registry, eq⟩ := entering_eq w b
    rw [eq]
    rfl
  | _ => rfl

theorem Strokes.catalog (h : Strokes P w v) : v.visualiser.catalog = w.visualiser.catalog := by
  induction h with
  | refl => rfl
  | tail _ stroke ih => exact stroke.catalog.trans ih

/-! What actions come to -/

theorem Confined.moves_callAll (h : w.Confined P) (c : Call) (is : List InstanceId) :
    (Discipline.within P).Moves c w ((callAll c is).run w).2 :=
  Discipline.moves_callAll is h.tame (h.answers is c)

theorem Confined.moves_call (h : w.Confined P) (c : Call) (i : InstanceId) :
    (Discipline.within P).Moves c w ((call i c).run w).2 :=
  Discipline.moves_call h.tame (h.answers [i] c) (List.mem_singleton_self i)

theorem Confined.steps_run (h : w.Confined P) {s : Script σ} (within : s.Within P) :
    (Discipline.within P).Steps w ((run s).run w).2 :=
  Discipline.steps_run _ within h.tame

theorem Confined.strokes_cleanup (h : w.Confined P) : Strokes P w (cleanup.run w).2 := by
  unfold cleanup
  rw [Act.run_get_bind]
  split
  · exact .refl
  rw [Act.run_set_bind]
  have first : Stroke P w w.unsubscribed := .unsubscribed w
  have calls : Stroke P w.unsubscribed ((callAll .destroy w.registry.all).run w.unsubscribed).2 :=
    .called rfl ((first.confined h).moves_callAll _ _)
  exact .head first (Act.bind_of_trans .trans (.single calls) fun _ => .single (.cleared _))

theorem strokes_registerAll (bodies : List (Body σ)) : ∀ w : World σ,
    (∀ b ∈ bodies, ∃ name : String, w.visualiser.catalog[name]? = some b) →
      Strokes P w ((registerAll bodies).run w).2 := by
  induction bodies with
  | nil => exact fun _ _ => .refl
  | cons b rest ih =>
    intro w made
    have first : Stroke P w (w.entering b) := .entered (made b List.mem_cons_self)
    unfold registerAll
    rw [Act.run_get_bind]
    dsimp only
    rw [Act.run_set_bind]
    refine .head first (Act.bind_of_trans .trans (ih _ fun b mem => ?_) fun _ => .refl)
    obtain ⟨name, there⟩ := made b (List.mem_cons_of_mem _ mem)
    exact ⟨name, (congrArg (·[name]?) first.catalog).trans there⟩

/-- Whether what initialising modules does, one thing after the other, stays within a relation. -/
structure Fits (P : Effect σ → Prop) (R : World σ → World σ → Prop) : Prop where
  refl : ∀ w, R w w
  trans : ∀ {u v w}, R u v → R v w → R u w
  called : ∀ {c w v}, c.isPlay = false → (Discipline.within P).Moves c w v → R w v
  furnished : ∀ w id, R w (w.furnished id)
  kept : ∀ w mount, R w (w.keeping mount)
  withdrawn : ∀ w mount, R w (w.withdrawn mount)

theorem fits_strokes : Fits P (Strokes P) where
  refl _ := .refl
  trans := .trans
  called quiet moves := .single (.called quiet moves)
  furnished w id := .single (.furnished w id)
  kept w mount := .single (.kept w mount)
  withdrawn w mount := .single (.withdrawn w mount)

variable {R : World σ → World σ → Prop}

/-- Where a panic cuts off what is done on a surface, the surface goes; all else is as if nobody had
an eye on it. -/
theorem lending_cases (mount : SurfaceHandle) (act : Act σ Unit) (w : World σ) :
    (∃ u, act.run w = (.error .panic, u) ∧
      (lending mount act).run w = (.error .panic, u.withdrawn mount)) ∨
      (lending mount act).run w = act.run w := by
  unfold lending
  rw [ExceptT.run_mk]
  split
  · exact .inl ⟨_, ‹_›, rfl⟩
  · exact .inr rfl

theorem run_of_lending {mount : SurfaceHandle} {act : Act σ Unit}
    (h : (lending mount act).run w = (.ok (), v)) : act.run w = (.ok (), v) := by
  rcases lending_cases mount act w with ⟨u, -, eq⟩ | eq
  · cases eq.symm.trans h
  · exact eq.symm.trans h

theorem Fits.lending (fits : Fits P R) {mount : SurfaceHandle} {act : Act σ Unit}
    (h : R w (act.run w).2) : R w ((lending mount act).run w).2 := by
  rcases lending_cases mount act w with ⟨u, panics, eq⟩ | eq
  · rw [panics] at h
    rw [eq]
    exact fits.trans h (fits.withdrawn u mount)
  · rwa [eq]

theorem Fits.initialise (fits : Fits P R) (h : w.Confined P) (id : String) (i : InstanceId) :
    R w ((initialise id i).run w).2 := by
  have first : Stroke P w (w.furnished id) := .furnished w id
  have calls := (first.confined h).moves_call (.init w.visualiser.root (w.mount id).surface) i
  unfold World.initialise
  rw [Act.run_get_bind]
  dsimp only
  rw [Act.run_set_bind]
  refine fits.trans (fits.furnished w id) (Act.bind_of_trans (R := R) fits.trans ?_ fun _ => ?_)
  · exact fits.lending (fits.called rfl calls)
  · exact fits.kept _ _

theorem Fits.initialiseAll (fits : Fits P R) (modules : List (String × InstanceId)) :
    ∀ {w : World σ}, w.Confined P → R w ((initialiseAll modules).run w).2 := by
  induction modules with
  | nil => exact fun {w} _ => fits.refl w
  | cons entry rest ih =>
    intro w h
    have confined := (fits_strokes.initialise h entry.1 entry.2).confined h
    unfold World.initialiseAll
    exact Act.bind_of_trans (R := R) fits.trans (fits.initialise h entry.1 entry.2) fun _ =>
      ih confined

theorem Confined.strokes_initLevel (h : w.Confined P) (hooked : ∀ ids, (hook ids).Within P) :
    Strokes P w ((initLevel l hook).run w).2 := by
  have cleaned := h.strokes_cleanup
  unfold initLevel
  refine Act.bind_of_trans .trans cleaned fun _ => ?_
  rw [Act.run_get_bind]
  dsimp only
  split
  · exact .refl
  rename_i bodies made
  have registered := strokes_registerAll (P := P) bodies (cleanup.run w).2 fun b mem => by
    obtain ⟨name, -, there⟩ := ((of_makeModules made).2 b).mp mem
    exact ⟨name, there⟩
  have confined := registered.confined (cleaned.confined h)
  refine Act.bind_of_trans .trans registered fun modules => ?_
  have initialised := fits_strokes.initialiseAll modules confined
  refine Act.bind_of_trans .trans initialised fun _ => ?_
  have steps := (initialised.confined confined).steps_run (hooked (modules.map (·.1)))
  exact Act.bind_of_trans .trans (.single (.called rfl (steps.moves .destroy))) fun _ =>
    .single (.owned _ _ _)

theorem Confined.strokes_initSession (h : w.Confined P) (hooked : ∀ ids, (hook ids).Within P) :
    Strokes P w ((initSession l hook).run w).2 := by
  unfold initSession
  refine Act.bind_of_trans .trans (h.strokes_initLevel hooked) fun result => ?_
  cases result with
  | error e => exact .refl
  | ok modules => exact .single (.coded _ _)

end World

end Replay
