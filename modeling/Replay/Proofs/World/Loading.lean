import Replay.Proofs.World.Mirror
import Replay.Proofs.World.Order

/-!
Loading a level that has the variables module. As long as the module has no surface nobody has drawn
where its boxes will be; and from the moment it gets one, tidy code leaves it to the module.
-/
namespace Replay

variable {σ : Type}

theorem Registry.get_of_mem {r : Registry} {id : String} {i : InstanceId} (once : r.ids.Nodup)
    (mem : (id, i) ∈ r.entries) : r.get id = .ok i := by
  obtain ⟨front, back, split⟩ := List.append_of_mem mem
  have fresh : id ∉ front.map Prod.fst := by
    unfold Registry.ids at once
    rw [split, List.map_append, List.map_cons] at once
    exact fun old => (List.nodup_cons.mp (List.nodup_middle.mp once)).1 (List.mem_append_left _ old)
  have found : r.entries.lookup id = some i := by
    refine List.lookup_eq_some_iff.mpr ⟨front, back, split, fun entry old => ?_⟩
    rw [bne_iff_ne]
    rintro rfl
    exact fresh (List.mem_map_of_mem old)
  unfold Registry.get
  rw [found]

theorem Registry.mem_all_of_get {r : Registry} {id : String} {i : InstanceId}
    (h : r.get id = .ok i) : i ∈ r.all := by
  unfold get at h
  split at h
  · rename_i found
    cases h
    obtain ⟨front, back, split, -⟩ := List.lookup_eq_some_iff.mp found
    unfold all
    rw [split, List.map_append]
    exact List.mem_append_right _ List.mem_cons_self
  · cases h

namespace World

/-- Instances that are made one after the other, by their ids. -/
def entered (made : Nat) (bodies : List (Body σ)) : List (String × InstanceId) :=
  bodies.mapIdx fun k b => (b.id, ⟨made + k⟩)

variable {keeps : σ → Nat → Prop} {bodies : List (Body σ)} {known : Registry}
  {R : Renderer → Prop} {u v w : World σ} {i j : InstanceId} {b : Body σ} {c : Call} {id : String}
  {e : Effect σ} {m : Variables} {s : Surface}

theorem entered_cons {made : Nat} :
    entered made (b :: bodies) = (b.id, ⟨made⟩) :: entered (made + 1) bodies := by
  unfold entered
  rw [List.mapIdx_cons]
  congr 2
  funext k b
  rw [Nat.add_right_comm, Nat.add_assoc]

theorem map_fst_entered : ∀ {made : Nat},
    (entered made bodies).map Prod.fst = bodies.map Body.id := by
  induction bodies with
  | nil => exact fun {_} => rfl
  | cons b rest ih =>
    intro made
    rw [entered_cons, List.map_cons, ih, List.map_cons]

theorem register_fresh (there : w.body? i = some b) (fresh : b.id ∉ w.registry.ids) :
    w.register i = { w with registry := ⟨w.registry.entries ++ [(b.id, i)]⟩ } := by
  have unheld : w.registry.entries.any (·.1 = b.id) = false := by
    rw [List.any_eq_false]
    intro entry mem same
    exact fresh (List.mem_map.mpr ⟨entry, mem, of_decide_eq_true same⟩)
  unfold World.register Registry.register
  rw [there]
  dsimp only
  rw [unheld]
  rfl

theorem run_registerAll (bodies : List (Body σ)) : ∀ w : World σ,
    (w.registry.ids ++ bodies.map Body.id).Nodup →
      (registerAll bodies).run w = (.ok (entered w.instances.length bodies),
        { w with
          instances := w.instances ++ bodies
          registry := ⟨w.registry.entries ++ entered w.instances.length bodies⟩ }) := by
  induction bodies with
  | nil =>
    intro w _
    unfold registerAll entered
    simp only [List.append_nil, List.mapIdx_nil]
    rfl
  | cons b rest ih =>
    intro w nodup
    rw [List.map_cons] at nodup
    obtain ⟨fresh, -⟩ := List.nodup_cons.mp (List.nodup_middle.mp nodup)
    have there : (w.addInstance b).2.body? (w.addInstance b).1 = some b := by
      unfold addInstance body?
      dsimp only
      rw [List.getElem?_append_right (Nat.le_refl _), Nat.sub_self]
      rfl
    have next := register_fresh there fun mem => fresh (List.mem_append_left _ mem)
    unfold registerAll
    rw [Act.run_get_bind]
    dsimp only
    rw [Act.run_set_bind, next, Act.run_bind, ih]
    · unfold addInstance
      dsimp only
      rw [List.length_append, entered_cons, List.append_assoc, List.append_assoc]
      rfl
    · unfold Registry.ids
      dsimp only
      rw [List.map_append, List.append_assoc]
      exact nodup

/-- A world in which no event was heard yet, with some modules and what is true of the renderer. -/
structure Staged (keeps : σ → Nat → Prop) (bodies : List (Body σ)) (known : Registry)
    (R : Renderer → Prop) (w : World σ) : Prop where
  fair : w.Fair keeps
  tame : (Discipline.tidy keeps).Tame w
  instances : w.instances = bodies
  registry : w.registry = known
  root : w.renderer.Lends w.visualiser.root.id.number
  unheard : ∀ i, w.heard i = []
  holds : R w.renderer

theorem Staged.apply (steady : Renderer.Steady R) (may : e.Tidy keeps w)
    (h : w.Staged keeps bodies known R) : World.Staged keeps bodies known R (e.apply w) where
  fair := may.grows.fair h.fair
  tame := h.tame.apply may
  instances := Effect.instances_apply.trans h.instances
  registry := by
    have moves : (Discipline.tidy keeps).Steps w (e.apply w) := .single ⟨e, may, rfl⟩
    exact ((moves.moves .reset).registry Effect.Tidy.leavesRegistry).trans h.registry
  root := by
    rw [Effect.visualiser_apply]
    exact may.grows.lends h.root
  unheard i := Effect.heard_apply.trans (h.unheard i)
  holds := may.steady steady h.holds

theorem Staged.steps (steady : Renderer.Steady R) (steps : (Discipline.tidy keeps).Steps w v)
    (h : w.Staged keeps bodies known R) : v.Staged keeps bodies known R := by
  induction steps with
  | refl => exact h
  | tail _ step ih =>
    obtain ⟨e, may, rfl⟩ := step
    exact ih.apply steady may

theorem Staged.frame {bodies' : List (Body σ)} {known' : Registry}
    (h : w.Staged keeps bodies known R) (bus : v.bus = w.bus) (renderer : v.renderer = w.renderer)
    (memory : v.memory = w.memory) (root : v.visualiser.root = w.visualiser.root)
    (heard : ∀ i, v.heard i = w.heard i) (instances : v.instances = bodies')
    (registry : v.registry = known') : v.Staged keeps bodies' known' R where
  fair := (Grows.same renderer memory).fair h.fair
  tame := h.tame.grow bus (Grows.same renderer memory)
  instances := instances
  registry := registry
  root := by
    rw [renderer, root]
    exact h.root
  unheard i := (heard i).trans (h.unheard i)
  holds := by
    rw [renderer]
    exact h.holds

theorem Staged.visualiser {visualiser : Visualiser σ} (root : visualiser.root = w.visualiser.root)
    (h : w.Staged keeps bodies known R) :
    World.Staged keeps bodies known R { w with visualiser } :=
  h.frame rfl rfl rfl root (fun _ => rfl) h.instances h.registry

theorem Staged.admits {s : Script σ} (tidy : s.Tidy keeps fun _ => False)
    (h : w.Staged keeps bodies known R) : w.Admits keeps s :=
  ⟨h.fair, _, fun _ => False.elim, tidy⟩

/-- A surface for a module, whatever else is true of the renderer then. -/
theorem Staged.mount (id : String) (R' : Renderer → Prop)
    (holds : R' (SurfaceHandle.create w.renderer (some w.visualiser.root.id) id).2)
    (h : w.Staged keeps bodies known R) : World.Staged keeps bodies known R' { w with
      renderer := (SurfaceHandle.create w.renderer (some w.visualiser.root.id) id).2 } := by
  have grows : Grows keeps w
      { w with renderer := (SurfaceHandle.create w.renderer (some w.visualiser.root.id) id).2 } :=
    .of_evolves (Renderer.evolves_createSurface _ _ _) rfl
  constructor
  · exact grows.fair h.fair
  · exact h.tame.grow rfl grows
  · exact h.instances
  · exact h.registry
  · exact grows.lends h.root
  · exact h.unheard
  · exact holds

theorem heard_init {root own : Surface} : (w.begin j b (.init root own)).heard i = w.heard i := by
  rw [heard_begin]
  exact ite_self _

theorem Staged.begin_foreign {m : ForeignModule σ} {root own : Surface}
    (h : w.Staged keeps bodies known R) :
    World.Staged keeps bodies known R (w.begin j (.foreign m) (.init root own)) :=
  h.frame rfl rfl rfl rfl (fun _ => heard_init) h.instances h.registry

theorem Staged.initialise {m : ForeignModule σ} (steady : Renderer.Steady R)
    (there : bodies[j.number]? = some (.foreign m)) (tidy : ∀ c, (m.respond j c).Tidy keeps c.given)
    (other : id ≠ Variables.name) (h : w.Staged keeps bodies known R)
    (done : (initialise id j).run w = (.ok (), v)) : v.Staged keeps bodies known R := by
  unfold World.initialise at done
  rw [Act.run_get_bind] at done
  dsimp only at done
  rw [Act.run_set_bind, Act.run_bind] at done
  have mounted := h.mount id R (steady.mount h.holds other)
  generalize called : (lending _ _).run _ = outcome at done
  obtain ⟨_ | _, u⟩ := outcome
  · cases done
  have called := run_of_lending called
  cases done
  refine Staged.visualiser (w := u) rfl ?_
  have answers : (Discipline.tidy keeps).Answers [j]
      { w with renderer := (SurfaceHandle.create w.renderer (some w.visualiser.root.id) id).2 }
      (.init w.visualiser.root
        (SurfaceHandle.create w.renderer (some w.visualiser.root.id) id).1.surface) := by
    intro k mem m' here
    cases List.mem_singleton.mp mem
    have same := (congrArg (·[j.number]?) mounted.instances).trans there
    cases same.symm.trans here
    refine ⟨mounted.fair, _, ?_, tidy _⟩
    rintro n (rfl | rfl)
    · exact mounted.root
    · obtain ⟨p, kept⟩ := h.fair.picture
      exact Renderer.lends_createSurface kept other
  rcases Discipline.call_cases mounted.tame answers (List.mem_singleton_self j) with
    ⟨-, eq⟩ | eq | ⟨b, here, steps⟩
  · cases eq.symm.trans called
    exact mounted
  · cases eq.symm.trans called
  · have same := (congrArg (·[j.number]?) mounted.instances).trans there
    cases same.symm.trans here
    rw [called] at steps
    exact mounted.begin_foreign.steps steady steps

theorem Staged.initialiseAll (steady : Renderer.Steady R) (modules : List (String × InstanceId))
    (foreign : ∀ entry ∈ modules, entry.1 ≠ Variables.name ∧
      ∃ m, bodies[entry.2.number]? = some (.foreign m) ∧
        ∀ c, (m.respond entry.2 c).Tidy keeps c.given) :
    ∀ w : World σ, w.Staged keeps bodies known R →
      (initialiseAll modules).run w = (.ok (), v) → v.Staged keeps bodies known R := by
  induction modules with
  | nil =>
    intro w h done
    cases done
    exact h
  | cons entry rest ih =>
    intro w h done
    obtain ⟨other, m, there, tidy⟩ := foreign entry List.mem_cons_self
    unfold World.initialiseAll at done
    rw [Act.run_bind] at done
    generalize first : (World.initialise entry.1 entry.2).run w = outcome at done
    obtain ⟨_ | _, u⟩ := outcome
    · cases done
    exact ih (fun entry mem => foreign entry (List.mem_cons_of_mem _ mem)) u
      (h.initialise steady there tidy other first) done

theorem Staged.initialise_tracker (there : bodies[i.number]? = some (.tracker .blank))
    (h : w.Staged keeps bodies known Renderer.Unclaimed)
    (done : (World.initialise Variables.name i).run w = (.ok (), v)) :
    ∃ s, v.Staged keeps (bodies.set i.number (.tracker (.mounted s))) known
      ((Variables.mounted s).Shown s []) := by
  unfold World.initialise at done
  rw [Act.run_get_bind] at done
  dsimp only at done
  rw [Act.run_set_bind, Act.run_bind] at done
  have mounted := h.mount Variables.name _
    (Variables.shown_mounted h.holds (some w.visualiser.root.id))
  generalize SurfaceHandle.create w.renderer (some w.visualiser.root.id) Variables.name = made
    at done mounted
  obtain ⟨mount, renderer⟩ := made
  refine ⟨mount.surface, ?_⟩
  have here := (congrArg (·[i.number]?) mounted.instances).trans there
  have answers : (Discipline.tidy keeps).Answers [i] { w with renderer }
      (.init w.visualiser.root mount.surface) := by
    intro k mem m' foreign
    cases List.mem_singleton.mp mem
    cases here.symm.trans foreign
  generalize called : (lending mount (call i _)).run _ = outcome at done
  obtain ⟨_ | _, u⟩ := outcome
  · cases done
  have called := run_of_lending called
  cases done
  refine Staged.visualiser (w := u) rfl ?_
  rcases Discipline.call_cases mounted.tame answers (List.mem_singleton_self i) with
    ⟨absent, -⟩ | eq | ⟨b, here', steps⟩
  · cases here.symm.trans absent
  · cases eq.symm.trans called
  · cases here.symm.trans here'
    have begun : World.Staged keeps (bodies.set i.number (.tracker (.mounted mount.surface))) known
        ((Variables.mounted mount.surface).Shown mount.surface [])
        (World.begin { w with renderer } i (.tracker .blank)
          (.init w.visualiser.root mount.surface)) := by
      constructor
      · exact (grows_begin _ _).fair mounted.fair
      · exact mounted.tame.grow bus_begin (grows_begin _ _)
      · exact congrArg (·.set i.number (.tracker (.mounted mount.surface))) mounted.instances
      · exact mounted.registry
      · exact mounted.root
      · exact fun k => heard_init.trans (h.unheard k)
      · exact mounted.holds
    rw [called] at steps
    exact begun.steps Variables.steady_shown steps

/-- The modules of a level: no two have the same id, one is the variables module, and the others are
foreign and tidy. -/
structure Crew (keeps : σ → Nat → Prop) (bodies : List (Body σ)) (place : Nat) : Prop where
  once : (bodies.map Body.id).Nodup
  tracker : bodies[place]? = some (.tracker .blank)
  tidy : ∀ m, .foreign m ∈ bodies → ∀ i c, (m.respond i c).Tidy keeps c.given

variable {place k : Nat}

theorem Crew.other (h : Crew keeps bodies place) (there : bodies[k]? = some b) (ne : k ≠ place) :
    b.id ≠ Variables.name ∧ ∃ m, b = .foreign m := by
  have different : b.id ≠ Variables.name := by
    intro same
    have here : (bodies.map Body.id)[k]? = (bodies.map Body.id)[place]? := by
      rw [List.getElem?_map, List.getElem?_map, there, h.tracker]
      exact congrArg some same
    have lt : k < (bodies.map Body.id).length := by
      rw [List.length_map]
      exact (List.getElem?_eq_some_iff.mp there).1
    exact ne ((List.getElem?_inj lt h.once).mp here)
  cases b with
  | tracker m => exact absurd rfl different
  | foreign m => exact ⟨different, m, rfl⟩

theorem mem_entered {entry : String × InstanceId} (mem : entry ∈ entered 0 bodies) :
    ∃ b, bodies[entry.2.number]? = some b ∧ b.id = entry.1 := by
  obtain ⟨k, lt, rfl⟩ := List.mem_mapIdx.mp mem
  refine ⟨bodies[k], ?_, rfl⟩
  rw [Nat.zero_add]
  exact List.getElem?_eq_getElem lt

theorem Staged.ready (crew : Crew keeps bodies place)
    (h : w.Staged keeps (bodies.set place (.tracker (.mounted s))) known
      ((Variables.mounted s).Shown s [])) :
    (Discipline.tidy keeps).Rules known w ∧ w.Mirrors keeps ⟨place⟩ := by
  have lt : place < bodies.length := (List.getElem?_eq_some_iff.mp crew.tracker).1
  have here : w.body? ⟨place⟩ = some (.tracker (.mounted s)) := by
    unfold body?
    rw [h.instances]
    exact List.getElem?_set_self lt
  have elsewhere {k : Nat} (ne : k ≠ place) : w.instances[k]? = bodies[k]? := by
    rw [h.instances]
    exact List.getElem?_set_ne (Ne.symm ne)
  refine ⟨⟨h.tame, fun c play i mem m there => ?_, h.registry⟩, h.fair, ?_, .mounted s, s, here, ?_⟩
  · have ne : i.number ≠ place := by
      rintro rfl
      cases here.symm.trans there
    have among : bodies[i.number]? = some (.foreign m) := (elsewhere ne).symm.trans there
    refine ⟨h.fair, _, ?_, crew.tidy m (List.mem_of_getElem? among) i c⟩
    -- a call in the course of a trace gives nothing
    intro n given
    cases c <;> first | exact given.elim | cases play
  · intro j tracker
    by_cases same : j.number = place
    · exact congrArg InstanceId.mk same
    · unfold cast at tracker
      rw [List.getElem?_map, elsewhere same] at tracker
      obtain ⟨b, there, none⟩ := Option.map_eq_some_iff.mp tracker
      obtain ⟨-, m, rfl⟩ := crew.other there same
      cases none
  · have told : w.told ⟨place⟩ = [] := by
      unfold World.told
      rw [h.unheard]
      rfl
    rw [told]
    exact Variables.mirrors_mounted h.holds

theorem initialiseAll_append (front back : List (String × InstanceId)) :
    (initialiseAll (front ++ back) : Act σ Unit) =
      initialiseAll front >>= fun _ => initialiseAll back := by
  induction front with
  | nil => rfl
  | cons entry rest ih =>
    have first (more : List (String × InstanceId)) : (initialiseAll (entry :: more) : Act σ Unit) =
        initialise entry.1 entry.2 >>= fun _ => initialiseAll more := rfl
    rw [List.cons_append, first, first, ih, bind_assoc]

theorem Crew.listed (h : Crew keeps bodies place) :
    (Variables.name, ⟨place⟩) ∈ entered 0 bodies := by
  obtain ⟨lt, here⟩ := List.getElem?_eq_some_iff.mp h.tracker
  refine List.mem_mapIdx.mpr ⟨place, lt, ?_⟩
  rw [here, Nat.zero_add]
  rfl

theorem Crew.foreign {entry : String × InstanceId} (h : Crew keeps bodies place)
    (mem : entry ∈ entered 0 bodies) (other : entry.1 ≠ Variables.name) :
    entry.2.number ≠ place ∧ ∃ m, bodies[entry.2.number]? = some (.foreign m) ∧
      ∀ c, (m.respond entry.2 c).Tidy keeps c.given := by
  obtain ⟨b, there, same⟩ := mem_entered mem
  have ne : entry.2.number ≠ place := by
    intro eq
    rw [eq, h.tracker] at there
    cases there
    exact other same.symm
  obtain ⟨-, m, rfl⟩ := h.other there ne
  exact ⟨ne, m, there, h.tidy m (List.mem_of_getElem? there) entry.2⟩

/-- The modules before the variables module are initialised while nobody has its surface, those
behind it when it is taken. -/
theorem Crew.initialised (crew : Crew keeps bodies place)
    (staged : w.Staged keeps bodies known Renderer.Unclaimed)
    (done : (initialiseAll (entered 0 bodies)).run w = (.ok (), v)) :
    ∃ s, v.Staged keeps (bodies.set place (.tracker (.mounted s))) known
      ((Variables.mounted s).Shown s []) := by
  obtain ⟨front, back, split⟩ := List.append_of_mem crew.listed
  have once : ((front ++ (Variables.name, ⟨place⟩) :: back).map Prod.fst).Nodup := by
    rw [← split, map_fst_entered]
    exact crew.once
  rw [List.map_append, List.map_cons] at once
  have fresh : Variables.name ∉ front.map Prod.fst ++ back.map Prod.fst :=
    (List.nodup_cons.mp (List.nodup_middle.mp once)).1
  have others (entry : String × InstanceId) (mem : entry ∈ front ∨ entry ∈ back) :
      entry ∈ entered 0 bodies ∧ entry.1 ≠ Variables.name := by
    rw [split, List.mem_append, List.mem_cons]
    refine ⟨mem.imp_right .inr, fun eq => fresh (eq ▸ List.mem_append.mpr ?_)⟩
    exact mem.imp (List.mem_map_of_mem (f := Prod.fst)) (List.mem_map_of_mem (f := Prod.fst))
  rw [split, initialiseAll_append, Act.run_bind] at done
  generalize begun : (initialiseAll front).run w = outcome at done
  obtain ⟨_ | _, u⟩ := outcome
  · cases done
  have first := staged.initialiseAll Renderer.steady_unclaimed front (fun entry mem =>
    ⟨(others entry (.inl mem)).2,
      (crew.foreign (others entry (.inl mem)).1 (others entry (.inl mem)).2).2⟩) w begun
  unfold initialiseAll at done
  dsimp only at done
  rw [Act.run_bind] at done
  generalize middle : (initialise Variables.name ⟨place⟩).run u = outcome at done
  obtain ⟨_ | _, u'⟩ := outcome
  · cases done
  obtain ⟨s, mounted⟩ := Staged.initialise_tracker crew.tracker first middle
  refine ⟨s, mounted.initialiseAll Variables.steady_shown back (fun entry mem => ?_) u' done⟩
  obtain ⟨mem, other⟩ := others entry (.inr mem)
  obtain ⟨ne, foreign⟩ := crew.foreign mem other
  rw [List.getElem?_set_ne (Ne.symm ne)]
  exact ⟨other, foreign⟩

structure Vacant (keeps : σ → Nat → Prop) (catalog : Catalog σ) (w : World σ) : Prop
    extends w.Staged keeps [] .empty Renderer.Unclaimed where
  catalog : w.visualiser.catalog = catalog
  mounts : w.visualiser.mounts = []
  subscriptions : w.visualiser.levelSubscriptions = []

variable {catalog : Catalog σ} {l : Level} {hook : Hook σ}

theorem vacant_new {config : Playback.Config} {nesting : Nat} {memory : σ}
    (nothing : ∀ n, ¬keeps memory n) :
    (World.new catalog .recording config nesting memory).Vacant keeps catalog where
  fair := ⟨⟨_, Renderer.keeps_createSurface Renderer.keeps_recording none rootScope⟩,
    fun n mem => absurd mem (nothing n)⟩
  tame kind l mem := by
    cases kind <;> cases mem
  instances := rfl
  registry := rfl
  root := Renderer.lends_createSurface Renderer.keeps_recording (by decide)
  unheard _ := rfl
  holds := Renderer.steady_unclaimed.mount Renderer.unclaimed_recording (by decide)
  catalog := rfl
  mounts := rfl
  subscriptions := rfl

theorem lasting_vacant : (Discipline.tidy keeps).Lasting (Vacant keeps catalog) where
  tame h := h.tame
  answers {w c} h _ i mem := by
    rw [h.registry] at mem
    cases mem
  apply {w e} h may := by
    refine ⟨h.apply Renderer.steady_unclaimed may, ?_, ?_, ?_⟩ <;> rw [Effect.visualiser_apply]
    · exact h.catalog
    · exact h.mounts
    · exact h.subscriptions
  begun {w i b c} h here _ := by
    unfold body? at here
    rw [h.instances] at here
    cases here
  session {w} session h :=
    ⟨h.frame rfl rfl rfl rfl (fun _ => rfl) h.instances h.registry, h.catalog, h.mounts,
      h.subscriptions⟩

theorem run_cleanup_of_isBare (bare : w.isBare = true) : cleanup.run w = (.ok (), w) := by
  unfold cleanup
  rw [Act.run_get_bind, if_pos bare]
  rfl

theorem Vacant.isBare (h : w.Vacant keeps catalog) : w.isBare = true := by
  unfold World.isBare
  rw [h.registry, h.mounts, h.subscriptions]
  rfl

theorem Vacant.run_registerAll (h : w.Vacant keeps catalog) (once : (bodies.map Body.id).Nodup) :
    (registerAll bodies).run w = (.ok (entered 0 bodies),
      { w with instances := bodies, registry := ⟨entered 0 bodies⟩ }) := by
  rw [World.run_registerAll bodies w (by rw [h.registry]; exact once), h.instances, h.registry]
  rfl

theorem Vacant.staged (h : w.Vacant keeps catalog) (bodies : List (Body σ)) (known : Registry) :
    World.Staged keeps bodies known Renderer.Unclaimed
      { w with instances := bodies, registry := known } :=
  h.frame rfl rfl rfl rfl (fun _ => rfl) rfl rfl

theorem Vacant.initLevel {ids : List (String × InstanceId)} (h : w.Vacant keeps catalog)
    (tracked : catalog[Variables.name]? = some (.tracker .blank))
    (tidy : ∀ (name : String) (m : ForeignModule σ), catalog[name]? = some (.foreign m) →
      ∀ i c, (m.respond i c).Tidy keeps c.given)
    (listed : Variables.name ∈ l.modules) (hooked : ∀ ids, (hook ids).Tidy keeps fun _ => False)
    (done : (World.initLevel l hook).run w = (.ok (.ok ids), v)) :
    ∃ known i, known.get Variables.name = .ok i ∧ (Discipline.tidy keeps).Rules known v ∧
      v.Mirrors keeps i := by
  unfold World.initLevel at done
  rw [Act.run_bind, run_cleanup_of_isBare h.isBare] at done
  dsimp only at done
  rw [Act.run_get_bind, h.catalog] at done
  cases made : makeModules catalog l with
  | error e =>
    rw [made] at done
    cases done
  | ok bodies =>
    rw [made] at done
    obtain ⟨once, mem⟩ := of_makeModules made
    obtain ⟨place, there⟩ := List.getElem?_of_mem ((mem _).mpr ⟨_, listed, tracked⟩)
    have crew : Crew keeps bodies place := by
      refine ⟨once, there, fun m mem' => ?_⟩
      obtain ⟨name, -, found⟩ := (mem _).mp mem'
      exact tidy name m found
    have registered := h.staged bodies ⟨entered 0 bodies⟩
    dsimp only at done
    rw [Act.run_bind, h.run_registerAll once] at done
    dsimp only at done
    rw [Act.run_bind] at done
    generalize initialised : (initialiseAll (entered 0 bodies)).run _ = outcome at done
    obtain ⟨_ | _, u⟩ := outcome
    · cases done
    obtain ⟨s, staged⟩ := crew.initialised registered initialised
    dsimp only at done
    rw [Act.run_bind] at done
    have admitted := staged.admits (hooked ((entered 0 bodies).map (·.1)))
    have hooked := staged.steps Variables.steady_shown
      ((Discipline.tidy keeps).steps_run admitted staged.tame)
    generalize (run (hook _)).run u = outcome at done hooked
    obtain ⟨_ | _, u'⟩ := outcome
    · cases done
    have last := (congrArg Prod.snd done).symm
    subst last
    refine ⟨⟨entered 0 bodies⟩, ⟨place⟩, Registry.get_of_mem ?_ crew.listed,
      Staged.ready crew (s := s) ?_⟩
    · unfold Registry.ids
      rw [map_fst_entered]
      exact crew.once
    · exact hooked.visualiser rfl

/-- A session whose level has the variables module is ready to be played once it is loaded. -/
theorem Vacant.initSession {ids : List (String × InstanceId)} (h : w.Vacant keeps catalog)
    (tracked : catalog[Variables.name]? = some (.tracker .blank))
    (tidy : ∀ (name : String) (m : ForeignModule σ), catalog[name]? = some (.foreign m) →
      ∀ i c, (m.respond i c).Tidy keeps c.given)
    (listed : Variables.name ∈ l.modules) (hooked : ∀ ids, (hook ids).Tidy keeps fun _ => False)
    (done : (World.initSession l hook).run w = (.ok (.ok ids), v)) :
    ∃ known i, known.get Variables.name = .ok i ∧ (Discipline.tidy keeps).Rules known v ∧
      v.Mirrors keeps i := by
  unfold World.initSession at done
  rw [Act.run_bind] at done
  generalize loaded : (World.initLevel l hook).run w = outcome at done
  obtain ⟨_ | _ | _, u⟩ := outcome
  · cases done
  · cases done
  · cases done
    obtain ⟨known, i, named, ready⟩ := h.initLevel tracked tidy listed hooked loaded
    exact ⟨known, i, named, (Discipline.lasting_mirrors keeps known i).session _ ready⟩

end World

end Replay
