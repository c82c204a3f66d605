import Mathlib.Data.List.Perm.Basic
import Mathlib.Data.List.Perm.Subperm
import Replay.Proofs.World.Calm
import Replay.Proofs.World.Dependency
import Replay.Proofs.World.Operation

/-!
Levels that cannot be loaded: a module is unknown, an id is there twice, something that is needed is
not there, or modules need each other in a circle. The first of these is what the loading tells, and
the world is left as if the level before had only been taken out.
-/
namespace Replay

theorem firstRepeated_eq_some {names : List String} {again : String} : ∀ {seen : List String},
    firstRepeated seen names = some again ↔ ∃ front back, names = front ++ again :: back ∧
      front.Nodup ∧ (∀ name ∈ front, name ∉ seen) ∧ (again ∈ front ∨ again ∈ seen) := by
  induction names with
  | nil =>
    intro seen
    constructor
    · rintro ⟨⟩
    · rintro ⟨front, back, split, -⟩
      cases front <;> cases split
  | cons name rest ih =>
    intro seen
    unfold firstRepeated
    split
    · rename_i old
      constructor
      · rintro ⟨⟩
        exact ⟨[], rest, rfl, List.nodup_nil, List.forall_mem_nil _, .inr old⟩
      · rintro ⟨_ | ⟨first, front⟩, back, split, -, fresh, -⟩
        · cases split
          rfl
        · cases split
          exact absurd old (fresh _ List.mem_cons_self)
    · rename_i fresh
      rw [ih]
      constructor
      · rintro ⟨front, back, rfl, once, unseen, before⟩
        have apart : name ∉ front := fun mem => unseen name mem List.mem_cons_self
        refine ⟨name :: front, back, rfl, List.nodup_cons.mpr ⟨apart, once⟩, ?_, ?_⟩
        · intro other mem
          rcases List.mem_cons.mp mem with rfl | mem
          · exact fresh
          · exact fun old => unseen other mem (List.mem_cons_of_mem _ old)
        · rcases before with mem | mem
          · exact .inl (List.mem_cons_of_mem _ mem)
          · rcases List.mem_cons.mp mem with rfl | mem
            · exact .inl List.mem_cons_self
            · exact .inr mem
      · rintro ⟨_ | ⟨first, front⟩, back, split, once, unseen, before⟩
        · cases split
          exact absurd (before.resolve_left List.not_mem_nil) fresh
        · cases split
          obtain ⟨apart, once⟩ := List.nodup_cons.mp once
          refine ⟨front, back, rfl, once, fun other mem old => ?_, ?_⟩
          · rcases List.mem_cons.mp old with rfl | old
            · exact apart mem
            · exact unseen other (List.mem_cons_of_mem _ mem) old
          · rcases before with mem | mem
            · rcases List.mem_cons.mp mem with rfl | mem
              · exact .inr List.mem_cons_self
              · exact .inl mem
            · exact .inr (List.mem_cons_of_mem _ mem)

namespace LoadOrder

variable {α : Type}

/-- Whether modules can be arranged: they have ids of their own and all that they need, and none
needs itself in the end. -/
structure Arrangeable (id : α → String) (needs : α → List String) (modules : List α) : Prop where
  once : (modules.map id).Nodup
  met : ∀ m ∈ modules, ∀ need ∈ needs m, need ∈ modules.map id
  acyclic : ∀ name, ¬Relation.TransGen (Needs id needs modules) name name

inductive Fault (id : α → String) (needs : α → List String) (level : String) (modules : List α) :
    Error → Prop
  | repeated {front back : List String} {again : String}
      (split : modules.map id = front ++ again :: back) (once : front.Nodup)
      (before : again ∈ front) : Fault id needs level modules
        (.invalidLevel level ("module id " ++ again ++ " is loaded more than once"))
  | missing {front back : List α} {m : α} {before after : List String} {absent : String}
      (once : (modules.map id).Nodup) (split : modules = front ++ m :: back)
      (met : ∀ n ∈ front, ∀ need ∈ needs n, need ∈ modules.map id)
      (needed : needs m = before ++ absent :: after)
      (there : ∀ need ∈ before, need ∈ modules.map id) (lacks : absent ∉ modules.map id) :
      Fault id needs level modules (.missingDependency (id m) absent)
  | circular {names : List String} (once : (modules.map id).Nodup)
      (met : ∀ m ∈ modules, ∀ need ∈ needs m, need ∈ modules.map id) (some : names ≠ [])
      (sub : names.Sublist (modules.map id))
      (circles : ∀ name, name ∈ names ↔ Circles id needs modules name) :
      Fault id needs level modules (.dependencyCycle names)

variable {id : α → String} {needs : α → List String} {modules : List α} {level : String}
  {e : Error}

theorem repeated?_eq_some {again : String} : repeated? id modules = some again ↔
    ∃ front back, modules.map id = front ++ again :: back ∧ front.Nodup ∧ again ∈ front := by
  unfold repeated?
  rw [firstRepeated_eq_some]
  simp

theorem missing?_eq_some {module dependency : String} :
    missing? id needs modules = some (module, dependency) ↔
      ∃ front m back before after, modules = front ++ m :: back ∧ id m = module ∧
        (∀ n ∈ front, ∀ need ∈ needs n, need ∈ modules.map id) ∧
        needs m = before ++ dependency :: after ∧
        (∀ need ∈ before, need ∈ modules.map id) ∧ dependency ∉ modules.map id := by
  unfold missing?
  simp only [List.findSome?_eq_some_iff, Option.map_eq_some_iff, Option.map_eq_none_iff,
    List.find?_eq_none, List.find?_eq_some_iff_append, Prod.mk.injEq, Bool.not_eq_true',
    Bool.eq_false_iff, ne_eq, List.contains_iff_mem, not_not]
  constructor
  · rintro ⟨front, m, back, split, ⟨need, ⟨lacks, before, after, needed, there⟩, named, rfl⟩, met⟩
    exact ⟨front, m, back, before, after, split, named, met, needed, by simpa using there, lacks⟩
  · rintro ⟨front, m, back, before, after, split, named, met, needed, there, lacks⟩
    exact ⟨front, m, back, split,
      ⟨dependency, ⟨lacks, before, after, needed, by simpa using there⟩, named, rfl⟩, met⟩

theorem Fault.arrange_eq (fault : Fault id needs level modules e) :
    arrange id needs level modules = .error e := by
  cases fault with
  | repeated split once before =>
    unfold arrange
    rw [repeated?_eq_some.mpr ⟨_, _, split, once, before⟩]
  | missing once split met needed there lacks =>
    unfold arrange
    rw [repeated?_eq_none.mpr once,
      missing?_eq_some.mpr ⟨_, _, _, _, _, split, rfl, met, needed, there, lacks⟩]
  | circular once met some sub circles =>
    rw [arrange_eq once met]
    cases placed : place id needs [] modules modules.length with
    | ok order =>
      obtain ⟨name, mem⟩ := List.exists_mem_of_ne_nil _ some
      exact absurd ((circles name).mp mem) (not_circles_of_place once placed)
    | error stuck =>
      obtain ⟨-, sub', circles'⟩ := stuck_iff once met placed
      have same := (once.perm_iff_eq_of_sublist (sub'.map id) sub).mp
        ((List.perm_ext_iff_of_nodup (once.sublist (sub'.map id)) (once.sublist sub)).mpr
          fun name => (circles' name).trans (circles name).symm)
      exact congrArg (fun names => Except.error (Error.dependencyCycle names)) same

variable (id needs level modules) in
theorem arrangeable_or_fault :
    Arrangeable id needs modules ∨ ∃ e, Fault id needs level modules e := by
  cases repeats : repeated? id modules with
  | some again =>
    obtain ⟨front, back, split, once, before⟩ := repeated?_eq_some.mp repeats
    exact .inr ⟨_, .repeated split once before⟩
  | none =>
    have once := repeated?_eq_none.mp repeats
    cases misses : missing? id needs modules with
    | some pair =>
      obtain ⟨front, m, back, before, after, split, -, met, needed, there, lacks⟩ :=
        missing?_eq_some.mp misses
      exact .inr ⟨_, .missing once split met needed there lacks⟩
    | none =>
      have met := missing?_eq_none.mp misses
      cases placed : place id needs [] modules modules.length with
      | ok order =>
        exact .inl ⟨once, met, fun name circle =>
          not_circles_of_place once placed ⟨name, .refl, circle⟩⟩
      | error stuck =>
        obtain ⟨some, sub, circles⟩ := stuck_iff once met placed
        exact .inr ⟨_, .circular once met (mt List.map_eq_nil_iff.mp some) (sub.map id) circles⟩

theorem arrange_eq_error : arrange id needs level modules = .error e ↔
    Fault id needs level modules e := by
  refine ⟨fun h => ?_, Fault.arrange_eq⟩
  rcases arrangeable_or_fault id needs modules level with ⟨once, met, acyclic⟩ | ⟨e', fault⟩
  · obtain ⟨order, eq, -⟩ := least_arrangement once met acyclic level
    cases h.symm.trans eq
  · cases h.symm.trans fault.arrange_eq
    exact fault

theorem exists_arrange :
    (∃ order, arrange id needs level modules = .ok order) ↔ Arrangeable id needs modules := by
  constructor
  · rintro ⟨order, h⟩
    refine (arrangeable_or_fault id needs modules level).resolve_right ?_
    rintro ⟨e, fault⟩
    cases h.symm.trans fault.arrange_eq
  · rintro ⟨once, met, acyclic⟩
    obtain ⟨order, eq, -⟩ := least_arrangement once met acyclic level
    exact ⟨order, eq⟩

end LoadOrder

variable {σ : Type} {catalog : Catalog σ}

def Level.Asks (l : Level) (catalog : Catalog σ) (bodies : List (Body σ)) : Prop :=
  List.Forall₂ (fun name b => catalog[name]? = some b) l.modules bodies

def Level.Loadable (l : Level) (catalog : Catalog σ) : Prop :=
  ∃ bodies, l.Asks catalog bodies ∧ LoadOrder.Arrangeable Body.id Body.dependencies bodies

/-- Why a level cannot be loaded. -/
inductive Level.Refused (l : Level) (catalog : Catalog σ) : Error → Prop
  | unknown {front back : List String} {name : String} (split : l.modules = front ++ name :: back)
      (known : ∀ other ∈ front, catalog[other]? ≠ none) (unknown : catalog[name]? = none) :
      l.Refused catalog (.unknownModule name)
  | fault {bodies : List (Body σ)} {e : Error} (asks : l.Asks catalog bodies)
      (fault : LoadOrder.Fault Body.id Body.dependencies l.id bodies e) : l.Refused catalog e

namespace World

variable {l : Level} {names : List String} {bodies : List (Body σ)} {e : Error}

theorem mapM_make_eq_ok : names.mapM catalog.make = .ok bodies ↔
    List.Forall₂ (fun name b => catalog[name]? = some b) names bodies := by
  induction names generalizing bodies with
  | nil =>
    rw [List.mapM_nil, List.forall₂_nil_left_iff]
    exact ⟨fun h => (Except.ok.inj h).symm, fun h => h ▸ rfl⟩
  | cons name rest ih =>
    rw [List.mapM_cons, List.forall₂_cons_left_iff, Catalog.make]
    cases catalog[name]? with
    | none =>
      constructor
      · rintro ⟨⟩
      · rintro ⟨_, _, ⟨⟩, -⟩
    | some b =>
      cases others : rest.mapM catalog.make with
      | error e =>
        constructor
        · rintro ⟨⟩
        · rintro ⟨_, later, -, h, -⟩
          cases others.symm.trans (ih.mpr h)
      | ok later =>
        constructor
        · rintro ⟨⟩
          exact ⟨b, later, rfl, ih.mp others, rfl⟩
        · rintro ⟨_, later', ⟨⟩, h, rfl⟩
          cases others.symm.trans (ih.mpr h)
          rfl

theorem mapM_make_eq_error : names.mapM catalog.make = .error e ↔
    ∃ front name back, names = front ++ name :: back ∧ (∀ other ∈ front, catalog[other]? ≠ none) ∧
      catalog[name]? = none ∧ e = .unknownModule name := by
  induction names with
  | nil =>
    constructor
    · rintro ⟨⟩
    · rintro ⟨front, name, back, split, -⟩
      cases front <;> cases split
  | cons name rest ih =>
    cases found : catalog[name]? with
    | none =>
      rw [List.mapM_cons, Catalog.make, found]
      constructor
      · rintro ⟨⟩
        exact ⟨[], name, rest, rfl, List.forall_mem_nil _, found, rfl⟩
      · rintro ⟨_ | ⟨first, front⟩, other, back, split, known, -, rfl⟩
        · cases split
          rfl
        · cases split
          exact absurd found (known _ List.mem_cons_self)
    | some b =>
      have step : (name :: rest).mapM catalog.make = .error e ↔
          rest.mapM catalog.make = .error e := by
        rw [List.mapM_cons, Catalog.make, found]
        cases rest.mapM catalog.make with
        | error e' => exact ⟨fun h => h, fun h => h⟩
        | ok later => constructor <;> rintro ⟨⟩
      rw [step, ih]
      constructor
      · rintro ⟨front, other, back, rfl, known, unknown, rfl⟩
        refine ⟨name :: front, other, back, rfl, fun other mem => ?_, unknown, rfl⟩
        rcases List.mem_cons.mp mem with rfl | mem
        · rw [found]
          exact Option.some_ne_none b
        · exact known other mem
      · rintro ⟨_ | ⟨first, front⟩, other, back, split, known, unknown, rfl⟩
        · cases split
          cases found.symm.trans unknown
        · cases split
          exact ⟨front, other, back, rfl, fun o mem => known o (List.mem_cons_of_mem _ mem),
            unknown, rfl⟩

theorem makeModules_of_asks (asks : l.Asks catalog bodies) : makeModules catalog l =
    LoadOrder.arrange Body.id Body.dependencies l.id bodies := by
  unfold makeModules
  rw [mapM_make_eq_ok.mpr asks]
  rfl

theorem makeModules_eq_error : makeModules catalog l = .error e ↔ l.Refused catalog e := by
  constructor
  · intro h
    cases made : l.modules.mapM catalog.make with
    | error e' =>
      unfold makeModules at h
      rw [made] at h
      cases h
      obtain ⟨front, name, back, split, known, unknown, rfl⟩ := mapM_make_eq_error.mp made
      exact .unknown split known unknown
    | ok bodies =>
      have asks : l.Asks catalog bodies := mapM_make_eq_ok.mp made
      rw [makeModules_of_asks asks, LoadOrder.arrange_eq_error] at h
      exact .fault asks h
  · rintro (⟨split, known, unknown⟩ | ⟨asks, fault⟩)
    · unfold makeModules
      rw [mapM_make_eq_error.mpr ⟨_, _, _, split, known, unknown, rfl⟩]
      rfl
    · rw [makeModules_of_asks asks, LoadOrder.arrange_eq_error]
      exact fault

theorem exists_makeModules :
    (∃ bodies, makeModules catalog l = .ok bodies) ↔ l.Loadable catalog := by
  constructor
  · rintro ⟨order, h⟩
    cases made : l.modules.mapM catalog.make with
    | error e =>
      unfold makeModules at h
      rw [made] at h
      cases h
    | ok bodies =>
      have asks : l.Asks catalog bodies := mapM_make_eq_ok.mp made
      rw [makeModules_of_asks asks] at h
      exact ⟨bodies, asks, LoadOrder.exists_arrange.mp ⟨order, h⟩⟩
  · rintro ⟨bodies, asks, arrangeable⟩
    rw [makeModules_of_asks asks]
    exact LoadOrder.exists_arrange.mpr arrangeable

variable {w v : World σ} {hook : Hook σ}

theorem Cleans.run (h : w.Cleans v) : cleanup.run w = (.ok (), v) := by
  cases h with
  | bare bare => exact run_cleanup_of_isBare bare
  | torn stands destroyed =>
    unfold cleanup
    simp only [Act.run_get_bind, stands, Bool.false_eq_true, if_false]
    rw [Act.run_set_bind, Act.run_bind]
    unfold unsubscribed at destroyed
    rw [destroyed]
    rfl

theorem run_initLevel_of_error (cleaned : cleanup.run w = (.ok (), v))
    (unmade : makeModules v.visualiser.catalog l = .error e) :
    (initLevel l hook).run w = (.ok (.error e), v) := by
  unfold initLevel
  rw [Act.run_bind, cleaned]
  dsimp only
  rw [Act.run_get_bind, unmade]
  rfl

theorem Cleans.cast (h : w.Cleans v) : v.cast = w.cast := by
  cases h with
  | bare => rfl
  | @torn u _ destroyed =>
    have moves := w.unsubscribed.confined_true.moves_callAll .destroy w.registry.all
    rw [destroyed] at moves
    exact moves.cast

theorem Cleans.calls (h : w.Cleans v) (i : InstanceId) : ∃ n ≤ w.registry.all.count i,
    v.calls i = w.calls i ++ List.replicate n .destroy := by
  cases h with
  | bare => exact ⟨0, Nat.zero_le _, (List.append_nil _).symm⟩
  | @torn u _ destroyed =>
    obtain ⟨n, eq, le, -⟩ := calls_callAll (j := i) destroyed
    exact ⟨n, le, eq⟩

end World

/-- Where no module and no hook panics, a level is loaded just if all its modules are known, have
ids of their own and all they need, and none needs itself in the end. Otherwise it is told what the
first fault is, nothing has been made, and the world is as taking out the level before leaves it. -/
theorem levels_load_or_are_refused {w : World σ} {l : Level} {hook : Hook σ} (sedate : w.Sedate)
    (hooked : ∀ ids, (hook ids).Calm)
    (terminates : ((World.initLevel l hook).run w).1 ≠ .error .overflow) :
    (∃ result v, (World.initLevel l hook).run w = (.ok result, v)) ∧
    ((∃ modules v, (World.initLevel l hook).run w = (.ok (.ok modules), v)) ↔
      l.Loadable w.visualiser.catalog) ∧
    (∀ e v, (World.initLevel l hook).run w = (.ok (.error e), v) ↔
      l.Refused w.visualiser.catalog e ∧ World.cleanup.run w = (.ok (), v)) ∧
    ∀ e v, (World.initLevel l hook).run w = (.ok (.error e), v) →
      v.registry = .empty ∧ v.cast = w.cast ∧ ∀ i, ∃ n ≤ w.registry.all.count i,
        v.calls i = w.calls i ++ List.replicate n .destroy := by
  have catalog_of_cleans {u : World σ} (cleans : w.Cleans u) :
      u.visualiser.catalog = w.visualiser.catalog := (cleans.strokes w.confined_true).catalog
  have failed {e : Error} {v : World σ} (h : (World.initLevel l hook).run w = (.ok (.error e), v)) :
      l.Refused w.visualiser.catalog e ∧ World.cleanup.run w = (.ok (), v) := by
    cases World.loads_of_run h with
    | failed cleans unmade =>
      rw [catalog_of_cleans cleans, World.makeModules_eq_error] at unmade
      exact ⟨unmade, cleans.run⟩
  refine ⟨(sedate.ends_initLevel hooked).result terminates, ⟨?_, fun loadable => ?_⟩,
    fun e v => ⟨failed, ?_⟩, fun e v h => ?_⟩
  · rintro ⟨modules, v, h⟩
    cases World.loads_of_run h with
    | loaded cleans made =>
      rw [catalog_of_cleans cleans] at made
      exact World.exists_makeModules.mp ⟨_, made⟩
  · obtain ⟨result, v, run⟩ := (sedate.ends_initLevel hooked).result terminates
    cases result with
    | ok modules => exact ⟨modules, v, run⟩
    | error e =>
      obtain ⟨bodies, made⟩ := World.exists_makeModules.mpr loadable
      cases made.symm.trans (World.makeModules_eq_error.mpr (failed run).1)
  · rintro ⟨refused, cleaned⟩
    have cleans := World.cleans_of_run cleaned
    refine World.run_initLevel_of_error cleaned ?_
    rw [catalog_of_cleans cleans]
    exact World.makeModules_eq_error.mpr refused
  · have cleans := World.cleans_of_run (failed h).2
    exact ⟨cleans.registry, cleans.cast, cleans.calls⟩

def ForeignModule.idle (id : String) (dependencies : List String) : ForeignModule Unit :=
  ⟨id, dependencies, id, fun _ _ => .done⟩

def Catalog.knotted : Catalog Unit :=
  [.idle "heap" ["call stack"], .idle "call stack" ["heap"], .idle "notes" ["heap"]].foldl
    (fun catalog (m : ForeignModule Unit) => catalog.insert m.id (.foreign m)) .builtin

def Level.knotted : Level := ⟨"knot", "", "", "", ["notes", Variables.name, "call stack", "heap"]⟩

def World.unknotted : World Unit :=
  ((World.initLevel ⟨"level", "", "", "", [Variables.name]⟩ fun _ => .done).run
    (.new .knotted .recording {} 8 ())).2

theorem levels_load_or_are_refused_of_knotted :
    World.unknotted.registry.ids = [Variables.name] ∧
    Level.knotted.Refused Catalog.knotted (.dependencyCycle ["notes", "call stack", "heap"]) ∧
    ∃ v, (World.initLevel Level.knotted fun _ => .done).run World.unknotted =
        (.ok (.error (.dependencyCycle ["notes", "call stack", "heap"])), v) ∧
      World.cleanup.run World.unknotted = (.ok (), v) ∧ v.registry = .empty := by
  have calm {name : String} {m : ForeignModule Unit}
      (there : Catalog.knotted[name]? = some (.foreign m)) (i : InstanceId) (c : Call) :
      (m.respond i c).Calm := by
    simp only [Catalog.knotted, List.foldl_cons, List.foldl_nil, Std.TreeMap.getElem?_insert]
      at there
    split at there
    · cases there
      trivial
    split at there
    · cases there
      trivial
    split at there
    · cases there
      trivial
    · cases World.builtin_eq_blank there
  have strokes : World.Strokes (fun _ => True) (.new .knotted .recording {} 8 ())
      World.unknotted := (World.confined_true _).strokes_initLevel fun _ => Script.within_true _
  have sedate := (World.sedate_new calm).strokes strokes
  have told : ((World.initLevel Level.knotted fun _ => .done).run World.unknotted).1 =
      .ok (.error (.dependencyCycle ["notes", "call stack", "heap"])) := by cbv
  have terminates : ((World.initLevel Level.knotted fun _ => .done).run World.unknotted).1 ≠
      .error .overflow := by
    rw [told]
    rintro ⟨⟩
  have hooked (ids : List String) : ((fun _ => .done : Hook Unit) ids).Calm := trivial
  obtain ⟨-, -, refusals, left⟩ := levels_load_or_are_refused sedate hooked terminates
  have run := Act.run_eq_of_fst told
  obtain ⟨refused, cleaned⟩ := (refusals _ _).mp run
  have same : World.unknotted.visualiser.catalog = Catalog.knotted := strokes.catalog
  exact ⟨by decide +kernel, same ▸ refused, _, run, cleaned, (left _ _ run).1⟩

end Replay
