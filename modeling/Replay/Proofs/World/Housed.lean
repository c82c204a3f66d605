import Replay.Proofs.World.Lodged

/-!
From its first call to its last. A module is initialised on a surface that was created for it right
before, and destroyed while the surface still stands; in between it is called as its visualiser is
asked, and afterwards never again. A level that is taken out, by whatever way, leaves nothing.
-/
namespace Replay

variable {σ : Type}

def Call.passes : Call → Bool
  | .handle .. | .reset | .update _ => true
  | .init .. | .destroy => false

def Call.Life (root own : Surface) (ended : Bool) (calls : List Call) : Prop :=
  ∃ between : List Call, (∀ c ∈ between, c.passes = true) ∧
    calls = .init root own :: (between ++ if ended then [.destroy] else [])

namespace Call

variable {root own : Surface} {c : Call} {calls : List Call}

theorem Life.append (h : Life root own false calls) (passes : c.passes = true) (n : Nat) :
    Life root own false (calls ++ List.replicate n c) := by
  obtain ⟨between, all, rfl⟩ := h
  refine ⟨between ++ List.replicate n c, fun c' mem => ?_, by simp⟩
  rcases List.mem_append.mp mem with mem | mem
  · exact all c' mem
  · rw [List.eq_of_mem_replicate mem]
    exact passes

theorem Life.destroy (h : Life root own false calls) :
    Life root own true (calls ++ [.destroy]) := by
  obtain ⟨between, all, rfl⟩ := h
  exact ⟨between, all, by simp⟩

theorem Life.getLast? (h : Life root own true calls) : calls.getLast? = some .destroy := by
  obtain ⟨between, -, rfl⟩ := h
  rw [if_pos rfl, ← List.cons_append]
  exact List.getLast?_concat

end Call

/-- Some surfaces are all that a renderer shows, and what is on one of some others was drawn when
that had gone. -/
def Renderer.Swept (r : Renderer) (standing : List (SurfaceId × SurfaceRecord))
    (others : List Surface) : Prop :=
  ∃ p, r.picture = some p ∧ p.surfaces = standing ∧
    ∀ s ∈ others, ∀ entry ∈ p.elements, entry.2.surface = s.id → ∃ later spec earlier,
      r.requests = later ++ .createElement entry.1 s.id spec :: earlier ∧
        .removeSurface s.id ∈ earlier

namespace World

/-- How a level is taken out: every registered module gets one more call, for the last time, while
all surfaces stand; and then the surfaces of the level are removed, and nobody is called. -/
def Razes (w v : World σ) : Prop :=
  w.isBare = true ∧ v = w ∨
    ∃ u, (callAll .destroy w.registry.all).run w.unsubscribed = (.ok (), u) ∧
      u.renderer.razed = w.renderer.razed ∧
      (∀ i ∈ w.registry.all, u.calls i = w.calls i ++ [.destroy]) ∧ v = u.cleared

/-- How modules are initialised, one after the other: for each a surface is created, and then the
module gets its first call. -/
inductive Installs : List (String × InstanceId) → List Surface → World σ → World σ → Prop
  | done (w : World σ) : Installs [] [] w w
  | next {id : String} {i : InstanceId} {s : Surface} {rest : List (String × InstanceId)}
      {more : List Surface} {u v w : World σ}
      (raised : (w.furnished id).renderer.raised =
        w.renderer.raised ++ [(s.id, some w.visualiser.root.id, id)])
      (unheard : (w.furnished id).calls i = [])
      (called : (call i (.init w.visualiser.root s)).run (w.furnished id) = (.ok (), u))
      (heard : u.calls i = [.init w.visualiser.root s])
      (later : Installs rest more (u.keeping ⟨s, false⟩) v) :
      Installs ((id, i) :: rest) (s :: more) w v

/-- What follows when a level was taken out: nothing, or other modules are made and initialised, and
then nobody is called any more. -/
def Refills (v w : World σ) (loaded : Option String) (more : List Surface) : Prop :=
  loaded = none ∧ more = [] ∧ w = v ∨
    loaded ≠ none ∧ ∃ bodies x,
      Installs (entered v.instances.length bodies) more (v.staffed bodies) x ∧
        ∀ i, w.calls i = x.calls i

/-- Modules are lodged, and each has led its life as far as it has come. -/
structure Housed (w start : World σ) (owns : List Surface) (gone : Nat) (waiting : List String) :
    Prop extends Lodged w start owns gone waiting where
  lives : ∀ {k : Nat} {s : Surface}, owns[k]? = some s →
    Call.Life start.visualiser.root s (decide (k < gone)) (w.calls ⟨k⟩)
  unheard : ∀ {k : Nat}, owns.length ≤ k → w.calls ⟨k⟩ = []

/-- Nobody waits, and the boxes of the modules that are gone were removed once. -/
structure Settled (w start : World σ) (owns : List Surface) (gone : Nat) : Prop
    extends Housed w start owns gone [] where
  boxes : ∀ {k : Nat} {m : Variables}, w.body? ⟨k⟩ = some (.tracker m) → ∃ mine,
    Variables.Drew (w.calls ⟨k⟩) mine m w.renderer ∧ mine.Sublist w.renderer.requests ∧
      (k < gone → ∀ {e s spec}, .createElement e s spec ∈ mine →
        mine.count (.removeElement e) = 1)

variable {start u v w : World σ} {owns : List Surface} {gone : Nat} {waiting : List String}
  {P : Effect σ → Prop} {c : Call} {id : String} {s : Script σ} {result : Except Halt Unit}
  {bodies : List (Body σ)} {o : Operation σ} {os : List (Operation σ)} {loaded : Option String}

theorem Housed.settled (h : w.Housed start owns gone []) (accounted : w.Accounted) :
    w.Settled start owns gone := by
  refine ⟨h, fun {k m} here => ?_⟩
  obtain ⟨mine, drew⟩ := accounted.drew here
  refine ⟨mine, drew, drew.accounts.asked, fun lt {e s spec} mem => drew.removed_once ?_ mem⟩
  have there : k < owns.length := Nat.lt_of_lt_of_le lt h.le
  have life := h.lives (List.getElem?_eq_getElem there)
  rw [decide_eq_true lt] at life
  exact life.getLast?

theorem Housed.frame (h : w.Housed start owns gone waiting)
    (lodged : v.Lodged start owns gone waiting) (calls : ∀ i, v.calls i = w.calls i) :
    v.Housed start owns gone waiting := by
  refine ⟨lodged, fun {k s} own => ?_, fun {k} le => ?_⟩
  · rw [calls]
    exact h.lives own
  · rw [calls]
    exact h.unheard le

theorem Housed.ran (h : w.Housed start owns gone waiting) (confined : w.Confined P)
    (leave : ∀ {e : Effect σ}, P e → e.LeavesRegistry) (within : s.Within P)
    (ran : (run s).run w = (result, v)) : v.Housed start owns gone waiting := by
  have steps := confined.steps_run within
  rw [ran] at steps
  exact h.frame (h.toLodged.moves leave (steps.moves .reset)) fun _ => steps.calls

theorem Housed.told (h : w.Housed start owns gone []) (confined : w.Confined P)
    (leave : ∀ {e : Effect σ}, P e → e.LeavesRegistry) (passes : c.passes = true)
    (told : (callAll c w.registry.all).run w = (result, v)) : v.Housed start owns gone [] := by
  have moves := confined.moves_callAll c w.registry.all
  rw [told] at moves
  refine ⟨h.toLodged.moves leave moves, fun {k s} own => ?_, fun {k} le => ?_⟩
  · obtain ⟨n, eq, bound, -⟩ := calls_callAll (j := ⟨k⟩) told
    rw [h.count_all] at bound
    have life := h.lives own
    rw [eq]
    by_cases lt : k < gone
    · rw [if_neg (by omega)] at bound
      rw [Nat.le_zero.mp bound, List.replicate_zero, List.append_nil]
      exact life
    · rw [decide_eq_false lt] at life ⊢
      exact life.append passes n
  · obtain ⟨n, eq, bound, -⟩ := calls_callAll (j := ⟨k⟩) told
    rw [h.count_all, if_neg (by omega)] at bound
    rw [eq, Nat.le_zero.mp bound, List.replicate_zero, List.append_nil]
    exact h.unheard le

/-- To destroy all that are registered is to call those once whose lives are not over. -/
theorem Lodged.calls_destroyed (h : w.Lodged start owns gone [])
    (destroyed : (callAll .destroy w.registry.all).run w.unsubscribed = (.ok (), u)) (k : Nat) :
    u.calls ⟨k⟩ = w.calls ⟨k⟩ ++ if gone ≤ k ∧ k < owns.length then [.destroy] else [] := by
  have there : ∀ i ∈ w.registry.all, w.unsubscribed.body? i ≠ none := fun ⟨_⟩ mem =>
    there_of_lt (w := w) (h.length ▸ (h.mem_all.mp mem).2)
  obtain ⟨n, eq, -, all⟩ := calls_callAll (j := ⟨k⟩) destroyed
  refine eq.trans (congrArg (w.calls ⟨k⟩ ++ ·) ?_)
  rw [all rfl there, h.count_all]
  split <;> rfl

theorem Housed.cleans (h : w.Housed start owns gone []) (confined : w.Confined P)
    (leave : ∀ {e : Effect σ}, P e → e.LeavesRegistry) (cleans : w.Cleans v) :
    w.Razes v ∧ v.Housed start owns owns.length [] := by
  cases cleans with
  | bare bare =>
    have none := (isBare_iff.mp bare).1
    rw [h.registry] at none
    have le := List.drop_eq_nil_iff.mp (congrArg Registry.entries none)
    rw [h.length_entered] at le
    exact ⟨.inl ⟨bare, rfl⟩, Nat.le_antisymm h.le le ▸ h⟩
  | @torn u stands destroyed =>
    have confined : w.unsubscribed.Confined P := (Stroke.unsubscribed w).confined confined
    have moves := confined.moves_callAll .destroy w.registry.all
    rw [destroyed] at moves
    have lodged : w.unsubscribed.Lodged start owns gone [] :=
      h.toLodged.frame rfl rfl rfl rfl .refl
    have calls (k : Nat) : u.cleared.calls ⟨k⟩ =
        w.calls ⟨k⟩ ++ if gone ≤ k ∧ k < owns.length then [.destroy] else [] :=
      h.calls_destroyed destroyed k
    refine ⟨.inr ⟨u, destroyed, moves.draws.surfaces.2, fun ⟨k⟩ mem => ?_, rfl⟩,
      (lodged.moves leave moves).cleared, fun {k s} own => ?_, fun {k} le => ?_⟩
    · have last := calls k
      rw [if_pos (h.mem_all.mp mem)] at last
      exact last
    · have lt := (List.getElem?_eq_some_iff.mp own).1
      have life := h.lives own
      rw [calls, decide_eq_true lt]
      by_cases old : k < gone
      · rw [if_neg (by omega), List.append_nil]
        rwa [decide_eq_true old] at life
      · rw [if_pos (by omega)]
        rw [decide_eq_false old] at life
        exact life.destroy
    · rw [calls, if_neg (by omega), List.append_nil]
      exact h.unheard le

theorem Housed.calls_initialised (h : w.Housed start owns gone (id :: waiting))
    (called : (call ⟨owns.length⟩ c).run (w.furnished id) = (.ok (), u)) (k : Nat) :
    u.calls ⟨k⟩ = if k = owns.length then [c] else w.calls ⟨k⟩ := by
  have lt : owns.length < w.instances.length := by
    rw [h.length, List.length_cons]
    omega
  obtain ⟨n, eq, -, all⟩ := calls_call (j := ⟨k⟩) called
  refine eq.trans ?_
  rw [all rfl (there_of_lt (w := w) lt), List.count_singleton]
  by_cases last : k = owns.length
  · subst last
    have unheard : (w.furnished id).calls ⟨owns.length⟩ = [] := h.unheard (Nat.le_refl _)
    simp [unheard]
  · have other : (⟨owns.length⟩ : InstanceId) ≠ ⟨k⟩ := fun same =>
      last (congrArg InstanceId.number same).symm
    simp only [beq_iff_eq, if_neg other, if_neg last, List.replicate_zero, List.append_nil]
    rfl

theorem Housed.initialised (h : w.Housed start owns gone (id :: waiting))
    (leave : ∀ {e : Effect σ}, P e → e.LeavesRegistry)
    (moves : (Discipline.within P).Moves
      (.init w.visualiser.root (w.mount id).surface) (w.furnished id) u)
    (called : (call ⟨owns.length⟩ (.init w.visualiser.root (w.mount id).surface)).run
      (w.furnished id) = (.ok (), u)) :
    (u.keeping (w.mount id)).Housed start (owns ++ [(w.mount id).surface]) gone waiting := by
  have calls (k : Nat) : (u.keeping (w.mount id)).calls ⟨k⟩ = if k = owns.length then
      [.init w.visualiser.root (w.mount id).surface] else w.calls ⟨k⟩ :=
    h.calls_initialised called k
  refine ⟨h.toLodged.installed leave moves, fun {k s} own => ?_, fun {k} le => ?_⟩
  · by_cases last : k = owns.length
    · subst last
      rw [List.getElem?_concat_length] at own
      cases own
      rw [calls, if_pos rfl, decide_eq_false (Nat.not_lt.mpr h.le), h.root]
      exact ⟨[], nofun, rfl⟩
    · have lt := (List.getElem?_eq_some_iff.mp own).1
      rw [List.length_append, List.length_singleton] at lt
      rw [List.getElem?_append_left (by omega)] at own
      rw [calls, if_neg last]
      exact h.lives own
  · rw [List.length_append, List.length_singleton] at le
    rw [calls, if_neg (by omega)]
    exact h.unheard (by omega)

theorem Housed.installs (leave : ∀ {e : Effect σ}, P e → e.LeavesRegistry)
    (bodies : List (Body σ)) : ∀ {owns : List Surface} {w : World σ}, w.Confined P →
      w.Housed start owns gone (bodies.map Body.id) →
      (initialiseAll (entered owns.length bodies)).run w = (.ok (), v) →
      v.Confined P ∧ ∃ more, Installs (entered owns.length bodies) more w v ∧
        v.Housed start (owns ++ more) gone [] := by
  induction bodies with
  | nil =>
    intro owns w confined h done
    cases done
    refine ⟨confined, [], .done _, ?_⟩
    rw [List.append_nil]
    exact h
  | cons b rest ih =>
    intro owns w confined h done
    rw [entered_cons] at done ⊢
    obtain ⟨x, ⟨u, called, rfl⟩, done⟩ := initialiseAll_cons done
    have confined := (Stroke.furnished (P := P) w b.id).confined confined
    have moves := confined.moves_call (.init w.visualiser.root (w.mount b.id).surface) ⟨owns.length⟩
    rw [called] at moves
    have confined := (Stroke.kept (P := P) u (w.mount b.id)).confined (confined.moves moves)
    have heard := h.calls_initialised called owns.length
    rw [if_pos rfl] at heard
    have length : owns.length + 1 = (owns ++ [(w.mount b.id).surface]).length := by
      rw [List.length_append, List.length_singleton]
    rw [length] at done ⊢
    obtain ⟨confined, more, installs, housed⟩ := ih confined (h.initialised leave moves called) done
    refine ⟨confined, _, .next (s := (w.mount b.id).surface) Renderer.raised_createSurface
      (h.unheard (Nat.le_refl _)) called heard installs, ?_⟩
    rw [← List.singleton_append, ← List.append_assoc]
    exact housed

/-- No operation but those that take out a level ends a life, and none begins one before it has
taken out a level. -/
theorem Housed.leads (h : u.Housed start owns gone []) (confined : u.Confined P)
    (leave : ∀ {e : Effect σ}, P e → e.LeavesRegistry) (within : o.Within P)
    (leads : o.Leads u loaded w) :
    (o.clears = false → w.Housed start owns gone []) ∧
    (o.clears = true → ∃ v more, u.Cleans v ∧ u.Razes v ∧ v.Housed start owns owns.length [] ∧
      v.Refills w loaded more ∧ w.Housed start (owns ++ more) owns.length []) := by
  have failed {v : World σ} (cleans : u.Cleans v) : ∃ v' more, u.Cleans v' ∧ u.Razes v' ∧
      v'.Housed start owns owns.length [] ∧ v'.Refills v none more ∧
        v.Housed start (owns ++ more) owns.length [] := by
    obtain ⟨razes, housed⟩ := h.cleans confined leave cleans
    refine ⟨v, [], cleans, razes, housed, .inl ⟨rfl, rfl, rfl⟩, ?_⟩
    rw [List.append_nil]
    exact housed
  cases leads.comes with
  | cleaned done => exact ⟨nofun, fun _ => failed (cleans_of_run done)⟩
  | failed done =>
    cases loads_of_run done with
    | failed cleans => exact ⟨nofun, fun _ => failed cleans⟩
  | loaded done =>
    refine ⟨nofun, fun _ => ?_⟩
    cases loads_of_run done with
    | @loaded v x y bodies cleans made initialised hooked =>
      obtain ⟨razes, housed⟩ := h.cleans confined leave cleans
      have length : v.instances.length = owns.length := housed.length
      have staffed : (v.staffed bodies).Housed start owns owns.length (bodies.map Body.id) :=
        ⟨housed.toLodged.staffed bodies, housed.lives, housed.unheard⟩
      have confined := cleans.staffed confined made
      rw [length] at initialised
      obtain ⟨confined, more, installs, housed'⟩ :=
        Housed.installs leave bodies confined staffed initialised
      rw [← length] at installs
      have steps := confined.steps_run (within (bodies.map Body.id))
      rw [hooked] at steps
      have last := housed'.ran confined leave (within _) hooked
      refine ⟨v, more, cleans, razes, housed, .inr ⟨nofun, bodies, x, installs, ?_⟩, ?_⟩
      · exact fun _ => steps.calls
      · exact last.frame (last.toLodged.frame rfl rfl rfl rfl .refl) fun _ => rfl
  | @played _ c _ _ asks told =>
    have keeps := Operation.clears_of_call asks
    refine ⟨fun _ => h.told confined leave ?_ told, fun clears => nomatch keeps.symm.trans clears⟩
    cases o <;> cases asks <;> rfl
  | hosted ran => exact ⟨fun _ => h.ran confined leave within ran, nofun⟩

theorem Cleans.run_cleanup (h : w.Cleans v) : cleanup.run v = (.ok (), v) :=
  run_cleanup_of_isBare (isBare_iff.mpr ⟨h.registry, h.mounts, h.subscriptions⟩)

theorem Housed.performance (leave : ∀ {e : Effect σ}, P e → e.LeavesRegistry)
    (run : Performance (fun _ o => o.Within P) w os v) :
    ∀ {owns gone}, w.Housed start owns gone [] → w.Confined P →
      v.Confined P ∧ ∃ owns gone, v.Housed start owns gone [] := by
  induction run with
  | done => exact fun h confined => ⟨confined, _, _, h⟩
  | @step o _ _ _ _ _ within leads _ ih =>
    intro owns gone h confined
    have confined' := leads.confined within confined
    obtain ⟨kept, cleared⟩ := h.leads confined leave within leads
    cases clears : o.clears with
    | false => exact ih (kept clears) confined'
    | true =>
      obtain ⟨-, more, -, -, -, -, last⟩ := cleared clears
      exact ih last confined'

theorem cleans_of_dismantle (h : dismantle.run u = (.ok (), w)) : ∃ v, u.Cleans v ∧
    w = { v with renderer := v.renderer.removeSurface v.visualiser.root.id } := by
  unfold dismantle at h
  rw [Act.run_bind] at h
  generalize cleaned : cleanup.run u = outcome at h
  obtain ⟨_ | _, v⟩ := outcome
  · cases h
  · exact ⟨v, cleans_of_run cleaned, (congrArg Prod.snd h).symm⟩

theorem Lodged.swept (h : w.Lodged start owns owns.length []) {p : Picture}
    (pictures : start.renderer.Pictures start.visualiser.root [] p) :
    w.renderer.Swept [(start.visualiser.root.id, ⟨none, start.visualiser.root.scope⟩)] owns ∧
      (w.renderer.removeSurface start.visualiser.root.id).Swept [] owns := by
  obtain ⟨p', here⟩ := h.pictured pictures
  rw [List.drop_length] at here
  have razed {s : Surface} (mem : s ∈ owns) : s.id ∈ w.renderer.razed := by
    rw [h.razed, List.take_length]
    exact List.mem_append_right _ (List.mem_map_of_mem mem)
  obtain ⟨picture, surfaces, sweeps⟩ := here.removeRoot
  refine ⟨⟨p', here.picture, here.surfaces, fun s mem entry there on => ?_⟩,
    _, picture, surfaces, fun s mem entry there on => ?_⟩
  · have drawn := here.sweeps entry there
    rw [on] at drawn
    exact drawn (razed mem)
  · have drawn := sweeps entry there
    rw [on] at drawn
    refine drawn ?_
    rw [Renderer.razed_removeSurface]
    exact List.mem_append_left _ (razed mem)

variable {catalog : Catalog σ} {renderer : Renderer} {config : Playback.Config} {nesting : Nat}
  {memory : σ}

theorem housed_new (begins : start = .new catalog renderer config nesting memory) :
    start.Housed start [] 0 [] := by
  subst begins
  exact
    { root := rfl
      le := Nat.le_refl 0
      bodies := rfl
      registry := rfl
      mounts := rfl
      later := .refl _
      raised := (List.append_nil _).symm
      razed := (List.append_nil _).symm
      once := List.pairwise_singleton _ _
      issued := List.forall_mem_singleton.mpr (Nat.le_refl _)
      fresh := nofun
      pictured := fun pictures => ⟨_, pictures⟩
      lives := nofun
      unheard := fun _ => rfl }

theorem pictures_new : ∃ p, (World.new catalog .recording config nesting memory).renderer.Pictures
    (World.new catalog .recording config nesting memory).visualiser.root [] p :=
  ⟨_, rfl, rfl, nofun⟩

end World

/-- Foreign code leaves the registry alone, and the modules for variables are blank when they are
made. Then whatever a visualiser is asked for, and brings to its end, each module that was ever made
has a surface of its own on the root, and leads one life on it: it is initialised when the surface
has been created, and destroyed by the operation that next takes out a level, which then removes the
surface. By then it has removed each of its boxes once. A renderer that keeps a picture shows no
surface but the root after that, and no element that was drawn on another one while that stood. Once
the visualiser is gone it shows no surface at all. -/
theorem levels_leave_nothing {catalog : Catalog σ} {renderer : Renderer} {config : Playback.Config}
    {nesting : Nat} {memory : σ} {os : List (Operation σ)} {start u : World σ}
    (begins : start = .new catalog renderer config nesting memory)
    (makes : ∀ {name : String} {m : ForeignModule σ}, catalog[name]? = some (.foreign m) →
      ∀ i c, (m.respond i c).Within Effect.LeavesRegistry)
    (blank : ∀ {name : String} {m : Variables}, catalog[name]? = some (.tracker m) → m = .blank)
    (run : Performance (fun _ o => o.Within Effect.LeavesRegistry) start os u) :
    ∃ owns gone, u.Settled start owns gone ∧
      (∀ {o : Operation σ} {loaded : Option String} {w : World σ},
        o.Within Effect.LeavesRegistry → o.Leads u loaded w →
          (o.clears = false → w.Settled start owns gone) ∧
          (o.clears = true → ∃ v more, u.Razes v ∧ v.Settled start owns owns.length ∧
            (renderer = .recording → v.renderer.Swept
              [(start.visualiser.root.id, ⟨none, start.visualiser.root.scope⟩)] owns) ∧
            World.cleanup.run v = (.ok (), v) ∧ v.Refills w loaded more ∧
            w.Settled start (owns ++ more) owns.length)) ∧
      ∀ {w : World σ}, World.dismantle.run u = (.ok (), w) →
        ∃ v, u.Razes v ∧ v.Settled start owns owns.length ∧
          w = { v with renderer := v.renderer.removeSurface start.visualiser.root.id } ∧
          (renderer = .recording → w.renderer.Swept [] owns) := by
  have confined : start.Confined Effect.LeavesRegistry := begins ▸ World.confined_new makes
  have accounted : start.Accounted := by
    subst begins
    exact ⟨blank, fun _ => rfl, nofun⟩
  have pictures (recording : renderer = .recording) :
      ∃ p, start.renderer.Pictures start.visualiser.root [] p := by
    subst begins recording
    exact World.pictures_new
  obtain ⟨confined, owns, gone, housed⟩ :=
    World.Housed.performance id run (World.housed_new begins) confined
  have accounted := accounted.performance run
  have razed {v : World σ} (cleans : u.Cleans v) :
      u.Razes v ∧ v.Settled start owns owns.length := by
    obtain ⟨razes, housed⟩ := housed.cleans confined id cleans
    have strokes := cleans.strokes confined
    exact ⟨razes, housed.settled (strokes.keeps (fun stroke h => h.stroke stroke) accounted)⟩
  refine ⟨owns, gone, housed.settled accounted, fun {o loaded w} within leads => ?_,
    fun {w} done => ?_⟩
  · have after := accounted.leads leads
    obtain ⟨kept, cleared⟩ := housed.leads confined id within leads
    refine ⟨fun keeps => (kept keeps).settled after, fun clears => ?_⟩
    obtain ⟨v, more, cleans, razes, housed', refills, last⟩ := cleared clears
    refine ⟨v, more, razes, (razed cleans).2, fun recording => ?_, cleans.run_cleanup, refills,
      last.settled after⟩
    obtain ⟨p, shown⟩ := pictures recording
    exact (housed'.swept shown).1
  · obtain ⟨v, cleans, rfl⟩ := World.cleans_of_dismantle done
    obtain ⟨razes, settled⟩ := razed cleans
    rw [settled.root]
    refine ⟨v, razes, settled, rfl, fun recording => ?_⟩
    obtain ⟨p, shown⟩ := pictures recording
    exact (settled.swept shown).2

def Operation.visiting : List (Operation Unit) :=
  [.load ⟨"level", "", "", "", [Variables.name]⟩ fun _ => .done,
    .deliver (.init (.variable "x") ⟨.boolean true, .literal⟩) Trace.twice, .update 5]

def World.visited : World Unit :=
  World.performing (.new .builtin .recording {} 8 ()) Operation.visiting

theorem levels_leave_nothing_of_visited : ∃ owns, owns.length = 1 ∧
    (Operation.cleanup.act.run World.visited).2.Settled (.new .builtin .recording {} 8 ()) owns 1 ∧
    (Operation.cleanup.act.run World.visited).2.renderer.Swept
      [(⟨1⟩, ⟨none, World.rootScope⟩)] owns := by
  have within : ∀ o ∈ Operation.visiting, ∀ _ : World Unit, o.Within Effect.LeavesRegistry := by
    intro o mem _
    simp only [Operation.visiting, List.mem_cons, List.not_mem_nil, or_false] at mem
    rcases mem with rfl | rfl | rfl
    · exact fun _ => trivial
    · trivial
    · trivial
  have run : Performance (fun _ o => o.Within Effect.LeavesRegistry)
      (.new .builtin .recording {} 8 ()) Operation.visiting World.visited :=
    performance_performing within (by decide +kernel)
  have leads : Operation.cleanup.Leads World.visited none _ :=
    Operation.leads_of_toOption (by decide +kernel)
  obtain ⟨owns, gone, settled, after, -⟩ := levels_leave_nothing rfl
    (fun there => nomatch World.builtin_eq_blank there)
    (fun there => Body.tracker.inj (World.builtin_eq_blank there)) run
  obtain ⟨v, more, -, gone, swept, -, refills, -⟩ := (after (o := .cleanup) trivial leads).2 rfl
  rcases refills with ⟨-, -, rfl⟩ | ⟨some, -⟩
  · have made : World.visited.instances.length = 1 := by decide +kernel
    have length : owns.length = 1 := by
      have same := settled.length
      rw [made] at same
      exact same.symm
    rw [length] at gone
    exact ⟨owns, length, gone, swept rfl⟩
  · exact absurd rfl some

/-- A module that keeps its surface in memory, and draws on the one that was kept there before. -/
def ForeignModule.haunting : ForeignModule (Option Surface) where
  id := "haunts"
  dependencies := []
  kind := "haunts"
  respond _
    | .init _ own => .consult fun
      | some old => .createElement old ⟨.variableBox, "mark", "", none⟩ fun _ => .done
      | none => .remember (fun _ => some own) .done
    | .handle .. | .reset | .destroy | .update _ => .done

def Catalog.haunting : Catalog (Option Surface) :=
  Catalog.builtin.insert "haunts" (.foreign .haunting)

def Operation.haunting : List (Operation (Option Surface)) :=
  let level : Level := ⟨"level", "", "", "", ["haunts"]⟩
  [.load level fun _ => .done, .load level fun _ => .done, .cleanup]

def World.haunted : World (Option Surface) :=
  World.performing (.new .haunting .recording {} 8 none) Operation.haunting

theorem ForeignModule.within_haunting (i : InstanceId) (c : Call) :
    (ForeignModule.haunting.respond i c).Within Effect.LeavesRegistry := by
  cases c with
  | init root own =>
    rintro (_ | old)
    · exact ⟨trivial, trivial⟩
    · exact ⟨trivial, fun _ => trivial⟩
  | _ => trivial

theorem Operation.within_haunting {o : Operation (Option Surface)} (mem : o ∈ haunting) :
    o.Within Effect.LeavesRegistry := by
  simp only [haunting, List.mem_cons, List.not_mem_nil, or_false] at mem
  rcases mem with rfl | rfl | rfl
  · exact fun _ => trivial
  · exact fun _ => trivial
  · trivial

/-- The surface of the first module was removed when the second one drew on it. After the level is
taken out no surface stands but the root, and what was drawn is there nevertheless. -/
theorem cleanup_spares_late_element :
    (∀ {name : String} {m : ForeignModule (Option Surface)},
      Catalog.haunting[name]? = some (.foreign m) →
        ∀ i c, (m.respond i c).Within Effect.LeavesRegistry) ∧
    Performance (fun _ o => o.Within Effect.LeavesRegistry)
      (.new .haunting .recording {} 8 none) Operation.haunting World.haunted ∧
    (⟨2⟩, some ⟨1⟩, "haunts") ∈ World.haunted.renderer.raised ∧
    World.haunted.renderer.picture = some
      { surfaces := [(⟨1⟩, ⟨none, World.rootScope⟩)]
        elements := [(⟨4⟩, ⟨⟨2⟩, .variableBox, "mark", "", none⟩)]
        created := 1 } := by
  have performs : World.performs (.new .haunting .recording {} 8 none) Operation.haunting = true := by
    decide +kernel
  refine ⟨fun there => ?_, performance_performing (fun _ mem _ => Operation.within_haunting mem)
    performs, by decide +kernel, by cbv⟩
  rw [World.foreign_of_builtin_insert there]
  exact ForeignModule.within_haunting

end Replay
