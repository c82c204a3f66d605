import Replay.Proofs.World.Operation

/-!
The id of the level. Loading names the level that is loaded; taking out takes back the name, unless
it finds nothing to take out. A level that leaves nothing behind keeps its name for that reason, and
only such a level does.
-/
namespace Replay

variable {σ : Type}

/-- Whether an operation leaves the name of the level: it loads none, and finds nothing to take
out. -/
def Operation.Spares (w : World σ) (o : Operation σ) : Prop :=
  (∀ id v, ¬o.Leads w (some id) v) ∧ (o.clears = true → w.isBare = true)

/-- A level with an id is loaded by one of some operations, and all behind it are of some kind. -/
inductive LastLoaded (spares : World σ → Operation σ → Prop) (id : String) :
    World σ → List (Operation σ) → World σ → Prop
  | here {o : Operation σ} {os : List (Operation σ)} {u v w : World σ}
      (loads : o.Leads u (some id) v) (rest : Performance spares v os w) :
      LastLoaded spares id u (o :: os) w
  | later {o : Operation σ} {os : List (Operation σ)} {u v w : World σ} {loaded : Option String}
      (leads : o.Leads u loaded v) (rest : LastLoaded spares id v os w) :
      LastLoaded spares id u (o :: os) w

variable {o : Operation σ} {os : List (Operation σ)} {u v w : World σ} {id : String}
  {loaded : Option String} {spares spares' : World σ → Operation σ → Prop}

theorem Performance.mono (h : Performance spares u os w)
    (imp : ∀ {w o}, spares w o → spares' w o) : Performance spares' u os w := by
  induction h with
  | done => exact .done _
  | step may leads _ ih => exact .step (imp may) leads ih

namespace Operation

theorem Leads.visualiser (h : o.Leads w loaded v) (keeps : o.clears = false) :
    loaded = none ∧ v.visualiser = w.visualiser := by
  rcases h.cases w.confined_true o.within_true with ⟨clears, -⟩ | ⟨-, none, c, moves⟩
  · cases keeps.symm.trans clears
  · exact ⟨none, moves.visualiser⟩

theorem Leads.unique (h : o.Leads w loaded v) {loaded' : Option String} {v' : World σ}
    (h' : o.Leads w loaded' v') : loaded = loaded' ∧ v = v' := by
  cases h.symm.trans h'
  exact ⟨rfl, rfl⟩

theorem spares_of_keeps (keeps : o.clears = false) : o.Spares w := by
  constructor
  · intro id v leads
    cases (leads.visualiser keeps).1
  · intro clears
    cases keeps.symm.trans clears

end Operation

theorem World.Cleans.levelId (h : w.Cleans v) :
    v.visualiser.levelId = some id ↔ w.isBare = true ∧ w.visualiser.levelId = some id := by
  cases h with
  | bare bare => exact (and_iff_right bare).symm
  | torn stands => exact ⟨nofun, fun h => nomatch stands.symm.trans h.1⟩

namespace Operation

theorem Leads.levelId (h : o.Leads w loaded v) : v.visualiser.levelId = some id ↔
    loaded = some id ∨ w.visualiser.levelId = some id ∧ o.Spares w := by
  cases clears : o.clears with
  | false =>
    obtain ⟨rfl, same⟩ := h.visualiser clears
    rw [same, or_iff_right nofun, and_iff_left (spares_of_keeps clears)]
  | true =>
    have cleaned {u : World σ} (cleans : w.Cleans u) (none : loaded = none) :
        u.visualiser.levelId = some id ↔
          loaded = some id ∨ w.visualiser.levelId = some id ∧ o.Spares w := by
      have spares : o.Spares w ↔ w.isBare = true := by
        unfold Spares
        rw [forall_prop_of_true clears]
        exact and_iff_right fun id v leads => nomatch none.symm.trans (h.unique leads).1
      rw [spares, cleans.levelId, none, or_iff_right nofun, and_comm]
    cases h.comes with
    | cleaned done => exact cleaned (World.cleans_of_run done) rfl
    | failed done =>
      cases World.loads_of_run done with
      | failed cleans => exact cleaned cleans rfl
    | loaded done =>
      cases World.loads_of_run done with
      | loaded => exact (or_iff_left fun named => named.2.1 _ _ h).symm
    | played asks => cases clears.symm.trans (clears_of_call asks)
    | hosted => cases clears

end Operation

namespace World

theorem Loads.mounts {l : Level} {hook : Hook σ} {modules : List (String × InstanceId)}
    (h : Loads l hook w (.ok modules) v) : v.visualiser.mounts.length = l.modules.length := by
  cases h with
  | loaded cleans made initialised hooked =>
    rename_i u x y bodies
    obtain ⟨mounts, length, eq⟩ := visualiser_initialiseAll initialised
    have same : y.visualiser.mounts = u.visualiser.mounts ++ mounts := by
      rw [visualiser_run hooked, eq]
      rfl
    have nothing : u.visualiser.mounts = [] := cleans.mounts
    rw [← length_of_makeModules made]
    change y.visualiser.mounts.length = _
    rw [same, nothing, List.nil_append, length]
    unfold entered
    exact List.length_mapIdx

end World

theorem Performance.keeps (h : Performance Operation.Spares u os w)
    (mounted : u.visualiser.mounts ≠ []) :
    Performance (fun _ o => o.clears = false) u os w := by
  induction h with
  | done => exact .done _
  | @step o _ _ _ _ _ spares leads _ ih =>
    have keeps : o.clears = false := by
      refine Bool.eq_false_iff.mpr fun clears => mounted ?_
      exact (World.isBare_iff.mp (spares.2 clears)).2.1
    exact .step keeps leads (ih ((leads.visualiser keeps).2 ▸ mounted))

theorem Performance.levelId (h : Performance (fun _ _ => True) u os w) :
    w.visualiser.levelId = some id ↔ LastLoaded Operation.Spares id u os w ∨
      u.visualiser.levelId = some id ∧ Performance Operation.Spares u os w := by
  induction h with
  | done w =>
    constructor
    · exact fun named => .inr ⟨named, .done w⟩
    · rintro (loaded | ⟨named, -⟩)
      · cases loaded
      · exact named
  | step _ leads _ ih =>
    rw [ih, leads.levelId]
    constructor
    · rintro (before | ⟨rfl | ⟨named, spares⟩, rest⟩)
      · exact .inl (.later leads before)
      · exact .inl (.here leads rest)
      · exact .inr ⟨named, .step spares leads rest⟩
    · rintro ((⟨loads, rest⟩ | ⟨leads', before⟩) | ⟨named, ⟨_⟩ | ⟨spares, leads', rest⟩⟩)
      · obtain ⟨rfl, rfl⟩ := leads.unique loads
        exact .inr ⟨.inl rfl, rest⟩
      · obtain ⟨-, rfl⟩ := leads.unique leads'
        exact .inl before
      · obtain ⟨-, rfl⟩ := leads.unique leads'
        exact .inr ⟨.inr ⟨named, spares⟩, rest⟩

theorem LastLoaded.mono (h : LastLoaded spares id u os w)
    (imp : ∀ {w o}, spares w o → spares' w o) : LastLoaded spares' id u os w := by
  induction h with
  | here loads rest => exact .here loads (rest.mono imp)
  | later leads _ ih => exact .later leads ih

/-- The name of a level with modules is left only where nothing is taken out. -/
theorem LastLoaded.keeps (h : LastLoaded Operation.Spares id u os w)
    (listed : ∀ l hook, .load l hook ∈ os → l.modules ≠ []) :
    LastLoaded (fun _ o => o.clears = false) id u os w := by
  induction h with
  | here loads rest =>
    refine .here loads (rest.keeps fun none => ?_)
    cases loads.comes with
    | loaded done =>
      refine listed _ _ List.mem_cons_self (List.eq_nil_of_length_eq_zero ?_)
      rw [← (World.loads_of_run done).mounts, none]
      rfl
  | later leads _ ih =>
    exact .later leads (ih fun l hook mem => listed l hook (List.mem_cons_of_mem _ mem))

/-- The visualiser names a level exactly if some operation loaded it and all behind that one, if
they took out anything, found nothing to take out. Where every level lists a module this means that
nothing was taken out or loaded since. All this is about performances: what a loading or a taking
out leaves that a panic cuts off is left open. -/
theorem level_named {catalog : Catalog σ} {renderer : Renderer} {config : Playback.Config}
    {nesting : Nat} {memory : σ}
    (run : Performance (fun _ _ => True) (.new catalog renderer config nesting memory) os w)
    (id : String) :
    (w.visualiser.levelId = some id ↔
      LastLoaded Operation.Spares id (.new catalog renderer config nesting memory) os w) ∧
    ((∀ l hook, .load l hook ∈ os → l.modules ≠ []) → (w.visualiser.levelId = some id ↔
      LastLoaded (fun _ o => o.clears = false) id (.new catalog renderer config nesting memory)
        os w)) := by
  have named : w.visualiser.levelId = some id ↔
      LastLoaded Operation.Spares id (.new catalog renderer config nesting memory) os w := by
    rw [run.levelId]
    refine or_iff_left ?_
    rintro ⟨⟨⟩, -⟩
  refine ⟨named, fun listed => named.trans ⟨fun h => h.keeps listed, fun h => h.mono ?_⟩⟩
  exact Operation.spares_of_keeps

def Operation.blanking : List (Operation Unit) :=
  [.load ⟨"blank", "", "", "", []⟩ fun _ => .done, .cleanup,
    .load ⟨"other", "", "", "", ["call-stack"]⟩ fun _ => .done]

theorem level_named_of_blanking :
    LastLoaded Operation.Spares "blank" (.new .builtin .recording {} 8 ()) Operation.blanking
      (World.performing (.new .builtin .recording {} 8 ()) Operation.blanking) := by
  have run : Performance (fun _ _ => True) (.new .builtin .recording {} 8 ()) Operation.blanking
      _ := performance_performing (fun _ _ _ => trivial) (by decide +kernel)
  exact (level_named run "blank").1.mp (by decide +kernel)

end Replay
