import Replay.Proofs.World.Story
import Replay.Proofs.World.Strokes

/-!
Foreign code that does not panic. Where no module and no hook panics, and no module is in the middle
of a call, levels are loaded and taken out to the end, unless publications are nested too deeply:
what listeners do about notices goes no further than the notice.
-/
namespace Replay

variable {σ α β : Type}

/-- Whether a script panics on no branch. Listeners may panic. -/
def Script.Calm : Script σ → Prop
  | .done => True
  | .panic => False
  | .consult k => ∀ memory, (k memory).Calm
  | .subscribe _ _ k | .mark k => ∀ id, (k id).Calm
  | .unsubscribe _ k => ∀ removed, (k removed).Calm
  | .since _ k | .registered k => ∀ ids, (k ids).Calm
  | .count _ k | .publish _ k => ∀ count, (k count).Calm
  | .access _ _ body k => (∀ view, (body view).Calm) ∧ ∀ result, (k result).Calm
  | .createElement _ _ k => ∀ e, (k e).Calm
  | .start k | .resume k => ∀ r, (k r).Calm
  | .session k => ∀ s, (k s).Calm
  | .remember _ k | .clearBus k | .register _ k | .clearRegistry k | .updateElement _ _ k |
    .removeElement _ k | .pause k | .setSpeed _ k | .setCode _ k => k.Calm

theorem Script.Calm.next {s rest : Script σ} {w : World σ} {e : Option (Effect σ)} (calm : s.Calm)
    (next : s.next w = some (e, rest)) : rest.Calm := by
  cases s <;> simp only [Script.next, Option.some.injEq, Prod.mk.injEq, reduceCtorEq] at next <;>
    obtain ⟨-, rfl⟩ := next <;> first | exact calm | exact calm _

def Act.Ends (act : Act σ α) (w : World σ) : Prop :=
  ∀ h, (act.run w).1 = .error h → h = .overflow

theorem Act.Ends.bind {act : Act σ α} {f : α → Act σ β} {w : World σ} (first : act.Ends w)
    (rest : ∀ a v, act.run w = (.ok a, v) → Act.Ends (f a) v) : Act.Ends (act >>= f) w := by
  intro h halted
  rw [run_bind] at halted
  cases run : act.run w with
  | mk result v =>
    rw [run] at halted
    cases result with
    | error h' =>
      obtain rfl := Except.error.inj halted
      exact first _ (congrArg Prod.fst run)
    | ok a => exact rest a v run h halted

theorem Act.Ends.result {act : Act σ α} {w : World σ} (ends : act.Ends w)
    (terminates : (act.run w).1 ≠ .error .overflow) : ∃ a v, act.run w = (.ok a, v) := by
  cases run : act.run w with
  | mk result v =>
    cases result with
    | error h =>
      rw [run] at terminates
      exact absurd (congrArg _ (ends h (congrArg Prod.fst run))) terminates
    | ok a => exact ⟨a, v, rfl⟩

theorem Script.ends_exec {publish : Notice → Act σ Nat} (published : ∀ n w, (publish n).Ends w)
    {s : Script σ} (calm : s.Calm) : ∀ w : World σ, (s.exec publish).Ends w := by
  induction s using Script.stepwise with
  | done => exact fun _ _ => nofun
  | panic => exact calm.elim
  | step s ih =>
    intro w
    obtain ⟨e, rest, next, ih⟩ := ih w
    unfold Act.Ends
    rw [exec_of_step next]
    exact ih (calm.next next) _
  | publish n k ih => exact fun w => (published n w).bind fun count v _ => ih count (calm count) v
  | access id kind body k ihBody ih =>
    intro w
    unfold Act.Ends
    simp only [exec, Act.run_get_bind]
    split
    · exact ih _ (calm.2 _) w
    · rename_i i b _
      refine Act.Ends.bind (fun h halted => ?_) fun _ v _ => ih _ (calm.2 _) v
      exact ihBody (b.view i) (calm.1 _) { w with busy := i :: w.busy } h halted

namespace World

variable {P : Effect σ → Prop} {w v : World σ} {c : Call} {l : Level} {hook : Hook σ}

theorem ends_publish (n : Notice) (w : World σ) : (publish n).Ends w := by
  intro h halted
  have published := publishes_publishWithin w.nesting n w
  have halted : ((publishWithin w.nesting n).run w).1 = .error h := halted
  generalize (publishWithin w.nesting n).run w = outcome at published halted
  obtain ⟨_ | _, v⟩ := outcome
  · cases halted
    exact published.1
  · cases halted

/-- No foreign module there is, or that can be made, panics, and none is in the middle of a call. -/
structure Sedate (w : World σ) : Prop where
  idle : w.busy = []
  instances : ∀ {i : InstanceId} {m : ForeignModule σ}, w.body? i = some (.foreign m) →
    ∀ c, (m.respond i c).Calm
  catalog : ∀ {name : String} {m : ForeignModule σ},
    w.visualiser.catalog[name]? = some (.foreign m) → ∀ i c, (m.respond i c).Calm

theorem sedate_new {catalog : Catalog σ} {renderer : Renderer} {config : Playback.Config}
    {nesting : Nat} {memory : σ} (calm : ∀ {name : String} {m : ForeignModule σ},
      catalog[name]? = some (.foreign m) → ∀ i c, (m.respond i c).Calm) :
    (World.new catalog renderer config nesting memory).Sedate :=
  ⟨rfl, nofun, calm⟩

theorem Sedate.moves (h : w.Sedate) (moves : (Discipline.within P).Moves c w v) : v.Sedate where
  idle := moves.busy.trans h.idle
  instances {i m} here := by
    rw [← cast_eq_foreign, moves.cast, cast_eq_foreign] at here
    exact h.instances here
  catalog := by
    rw [moves.visualiser]
    exact h.catalog

theorem Sedate.stroke (h : w.Sedate) (stroke : Stroke P w v) : v.Sedate := by
  cases stroke with
  | called _ moves => exact h.moves moves
  | @entered _ b made =>
    obtain ⟨registry, eq⟩ := entering_eq w b
    rw [eq]
    refine ⟨h.idle, fun {i m} here => ?_, h.catalog⟩
    rcases body?_addInstance here with old | ⟨-, rfl⟩
    · exact h.instances old
    · exact h.catalog made.choose_spec i
  | _ => exact ⟨h.idle, h.instances, h.catalog⟩

theorem Sedate.strokes (h : w.Sedate) (strokes : Strokes P w v) : v.Sedate :=
  strokes.keeps (fun stroke now => now.stroke stroke) h

theorem ends_call {i : InstanceId} (free : w.isBusy i = false)
    (calm : ∀ m, w.body? i = some (.foreign m) → (m.respond i c).Calm) : (call i c).Ends w := by
  unfold Act.Ends
  cases here : w.body? i with
  | none =>
    rw [call_of_none here]
    exact fun _ => nofun
  | some b =>
    cases b with
    | foreign m =>
      rw [call_of_foreign here free]
      exact Script.ends_exec ends_publish (calm m here) _
    | tracker m =>
      rw [call_of_tracker here free]
      cases (m.respond w.renderer c).notice with
      | none => exact fun _ => nofun
      | some n => exact Act.Ends.bind (ends_publish n _) fun _ _ _ _ => nofun

theorem isBusy_of_idle (idle : w.busy = []) (i : InstanceId) : w.isBusy i = false := by
  unfold isBusy
  rw [idle]
  rfl

/-- Where nobody is in the middle of a call, all instances are called that do not panic. -/
theorem ends_callAll (c : Call) (is : List InstanceId) : ∀ {w : World σ}, w.busy = [] →
    (∀ i ∈ is, ∀ m, w.body? i = some (.foreign m) → (m.respond i c).Calm) →
      (callAll c is).Ends w := by
  induction is with
  | nil => exact fun _ _ _ => nofun
  | cons i rest ih =>
    intro w idle calm
    refine (ends_call (isBusy_of_idle idle i) (calm i List.mem_cons_self)).bind fun _ v called => ?_
    have moves := w.confined_true.moves_call c i
    rw [called] at moves
    refine ih (moves.busy.trans idle) fun j mem m here => ?_
    rw [← cast_eq_foreign, moves.cast, cast_eq_foreign] at here
    exact calm j (List.mem_cons_of_mem i mem) m here

theorem Sedate.ends_call (h : w.Sedate) (i : InstanceId) (c : Call) : (call i c).Ends w :=
  World.ends_call (isBusy_of_idle h.idle i) fun _ here => h.instances here c

theorem Sedate.ends_callAll (h : w.Sedate) (c : Call) (is : List InstanceId) :
    (callAll c is).Ends w :=
  World.ends_callAll c is h.idle fun _ _ _ here => h.instances here c

theorem Sedate.ends_cleanup (h : w.Sedate) : cleanup.Ends w := by
  unfold cleanup Act.Ends
  rw [Act.run_get_bind]
  split
  · exact fun _ => nofun
  rw [Act.run_set_bind]
  have unsubscribed := h.stroke (.unsubscribed (P := fun _ => True) w)
  exact Act.Ends.bind (unsubscribed.ends_callAll .destroy _) fun _ _ _ _ => nofun

theorem ends_registerAll (bodies : List (Body σ)) : ∀ w : World σ, (registerAll bodies).Ends w := by
  induction bodies with
  | nil => exact fun _ _ => nofun
  | cons b rest ih => exact fun w => (ih (w.entering b)).bind fun _ _ _ _ => nofun

theorem ends_lending {mount : SurfaceHandle} {act : Act σ Unit} (h : act.Ends w) :
    (lending mount act).Ends w := by
  rcases lending_cases mount act w with ⟨u, panics, -⟩ | eq
  · cases h _ (congrArg Prod.fst panics)
  · unfold Act.Ends
    rw [eq]
    exact h

theorem Sedate.ends_initialise (h : w.Sedate) (id : String) (i : InstanceId) :
    (initialise id i).Ends w := by
  have furnished := h.stroke (.furnished (P := fun _ => True) w id)
  unfold initialise Act.Ends
  rw [Act.run_get_bind]
  dsimp only
  rw [Act.run_set_bind]
  exact Act.Ends.bind (ends_lending (furnished.ends_call i _)) fun _ _ _ _ => nofun

theorem Sedate.ends_initialiseAll (modules : List (String × InstanceId)) :
    ∀ {w : World σ}, w.Sedate → (initialiseAll modules).Ends w := by
  induction modules with
  | nil => exact fun _ _ => nofun
  | cons entry rest ih =>
    intro w h
    refine (h.ends_initialise entry.1 entry.2).bind fun _ v initialised => ih ?_
    have strokes := fits_strokes.initialise w.confined_true entry.1 entry.2
    rw [initialised] at strokes
    exact h.strokes strokes

theorem Sedate.ends_initLevel (h : w.Sedate) (hooked : ∀ ids, (hook ids).Calm) :
    (initLevel l hook).Ends w := by
  unfold initLevel
  refine h.ends_cleanup.bind fun _ u cleaned => ?_
  have cleaning := w.confined_true.strokes_cleanup
  rw [cleaned] at cleaning
  have now := h.strokes cleaning
  unfold Act.Ends
  rw [Act.run_get_bind]
  dsimp only
  split
  · exact fun _ => nofun
  rename_i bodies made
  refine (ends_registerAll bodies u).bind fun modules v registered => ?_
  have entering := strokes_registerAll (P := fun _ => True) bodies u fun b mem => by
    obtain ⟨name, -, there⟩ := ((of_makeModules made).2 b).mp mem
    exact ⟨name, there⟩
  rw [registered] at entering
  refine (Sedate.ends_initialiseAll modules (now.strokes entering)).bind fun _ x _ => ?_
  exact Act.Ends.bind (Script.ends_exec ends_publish (hooked _) x) fun _ _ _ _ => nofun

end World

end Replay
