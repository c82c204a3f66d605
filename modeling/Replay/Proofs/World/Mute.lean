import Replay.Proofs.World.Strokes

/-!
Modules that leave the bus alone when they are destroyed. All foreign modules come from the catalog,
so it is enough that those of the catalog do.
-/
namespace Replay

variable {σ : Type}

def Script.Mute : Script σ → Prop
  | .done | .panic => True
  | .subscribe .. | .unsubscribe .. | .clearBus _ | .publish .. => False
  | .mark _ | .since .. | .count .. => False
  | .consult k => ∀ memory, (k memory).Mute
  | .registered k => ∀ ids, (k ids).Mute
  | .access _ _ body k => (∀ view, (body view).Mute) ∧ ∀ result, (k result).Mute
  | .createElement _ _ k => ∀ e, (k e).Mute
  | .start k | .resume k => ∀ r, (k r).Mute
  | .session k => ∀ s, (k s).Mute
  | .remember _ k | .register _ k | .clearRegistry k | .updateElement _ _ k | .removeElement _ k |
    .pause k | .setSpeed _ k | .setCode _ k => k.Mute

/-- Whether no foreign module asks anything of the bus when it is destroyed. -/
def Catalog.EndsMute (catalog : Catalog σ) : Prop :=
  ∀ {name : String} {m : ForeignModule σ}, catalog[name]? = some (.foreign m) →
    ∀ i, (m.respond i .destroy).Mute

theorem Script.Mute.next {s rest : Script σ} {w : World σ} {e : Option (Effect σ)} (mute : s.Mute)
    (next : s.next w = some (e, rest)) :
    rest.Mute ∧ (e.elim w (·.apply w)).bus = w.bus := by
  cases s <;> simp only [Script.next, Option.some.injEq, Prod.mk.injEq, reduceCtorEq] at next <;>
    obtain ⟨rfl, rfl⟩ := next
  case register i k =>
    obtain ⟨registry, eq⟩ := Effect.apply_register (w := w) (i := i)
    have same : ((Effect.register i).apply w).bus = w.bus := by rw [eq]
    exact ⟨mute, same⟩
  all_goals first | exact mute.elim | exact ⟨mute, rfl⟩ | exact ⟨mute _, rfl⟩

theorem Script.bus_exec {publish : Notice → Act σ Nat} {s : Script σ} (mute : s.Mute) :
    ∀ w : World σ, ((s.exec publish).run w).2.bus = w.bus := by
  induction s using Script.stepwise with
  | done => exact fun _ => rfl
  | panic => exact fun _ => rfl
  | publish => exact mute.elim
  | step s ih =>
    intro w
    obtain ⟨e, rest, next, ih⟩ := ih w
    obtain ⟨mute, same⟩ := mute.next next
    rw [exec_of_step next]
    exact (ih mute _).trans same
  | access id kind body k ihBody ih =>
    intro w
    simp only [exec, Act.run_get_bind]
    split
    · exact ih _ (mute.2 _) w
    · rename_i i b _
      rw [Act.run_bind, World.run_holding]
      have inside := ihBody (b.view i) (mute.1 _) { w with busy := i :: w.busy }
      generalize (exec publish _).run _ = outcome at inside ⊢
      obtain ⟨_ | _, v⟩ := outcome
      · exact inside
      · exact (ih _ (mute.2 _) _).trans inside

namespace World

variable {P : Effect σ → Prop} {catalog : Catalog σ} {w v : World σ} {i : InstanceId} {c : Call}

structure Stocked (catalog : Catalog σ) (w : World σ) : Prop where
  same : w.visualiser.catalog = catalog
  made : ∀ {i : InstanceId} {m : ForeignModule σ}, w.body? i = some (.foreign m) →
    ∃ name : String, catalog[name]? = some (.foreign m)

theorem Stocked.moves (h : w.Stocked catalog) (moves : (Discipline.within P).Moves c w v) :
    v.Stocked catalog where
  same := by
    rw [moves.visualiser]
    exact h.same
  made {i m} here := by
    rw [← cast_eq_foreign, moves.cast, cast_eq_foreign] at here
    exact h.made here

theorem Stocked.stroke (h : w.Stocked catalog) (stroke : Stroke P w v) : v.Stocked catalog := by
  cases stroke with
  | called _ moves => exact h.moves moves
  | @entered _ b made =>
    obtain ⟨registry, eq⟩ := entering_eq w b
    rw [eq]
    refine ⟨h.same, fun {i m} here => ?_⟩
    rcases body?_addInstance here with old | ⟨-, rfl⟩
    · exact h.made old
    · rw [← h.same]
      exact made
  | _ => exact ⟨h.same, h.made⟩

theorem bus_call (mute : ∀ m, w.body? i = some (.foreign m) → (m.respond i .destroy).Mute) :
    ((call i .destroy).run w).2.bus = w.bus := by
  cases here : w.body? i with
  | none => rw [call_of_none here]
  | some b =>
    cases busy : w.isBusy i with
    | true => rw [call_of_busy here busy]
    | false =>
      cases b with
      | tracker m =>
        rw [call_of_tracker here busy]
        rfl
      | foreign m =>
        rw [call_of_foreign here busy]
        exact Script.bus_exec (mute m here) _

/-- Where no module of the catalog asks anything of the bus when it is destroyed, the bus stays as
it is while modules are destroyed. -/
theorem Stocked.bus_callAll (mute : catalog.EndsMute)
    (is : List InstanceId) : ∀ {w : World σ}, w.Stocked catalog →
      ((callAll .destroy is).run w).2.bus = w.bus := by
  induction is with
  | nil => exact fun _ => rfl
  | cons i rest ih =>
    intro w h
    have first : ((call i .destroy).run w).2.bus = w.bus := bus_call fun m here =>
      (h.made here).elim fun name there => mute there i
    have after := h.moves (w.confined_true.moves_call .destroy i)
    unfold callAll
    rw [Act.run_bind]
    generalize (call i .destroy).run w = outcome at first after ⊢
    obtain ⟨_ | _, v⟩ := outcome
    · exact first
    · exact (ih after).trans first

end World

end Replay
