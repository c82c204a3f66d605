import Replay.Proofs.World.Delivery
import Replay.Proofs.World.Operation

/-!
Loading a level in the middle of a trace. The new modules have heard nothing, but the timeline stays
where it is: what was delivered to the modules before them is never delivered again, and they hear
the rest of the trace without its beginning.
-/
namespace Replay

variable {σ : Type}

theorem Call.hear_of_quiet {c : Call} (quiet : c.isPlay = false) (before : List (Event × Trace)) :
    c.hear before = before := by
  cases c with
  | handle | reset => cases quiet
  | init | destroy | update => rfl

namespace Discipline

variable {D : Discipline σ} {c : Call} {w v : World σ} {i : InstanceId}

theorem Moves.heard (h : D.Moves c w v) (quiet : c.isPlay = false) : v.heard i = w.heard i := by
  refine h.kept (f := fun w => w.heard i) (fun _ => Effect.heard_apply) fun _ => ?_
  rw [World.heard_begin, Call.hear_of_quiet quiet, ite_id]

theorem Moves.length_instances (h : D.Moves c w v) : v.instances.length = w.instances.length := by
  have same := congrArg List.length h.cast
  unfold World.cast at same
  rwa [List.length_map, List.length_map] at same

end Discipline

namespace World

variable {P : Effect σ → Prop} {u v w : World σ} {i : InstanceId} {l : Level} {hook : Hook σ}

def Silent (w : World σ) : Prop := ∀ i, w.instances.length ≤ i.number → w.heard i = []

theorem lasting_silent : (Discipline.free (σ := σ)).Lasting Silent where
  tame _ := Discipline.tame_free
  answers _ _ _ _ _ _ := trivial
  apply {w e} h _ i le := by
    rw [Effect.instances_apply] at le
    exact Effect.heard_apply.trans (h i le)
  begun {w i b c} h here _ j le := by
    have begun : Discipline.free.Moves c w (w.begin i b c) := .single (.inr ⟨i, b, here, rfl⟩)
    have lt := (List.getElem?_eq_some_iff.mp here).1
    rw [begun.length_instances] at le
    have ne : i ≠ j := by
      rintro rfl
      omega
    rw [heard_begin, if_neg ne]
    exact h j le
  session _ h := h

/-- While levels are loaded and taken out nobody hears of an event, and nobody vanishes. -/
theorem Stroke.quiet (h : Stroke P w v) :
    (∀ i, v.heard i = w.heard i) ∧ w.instances.length ≤ v.instances.length := by
  cases h with
  | called quiet moves =>
    exact ⟨fun _ => moves.heard quiet, Nat.le_of_eq moves.length_instances.symm⟩
  | @entered _ b _ =>
    obtain ⟨registry, eq⟩ := entering_eq w b
    rw [eq]
    refine ⟨fun _ => rfl, ?_⟩
    unfold addInstance
    dsimp only
    rw [List.length_append]
    exact Nat.le_add_right _ _
  | _ => exact ⟨fun _ => rfl, Nat.le_refl _⟩

theorem Strokes.quiet (h : Strokes P w v) :
    (∀ i, v.heard i = w.heard i) ∧ w.instances.length ≤ v.instances.length := by
  induction h with
  | refl => exact ⟨fun _ => rfl, Nat.le_refl _⟩
  | tail _ stroke ih =>
    exact ⟨fun i => (stroke.quiet.1 i).trans (ih.1 i), Nat.le_trans ih.2 stroke.quiet.2⟩

theorem Strokes.silent (h : Strokes P w v) (silent : w.Silent) : v.Silent :=
  fun i le => (h.quiet.1 i).trans (silent i (Nat.le_trans h.quiet.2 le))

theorem Silent.leads {t : Turn σ} (h : w.Silent) (leads : t.Leads w v) : v.Silent := by
  cases t with
  | init l hook =>
    obtain ⟨-, rfl⟩ := leads
    exact (strokes_init (confined_true w) fun _ => Script.within_true _).silent h
  | host s => exact lasting_silent.leads (t := .host s) trivial leads h
  | poll r answer => exact lasting_silent.leads (t := .poll r answer) trivial leads h
  | drop r => exact lasting_silent.leads (t := .drop r) trivial leads h

theorem Silent.course {allowed : World σ → Turn σ → Prop} {ts : List (Turn σ)}
    (course : Course allowed w ts v) (h : w.Silent) : v.Silent := by
  induction course with
  | done => exact h
  | turn _ leads _ ih => exact ih (h.leads leads)

theorem le_of_mem_entered {made : Nat} {bodies : List (Body σ)} {entry : String × InstanceId}
    (mem : entry ∈ entered made bodies) : made ≤ entry.2.number := by
  obtain ⟨k, -, rfl⟩ := List.mem_mapIdx.mp mem
  exact Nat.le_add_right _ _

theorem fits_registry (leave : ∀ {e : Effect σ}, P e → e.LeavesRegistry) :
    Fits P fun w v => v.registry = w.registry where
  refl _ := rfl
  trans h h' := h'.trans h
  called _ moves := moves.registry (Discipline.leavesRegistry_of_within leave)
  furnished _ _ := rfl
  kept _ _ := rfl
  withdrawn _ _ := rfl

/-- Where a level is loaded, its modules are all that is registered, and they are new. -/
theorem Loads.registry {modules : List (String × InstanceId)}
    (loads : Loads l hook w (.ok modules) v) (leave : ∀ {e : Effect σ}, P e → e.LeavesRegistry)
    (confined : w.Confined P) (hooked : ∀ ids, (hook ids).Within P) :
    v.registry = ⟨modules⟩ ∧ ∀ entry ∈ modules, w.instances.length ≤ entry.2.number := by
  obtain ⟨u, y, bodies, cleans, -, rfl, same, rfl⟩ :=
    loads.fits (fits_registry leave) confined hooked
  refine ⟨same, fun entry mem => ?_⟩
  exact Nat.le_trans (cleans.strokes confined).quiet.2 (le_of_mem_entered mem)

theorem loads_of_initSession {modules : List (String × InstanceId)}
    (h : (initSession l hook).run w = (.ok (.ok modules), v)) :
    ∃ u, Loads l hook w (.ok modules) u ∧ v = { u with session := u.session.setCode l.code } := by
  unfold initSession at h
  rw [Act.run_bind] at h
  generalize loaded : (initLevel l hook).run w = outcome at h
  obtain ⟨_ | _ | _, u⟩ := outcome
  · cases h
  · cases h
  · cases h
    exact ⟨u, loads_of_run loaded, rfl⟩

def missed (u : World σ) (generation : Nat) : Nat :=
  if generation = u.session.generation then u.session.index else 0

theorem told_of_initSession {modules : List (String × InstanceId)} (sound : u.session.Sound)
    (silent : u.Silent) (leave : ∀ {e : Effect σ}, P e → e.LeavesRegistry)
    (confined : u.Confined P) (hooked : ∀ ids, (hook ids).Within P)
    (done : (initSession l hook).run u = (.ok (.ok modules), w)) :
    (Discipline.within P).Rules ⟨modules⟩ w ∧ w.Told u.missed := by
  have strokes := confined.strokes_initSession (l := l) hooked
  have follows := (tended_initSession l hook u).session.follows
  rw [done] at strokes follows
  have confined' := strokes.confined confined
  obtain ⟨x, loads, rfl⟩ := loads_of_initSession done
  obtain ⟨registry, new⟩ := loads.registry leave confined hooked
  have registry : World.registry { x with session := x.session.setCode l.code } = ⟨modules⟩ :=
    registry
  generalize World.mk .. = w at strokes follows confined' registry ⊢
  refine ⟨⟨confined'.tame, fun c _ => confined'.answers _ c, registry⟩, ?_⟩
  have unheard (i : InstanceId) (mem : i ∈ w.registry.all) : w.heard i = [] := by
    rw [registry] at mem
    obtain ⟨entry, here, rfl⟩ := List.mem_map.mp mem
    exact (strokes.quiet.1 _).trans (silent _ (new entry here))
  have later {g : Nat} (lt : u.session.generation < g) : u.missed g = 0 := if_neg (by omega)
  have now : u.missed u.session.generation = u.session.index := if_pos rfl
  rcases follows with ⟨same, loaded, events, index, -⟩ | ⟨lt, unloaded⟩
  · constructor
    · rw [same]
      exact fun g => later
    · rw [same, loaded, now]
      exact fun unloaded => (sound.unloaded unloaded).2
    · intro _
      rw [same, index, now]
      refine ⟨Nat.le_refl _, fun i mem => (unheard i mem).trans (List.drop_eq_nil_of_le ?_).symm⟩
      rw [Trace.length_handed]
      exact Nat.min_le_left _ _
  · constructor
    · exact fun g lt' => later (Nat.lt_trans lt lt')
    · exact fun _ => later lt
    · intro loaded
      cases loaded.symm.trans unloaded

end World

/-- A level is loaded anew at any moment of a session, by whatever the host has done before, and
foreign code leaves the registry as it is from then on. Then until the next start the new modules
hear the loaded trace from where the index was at that moment; so index and modules agree exactly if
nothing of the trace was delivered by then. -/
theorem reloaded_hear_rest {catalog : Catalog σ} {renderer : Renderer} {config : Playback.Config}
    {nesting : Nat} {memory : σ} {before ts : List (Turn σ)} {u v w : World σ} {l : Level}
    {hook : Hook σ} {modules : List (String × InstanceId)}
    (reached : Course (fun _ _ => True) (.new catalog renderer config nesting memory) before u)
    (confined : u.Confined Effect.LeavesRegistry)
    (hooked : ∀ ids, (hook ids).Within Effect.LeavesRegistry)
    (initialised : (World.initSession l hook).run u = (.ok (.ok modules), w))
    (course : Course (fun w t => t.Keeps (.within Effect.LeavesRegistry) w) w ts v)
    (calm : w.session.Calm v.session) (loaded : v.session.loaded = true) :
    v.registry = ⟨modules⟩ ∧ v.session.index ≤ v.session.events.length ∧
      (v.session.generation ≠ u.session.generation →
        ∀ entry ∈ modules, v.heard entry.2 = v.session.events.handed v.session.index) ∧
      (v.session.generation = u.session.generation → u.session.index ≤ v.session.index ∧
        ∀ entry ∈ modules,
          v.heard entry.2 = (v.session.events.handed v.session.index).drop u.session.index ∧
          ((v.heard entry.2).length = v.session.index ↔ u.session.index = 0)) := by
  have orderly := reached.orderly (World.orderly_new catalog renderer config nesting memory)
  have silent : u.Silent := World.Silent.course reached fun _ _ => rfl
  obtain ⟨rules, told⟩ :=
    World.told_of_initSession orderly.sound silent id confined hooked initialised
  have tended := World.tended_initSession l hook u
  rw [initialised] at tended
  have orderly := tended.orderly orderly
  have leave {w : World σ} {e : Effect σ} : (Discipline.within Effect.LeavesRegistry).may w e →
      e.LeavesRegistry := Discipline.leavesRegistry_of_within id
  obtain ⟨last, -⟩ : (Discipline.within Effect.LeavesRegistry).Rules ⟨modules⟩ v ∧
      Course (fun _ _ => True) w ts v :=
    (Discipline.lasting_rules leave ⟨modules⟩).course (fun _ keeps => keeps) (fun _ _ => trivial)
      course rules
  have index_le := (course.orderly orderly).sound.index_le
  obtain ⟨le, delivered⟩ :=
    (told.course leave (fun keeps => keeps) rules orderly course calm).delivered loaded
  rw [last.registry] at delivered
  have heard {entry : String × InstanceId} (mem : entry ∈ modules) :=
    delivered entry.2 (List.mem_map_of_mem mem)
  refine ⟨last.registry, index_le, fun ne entry mem => ?_, fun same => ?_⟩
  · rw [heard mem, World.missed, if_neg ne, List.drop_zero]
  · have missed : u.missed v.session.generation = u.session.index := if_pos same
    rw [missed] at le
    refine ⟨le, fun entry mem => ⟨by rw [heard mem, missed], ?_⟩⟩
    rw [heard mem, missed, List.length_drop, Trace.length_handed]
    omega

def Level.tracking : Level := ⟨"level", "", "", "code", [Variables.name]⟩

def Turn.starting : List (Turn Unit) :=
  [.init .tracking fun _ => .done, .host (.start fun _ => .done),
    .poll ⟨0⟩ (some (.ok Trace.twice))]

def World.renewed : World Unit :=
  ((World.initSession .tracking fun _ => .done).run
    ((World.new .builtin .recording {} 8 ()).after Turn.starting)).2

theorem reloaded_hear_rest_of_renewed :
    (World.renewed.after [.poll ⟨0⟩ none]).session.index = 2 ∧
      (World.renewed.after [.poll ⟨0⟩ none]).heard ⟨1⟩ = (Trace.twice.handed 2).drop 1 := by
  have within : ∀ t ∈ Turn.starting, ∀ v : World Unit, t.Within Effect.LeavesRegistry := by
    intro t mem _
    simp only [Turn.starting, List.mem_cons, List.not_mem_nil, or_false] at mem
    rcases mem with rfl | rfl | rfl
    · exact fun _ => trivial
    · exact ⟨trivial, fun _ => trivial⟩
    · trivial
  have makes {name : String} {m : ForeignModule Unit}
      (there : (Catalog.builtin : Catalog Unit)[name]? = some (.foreign m)) (i : InstanceId)
      (c : Call) : (m.respond i c).Within Effect.LeavesRegistry :=
    nomatch World.builtin_eq_blank there
  have survives : (World.new (.builtin : Catalog Unit) .recording {} 8 ()).outlives
      Turn.starting = true := by decide +kernel
  have confined := (course_after within survives).confined (World.confined_new makes)
  have initialised : (World.initSession .tracking fun _ => .done).run
      ((World.new .builtin .recording {} 8 ()).after Turn.starting) =
        (.ok (.ok [(Variables.name, ⟨1⟩)]), World.renewed) := by
    have whole {ε ε' α β : Type} {pair : Except ε (Except ε' α) × β} {a : α}
        (h : pair.1.toOption.bind Except.toOption = some a) : pair = (.ok (.ok a), pair.2) := by
      obtain ⟨_ | _ | _, _⟩ := pair <;> cases h
      rfl
    exact whole (by decide +kernel)
  have hooked (ids : List String) :
      ((fun _ => .done : Hook Unit) ids).Within Effect.LeavesRegistry := trivial
  have course : Course (fun w t => t.Keeps (.within Effect.LeavesRegistry) w) World.renewed
      [.poll ⟨0⟩ none] (World.renewed.after [.poll ⟨0⟩ none]) :=
    course_after (by simp [Turn.Keeps]) (by decide +kernel)
  have calm : World.renewed.session.Calm (World.renewed.after [.poll ⟨0⟩ none]).session :=
    .of_none (Session.calm_of_all (by decide +kernel))
  obtain ⟨-, -, -, rest⟩ := reloaded_hear_rest (course_after (fun _ _ _ => trivial) survives)
    confined hooked initialised course calm (by decide +kernel)
  have events : (World.renewed.after [.poll ⟨0⟩ none]).session.events = Trace.twice := by
    decide +kernel
  have index : (World.renewed.after [.poll ⟨0⟩ none]).session.index = 2 := by decide +kernel
  have before : ((World.new (.builtin : Catalog Unit) .recording {} 8 ()).after
      Turn.starting).session.index = 1 := by decide +kernel
  obtain ⟨-, heard⟩ := rest (by decide +kernel)
  have heard := (heard _ (List.mem_singleton_self _)).1
  rw [events, index, before] at heard
  exact ⟨index, heard⟩

end Replay
