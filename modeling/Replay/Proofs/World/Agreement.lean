import Replay.Proofs.World.Loading

/-!
What the learner sees. However the runs of a session are made, polled and dropped, the variables
module holds what the timeline says of every variable that is declared so far, and of nothing else;
and its surface shows a box for each of them, in the order of their declarations.
-/
namespace Replay

variable {σ : Type}

/-- Whether a turn of the host is tidy: it loads no level, and what the host does it does with what
foreign code keeps in memory. -/
def Turn.Tidy (keeps : σ → Nat → Prop) : Turn σ → Prop
  | .host s => s.Tidy keeps fun _ => False
  | .init .. => False
  | .poll .. | .drop _ => True

theorem Turn.Tidy.keeps {keeps : σ → Nat → Prop} {t : Turn σ} {w : World σ} (tidy : t.Tidy keeps)
    (fair : w.Fair keeps) : t.Keeps (.tidy keeps) w := by
  cases t with
  | host s => exact ⟨fair, _, fun _ => False.elim, tidy⟩
  | init l hook => exact tidy
  | poll r answer => trivial
  | drop r => trivial

/-- A level with the variables module is loaded once into a world that draws a picture, and foreign
code is tidy. Then whenever a trace is loaded, module and picture agree with the timeline. -/
theorem agrees_with_timeline {catalog : Catalog σ} {config : Playback.Config} {nesting : Nat}
    {memory : σ} {keeps : σ → Nat → Prop} {interpret : Interpretation} {l : Level} {hook : Hook σ}
    {ids : List (String × InstanceId)} {before ts : List (Turn σ)} {u w v : World σ}
    (tracked : catalog[Variables.name]? = some (.tracker .blank))
    (modules : ∀ (name : String) (m : ForeignModule σ), catalog[name]? = some (.foreign m) →
      ∀ i c, (m.respond i c).Tidy keeps c.given)
    (nothing : ∀ n, ¬keeps memory n)
    (prepared : Course (fun _ t => t.Tidy keeps)
      (.new catalog .recording config nesting memory) before u)
    (listed : Variables.name ∈ l.modules) (hooked : ∀ ids, (hook ids).Tidy keeps fun _ => False)
    (initialised : (World.initSession l hook).run u = (.ok (.ok ids), w))
    (unloaded : w.session.loaded = false)
    (course : Course (fun w t => t.Tidy keeps ∧ t.Answers interpret w) w ts v)
    (calm : ∀ r run, v.session.run? r = some run → run.stage ≠ .panicked)
    (loaded : v.session.loaded = true) :
    ∃ m p, v.tracker = .ok m ∧ v.renderer.picture = some p ∧
      (∀ name value, m.data[name]? = some value ↔
        v.session.current[Location.variable name]? = some value ∧
          ∃ first, Event.init (.variable name) first ∈ v.session.events.take v.session.index) ∧
      (Trace.declared (v.session.events.take v.session.index)).Nodup ∧
      List.Forall₂ (fun name spec => ∃ value,
          v.session.current[Location.variable name]? = some value ∧
            spec = ⟨.variableBox, name, value.value.display, some value.source.display⟩)
        (Trace.declared (v.session.events.take v.session.index))
        (p.elementsInScope Variables.name) := by
  obtain ⟨vacant, -⟩ : u.Vacant keeps catalog ∧ Course (fun _ t => t.Tidy keeps) _ before u :=
    World.lasting_vacant.course (fun vacant tidy => tidy.keeps vacant.fair) (fun _ tidy => tidy)
      prepared (World.vacant_new nothing)
  have orderly : w.Orderly := by
    have tended := World.tended_initSession l hook u
    rw [initialised] at tended
    exact tended.orderly
      (prepared.orderly (World.orderly_new catalog .recording config nesting memory))
  obtain ⟨known, i, named, ready⟩ := vacant.initSession tracked modules listed hooked initialised
  obtain ⟨⟨rules, mirrors⟩, plain⟩ :
      ((Discipline.tidy keeps).Rules known v ∧ v.Mirrors keeps i) ∧
        Course (Turn.Plain (.tidy keeps) interpret) w ts v :=
    (Discipline.lasting_mirrors keeps known i).course (fun now may => may.1.keeps now.2.fair)
      (fun now may => ⟨may.1.keeps now.2.fair, may.2⟩) course ready
  have before : w.Delivered interpret := by
    intro loaded
    cases loaded.symm.trans unloaded
  obtain ⟨r, code, -, -, delivered⟩ :=
    before.course Effect.Tidy.leavesRegistry ready.1 orderly plain calm loaded
  have registered : i ∈ v.registry.all := by
    rw [rules.registry]
    exact Registry.mem_all_of_get named
  have told : v.told i = v.session.events.take v.session.index := by
    unfold World.told
    rw [delivered i registered, Trace.map_fst_handed]
  obtain ⟨m, s, found, mirror⟩ :=
    mirrors.tracker (rules.registry ▸ named) (course.orderly orderly).free
  rw [told] at mirror
  obtain ⟨p, picture, shown⟩ := mirror.elementsInScope
  exact ⟨m, p, found, picture, fun _ _ => mirror.tracks.getElem?_eq_some, Trace.nodup_declared,
    shown⟩

def ForeignModule.marking : ForeignModule (Option Surface) where
  id := "marks"
  dependencies := []
  kind := "marks"
  respond _
    | .init _ own => .remember (fun _ => some own) .done
    | .handle .. => .consult fun
      | some s => .createElement s ⟨.variableBox, "mark", "", none⟩ fun _ => .done
      | none => .done
    | .reset | .destroy | .update _ => .done

def Surface.kept (memory : Option Surface) (n : Nat) : Prop := ∃ s ∈ memory, n = s.id.number

def Level.marked : Level := ⟨"level", "", "", "code", ["marks", Variables.name]⟩

def Catalog.marking : Catalog (Option Surface) :=
  Catalog.builtin.insert "marks" (.foreign .marking)

def World.marked : World (Option Surface) :=
  ((World.initSession .marked fun _ => .done).run (.new .marking .recording {} 8 none)).2

def Trace.crossed : Trace :=
  [.init (.variable "y") ⟨.boolean true, .literal⟩, .init (.variable "x") ⟨.nil, .literal⟩,
    .assign .literal (.variable "y") ⟨.nil, .literal⟩]

def Turn.relieving : List (Turn (Option Surface)) :=
  [.host (.start fun _ => .done), .poll ⟨0⟩ (some (.ok Trace.crossed)), .host (.pause .done),
    .drop ⟨0⟩, .host (.resume fun _ => .done), .poll ⟨1⟩ none, .poll ⟨1⟩ none]

theorem agrees_with_timeline_of_relieving :
    ∃ m p, (World.marked.after Turn.relieving).tracker = .ok m ∧
      (World.marked.after Turn.relieving).renderer.picture = some p ∧
      (∀ name value, m.data[name]? = some value ↔
        Trace.crossed.ending[Location.variable name]? = some value ∧
          ∃ first, Event.init (.variable name) first ∈ Trace.crossed) ∧
      ["y", "x"].Nodup ∧
      List.Forall₂ (fun name spec => ∃ value,
          Trace.crossed.ending[Location.variable name]? = some value ∧
            spec = ⟨.variableBox, name, value.value.display, some value.source.display⟩)
        ["y", "x"] (p.elementsInScope Variables.name) := by
  have modules : ∀ (name : String) (m : ForeignModule (Option Surface)),
      Catalog.marking[name]? = some (.foreign m) →
        ∀ i c, (m.respond i c).Tidy Surface.kept c.given := by
    intro name m found i c
    obtain rfl : m = .marking := World.foreign_of_builtin_insert found
    cases c with
    | init root own =>
      refine ⟨?_, trivial⟩
      rintro memory n ⟨s, ⟨⟩, rfl⟩
      exact .inr (.inr rfl)
    | handle event history =>
      rintro (_ | s)
      · trivial
      · exact ⟨.inr ⟨s, rfl, rfl⟩, fun _ => trivial⟩
    | reset => trivial
    | destroy => trivial
    | update elapsed => trivial
  have initialised : (World.initSession .marked fun _ => .done).run
      (.new Catalog.marking .recording {} 8 none) =
        (.ok (.ok [("marks", ⟨0⟩), (Variables.name, ⟨1⟩)]), World.marked) := by
    have whole {α β : Type} {pair : α × β} {a : α} (h : pair.1 = a) : pair = (a, pair.2) := by
      subst h
      rfl
    exact whole (by cbv)
  have tidy : ∀ t ∈ Turn.relieving, ∀ v, t.Tidy Surface.kept ∧
      t.Answers (fun _ _ => .ok Trace.crossed) v := by
    intro t mem v
    simp only [Turn.relieving, List.mem_cons, List.not_mem_nil, or_false] at mem
    rcases mem with rfl | rfl | rfl | rfl | rfl | rfl | rfl
    · exact ⟨fun _ => trivial, trivial⟩
    · refine ⟨trivial, ?_⟩
      rintro a ⟨⟩ - - - - -
      rfl
    · exact ⟨trivial, trivial⟩
    · exact ⟨trivial, trivial⟩
    · exact ⟨fun _ => trivial, trivial⟩
    · exact ⟨trivial, by rintro _ ⟨⟩⟩
    · exact ⟨trivial, by rintro _ ⟨⟩⟩
  have course : Course (fun w t => t.Tidy Surface.kept ∧
      t.Answers (fun _ _ => .ok Trace.crossed) w) World.marked Turn.relieving
        (World.marked.after Turn.relieving) :=
    course_after tidy (by decide +kernel)
  have calm : ∀ r run, (World.marked.after Turn.relieving).session.run? r = some run →
      run.stage ≠ .panicked := Session.calm_of_all (by decide +kernel)
  have delivered : (World.marked.after Turn.relieving).session.events.take
      (World.marked.after Turn.relieving).session.index = Trace.crossed := by decide +kernel
  have hooked (ids : List String) :
      ((fun _ => .done : Hook (Option Surface)) ids).Tidy Surface.kept fun _ => False := trivial
  have agrees := agrees_with_timeline (by cbv) modules (by rintro n ⟨s, ⟨⟩, -⟩) (.done _)
    (by decide +kernel) hooked initialised (by decide +kernel) course calm
    (by decide +kernel)
  have current : (World.marked.after Turn.relieving).session.current = Trace.crossed.ending :=
    congrArg Trace.ending delivered
  have declared : Trace.crossed.declared = ["y", "x"] := by decide +kernel
  rw [delivered, current, declared] at agrees
  exact agrees

end Replay
