import Replay.Proofs.Module.Ledger

/-!
What the variables module tells on the bus. Each name is declared once, and whatever is told of it
later says what it held before, so whoever keeps account of the notices has all variables at any
moment, and what is told of a variable is what its box shows.
-/
namespace Replay

namespace Notice

def name : Notice → String
  | declared name _ => name
  | changed name .. => name

def value : Notice → Tracked
  | declared _ value => value
  | changed _ _ value => value

/-- The variables by the account of somebody who has heard some notices. -/
def replay (log : List Notice) : Std.TreeMap String Tracked :=
  log.foldl (fun held n => held.insert n.name n.value) ∅

/-- Whether a log tells everything in turn: a name is declared once and before all else that is told
of it, and a change tells the value that was told of the name the last time. -/
structure Coherent (log : List Notice) : Prop where
  declared : ∀ n ∈ log, ∃ before value after, log = before ++ .declared n.name value :: after ∧
    (∀ other ∈ before, other.name ≠ n.name) ∧
    ∀ other ∈ after, other.name = n.name → other.kind = .changed
  chained : ∀ before name old new after, log = before ++ .changed name old new :: after →
    Since (fun _ n => n.name = name ∧ n.value = old) (·.name = name) before

variable {log : List Notice} {n : Notice} {name : String} {value : Tracked}

theorem replay_concat : replay (log ++ [n]) = (replay log).insert n.name n.value := by
  unfold replay
  rw [List.foldl_append]
  rfl

theorem getElem?_replay : (replay log)[name]? = some value ↔
    Since (fun _ n => n.name = name ∧ n.value = value) (·.name = name) log := by
  induction log using List.reverseRecOn with
  | nil => exact ⟨nofun, fun since => absurd since not_since_nil⟩
  | append_singleton log n ih =>
    rw [replay_concat, getElem?_insert_eq, since_concat, ← ih]
    by_cases same : n.name = name
    · simp [same]
    · simp [same]

theorem replay_eq_none (none : (replay log)[name]? = none) : ∀ n ∈ log, n.name ≠ name := by
  induction log using List.reverseRecOn with
  | nil => exact fun _ => (nomatch ·)
  | append_singleton log n ih =>
    rw [replay_concat, getElem?_insert_eq] at none
    intro other mem
    split at none
    · cases none
    · rcases List.mem_append.mp mem with mem | mem
      · exact ih none other mem
      · rwa [List.mem_singleton.mp mem]

theorem coherent_nil : Coherent [] := by
  refine ⟨fun _ => (nomatch ·), fun before name old new after split => ?_⟩
  cases before <;> cases split

/-- One more notice: a first one about a name, or one that says what the name held before. -/
theorem Coherent.concat (h : Coherent log)
    (due : (replay log)[n.name]? = none ∧ n.kind = .declared ∨
      ∃ old, (replay log)[n.name]? = some old ∧ n = .changed n.name old n.value) :
    Coherent (log ++ [n]) where
  declared m mem := by
    have kept {k : Notice} (told : k ∈ log) : ∃ before value after,
        log ++ [n] = before ++ .declared k.name value :: after ∧
          (∀ other ∈ before, other.name ≠ k.name) ∧
          ∀ other ∈ after, other.name = k.name → other.kind = .changed := by
      obtain ⟨before, value, after, split, first, later⟩ := h.declared k told
      refine ⟨before, value, after ++ [n], by simp [split], first, fun other last same => ?_⟩
      rcases List.mem_append.mp last with old | last
      · exact later other old same
      · obtain rfl := List.mem_singleton.mp last
        rcases due with ⟨none, -⟩ | ⟨_, -, eq⟩
        · exact absurd same.symm (replay_eq_none none k told)
        · rw [eq]
          rfl
    rcases List.mem_append.mp mem with old | last
    · exact kept old
    · obtain rfl := List.mem_singleton.mp last
      rcases due with ⟨none, kind⟩ | ⟨old, told, -⟩
      · cases m with
        | declared name value =>
          exact ⟨log, value, [], rfl, replay_eq_none none, fun _ => (nomatch ·)⟩
        | changed => cases kind
      · obtain ⟨front, other, back, split, ⟨same, -⟩, -⟩ := getElem?_replay.mp told
        rw [← same]
        exact kept (split ▸ by simp)
  chained before name old new after split := by
    rcases List.eq_nil_or_concat' after with rfl | ⟨after, last, rfl⟩
    · obtain ⟨rfl, eq⟩ := List.append_inj' split rfl
      cases eq
      rcases due with ⟨-, kind⟩ | ⟨old', told, eq⟩
      · cases kind
      · cases eq
        exact getElem?_replay.mp told
    · rw [← List.cons_append, ← List.append_assoc] at split
      obtain ⟨rfl, -⟩ := List.append_inj' split rfl
      exact h.chained before name old new after rfl

end Notice

def Renderer.Bare (r : Renderer) (s : SurfaceId) : Prop := ∃ p, r.Keeps p ∧ p.elementsOn s = []

/-- Whether what is on a surface is as it was, whatever was drawn elsewhere. -/
def Renderer.Spares (s : SurfaceId) (r r' : Renderer) : Prop :=
  ∀ p, r.Keeps p → ∃ p', r'.Keeps p' ∧
    p'.elements.filter (·.2.surface = s) = p.elements.filter (·.2.surface = s)

theorem Renderer.Spares.refl (s : SurfaceId) (r : Renderer) : r.Spares s r :=
  fun p keeps => ⟨p, keeps, rfl⟩

theorem Renderer.Spares.trans {s : SurfaceId} {r r' r'' : Renderer} (h : r.Spares s r')
    (h' : r'.Spares s r'') : r.Spares s r'' := by
  intro p keeps
  obtain ⟨p', keeps', same⟩ := h p keeps
  obtain ⟨p'', keeps'', same'⟩ := h' p' keeps'
  exact ⟨p'', keeps'', same'.trans same⟩

theorem Renderer.spares_createElement {s t : SurfaceId} (r : Renderer) (spec : Element.Spec)
    (other : t ≠ s) : r.Spares s (r.createElement t spec).2 := by
  refine fun p keeps => ⟨_, keeps_createElement keeps t spec, ?_⟩
  unfold Picture.addElement
  rw [List.filter_append, List.filter_singleton, decide_eq_false other]
  exact List.append_nil _

def Renderer.Displays (r : Renderer) (s : Surface) (var : Variable) : Prop :=
  ∃ p before after, r.picture = some p ∧ p.elementsOn s.id = before ++ var.spec :: after ∧
    ∀ spec ∈ before ++ after, spec.label ≠ var.name

namespace Variables

def Passes (m : Variables) : Event → Prop
  | .init (.variable _) _ => False
  | .assign _ (.variable name) _ => m.data[name]? = none
  | _ => True

/-- What a module has told while events were delivered to it. In between others may do something to
the renderer. -/
inductive Logs (may : Renderer → Renderer → Prop) (start : Outcome) :
    List Notice → Variables → Renderer → Prop
  | start : Logs may start [] start.module start.renderer
  | others {log : List Notice} {m : Variables} {r r' : Renderer} (logs : Logs may start log m r)
      (draws : may r r') : Logs may start log m r'
  | handle {log : List Notice} {m : Variables} {r : Renderer} (logs : Logs may start log m r)
      (event : Event) (history : Trace) :
      Logs may start (log ++ (m.respond r (.handle event history)).notice.toList)
        (m.respond r (.handle event history)).module (m.respond r (.handle event history)).renderer

/-- A module that is at work and has told, in turn, all that it holds. -/
structure Told (m : Variables) (s : Surface) (log : List Notice) : Prop where
  live : m.destroyed = false
  surface : m.surface = some s
  coherent : Notice.Coherent log
  replays : ∀ name : String, (Notice.replay log)[name]? = m.data[name]?

variable {m : Variables} {r r' : Renderer} {s : Surface} {start : Outcome} {log : List Notice}
  {e : Event} {n : Notice} {names : List String} {name : String} {value : Tracked}
  {surfaces : List (SurfaceId × SurfaceRecord)} {may : Renderer → Renderer → Prop}

theorem handle_told (live : m.destroyed = false) (surface : m.surface = some s) :
    m.Passes e ∧ m.handle r e = ⟨m, r, none⟩ ∨
      ¬m.Passes e ∧ ∃ n, (m.handle r e).notice = some n ∧ e.Writes n.name n.value ∧
        (∀ name, (m.handle r e).module.data[name]? =
          if n.name = name then some n.value else m.data[name]?) ∧
        (m.data[n.name]? = none ∧ n.kind = .declared ∨
          ∃ old, m.data[n.name]? = some old ∧ n = .changed n.name old n.value) := by
  have publishing {m' : Variables} (same : m'.surface = m.surface) (n : Notice) :
      m'.publishing n = some n := by
    unfold Variables.publishing
    rw [same, surface]
    rfl
  rcases handle_cases (e := e) (r := r) live with ⟨name, old, value, there, writes, eq⟩ |
    ⟨name, value, rfl, fresh, eq⟩ | ⟨ignored, eq⟩
  · rw [eq]
    refine .inr ⟨fun passes => ?_, .changed name old value, publishing rfl _, writes,
      fun _ => getElem?_data_change_of_held there, .inr ⟨old, there, rfl⟩⟩
    rcases writes with rfl | ⟨source, rfl⟩
    · exact passes
    · cases there.symm.trans passes
  · rw [eq]
    exact .inr ⟨id, .declared name value, publishing rfl _, .inl rfl,
      fun _ => getElem?_data_declare, .inl ⟨fresh, rfl⟩⟩
  · refine .inl ⟨?_, eq⟩
    unfold Passes
    split
    · exact (ignored _ _ (.inl rfl)).2 rfl
    · exact (ignored _ _ (.inr ⟨_, rfl⟩)).1
    · trivial

theorem Told.handle (h : m.Told s log) (r : Renderer) (e : Event) (history : Trace) :
    (m.respond r (.handle e history)).module.Told s
      (log ++ (m.respond r (.handle e history)).notice.toList) := by
  obtain ⟨live, surface⟩ := act_kept (r := r) h.live (.handle e history)
  have same : m.respond r (.handle e history) = m.handle r e := rfl
  rcases handle_told (r := r) (e := e) h.live h.surface with ⟨-, eq⟩ |
    ⟨-, n, tells, -, data, due⟩
  · rw [same, eq]
    refine ⟨h.live, h.surface, ?_, ?_⟩
    · exact (List.append_nil log).symm ▸ h.coherent
    · exact (List.append_nil log).symm ▸ h.replays
  · refine ⟨live.trans h.live, surface.trans h.surface, ?_, fun name => ?_⟩
    · rw [same, tells]
      refine h.coherent.concat ?_
      rw [h.replays]
      exact due
    · rw [same, tells, data, Option.toList_some, Notice.replay_concat, getElem?_insert_eq,
        h.replays]

theorem Logs.told (logs : Logs may start log m r) (fresh : start.module.Told s []) :
    m.Told s log := by
  induction logs with
  | start => exact fresh
  | others _ _ ih => exact ih
  | handle _ event history ih => exact ih.handle _ event history

/-! What is seen of it -/

theorem Holds.spares (h : Holds s surfaces names m r) (spares : r.Spares s.id r') :
    ∃ surfaces', Holds s surfaces' names m r' := by
  obtain ⟨p, keeps, -, boxed⟩ := h.exhibits
  obtain ⟨p', keeps', same⟩ := spares p keeps
  exact ⟨p'.surfaces, h.live, h.surface, h.once, h.held, p', keeps', rfl,
    same.trans boxed.boxed, boxed.held⟩

theorem Holds.displays (h : Holds s surfaces names m r) (here : m.data[name]? = some value) :
    r.Displays s ⟨name, value⟩ := by
  obtain ⟨p, keeps, -, boxed⟩ := h.exhibits
  obtain ⟨before, after, split⟩ := List.append_of_mem ((h.held name).mpr (here ▸ rfl))
  have once := h.once
  rw [split, List.nodup_middle, List.nodup_cons] at once
  have shown := boxed.elementsOn
  rw [split, List.map_append, List.map_cons, here] at shown
  refine ⟨p, _, _, keeps.picture, shown, fun spec mem same => once.1 ?_⟩
  rw [← List.map_append] at mem
  obtain ⟨other, among, rfl⟩ := List.mem_map.mp mem
  have eq : other = name := same
  exact eq ▸ among

theorem Logs.holds (logs : Logs may start log m r)
    (fresh : Holds s surfaces names start.module start.renderer)
    (spares : ∀ {r r'}, may r r' → r.Spares s.id r') :
    ∃ surfaces names, Holds s surfaces names m r := by
  induction logs with
  | start => exact ⟨_, _, fresh⟩
  | others _ draws ih =>
    obtain ⟨_, _, h⟩ := ih
    obtain ⟨_, h⟩ := h.spares (spares draws)
    exact ⟨_, _, h⟩
  | handle _ event history ih =>
    obtain ⟨_, _, h⟩ := ih
    exact ⟨_, _, h.act (.handle event history)⟩

end Variables

end Replay
