import Replay.Proofs.World.Register

/-!
Panics in a delivery. A module that panics when it is given an event ends the run that delivers it,
and nothing else: the session stays where it was before the look, nobody is left in the middle of a
call, and whoever stands behind the module has not heard of the event. Those before it have, so they
are ahead of the index until the next start resets everybody.
-/
namespace Replay

variable {σ : Type}

def Effect.LeavesSession : Effect σ → Prop
  | .command _ => False
  | _ => True

namespace Session

variable {s t : Session} {r : RunId} {run : Run} {stage : Run.Stage}

theorem Steered.eq_of_none {allowed : Command → Prop} (none : ∀ c, ¬allowed c)
    (h : Steered allowed s t) : t = s := by
  induction h with
  | refl => rfl
  | tail _ step _ =>
    obtain ⟨c, may, -⟩ := step
    exact absurd may (none c)

theorem Sound.player_close_of_claims (h : s.Sound) (hr : s.run? r = some run)
    (claims : run.generation? = some s.generation) : (s.close r stage).player = none := by
  rw [player_close hr]
  split
  · rfl
  · rename_i other
    cases player : s.player with
    | none => rfl
    | some g =>
      obtain ⟨rfl, -⟩ := h.player player
      rw [claims, player] at other
      exact absurd ⟨rfl, rfl⟩ other

end Session

theorem Turn.leads_of_ok {w v : World σ} {t : Turn σ} (h : t.act.run w = (.ok (), v)) :
    t.Leads w v := by
  unfold Leads
  rw [h]
  exact ⟨rfl, rfl⟩

theorem Turn.Leads.eq_after {w v : World σ} {t : Turn σ} (h : t.Leads w v) : v = w.after [t] :=
  h.2.symm

namespace World

variable {a b v w : World σ} {r : RunId} {run : Run} {answer : Option Answer} {event : Event}
  {history : Trace} {g : Nat} {c : Call} {id : String} {i : InstanceId}

theorem reach_of_free (formed : w.Formed) (idle : w.busy = [])
    (mem : (id, i) ∈ w.registry.entries) :
    ∃ b, w.body? i = some b ∧ b.id = id ∧ w.reach id b.kind = .ok (i, b) := by
  obtain ⟨b, here, titled⟩ := Option.map_eq_some_iff.mp (formed.titled mem)
  refine ⟨b, here, titled, ?_⟩
  unfold reach
  rw [Registry.get_of_mem formed.nodup mem]
  dsimp only
  rw [isBusy_of_idle idle, here]
  simp

theorem Reaches.run? (h : Reaches run answer w c a) (hr : w.session.run? r = some run) :
    a.session.run? r = some run := by
  cases h with
  | due => exact hr
  | answered _ _ taken => rcases taken with rfl | ⟨events, -, rfl⟩ <;> exact hr
  | @first events _ _ _ _ told =>
    have hr : (w.session.load events).run? r = some run := hr
    exact (tended_of_reset told).session.run? hr

theorem play_of_break (current : w.session.generation = g)
    (next : w.session.events[w.session.index]? = some event) (playing : w.session.paused = false)
    (broke : (broadcast event (w.session.events.take (w.session.index + 1))).run w =
      (.error .panic, b)) : (play g).run w = (.error .panic, b) := by
  unfold play
  rw [Act.run_bind, run_look, if_pos current, next]
  dsimp only
  rw [playing, broke]
  rfl

theorem run_poll_of_panic (hr : w.session.run? r = some run)
    (outstanding : run.stage.isOutstanding = true)
    (broke : (progress run answer).run w = (.error .panic, v)) :
    (poll r answer).run w = (.ok (), { v with session := v.session.settle r .panicked }) := by
  unfold poll
  rw [Act.run_get_bind, hr]
  dsimp only
  rw [if_pos outstanding, Act.run_bind, ExceptT.run_mk, broke]
  rfl

theorem session_of_broadcast {result : Except Halt Unit}
    (modules : ∀ i ∈ w.registry.all, ∀ m, w.body? i = some (.foreign m) →
      (m.respond i (.handle event history)).Within Effect.LeavesSession)
    (listeners : ∀ kind, ∀ l ∈ w.bus.listeners kind,
      ∀ n, (l.callback n).Within Effect.LeavesSession)
    (told : (broadcast event history).run w = (result, v)) : v.session = w.session := by
  have moves := (Discipline.within Effect.LeavesSession).moves_callAll
    (c := .handle event history) w.registry.all listeners modules
  have same : (callAll (.handle event history) w.registry.all).run w = (result, v) := told
  rw [same] at moves
  have steered : Session.Steered (fun _ => False) w.session v.session := moves.session id
  exact steered.eq_of_none fun _ => id

/-- Where the registry stays as it is, an instance that is spared is in step with the index after
the next start, whoever makes it. -/
theorem heard_since_start {us : List (Turn σ)} (orderly : w.Orderly)
    (rules : (Discipline.within Effect.LeavesRegistry).Rules w.registry w)
    (course : Course (fun u t => t.Keeps (.within Effect.LeavesRegistry) u ∧
      ∀ u', t.Leads u u' → w.session.generation < u'.session.generation →
        u.Spares (· = i) u') w us v)
    (later : w.session.generation < v.session.generation) (loaded : v.session.loaded = true)
    (mem : i ∈ v.registry.all) : v.heard i = v.session.events.handed v.session.index := by
  have begun : w.Attends (fun _ => 0) fun g j => w.session.generation < g ∧ j = i :=
    ⟨fun _ _ => rfl, fun _ => rfl, fun _ => ⟨Nat.zero_le _, fun _ _ new =>
      absurd new.1 (Nat.lt_irrefl _)⟩⟩
  have attends := begun.course (Discipline.leavesRegistry_of_within id) And.left
    (fun may leads => ?_) rules orderly course
  · exact (attends.delivered loaded).2 i mem ⟨later, rfl⟩
  · rename_i u t u'
    by_cases new : w.session.generation < u'.session.generation
    · refine (may.2 u' leads new).imp_right fun spares loaded j mem here => ?_
      exact spares loaded j mem here.2
    · exact .inr fun _ _ _ here => absurd here.1 new

end World

/-- From any state of a session, a delivery in which a module panics ends its run with the panic;
the session is left as it was when the delivery began, but that nobody plays, if foreign code asks
nothing of it meanwhile. Every module is reached again; those before the one that panics have got
the event once, and those behind it not at all. After any later start, a module has heard the loaded
trace up to the index since its reset, as long as no other delivery that it is given breaks down. -/
theorem panic_leaves_session {catalog : Catalog σ} {renderer : Renderer}
    {config : Playback.Config} {nesting : Nat} {memory : σ} {before : List (Turn σ)}
    {w a b : World σ} {r : RunId} {run : Run} {answer : Option Answer} {event : Event}
    {history : Trace}
    (reached : Course (fun _ _ => True) (.new catalog renderer config nesting memory) before w)
    (hr : w.session.run? r = some run) (outstanding : run.stage.isOutstanding = true)
    (claims : run.generation? = some w.session.generation)
    (reaches : World.Reaches run answer w (.handle event history) a)
    (broke : (World.broadcast event history).run a = (.error .panic, b))
    (modules : ∀ i ∈ a.registry.all, ∀ m, a.body? i = some (.foreign m) →
      (m.respond i (.handle event history)).Within Effect.LeavesSession)
    (listeners : ∀ kind, ∀ l ∈ a.bus.listeners kind,
      ∀ n, (l.callback n).Within Effect.LeavesSession) :
    ∃ v, (Turn.poll r answer).act.run w = (.ok (), v) ∧
      v.session.run? r = some { run with stage := .panicked } ∧
      v.session = { a.session with
        runs := (a.session.setStage r .panicked).runs, player := none } ∧
      v.session.isRunning = false ∧ v.busy = [] ∧
      (∀ entry ∈ v.registry.entries, ∃ body, v.body? entry.2 = some body ∧ body.id = entry.1 ∧
        v.reach entry.1 body.kind = .ok (entry.2, body)) ∧
      (∃ told i rest u, a.registry.all = told ++ i :: rest ∧
        (World.callAll (.handle event history) told).run a = (.ok (), u) ∧
        (World.call i (.handle event history)).run u = (.error .panic, b) ∧
        v.deliveries = a.deliveries ++ (told ++ [i]).map (·, event, history) ∧
        ∀ j, v.calls j =
          a.calls j ++ if j ∈ told ++ [i] then [.handle event history] else []) ∧
      ∀ ts x, Course (fun _ _ => True) v ts x →
        (∀ i ∈ x.registry.all, ∀ m, x.body? i = some (.foreign m) →
          ∀ c, c.isPlay = true → (m.respond i c).Within Effect.LeavesRegistry) →
        (∀ kind, ∀ l ∈ x.bus.listeners kind, ∀ n, (l.callback n).Within Effect.LeavesRegistry) →
        ∀ i us y, Course (fun u t => t.Keeps (.within Effect.LeavesRegistry) u ∧
            ∀ u', t.Leads u u' → x.session.generation < u'.session.generation →
              u.Spares (· = i) u') x us y →
          x.session.generation < y.session.generation → y.session.loaded = true →
          i ∈ y.registry.all → y.session.index ≤ y.session.events.length ∧
            y.heard i = y.session.events.handed y.session.index := by
  have orderly := reached.orderly (World.orderly_new catalog renderer config nesting memory)
  obtain ⟨sound, formed⟩ := reaches.leaves orderly.sound orderly.formed
  obtain ⟨current, -, next, playing, rfl, -, progressed⟩ := reaches.begins orderly hr claims
  have still := reaches.run? hr
  have same := World.session_of_broadcast modules listeners broke
  have panicked : (World.progress run answer).run w = (.error .panic, b) :=
    progressed.trans (World.play_of_break current next playing broke)
  have polled := World.run_poll_of_panic hr outstanding panicked
  have leads : (Turn.poll r answer).Leads w
      { b with session := b.session.settle r .panicked } := Turn.leads_of_ok polled
  have orderly' := leads.orderly orderly
  have idle : a.busy = [] := by
    have kept := (World.tended_of_broadcast broke).busy
    exact kept.symm.trans orderly'.free
  have ends : (b.session.settle r .panicked) = { a.session with
      runs := (a.session.setStage r .panicked).runs, player := none } := by
    rw [Session.settle_eq, same]
    have player : (a.session.settle r .panicked).player = none :=
      sound.player_close_of_claims still (current ▸ claims)
    rw [player]
    rfl
  refine ⟨_, polled, ?_, ends, ?_, orderly'.free, fun entry mem => ?_, ?_, ?_⟩
  · rw [Session.run?_settle, if_pos rfl, same, still]
    rfl
  · unfold Session.isRunning
    dsimp only
    rw [ends]
    rfl
  · exact World.reach_of_free orderly'.formed orderly'.free mem
  · exact World.heard_cut idle (fun _ => formed.there) formed.all_nodup broke
  · intro ts x course modules listeners i us y later new loaded mem
    have orderly'' := course.orderly orderly'
    have rules : (Discipline.within Effect.LeavesRegistry).Rules x.registry x :=
      ⟨listeners, fun c running i mem m here => modules i mem m here c running, rfl⟩
    exact ⟨(later.orderly orderly'').sound.index_le,
      World.heard_since_start orderly'' rules later new loaded mem⟩

def ForeignModule.scripted (id : String) (answer : Event → Script Unit) : ForeignModule Unit where
  id := id
  dependencies := []
  kind := id
  respond _ c := match c with
    | .handle event _ => answer event
    | _ => .done

def Script.breaking : Event → Script Unit
  | .assign .. => .panic
  | _ => .done

def Script.braking : Event → Script Unit
  | .assign .. => .pause .done
  | _ => .done

def Catalog.brittle : Catalog Unit :=
  [("rec", fun _ => .done), ("bomb", Script.breaking), ("brake", Script.braking)].foldl
    (fun catalog (id, answer) => catalog.insert id (.foreign (.scripted id answer))) .builtin

def Trace.changing : Trace :=
  [.init (.variable "x") ⟨.boolean true, .literal⟩,
    .assign (.variable "x") .literal ⟨.nil, .literal⟩]

def World.primed (modules : List String) : World Unit :=
  (World.new .brittle .recording {} 8 ()).after
    [.init ⟨"level", "", "", "code", modules⟩ fun _ => .done, .host (.start fun _ => .done),
      .poll ⟨0⟩ (some (.ok .changing))]

def World.shattered : World Unit := (World.primed ["rec", "bomb"]).after [.poll ⟨0⟩ none]

/-- The trace is played from the start, once more up to the assignment or without it. -/
def Turn.retrying (events : Trace) : List (Turn Unit) :=
  [.host (.start fun _ => .done), .poll ⟨1⟩ (some (.ok events))]

/-- Where a module breaks down again, one before it that never does is ahead of the index; and where
a module pauses before another one breaks down, the session is not left as it was. -/
theorem index_behind_second_panic :
    let v := World.shattered.after (Turn.retrying .changing ++ [.poll ⟨1⟩ none])
    (World.shattered.session.run? ⟨0⟩).any (·.stage matches .panicked) = true ∧
    v.body? ⟨0⟩ = some (.foreign (.scripted "rec" fun _ => .done)) ∧
    v.registry.entries = [("rec", ⟨0⟩), ("bomb", ⟨1⟩)] ∧
    World.shattered.session.generation < v.session.generation ∧
    v.session.loaded = true ∧ v.session.index = 1 ∧
    (v.heard ⟨0⟩).map Prod.fst ≠ v.session.events.take v.session.index ∧
    let u := World.primed ["brake", "bomb"]
    let u' := u.after [.poll ⟨0⟩ none]
    u.bus.count .declared = 0 ∧ u.bus.count .changed = 0 ∧ u.session.paused = false ∧
      (u'.session.run? ⟨0⟩).any (·.stage matches .panicked) = true ∧ u'.session.paused = true := by
  refine ⟨by decide +kernel, by cbv, by decide +kernel, by decide +kernel, by decide +kernel,
    by decide +kernel, by decide +kernel, by decide +kernel, by decide +kernel, by decide +kernel,
    by decide +kernel, by decide +kernel⟩

theorem World.within_of_brittle {w : World Unit} {P : Effect Unit → Prop}
    (members : w.registry.all = [⟨0⟩, ⟨1⟩])
    (first : w.body? ⟨0⟩ = some (.foreign (.scripted "rec" fun _ => .done)))
    (second : w.body? ⟨1⟩ = some (.foreign (.scripted "bomb" Script.breaking)))
    (i : InstanceId) (mem : i ∈ w.registry.all) (m : ForeignModule Unit)
    (here : w.body? i = some (.foreign m)) (c : Call) : (m.respond i c).Within P := by
  rw [members, List.mem_cons, List.mem_singleton] at mem
  rcases mem with rfl | rfl
  · cases first.symm.trans here
    cases c <;> trivial
  · cases second.symm.trans here
    cases c with
    | handle event history => cases event <;> trivial
    | _ => trivial

def World.restored : World Unit := World.shattered.after [.host (.start fun _ => .done)]

theorem panic_leaves_session_of_primed :
    let v := World.restored.after [.poll ⟨1⟩ (some (.ok (Trace.changing.take 1)))]
    (Turn.poll ⟨0⟩ none).act.run (World.primed ["rec", "bomb"]) = (.ok (), World.shattered) ∧
      World.shattered.session.isRunning = false ∧ World.shattered.busy = [] ∧
      v.heard ⟨0⟩ = v.session.events.handed v.session.index := by
  have reached : Course (fun _ _ => True) (World.new .brittle .recording {} 8 ()) _
      (World.primed ["rec", "bomb"]) := course_after (fun _ _ _ => trivial) (by decide +kernel)
  have here : ((World.primed ["rec", "bomb"]).session.run? ⟨0⟩).any (fun run =>
      run.stage.isOutstanding && !run.isFetching &&
        run.generation? == some (World.primed ["rec", "bomb"]).session.generation) = true := by
    decide +kernel
  obtain ⟨run, hr, goes⟩ := (Option.any_eq_true _ _).mp here
  rw [Bool.and_eq_true_iff, Bool.and_eq_true_iff, beq_iff_eq, Bool.not_eq_true'] at goes
  obtain ⟨⟨outstanding, old⟩, claims⟩ := goes
  have next : (World.primed ["rec", "bomb"]).session.events[
      (World.primed ["rec", "bomb"]).session.index]? =
        some (.assign (.variable "x") .literal ⟨.nil, .literal⟩) := by decide +kernel
  have reaches : World.Reaches run none (World.primed ["rec", "bomb"]) _ _ :=
    .due old next (by decide +kernel)
  have broke : (World.broadcast (.assign (.variable "x") .literal ⟨.nil, .literal⟩)
      ((World.primed ["rec", "bomb"]).session.events.take
        ((World.primed ["rec", "bomb"]).session.index + 1))).run (World.primed ["rec", "bomb"]) =
      (.error .panic, _) := Act.run_eq_of_fst (by decide +kernel)
  have quiet {w : World Unit} {P : Effect Unit → Prop} (declared : w.bus.listeners .declared = [])
      (changed : w.bus.listeners .changed = []) (kind : Notice.Kind) :
      ∀ l ∈ w.bus.listeners kind, ∀ n, (l.callback n).Within P := by
    cases kind with
    | declared => rw [declared]; exact List.forall_mem_nil _
    | changed => rw [changed]; exact List.forall_mem_nil _
  obtain ⟨v, polled, -, -, idle, free, -, -, later⟩ := panic_leaves_session reached hr outstanding
    claims reaches broke
    (fun i mem m here =>
      World.within_of_brittle (by decide +kernel) (by cbv) (by cbv) i mem m here _)
    (quiet (by cbv) (by cbv))
  have same : World.shattered = v := congrArg Prod.snd polled
  subst same
  have calm : World.restored.session.Calm
      (World.restored.after [.poll ⟨1⟩ (some (.ok (Trace.changing.take 1)))]).session := by
    have before : World.restored.session.runs =
        [⟨.start 1 "code", .panicked⟩, ⟨.start 2 "code", .unpolled⟩] := by cbv
    have after : (World.restored.after
        [.poll ⟨1⟩ (some (.ok (Trace.changing.take 1)))]).session.runs =
        [⟨.start 1 "code", .panicked⟩, ⟨.start 2 "code", .waiting 200⟩] := by cbv
    rintro ⟨n⟩ run hr panicked
    unfold Session.run? at hr ⊢
    rw [after] at hr
    rw [before]
    rcases n with _ | _ | n
    · exact hr
    · cases hr
      cases panicked
    · cases hr
  have again : Course (fun u t => t.Keeps (.within Effect.LeavesRegistry) u ∧
      ∀ u', t.Leads u u' → World.shattered.session.generation < u'.session.generation →
        u.Spares (· = ⟨0⟩) u') World.shattered (Turn.retrying (Trace.changing.take 1))
      (World.restored.after [.poll ⟨1⟩ (some (.ok (Trace.changing.take 1)))]) := by
    refine .turn (v := World.restored) ⟨⟨trivial, fun _ => trivial⟩, ?_⟩ ⟨by decide +kernel, rfl⟩
      (.turn (v := World.restored.after [.poll ⟨1⟩ (some (.ok (Trace.changing.take 1)))])
        ⟨trivial, ?_⟩ ⟨by decide +kernel, rfl⟩ (.done _))
    · rintro u' ⟨-, rfl⟩ -
      exact .inr fun loaded => absurd loaded (by decide +kernel)
    · intro u' leads _
      rw [leads.eq_after]
      exact .inl calm
  have heard := later [] _ (.done _)
    (fun i mem m here c _ =>
      World.within_of_brittle (by decide +kernel) (by cbv) (by cbv) i mem m here c)
    (quiet (by cbv) (by cbv)) ⟨0⟩ _ _ again (by decide +kernel) (by decide +kernel)
    (by decide +kernel)
  exact ⟨polled, idle, free, heard.2⟩

end Replay
