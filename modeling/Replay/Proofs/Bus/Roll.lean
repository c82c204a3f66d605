import Mathlib.Data.List.Induction
import Mathlib.Data.List.Perm.Basic
import Replay.Proofs.Bus.Numbering

/-!
What whoever asks a bus can know of it. From the requests and the replies to them, and from nothing
else, a roll of the live subscriptions can be kept, the oldest first. The bus behaves as that roll
says.
-/
namespace Replay.Bus

variable {κ : Type}

inductive Request (κ : Type) where
  | subscribe (kind : Notice.Kind) (callback : κ)
  | unsubscribe (id : SubscriptionId)
  | clear
  | mark
  | since (mark : SubscriptionId)
  | count (kind : Notice.Kind)

inductive Reply where
  | subscribed (id : SubscriptionId)
  | unsubscribed (there : Bool)
  | cleared
  | marked (mark : SubscriptionId)
  | listed (ids : List SubscriptionId)
  | counted (count : Nat)
  deriving DecidableEq

abbrev Exchange (κ : Type) := Request κ × Reply

def serve (b : Bus κ) : Request κ → Reply × Bus κ
  | .subscribe kind callback =>
    let (id, b) := b.subscribe kind callback
    (.subscribed id, b)
  | .unsubscribe id =>
    let (there, b) := b.unsubscribe id
    (.unsubscribed there, b)
  | .clear => (.cleared, b.clear)
  | .mark => (.marked b.mark, b)
  | .since mark => (.listed (b.since mark), b)
  | .count kind => (.counted (b.count kind), b)

def ask (b : Bus κ) (request : Request κ) : Exchange κ := (request, (b.serve request).1)

/-- Whether a bus answers some requests, one after the other, as reported, and gets to another. -/
def Answers (b : Bus κ) : List (Exchange κ) → Bus κ → Prop
  | [], b' => b' = b
  | (request, reply) :: es, b' =>
    (b.serve request).1 = reply ∧ (b.serve request).2.Answers es b'

def enrol (roll : List (Notice.Kind × Listener κ)) :
    Exchange κ → List (Notice.Kind × Listener κ)
  | (.subscribe kind callback, .subscribed id) => roll ++ [(kind, ⟨id, callback⟩)]
  | (.unsubscribe id, _) => roll.eraseP (·.2.id = id)
  | (.clear, _) => []
  | _ => roll

/-- The live subscriptions after some exchanges, the oldest first. -/
def roll (es : List (Exchange κ)) : List (Notice.Kind × Listener κ) :=
  es.foldl enrol []

def given? : Exchange κ → Option SubscriptionId
  | (_, .subscribed id) => some id
  | _ => none

def given (es : List (Exchange κ)) : List SubscriptionId := es.filterMap given?

/-- Whether a reply is the one due after some exchanges: new numbers are beyond all earlier ones,
those who are on the roll can be taken off it, and behind a mark are those on the roll who got their
number since. -/
def Due (before : List (Exchange κ)) : Exchange κ → Prop
  | (.subscribe _ _, .subscribed id) => ∀ n ∈ given before, n.number < id.number
  | (.unsubscribe id, .unsubscribed there) => there = true ↔ ∃ e ∈ roll before, e.2.id = id
  | (.clear, .cleared) => True
  | (.mark, .marked _) => True
  | (.since mark, .listed ids) => ∀ earlier between,
      before = earlier ++ (.mark, .marked mark) :: between →
      ids = ((roll before).map (·.2.id)).filter (· ∈ given between)
  | (.count kind, .counted count) => count = (roll before).countP (·.1 = kind)
  | _ => False

variable {b b' b'' : Bus κ} {es es' before after : List (Exchange κ)} {e : Exchange κ}
  {id : SubscriptionId} {mark : SubscriptionId} {kind : Notice.Kind}

theorem exists_answers (b : Bus κ) (requests : List (Request κ)) :
    ∃ es b', b.Answers es b' ∧ es.map (·.1) = requests := by
  induction requests generalizing b with
  | nil => exact ⟨[], b, rfl, rfl⟩
  | cons request rest ih =>
    obtain ⟨es, b', answers, asked⟩ := ih (b.serve request).2
    exact ⟨(request, _) :: es, b', ⟨rfl, answers⟩, congrArg (request :: ·) asked⟩

theorem answers_append :
    b.Answers (es ++ es') b'' ↔ ∃ b', b.Answers es b' ∧ b'.Answers es' b'' := by
  induction es generalizing b with
  | nil => exact ⟨fun h => ⟨b, rfl, h⟩, fun ⟨_, eq, h⟩ => eq ▸ h⟩
  | cons e es ih =>
    obtain ⟨request, reply⟩ := e
    constructor
    · rintro ⟨replied, rest⟩
      obtain ⟨b', answers, later⟩ := ih.mp rest
      exact ⟨b', ⟨replied, answers⟩, later⟩
    · rintro ⟨b', ⟨replied, answers⟩, later⟩
      exact ⟨replied, ih.mpr ⟨b', answers, later⟩⟩

theorem Answers.append (h : b.Answers es b') (h' : b'.Answers es' b'') :
    b.Answers (es ++ es') b'' :=
  answers_append.mpr ⟨b', h, h'⟩

theorem roll_concat : roll (es ++ [e]) = enrol (roll es) e := List.foldl_concat ..

theorem given_append : given (es ++ es') = given es ++ given es' := List.filterMap_append

/-! Numbers -/

theorem given?_serve (b : Bus κ) (request : Request κ) :
    given? (request, (b.serve request).1) = none ∧ (b.serve request).2.issued = b.issued ∨
      given? (request, (b.serve request).1) = some ⟨b.issued + 1⟩ ∧
        (b.serve request).2.issued = b.issued + 1 := by
  cases request with
  | subscribe kind callback => exact .inr ⟨rfl, issued_subscribe⟩
  | unsubscribe id => exact .inl ⟨rfl, issued_unsubscribe⟩
  | clear | mark | since | count => exact .inl ⟨rfl, rfl⟩

/-- The numbers given between two states of a bus lie between the last numbers of these. -/
theorem Answers.given (h : b.Answers es b') : b.issued ≤ b'.issued ∧
    (∀ n ∈ given es, b.issued < n.number ∧ n.number ≤ b'.issued) ∧
      (given es).Pairwise (·.number < ·.number) := by
  induction es generalizing b with
  | nil =>
    cases h
    exact ⟨Nat.le_refl _, nofun, .nil⟩
  | cons e es ih =>
    obtain ⟨request, reply⟩ := e
    obtain ⟨rfl, rest⟩ := h
    obtain ⟨le, bounds, ascending⟩ := ih rest
    rcases b.given?_serve request with ⟨none, issued⟩ | ⟨gives, issued⟩
    · rw [issued] at le bounds
      rw [Bus.given, List.filterMap_cons_none none]
      exact ⟨le, bounds, ascending⟩
    · rw [issued] at le bounds
      rw [Bus.given, List.filterMap_cons_some gives]
      refine ⟨by omega, fun n mem => ?_, List.pairwise_cons.mpr ⟨fun n mem => ?_, ascending⟩⟩
      · rcases List.mem_cons.mp mem with rfl | later
        · exact ⟨Nat.lt_succ_self _, le⟩
        · exact ⟨Nat.lt_of_succ_lt (bounds n later).1, (bounds n later).2⟩
      · exact (bounds n mem).1

theorem Numbered.serve (h : b.Numbered) (request : Request κ) :
    (b.serve request).2.Numbered := by
  cases request with
  | subscribe kind callback => exact h.subscribe
  | unsubscribe id => exact h.unsubscribe
  | clear => exact h.clear
  | mark | since | count => exact h

theorem Answers.numbered (h : b.Answers es b') (numbered : b.Numbered) : b'.Numbered := by
  induction es generalizing b with
  | nil =>
    cases h
    exact numbered
  | cons e es ih =>
    obtain ⟨request, reply⟩ := e
    exact ih h.2 (numbered.serve request)

/-! The roll -/

structure Lists (roll : List (Notice.Kind × Listener κ)) (b : Bus κ) : Prop where
  listeners : ∀ kind, b.listeners kind = (roll.filter (·.1 = kind)).map (·.2)
  ascending : roll.Pairwise (·.2.id.number < ·.2.id.number)

theorem lists_empty : Lists [] (empty : Bus κ) where
  listeners kind := by cases kind <;> rfl
  ascending := .nil

variable {entries : List (Notice.Kind × Listener κ)}

theorem Lists.holds (h : Lists entries b) : b.Holds id ↔ ∃ e ∈ entries, e.2.id = id := by
  constructor
  · rintro ⟨kind, l, mem, rfl⟩
    rw [h.listeners, List.mem_map] at mem
    obtain ⟨e, mem, rfl⟩ := mem
    exact ⟨e, List.mem_of_mem_filter mem, rfl⟩
  · rintro ⟨e, mem, rfl⟩
    refine ⟨e.1, e.2, ?_, rfl⟩
    rw [h.listeners]
    exact List.mem_map.mpr ⟨e, List.mem_filter.mpr ⟨mem, decide_eq_true rfl⟩, rfl⟩

theorem Lists.eraseP (h : Lists entries b) :
    entries.eraseP (·.2.id = id) = entries.filter (·.2.id ≠ id) := by
  have ascending := h.ascending
  clear h
  induction entries with
  | nil => rfl
  | cons e rest ih =>
    obtain ⟨below, ascending⟩ := List.pairwise_cons.mp ascending
    by_cases same : e.2.id = id
    · rw [List.eraseP_cons_of_pos (by simpa), List.filter_cons_of_neg (by simpa)]
      have others : ∀ e' ∈ rest, e'.2.id ≠ id := by
        rintro e' mem rfl
        exact Nat.ne_of_lt (below e' mem) (congrArg _ same)
      exact (List.filter_eq_self.mpr fun e' mem => decide_eq_true (others e' mem)).symm
    · rw [List.eraseP_cons_of_neg (by simpa), List.filter_cons_of_pos (by simpa), ih ascending]

theorem unsubscribe_eq_true : (b.unsubscribe id).1 = true ↔ b.Holds id := by
  have holds : b.Holds id ↔ (b.listeners .declared).any (·.id = id) = true ∨
      (b.listeners .changed).any (·.id = id) = true := by
    simp only [holds_iff, List.map_append, List.mem_append, List.mem_map, List.any_eq_true,
      decide_eq_true_iff]
  rw [holds]
  unfold unsubscribe
  dsimp only
  cases (b.listeners .declared).any (·.id = id) <;>
    cases (b.listeners .changed).any (·.id = id) <;> simp

theorem Lists.unsubscribe (h : Lists entries b) (numbered : b.Numbered) :
    Lists (entries.eraseP (·.2.id = id)) (b.unsubscribe id).2 where
  listeners kind := by
    rw [h.eraseP, numbered.listeners_unsubscribe, h.listeners, List.filter_map,
      List.filter_filter, List.filter_filter]
    congr 1
    exact List.filter_congr fun e _ => Bool.and_comm _ _
  ascending := h.ascending.sublist (List.eraseP_sublist)

theorem Lists.subscribe (h : Lists entries b) (numbered : b.Numbered) {callback : κ} :
    Lists (entries ++ [(kind, ⟨⟨b.issued + 1⟩, callback⟩)]) (b.subscribe kind callback).2 where
  listeners kind' := by
    rw [listeners_subscribe, h.listeners, List.filter_append, List.map_append]
    split
    · rename_i eq
      rw [List.filter_cons_of_pos (by simpa using eq.symm)]
      rfl
    · rename_i ne
      rw [List.filter_cons_of_neg (by simpa using Ne.symm ne)]
      exact (List.append_nil _).symm
  ascending := by
    refine List.pairwise_append.mpr ⟨h.ascending, List.pairwise_singleton _ _, ?_⟩
    intro e mem e' mem'
    cases List.mem_singleton.mp mem'
    exact Nat.lt_succ_of_le (numbered.le (h.holds.mpr ⟨e, mem, rfl⟩))

theorem Lists.serve (h : Lists entries b) (numbered : b.Numbered) (request : Request κ) :
    Lists (enrol entries (request, (b.serve request).1)) (b.serve request).2 := by
  cases request with
  | subscribe kind callback => exact h.subscribe numbered
  | unsubscribe id => exact h.unsubscribe numbered
  | clear => exact ⟨fun kind => by cases kind <;> rfl, .nil⟩
  | mark | since | count => exact h

theorem Answers.lists (h : empty.Answers es b) : Lists (roll es) b := by
  induction es using List.reverseRecOn generalizing b with
  | nil =>
    cases h
    exact lists_empty
  | append_singleton es e ih =>
    obtain ⟨before, earlier, last⟩ := answers_append.mp h
    obtain ⟨request, reply⟩ := e
    rw [roll_concat]
    obtain ⟨rfl, rfl⟩ := last
    exact (ih earlier).serve (earlier.numbered numbered_empty) request

theorem Answers.sublist (h : empty.Answers es b) :
    ((roll es).map (·.2.id)).Sublist (Bus.given es) := by
  induction es using List.reverseRecOn generalizing b with
  | nil => exact .refl _
  | append_singleton es e ih =>
    obtain ⟨before, earlier, last⟩ := answers_append.mp h
    obtain ⟨request, reply⟩ := e
    obtain ⟨rfl, rfl⟩ := last
    have sub := ih earlier
    rw [roll_concat, given_append]
    cases request with
    | subscribe kind callback =>
      have more : (enrol (roll es) (.subscribe kind callback, .subscribed ⟨before.issued + 1⟩)).map
          (·.2.id) = (roll es).map (·.2.id) ++ [⟨before.issued + 1⟩] := List.map_append
      exact more ▸ sub.append (.refl _)
    | unsubscribe n =>
      exact ((List.eraseP_sublist.map _).trans sub).trans (List.sublist_append_left _ _)
    | clear => exact List.nil_sublist _
    | mark | since | count => exact sub.trans (List.sublist_append_left _ _)

/-! Replies -/

/-- Numbers in ascending order, whatever order they came in. -/
theorem mergeSort_eq {ids sorted : List SubscriptionId} (perm : ids.Perm sorted)
    (ascending : sorted.Pairwise (·.number < ·.number)) :
    ids.mergeSort (·.number ≤ ·.number) = sorted := by
  have ordered := @List.pairwise_mergeSort SubscriptionId
    (fun n n' => decide (n.number ≤ n'.number))
    (by intros; simp_all; omega) (by intros; simp_all; omega) ids
  simp only [decide_eq_true_iff] at ordered
  refine List.Perm.eq_of_pairwise ?_ ordered (ascending.imp Nat.le_of_lt)
    ((List.mergeSort_perm _ _).trans perm)
  intro n n' _ _ le ge
  exact congrArg SubscriptionId.mk (Nat.le_antisymm le ge)

theorem Lists.perm (h : Lists entries b) :
    ((b.listeners .declared ++ b.listeners .changed).map (·.id)).Perm (entries.map (·.2.id)) := by
  have other : entries.filter (·.1 = .changed) =
      entries.filter fun e => !decide (e.1 = .declared) :=
    List.filter_congr fun e _ => by cases e.1 <;> rfl
  rw [h.listeners, h.listeners, other, ← List.map_append, List.map_map]
  exact (List.filter_append_perm _ _).map _

theorem Lists.since (h : Lists entries b) :
    b.since mark = (entries.map (·.2.id)).filter (mark.number < ·.number) := by
  refine mergeSort_eq (h.perm.filter _) (List.Pairwise.filter _ ?_)
  exact List.pairwise_map.mpr h.ascending

theorem Lists.count (h : Lists entries b) : b.count kind = entries.countP (·.1 = kind) := by
  unfold Bus.count
  rw [h.listeners, List.length_map, List.countP_eq_length_filter]

theorem Answers.due (h : empty.Answers (before ++ e :: after) b) : Due before e := by
  obtain ⟨now, earlier, later⟩ := answers_append.mp h
  obtain ⟨request, reply⟩ := e
  obtain ⟨rfl, -⟩ := later
  have lists := earlier.lists
  cases request with
  | subscribe kind callback => exact fun n mem => Nat.lt_succ_of_le (earlier.given.2.1 n mem).2
  | unsubscribe id => exact unsubscribe_eq_true.trans lists.holds
  | clear => trivial
  | mark => trivial
  | since mark =>
    rintro early between rfl
    obtain ⟨then', first, second⟩ := answers_append.mp earlier
    obtain ⟨marked, second⟩ := second
    cases marked
    refine lists.since.trans (List.filter_congr fun n mem => decide_eq_decide.mpr ?_)
    have known := earlier.sublist.subset mem
    constructor
    · intro lt
      rw [given_append] at known
      rcases List.mem_append.mp known with old | new
      · exact absurd lt (Nat.not_lt_of_le (first.given.2.1 n old).2)
      · exact new
    · exact fun new => (second.given.2.1 n new).1
  | count kind => exact lists.count

end Replay.Bus
