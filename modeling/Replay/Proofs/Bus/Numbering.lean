import Mathlib.Data.List.Nodup
import Replay.Bus

/-!
The numbers of subscriptions. Every channel has its listeners in the order of their numbers, no
number is in two channels, and none is beyond the last one given. So a number tells who subscribed
first, and whether that was before or behind a mark.
-/
namespace Replay.Bus

variable {κ : Type} {b b' b'' : Bus κ} {id n : SubscriptionId} {kind kind' : Notice.Kind}
  {callback : κ} {l : Listener κ} {ids : List SubscriptionId} {mark : SubscriptionId}

/-! Who listens after a change of the bus -/

theorem listeners_subscribe : (b.subscribe kind callback).2.listeners kind' =
    if kind' = kind then b.listeners kind' ++ [⟨⟨b.issued + 1⟩, callback⟩]
    else b.listeners kind' := by
  cases kind <;> cases kind' <;> rfl

theorem issued_subscribe : (b.subscribe kind callback).2.issued = b.issued + 1 := by
  cases kind <;> rfl

theorem mem_listeners_subscribe (h : l ∈ (b.subscribe kind callback).2.listeners kind') :
    l ∈ b.listeners kind' ∨ l.callback = callback := by
  rw [listeners_subscribe] at h
  split at h
  · rcases List.mem_append.mp h with h | h
    · exact .inl h
    · exact .inr (List.mem_singleton.mp h ▸ rfl)
  · exact .inl h

theorem listeners_unsubscribe_eq_ite : (b.unsubscribe id).2.listeners kind =
    if kind = .declared ∨ ∀ l ∈ b.listeners .declared, l.id ≠ id then
      (b.listeners kind).filter (·.id ≠ id)
    else b.listeners kind := by
  have without (ls : Option (List (Listener κ))) :
      (ls.map (List.filter (·.id ≠ id))).getD [] = (ls.getD []).filter (·.id ≠ id) := by
    cases ls <;> rfl
  have absent {ls : List (Listener κ)} (h : ls.any (·.id = id) = false) :
      ls.filter (·.id ≠ id) = ls ∧ ∀ l ∈ ls, l.id ≠ id := by
    simp_all [List.filter_eq_self]
  unfold unsubscribe
  dsimp only
  cases declared : (b.listeners .declared).any (·.id = id) with
  | true =>
    rw [if_pos rfl]
    cases kind with
    | declared =>
      rw [if_pos (.inl rfl)]
      exact without _
    | changed =>
      rw [if_neg]
      · rfl
      · simpa using declared
  | false =>
    obtain ⟨same, fresh⟩ := absent declared
    have either : kind = .declared ∨ ∀ l ∈ b.listeners .declared, l.id ≠ id := .inr fresh
    rw [if_neg Bool.false_ne_true, if_pos either]
    cases changed : (b.listeners .changed).any (·.id = id) with
    | true =>
      rw [if_pos rfl]
      cases kind with
      | declared => exact same.symm
      | changed => exact without _
    | false =>
      rw [if_neg Bool.false_ne_true]
      cases kind with
      | declared => exact same.symm
      | changed => exact (absent changed).1.symm

theorem listeners_unsubscribe_sublist :
    ((b.unsubscribe id).2.listeners kind).Sublist (b.listeners kind) := by
  rw [listeners_unsubscribe_eq_ite]
  split
  · exact List.filter_sublist
  · exact List.Sublist.refl _

theorem mem_listeners_unsubscribe (h : l ∈ (b.unsubscribe id).2.listeners kind) :
    l ∈ b.listeners kind :=
  listeners_unsubscribe_sublist.subset h

theorem issued_unsubscribe : (b.unsubscribe id).2.issued = b.issued := by
  unfold unsubscribe
  dsimp only
  split
  · rfl
  · split <;> rfl

theorem listeners_clear (kind : Notice.Kind) : b.clear.listeners kind = [] := by
  cases kind <;> rfl

/-! Numbers -/

def Holds (b : Bus κ) (n : SubscriptionId) : Prop := ∃ kind, ∃ l ∈ b.listeners kind, l.id = n

structure Numbered (b : Bus κ) : Prop where
  ascending : ∀ kind, (b.listeners kind).Pairwise (·.id.number < ·.id.number)
  issued : ∀ kind, ∀ l ∈ b.listeners kind, l.id.number ≤ b.issued
  apart : ∀ l ∈ b.listeners .declared, ∀ l' ∈ b.listeners .changed, l.id ≠ l'.id

theorem Numbered.le (h : b.Numbered) (holds : b.Holds n) : n.number ≤ b.issued := by
  obtain ⟨kind, l, mem, rfl⟩ := holds
  exact h.issued kind l mem

theorem numbered_empty : (empty : Bus κ).Numbered where
  ascending kind := by cases kind <;> exact .nil
  issued kind l mem := by cases kind <;> cases mem
  apart l mem := by cases mem

theorem Numbered.sublist (h : b.Numbered) (issued : b'.issued = b.issued)
    (sub : ∀ kind, (b'.listeners kind).Sublist (b.listeners kind)) : b'.Numbered where
  ascending kind := (h.ascending kind).sublist (sub kind)
  issued kind l mem := by
    rw [issued]
    exact h.issued kind l ((sub kind).subset mem)
  apart l mem l' mem' := h.apart l ((sub _).subset mem) l' ((sub _).subset mem')

theorem Numbered.subscribe (h : b.Numbered) : (b.subscribe kind callback).2.Numbered := by
  have fresh {kind' : Notice.Kind} {l : Listener κ} (mem : l ∈ b.listeners kind') :
      l.id.number < b.issued + 1 := Nat.lt_succ_of_le (h.issued kind' l mem)
  have added {l : Listener κ} {kind' : Notice.Kind}
      (mem : l ∈ (b.subscribe kind callback).2.listeners kind') :
      l ∈ b.listeners kind' ∨ kind' = kind ∧ l.id.number = b.issued + 1 := by
    rw [listeners_subscribe] at mem
    split at mem
    · rcases List.mem_append.mp mem with mem | mem
      · exact .inl mem
      · exact .inr ⟨‹_›, congrArg (·.id.number) (List.mem_singleton.mp mem)⟩
    · exact .inl mem
  constructor
  · intro kind'
    rw [listeners_subscribe]
    split
    · refine List.pairwise_append.mpr ⟨h.ascending _, List.pairwise_singleton _ _, ?_⟩
      intro l mem l' mem'
      cases List.mem_singleton.mp mem'
      exact fresh mem
    · exact h.ascending _
  · intro kind' l mem
    rw [issued_subscribe]
    rcases added mem with old | ⟨-, eq⟩
    · exact Nat.le_of_lt (fresh old)
    · exact Nat.le_of_eq eq
  · intro l mem l' mem' same
    have same := congrArg SubscriptionId.number same
    rcases added mem with old | ⟨rfl, eq⟩
    · rcases added mem' with old' | ⟨-, eq'⟩
      · exact h.apart l old l' old' (congrArg SubscriptionId.mk same)
      · have lt := fresh old
        omega
    · rcases added mem' with old' | ⟨⟨⟩, -⟩
      have lt := fresh old'
      omega

theorem Numbered.clear (h : b.Numbered) : b.clear.Numbered :=
  h.sublist rfl fun kind => by
    rw [listeners_clear]
    exact List.nil_sublist _

theorem Numbered.unsubscribe (h : b.Numbered) : (b.unsubscribe id).2.Numbered :=
  h.sublist issued_unsubscribe fun _ => listeners_unsubscribe_sublist

theorem Numbered.listeners_unsubscribe (h : b.Numbered) :
    (b.unsubscribe id).2.listeners kind = (b.listeners kind).filter (·.id ≠ id) := by
  rw [listeners_unsubscribe_eq_ite]
  split
  · rfl
  · rename_i elsewhere
    obtain ⟨ne, found⟩ := not_or.mp elsewhere
    simp only [Classical.not_forall, not_not] at found
    obtain ⟨l, mem, rfl⟩ := found
    cases kind with
    | declared => exact absurd rfl ne
    | changed =>
      refine (List.filter_eq_self.mpr fun l' mem' => ?_).symm
      exact decide_eq_true (Ne.symm (h.apart l mem l' mem'))

/-! What becomes of a bus -/

/-- A bus that has come from another one: whoever is numbered as before was there before. -/
structure Succeeds (b b' : Bus κ) : Prop where
  issued : b.issued ≤ b'.issued
  older : ∀ kind,
    ((b'.listeners kind).filter (·.id.number ≤ b.issued)).Sublist (b.listeners kind)
  numbered : b.Numbered → b'.Numbered

theorem Succeeds.refl (b : Bus κ) : b.Succeeds b :=
  ⟨Nat.le_refl _, fun _ => List.filter_sublist, fun h => h⟩

theorem Succeeds.trans (h : b.Succeeds b') (h' : b'.Succeeds b'') : b.Succeeds b'' where
  issued := Nat.le_trans h.issued h'.issued
  older kind := by
    have both : (b''.listeners kind).filter (·.id.number ≤ b.issued) =
        ((b''.listeners kind).filter (·.id.number ≤ b'.issued)).filter
          (·.id.number ≤ b.issued) := by
      rw [List.filter_filter]
      refine List.filter_congr fun l _ => ?_
      have le := h.issued
      grind
    rw [both]
    exact ((h'.older kind).filter _).trans (h.older kind)
  numbered := h'.numbered ∘ h.numbered

theorem Succeeds.holds (h : b.Succeeds b') (holds : b'.Holds n) (old : n.number ≤ b.issued) :
    b.Holds n := by
  obtain ⟨kind, l, mem, rfl⟩ := holds
  exact ⟨kind, l, (h.older kind).subset (List.mem_filter.mpr ⟨mem, decide_eq_true old⟩), rfl⟩

theorem Succeeds.sublist (issued : b'.issued = b.issued)
    (sub : ∀ kind, (b'.listeners kind).Sublist (b.listeners kind)) : b.Succeeds b' where
  issued := Nat.le_of_eq issued.symm
  older kind := List.filter_sublist.trans (sub kind)
  numbered h := h.sublist issued sub

theorem succeeds_unsubscribe (b : Bus κ) (id : SubscriptionId) :
    b.Succeeds (b.unsubscribe id).2 :=
  .sublist issued_unsubscribe fun _ => listeners_unsubscribe_sublist

theorem succeeds_clear (b : Bus κ) : b.Succeeds b.clear :=
  .sublist rfl fun kind => by
    rw [listeners_clear]
    exact List.nil_sublist _

theorem succeeds_subscribe (b : Bus κ) (kind : Notice.Kind) (callback : κ) :
    b.Succeeds (b.subscribe kind callback).2 where
  issued := issued_subscribe ▸ Nat.le_succ _
  older kind' := by
    rw [listeners_subscribe]
    split
    · rw [List.filter_append, List.filter_singleton, decide_eq_false (Nat.not_succ_le_self _)]
      simp
    · exact List.filter_sublist
  numbered := Numbered.subscribe

/-- Whether a bus that has come from another one still has a subscription: one that was live, or one
that was made in between. -/
def Retains (n : SubscriptionId) (b b' : Bus κ) : Prop :=
  b.issued ≤ b'.issued ∧
    (b.Holds n ∨ b.issued < n.number ∧ n.number ≤ b'.issued → b'.Holds n)

theorem Retains.trans (h : b.Retains n b') (h' : b'.Retains n b'') : b.Retains n b'' := by
  obtain ⟨le, keeps⟩ := h
  obtain ⟨le', keeps'⟩ := h'
  refine ⟨Nat.le_trans le le', ?_⟩
  rintro (holds | ⟨lt, bound⟩)
  · exact keeps' (.inl (keeps (.inl holds)))
  · rcases Nat.lt_or_ge b'.issued n.number with later | earlier
    · exact keeps' (.inr ⟨later, bound⟩)
    · exact keeps' (.inl (keeps (.inr ⟨lt, earlier⟩)))

/-- Where no number is given, only what was live may have to be there. -/
theorem Retains.of_holds (issued : b'.issued = b.issued) (keeps : b.Holds n → b'.Holds n) :
    b.Retains n b' := by
  refine ⟨Nat.le_of_eq issued.symm, ?_⟩
  rintro (holds | ⟨lt, bound⟩)
  · exact keeps holds
  · omega

theorem retains_subscribe (b : Bus κ) (kind : Notice.Kind) (callback : κ) (n : SubscriptionId) :
    b.Retains n (b.subscribe kind callback).2 := by
  refine ⟨issued_subscribe ▸ Nat.le_succ _, ?_⟩
  rintro (⟨kind', l, mem, rfl⟩ | ⟨lt, bound⟩)
  · refine ⟨kind', l, ?_, rfl⟩
    rw [listeners_subscribe]
    split
    · exact List.mem_append_left _ mem
    · exact mem
  · refine ⟨kind, ⟨⟨b.issued + 1⟩, callback⟩, ?_, ?_⟩
    · rw [listeners_subscribe, if_pos rfl]
      exact List.mem_append_right _ List.mem_cons_self
    · rw [issued_subscribe] at bound
      exact congrArg SubscriptionId.mk (Nat.le_antisymm lt bound)

theorem retains_unsubscribe (b : Bus κ) (other : id ≠ n) : b.Retains n (b.unsubscribe id).2 := by
  refine .of_holds issued_unsubscribe ?_
  rintro ⟨kind, l, mem, rfl⟩
  refine ⟨kind, l, ?_, rfl⟩
  rw [listeners_unsubscribe_eq_ite]
  split
  · exact List.mem_filter.mpr ⟨mem, decide_eq_true (Ne.symm other)⟩
  · exact mem

/-! Marks -/

theorem holds_iff :
    b.Holds n ↔ n ∈ (b.listeners .declared ++ b.listeners .changed).map (·.id) := by
  rw [List.map_append, List.mem_append, List.mem_map, List.mem_map]
  constructor
  · rintro ⟨_ | _, l, mem, eq⟩
    · exact .inl ⟨l, mem, eq⟩
    · exact .inr ⟨l, mem, eq⟩
  · rintro (⟨l, mem, eq⟩ | ⟨l, mem, eq⟩)
    · exact ⟨_, l, mem, eq⟩
    · exact ⟨_, l, mem, eq⟩

theorem mem_since : n ∈ b.since mark ↔ b.Holds n ∧ mark.number < n.number := by
  unfold since
  rw [List.mem_mergeSort, List.mem_filter, ← holds_iff, decide_eq_true_iff]

end Replay.Bus
