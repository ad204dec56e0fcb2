import Mathlib.Data.List.Perm.Basic
import DeviceFleet.Proofs.Bus.Kept

/-! The order of the events in the kept queues: what can still come from a subscription, and what
a change of the bus brings into the queues. -/

namespace DeviceFleet

namespace Bus

/-- Everything that can still come from the subscription is later than the place `n`. -/
structure Ahead (b : Bus) (id n : Nat) : Prop where
  le : n ≤ b.sequence
  queue : ∀ e ∈ b.queueOf id, n < e.sequence
  due : ∀ d, b.current = some d → id ∈ d.remaining → n < d.event.sequence

variable {b b' : Bus} {kept : List Nat} {id n : Nat}

theorem Ahead.mono (h : b.Ahead id n) {m : Nat} (le : m ≤ n) : b.Ahead id m where
  le := Nat.le_trans le h.le
  queue e he := Nat.lt_of_le_of_lt le (h.queue e he)
  due d hd hid := Nat.lt_of_le_of_lt le (h.due d hd hid)

theorem Ahead.turn (sound : b.Sound) (keeps : b.Keeps kept) (member : id ∈ kept)
    (turn : Turn b b') (h : b.Ahead id n) : b'.Ahead id n := by
  cases effect_turn sound keeps turn with
  | still queues sequence current _ =>
    refine ⟨sequence ▸ h.le, ?_, fun d hd hid => ?_⟩
    · rw [queues id member]
      exact h.queue
    · rcases current with same | ⟨ended, -⟩
      · exact h.due d (same ▸ hd) hid
      · rw [ended] at hd
        cases hd
  | start topic payload idle queues sequence current =>
    have le := h.le
    refine ⟨by omega, ?_, fun d hd _ => ?_⟩
    · rw [queues id member]
      exact h.queue
    · rw [current] at hd
      cases hd
      exact Nat.lt_succ_of_le le
  | offer e k rest closed found busy current sequence _ others own =>
    refine ⟨sequence ▸ h.le, ?_, fun d hd hid => ?_⟩
    · by_cases here : id = k
      · subst here
        rcases own member with gets | ⟨same, -⟩
        · rw [gets]
          intro x hx
          rcases List.mem_append.1 hx with hx | hx
          · exact h.queue x hx
          · rw [List.mem_singleton.1 hx]
            exact h.due _ busy List.mem_cons_self
        · rw [same]
          exact h.queue
      · rw [others id member here]
        exact h.queue
    · rw [current] at hd
      cases hd
      exact h.due ⟨e, k :: rest, closed⟩ busy (List.mem_cons_of_mem k hid)

theorem Ahead.change (sound : b.Sound) (keeps : b.Keeps kept) (member : id ∈ kept)
    (change : Change kept b b') (h : b.Ahead id n) : b'.Ahead id n := by
  rcases quiet_change change with ⟨-, turn⟩ | ⟨queues, sequence, current⟩
  · exact h.turn sound keeps member turn
  · refine ⟨sequence ▸ h.le, ?_, fun d hd hid => h.due d (current ▸ hd) hid⟩
    rw [queues id member]
    exact h.queue

theorem Ahead.take {k : Nat} {e : Event} (taken : b.take? k = some (e, b')) (h : b.Ahead id n) :
    b'.Ahead id n := by
  obtain ⟨first, others, sequence, current⟩ := queueOf_take taken
  refine ⟨sequence ▸ h.le, fun x hx => ?_, fun d hd hid => h.due d (current ▸ hd) hid⟩
  by_cases here : id = k
  · subst here
    exact h.queue x (first ▸ List.mem_cons_of_mem e hx)
  · exact h.queue x (others id here ▸ hx)

theorem ahead_taken (sound : b.Sound) {e : Event} (taken : b.take? id = some (e, b')) :
    b'.Ahead id e.sequence := by
  obtain ⟨s, rest, found, first, -⟩ := take?_eq taken
  obtain ⟨queue, -, sequence, current⟩ := queueOf_take taken
  obtain ⟨topicAt, -, fits⟩ := sound.fits
  have here := fits s (mem_of_find? found)
  have tail : b'.queueOf id = rest := by
    rw [queueOf_of_find? found, first] at queue
    exact (List.cons.inj queue).2.symm
  have member : e ∈ s.queue := first ▸ List.mem_cons_self
  have ascending := here.ascending
  rw [first] at ascending
  refine ⟨?_, ?_, fun d hd hid => ?_⟩
  · rw [sequence]
    exact (here.dispatched e member).1
  · rw [tail]
    exact (List.pairwise_cons.1 ascending).1
  · rw [current] at hd
    exact (here.due d hd (id_of_find? found ▸ hid)).2 e member

/-! ### What comes in -/

def arrivals (kept : List Nat) (b b' : Bus) : List Event :=
  kept.flatMap fun id => (b'.queueOf id).drop (b.queueOf id).length

theorem flatMap_of_split {l₁ l₂ : List Nat} {k : Nat} {f g : Nat → List Event}
    (h : ∀ x ∈ l₁ ++ l₂, g x = f x) :
    (l₁ ++ k :: l₂).flatMap g = l₁.flatMap f ++ (g k ++ l₂.flatMap f) := by
  have left : l₁.flatMap g = l₁.flatMap f :=
    List.flatMap_congr fun x hx => h x (List.mem_append_left _ hx)
  have right : l₂.flatMap g = l₂.flatMap f :=
    List.flatMap_congr fun x hx => h x (List.mem_append_right _ hx)
  rw [List.flatMap_append, List.flatMap_cons, left, right]

theorem arrivals_of_same (same : ∀ id ∈ kept, b'.queueOf id = b.queueOf id) :
    arrivals kept b b' = [] :=
  List.flatMap_eq_nil_iff.2 fun id hid => by rw [same id hid, List.drop_length]

/-- One queue gains an event: it is what came in, and it is in the queues then. -/
theorem arrivals_of_gain (nodup : kept.Nodup) (member : id ∈ kept)
    (others : ∀ k ∈ kept, k ≠ id → b'.queueOf k = b.queueOf k) {e : Event}
    (own : b'.queueOf id = b.queueOf id ++ [e]) :
    arrivals kept b b' = [e] ∧ (kept.flatMap b'.queueOf).Perm (kept.flatMap b.queueOf ++ [e]) := by
  obtain ⟨l₁, l₂, rfl⟩ := List.append_of_mem member
  have apart : ∀ k ∈ l₁ ++ l₂, b'.queueOf k = b.queueOf k := by
    intro k hk
    have fresh := (List.nodup_cons.1 (List.nodup_middle.1 nodup)).1
    refine others k ?_ fun same => fresh (same ▸ hk)
    rcases List.mem_append.1 hk with hk | hk
    · exact List.mem_append_left _ hk
    · exact List.mem_append_right _ (List.mem_cons_of_mem id hk)
  constructor
  · have quiet (l : List Nat) (h : ∀ k ∈ l, b'.queueOf k = b.queueOf k) :
        l.flatMap (fun k => (b'.queueOf k).drop (b.queueOf k).length) = [] := arrivals_of_same h
    rw [arrivals, List.flatMap_append, List.flatMap_cons,
      quiet l₁ fun k hk => apart k (List.mem_append_left _ hk),
      quiet l₂ fun k hk => apart k (List.mem_append_right _ hk), own, List.drop_left]
    rfl
  · rw [flatMap_of_split apart, flatMap_of_split fun _ _ => rfl, own, List.append_assoc,
      List.append_assoc, List.append_assoc]
    exact (List.perm_append_comm.append_left _).append_left _

end Bus

end DeviceFleet
