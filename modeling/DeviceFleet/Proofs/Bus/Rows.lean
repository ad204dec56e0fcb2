import Mathlib.Algebra.BigOperators.Group.List.Lemmas
import DeviceFleet.Proofs.Bus.Alone
import DeviceFleet.Proofs.Runs

/-! The rows of the table, one for each topic, and what a turn of the dispatcher makes of them: an event has
a fate for the subscription to which the dispatcher turns, which shows in its counters and nowhere else.
Entries are removed from a row by their places, from the last one on; these are the entries whose keys are
marked. -/

namespace DeviceFleet

/-! ### Removal by places -/

section Places

variable {α β : Type}

/-- Removes what stands at a place of a row and counts down. The place has to be in the row, and the count
must not be zero. -/
def removeOne? (left : List α × Nat) (i : Nat) : Option (List α × Nat) :=
  if i < left.1.length ∧ left.2 ≠ 0 then some (left.1.eraseIdx i, left.2 - 1) else none

/-- Removes what stands at places of a row, one place after another. -/
def removeAt? (places : List Nat) (left : List α × Nat) : Option (List α × Nat) :=
  places.foldlM removeOne? left

/-- Later places do not touch the first one. -/
theorem removeAt?_succ (is : List Nat) (x : α) (left : List α × Nat) :
    removeAt? (is.map (· + 1)) (x :: left.1, left.2) =
      (removeAt? is left).map fun left => (x :: left.1, left.2) := by
  refine Runs.simulates (f := fun left : List α × Nat => (x :: left.1, left.2)) (fun left i => ?_) is left
  simp only [removeOne?, List.length_cons, Nat.add_lt_add_iff_right, List.eraseIdx_cons_succ]
  split <;> rfl

/-- If the last place comes first, each is still where it was marked. -/
theorem removeAt?_marked {p : β → Bool} {xs : List α} {marks : List β} {n : Nat}
    (length : marks.length = xs.length) (enough : marks.countP p ≤ n) :
    removeAt? (marks.findIdxs p).reverse (xs, n) =
      some (((xs.zip marks).filter fun x => !p x.2).map (·.1), n - marks.countP p) := by
  induction xs generalizing marks with
  | nil =>
    rw [List.length_eq_zero_iff.1 length]
    rfl
  | cons x xs ih =>
    obtain ⟨m, marks, rfl⟩ := List.exists_cons_of_length_eq_add_one length
    have rest := ih (Nat.succ.inj length) (Nat.le_trans (List.sublist_cons_self m marks).countP_le enough)
    have later : removeAt? (marks.findIdxs p 1).reverse (x :: xs, n) =
        some (x :: ((xs.zip marks).filter fun x => !p x.2).map (·.1), n - marks.countP p) := by
      rw [List.findIdxs_start, ← List.map_reverse, removeAt?_succ _ x (xs, n), rest]
      rfl
    rw [List.findIdxs_cons, List.zip_cons_cons, List.countP_cons]
    by_cases marked : p m = true
    · rw [List.countP_cons, if_pos marked] at enough
      have counts : n - marks.countP p ≠ 0 := by omega
      rw [removeAt?] at later
      rw [if_pos marked, List.reverse_cons, removeAt?, Runs.foldlM_concat, later, Option.bind_some,
        removeOne?, if_pos ⟨Nat.zero_lt_succ _, counts⟩]
      simp [marked, Nat.sub_sub]
    · rw [if_neg marked, later]
      simp [marked]

/-- The marks of entries are those of their images. -/
theorem map_filter_zip {γ : Type} (f : α → γ) (q : β → Bool) (xs : List α) (marks : List β) :
    ((xs.zip marks).filter fun x => q x.2).map (fun x => f x.1) =
      (((xs.map f).zip marks).filter fun x => q x.2).map (·.1) := by
  rw [List.zip_map_left, List.filter_map, List.map_map]
  rfl

/-- Removing the keys of the marked entries leaves the others, if no two keys are the same. -/
theorem filter_unmarked {p : β → Bool} {key : α → Nat} {xs : List α} {marks : List β}
    (length : marks.length = xs.length) (distinct : (xs.map key).Nodup) :
    xs.filter (fun x => key x ∉ ((xs.zip marks).filter fun x => p x.2).map fun x => key x.1) =
      ((xs.zip marks).filter fun x => !p x.2).map (·.1) := by
  have all : (xs.zip marks).map (·.1) = xs := List.map_fst_zip (Nat.le_of_eq length.symm)
  have once : ((xs.zip marks).map fun x => key x.1).Nodup := by
    rw [← all, List.map_map] at distinct
    exact distinct
  conv_lhs => arg 2; rw [← all]
  rw [List.filter_map]
  congr 1
  refine List.filter_congr fun x hx => ?_
  rw [Bool.eq_iff_iff, Function.comp_apply, decide_eq_true_iff, List.mem_map, Bool.not_eq_true']
  constructor
  · intro unlisted
    refine Bool.eq_false_iff.2 fun marked => unlisted ⟨x, List.mem_filter.2 ⟨hx, marked⟩, rfl⟩
  · rintro unmarked ⟨y, hy, same⟩
    obtain ⟨member, marked⟩ := List.mem_filter.1 hy
    rw [List.inj_on_of_nodup_map once member hx same, unmarked] at marked
    cases marked

end Places

/-! ### Fates -/

/-- What comes of an event for a subscription to which the dispatcher turns with it. -/
inductive Fate where
  /-- The receiver is gone. -/
  | closed
  | delivered
  /-- The queue has no room. -/
  | dropped
  deriving DecidableEq, Repr

namespace Subscriber

def fate (s : Subscriber) (room : Nat) : Fate :=
  if s.live = false then .closed else if s.queue.length < room then .delivered else .dropped

def counting (s : Subscriber) : Fate → Subscriber
  | .closed => s
  | .delivered => { s with delivered := s.delivered + 1 }
  | .dropped => { s with dropped := s.dropped + 1 }

/-- The subscription without what its receiver changes. -/
def entry (s : Subscriber) : Subscriber := { s with queue := [], live := true }

theorem fate_eq_closed {s : Subscriber} {room : Nat} : s.fate room = .closed ↔ s.live = false := by
  unfold fate
  split_ifs with gone <;> simp_all

theorem id_counting (s : Subscriber) (fate : Fate) : (s.counting fate).id = s.id := by
  cases fate <;> rfl

theorem id_offered (s : Subscriber) (room : Nat) (e : Event) : (s.offered room e).id = s.id := by
  unfold offered
  split_ifs <;> rfl

theorem topic_offered (s : Subscriber) (room : Nat) (e : Event) : (s.offered room e).topic = s.topic := by
  unfold offered
  split_ifs <;> rfl

theorem entry_offered (s : Subscriber) (room : Nat) (e : Event) :
    (s.offered room e).entry = s.entry.counting (s.fate room) := by
  unfold offered fate
  split_ifs <;> rfl

end Subscriber

namespace Bus

variable {b b' : Bus} {id : Nat} {ws : List Warning}

/-! ### Rows -/

theorem row_modify (b : Bus) (id : Nat) {f : Subscriber → Subscriber} (topic : ∀ s, (f s).topic = s.topic)
    (t : String) : (b.modify id f).row t = (b.row t).map fun s => if s.id = id then f s else s := by
  rw [row, modify, List.filter_map, row]
  congr 1
  refine List.filter_congr fun s _ => ?_
  rw [Function.comp_apply]
  split
  · rw [topic]
  · rfl

theorem modify_congr {f g : Subscriber → Subscriber} (same : ∀ s ∈ b.table, s.id = id → f s = g s) :
    b.modify id f = b.modify id g := by
  rw [modify, modify, Bus.mk.injEq]
  refine ⟨rfl, List.map_congr_left fun s hs => ?_, rfl, rfl, rfl, rfl, rfl, rfl⟩
  split
  · exact same s hs ‹_›
  · rfl

theorem modify_eq_self {f : Subscriber → Subscriber} (same : ∀ s ∈ b.table, s.id = id → f s = s) :
    b.modify id f = b := by
  rw [modify_congr same, modify]
  simp

theorem row_finish (b : Bus) (d : Dispatch) (t : String) :
    (b.finish d).row t = (b.row t).filter (·.id ∉ d.closed) := by
  rw [row, finish, List.filter_filter, row, List.filter_filter]
  exact List.filter_congr fun s _ => Bool.and_comm _ _

theorem nodup_row (sound : b.Sound) (t : String) : ((b.row t).map (·.id)).Nodup :=
  sound.nodup_table.sublist (List.filter_sublist.map _)

theorem map_at {row rest : List Subscriber} {s : Subscriber} {f : Subscriber → Subscriber}
    (distinct : ((row ++ s :: rest).map (·.id)).Nodup) :
    (row ++ s :: rest).map (fun t => if t.id = s.id then f t else t) = row ++ f s :: rest := by
  have others {part : List Subscriber} (apart : ∀ t ∈ part, t.id ≠ s.id) :
      part.map (fun t => if t.id = s.id then f t else t) = part :=
    (List.map_congr_left fun t ht => if_neg (apart t ht)).trans (List.map_id' part)
  rw [List.map_append, List.map_cons] at distinct
  obtain ⟨-, after, before⟩ := List.nodup_append.1 distinct
  rw [List.map_append, List.map_cons, if_pos rfl]
  rw [others fun t ht => before t.id (List.mem_map_of_mem ht) s.id List.mem_cons_self]
  rw [others fun t ht same => (List.nodup_cons.1 after).1 (same ▸ List.mem_map_of_mem ht)]

/-- The offer of an event shows in the counters of the one subscription. -/
theorem entry_row_offered (sound : b.Sound) {s : Subscriber} (there : b.find? id = some s) (e : Event)
    (room : Nat) (t : String) :
    ((b.row t).map fun x => if x.id = id then x.offered room e else x).map (·.entry) =
      ((b.row t).map (·.entry)).map fun x => if x.id = id then x.counting (s.fate room) else x := by
  rw [List.map_map, List.map_map]
  refine List.map_congr_left fun x hx => ?_
  rw [Function.comp_apply, Function.comp_apply, show x.entry.id = x.id from rfl]
  split
  · rename_i own
    rw [sound.unique (List.mem_filter.1 hx).1 (mem_of_find? there) (own.trans (id_of_find? there).symm),
      Subscriber.entry_offered]
  · rfl

theorem row_unchanged (sound : b.Sound) {s : Subscriber} (there : b.find? id = some s) {t : String}
    (other : t ≠ s.topic) (f : Subscriber → Subscriber) :
    ((b.row t).map fun x => if x.id = id then f x else x) = b.row t := by
  refine (List.map_congr_left fun x hx => if_neg fun own => ?_).trans (List.map_id' _)
  obtain ⟨member, topic⟩ := List.mem_filter.1 hx
  rw [sound.unique member (mem_of_find? there) (own.trans (id_of_find? there).symm)] at topic
  exact other (of_decide_eq_true topic).symm

def topics (b : Bus) : List String := (b.table.map (·.topic)).dedup

/-- The rows of all topics together have the entries of the table. -/
theorem length_rows (b : Bus) : (b.topics.flatMap b.row).length = b.table.length := by
  have counts (t : String) : (b.row t).length = (b.table.map (·.topic)).count t := by
    rw [row, List.count, List.countP_map, List.countP_eq_length_filter]
    rfl
  simp only [List.length_flatMap, counts, topics]
  rw [List.sum_map_count_dedup_eq_length, List.length_map]

/-! ### Receivers -/

def hears (b : Bus) (id : Nat) : Bool := (b.find? id).any (·.live)

theorem hears_of_mem (sound : b.Sound) {s : Subscriber} (member : s ∈ b.table) : b.hears s.id = s.live := by
  rw [hears, sound.find?_of_mem member]
  rfl

theorem hears_modify (b : Bus) (k : Nat) {f : Subscriber → Subscriber} (keeps : KeepsId f)
    (live : ∀ s, (f s).live = s.live) : (b.modify k f).hears id = b.hears id := by
  rw [hears, hears, find?_modify b k id keeps]
  split
  · simp [Option.any_map, live]
  · rfl

theorem hears_close (b : Bus) (k : Nat) : (b.close k).hears id = (b.hears id && decide (id ≠ k)) := by
  rw [hears, hears, close, find?_modify b k id (by exact fun _ => rfl)]
  split
  · rename_i own
    simp [own, Option.any_map]
  · rename_i other
    simp [other]

/-! ### A turn to a subscription -/

/-- The dispatcher turns to a subscription with its event. -/
theorem turned_of_step (sound : b.Sound) {e : Event} {rest closed : List Nat} {s : Subscriber}
    (busy : b.current = some ⟨e, id :: rest, closed⟩) (there : b.find? id = some s)
    (h : b.step = some (b', ws) ∨ b.step = none ∧ b.expire = some (b', ws)) :
    b' = { b.modify id (·.offered b.config.room e) with
      current := some ⟨e, rest, if s.fate b.config.room = .closed then closed ++ [id] else closed⟩ } := by
  have only (t : Subscriber) (ht : t ∈ b.table) (own : t.id = id) : t = s :=
    sound.unique ht (mem_of_find? there) (own.trans (id_of_find? there).symm)
  have offered {f : Subscriber → Subscriber} (same : s.offered b.config.room e = f s) :
      b.modify id (·.offered b.config.room e) = b.modify id f :=
    modify_congr fun t ht own => by rw [only t ht own, same]
  have running : b.stopped = false := by
    rcases h with stepped | ⟨-, expired⟩
    · exact (turn_of_step stepped).1
    · exact (turn_of_expire expired).1
  have made : b.step.map (·.1) = some b' ∨ b.step = none ∧ b.expire.map (·.1) = some b' :=
    h.imp (fun stepped => by rw [stepped]; rfl) fun ⟨waits, expired⟩ => ⟨waits, by rw [expired]; rfl⟩
  rw [step, expire, if_neg (Bool.eq_false_iff.1 running), if_neg (Bool.eq_false_iff.1 running), busy] at made
  simp only [offer, there, Option.map_some] at made
  cases live : s.live with
  | false =>
    have same : b.modify id (·.offered b.config.room e) = b :=
      modify_eq_self fun t ht own => by rw [only t ht own]; exact if_pos live
    have fate : s.fate b.config.room = .closed := if_pos live
    rw [same, fate, if_pos rfl]
    simpa [live, eq_comm] using made
  | true =>
    by_cases room : s.queue.length < b.config.room
    · have fate : s.fate b.config.room = .delivered := by simp [Subscriber.fate, live, room]
      have same := offered (f := fun s => { s with queue := s.queue ++ [e], delivered := s.delivered + 1 })
        (by simp [Subscriber.offered, live, room])
      rw [same, fate, if_neg (by decide)]
      simpa [live, hasRoom, room, eq_comm, deliver] using made
    · have fate : s.fate b.config.room = .dropped := by simp [Subscriber.fate, live, room]
      have same := offered (f := fun s => { s with dropped := s.dropped + 1 })
        (by simp [Subscriber.offered, live, room])
      rw [same, fate, if_neg (by decide)]
      have named : s.id = id := id_of_find? there
      cases waits : b.config.waits <;> simpa [live, hasRoom, room, waits, eq_comm, drop, named] using made

/-- A dispatcher with an event can always go on, if need be by the end of its wait. -/
theorem goes_on {d : Dispatch} (running : b.stopped = false) (busy : b.current = some d)
    (waits : b.step = none) : b.expire.isSome = true := by
  obtain ⟨e, remaining, closed⟩ := d
  rw [step, if_neg (Bool.eq_false_iff.1 running), busy] at waits
  rw [expire, if_neg (Bool.eq_false_iff.1 running), busy]
  cases remaining with
  | nil => cases waits
  | cons id rest =>
    simp only [offer] at waits
    cases there : b.find? id with
    | none =>
      rw [there] at waits
      cases waits
    | some s => simp [there]

end Bus

end DeviceFleet
