import DeviceFleet.Proofs.Bus.Order

/-! What was published on some topics and has not come into the queues of their reader: the event
that is being offered, and those that wait in the inbox. As long as nothing is lost for the reader,
what was published on its topics is what came into its queues, then this line. -/

namespace DeviceFleet

def Event.content (e : Event) : String × Bytes := (e.topic, e.payload)

namespace Bus

/-- The subscriptions are registered, each on its topic, and their receivers are there. -/
def Follows (b : Bus) (subs : List (Nat × String)) : Prop :=
  ∀ p ∈ subs, ∃ s, b.find? p.1 = some s ∧ s.live = true ∧ s.topic = p.2

variable {b b' : Bus} {subs : List (Nat × String)}

/-- Subscriptions of different topics belong to one reader. -/
theorem Follows.keeps (h : b.Follows subs) (nodup : (subs.map (·.2)).Nodup) :
    b.Keeps (subs.map (·.1)) where
  live id hid := by
    obtain ⟨p, hp, rfl⟩ := List.mem_map.1 hid
    obtain ⟨s, found, alive, -⟩ := h p hp
    exact ⟨s, found, alive⟩
  apart id hid k hk s t fs ft same := by
    obtain ⟨p, hp, rfl⟩ := List.mem_map.1 hid
    obtain ⟨q, hq, rfl⟩ := List.mem_map.1 hk
    obtain ⟨s', fs', -, topic⟩ := h p hp
    obtain ⟨t', ft', -, topic'⟩ := h q hq
    cases fs.symm.trans fs'
    cases ft.symm.trans ft'
    exact congrArg _ (List.inj_on_of_nodup_map nodup hp hq (topic.symm.trans (same.trans topic')))

theorem Follows.of_stays (h : b.Follows subs) (stays : ∀ p ∈ subs, Stays b b' p.1) :
    b'.Follows subs := by
  intro p hp
  obtain ⟨s, found, alive, topic⟩ := h p hp
  obtain ⟨s', found', alive', same, -⟩ := stays p hp s found alive
  exact ⟨s', found', alive', same.trans topic⟩

theorem mem_row (sound : b.Sound) {id : Nat} {s : Subscriber} (there : b.find? id = some s)
    (topic : String) : id ∈ (b.row topic).map (·.id) ↔ s.topic = topic := by
  have named := id_of_find? there
  constructor
  · intro row
    obtain ⟨t, ht, same⟩ := List.mem_map.1 row
    obtain ⟨member, topics⟩ := List.mem_filter.1 ht
    rw [sound.unique (mem_of_find? there) member (named.trans same.symm)]
    exact of_decide_eq_true topics
  · intro topics
    exact List.mem_map.2 ⟨s, List.mem_filter.2 ⟨mem_of_find? there, decide_eq_true topics⟩, named⟩

theorem not_mem_row {id : Nat} (missing : b.find? id = none) (topic : String) :
    id ∉ (b.row topic).map (·.id) := by
  intro row
  obtain ⟨s, hs, rfl⟩ := List.mem_map.1 row
  have absent := List.find?_eq_none.1 missing s (List.mem_filter.1 hs).1
  simp at absent

/-- The subscriptions that an event is still to be offered to include one of them just if they
follow its topic. -/
theorem Follows.any_row (h : b.Follows subs) (sound : b.Sound) (topic : String) :
    ((b.row topic).map (·.id)).any (fun id => decide (id ∈ subs.map (·.1))) =
      decide (topic ∈ subs.map (·.2)) := by
  rw [Bool.eq_iff_iff, List.any_eq_true, decide_eq_true_iff]
  constructor
  · rintro ⟨id, row, member⟩
    obtain ⟨p, hp, rfl⟩ := List.mem_map.1 (of_decide_eq_true member)
    obtain ⟨s, found, -, own⟩ := h p hp
    exact List.mem_map.2 ⟨p, hp, own.symm.trans ((mem_row sound found topic).1 row)⟩
  · intro member
    obtain ⟨p, hp, rfl⟩ := List.mem_map.1 member
    obtain ⟨s, found, -, own⟩ := h p hp
    exact ⟨p.1, (mem_row sound found p.2).2 own, decide_eq_true (List.mem_map_of_mem hp)⟩

/-! ### The line -/

/-- The event that one of the subscriptions is still to be offered. -/
def offered (kept : List Nat) : Option Dispatch → List (String × Bytes)
  | none => []
  | some d => if d.remaining.any (fun id => decide (id ∈ kept)) then [d.event.content] else []

/-- What was published on the topics and has not been offered to their subscriptions. -/
def line (b : Bus) (subs : List (Nat × String)) : List (String × Bytes) :=
  offered (subs.map (·.1)) b.current ++ b.waiting.filter fun p => decide (p.1 ∈ subs.map (·.2))

theorem line_publish (running : b.stopped = false) (topic : String) (payload : Bytes) :
    (b.publish topic payload).1.line subs =
      b.line subs ++ [(topic, payload)].filter fun p => decide (p.1 ∈ subs.map (·.2)) := by
  rw [publish, if_neg (Bool.eq_false_iff.1 running), line, line, waiting, List.filterMap_append,
    List.filter_append, List.append_assoc]
  rfl

/-- A turn brings the front of the line into the queues, if nothing is lost. -/
theorem line_turn (sound : b.Sound) (follows : b.Follows subs) (ids : (subs.map (·.1)).Nodup)
    (topics : (subs.map (·.2)).Nodup) (running : b'.stopped = false)
    (lossless : ∀ id ∈ subs.map (·.1), b'.lostOf id = 0) (turn : Turn b b') :
    b.line subs = (arrivals (subs.map (·.1)) b b').map Event.content ++ b'.line subs := by
  have keeps := follows.keeps topics
  cases effect_turn sound keeps turn with
  | still queues sequence current waits =>
    have same : b'.waiting = b.waiting := waits.resolve_right (by simp [running])
    rw [arrivals_of_same queues, List.map_nil, List.nil_append, line, line, same]
    rcases current with same | ⟨ended, d, busy, done⟩
    · rw [same]
    · rw [ended, busy, offered, offered, done, List.any_nil, if_neg Bool.false_ne_true]
  | start topic payload idle queues sequence current waits =>
    rw [arrivals_of_same queues, List.map_nil, List.nil_append, line, line, idle, current, waits,
      offered, offered, follows.any_row sound, List.nil_append, List.filter_cons]
    split <;> rfl
  | offer e id rest closed found busy current sequence waits others own =>
    rw [line, line, waits, busy, current, offered, offered]
    by_cases member : id ∈ subs.map (·.1)
    · have gets : b'.queueOf id = b.queueOf id ++ [e] := by
        apply (own member).resolve_right
        intro loses
        rw [lossless id member] at loses
        exact Nat.not_lt_zero _ loses.2
      have none_left : rest.any (fun k => decide (k ∈ subs.map (·.1))) = false := by
        rw [List.any_eq_false]
        intro k due chosen
        exact keeps.alone sound busy member k (of_decide_eq_true chosen) due
      rw [(arrivals_of_gain ids member others gets).1, List.any_cons, decide_eq_true member,
        Bool.true_or, if_pos rfl, none_left, if_neg Bool.false_ne_true]
      rfl
    · have queues : ∀ k ∈ subs.map (·.1), b'.queueOf k = b.queueOf k := fun k hk =>
        others k hk fun same => member (same ▸ hk)
      rw [arrivals_of_same queues, List.any_cons, decide_eq_false member, Bool.false_or]
      rfl

/-! ### Open buses -/

structure Open (b : Bus) : Prop where
  running : b.stopped = false
  unasked : .shutdown ∉ b.inbox

theorem Open.turn (h : b.Open) (turn : Turn b b') : b'.Open := by
  have rest {r : BusRequest} {rs : List BusRequest} (next : b.inbox = r :: rs) : .shutdown ∉ rs :=
    fun later => h.unasked (next ▸ List.mem_cons_of_mem r later)
  cases turn with
  | finish => exact ⟨h.running, h.unasked⟩
  | skip => exact ⟨h.running, h.unasked⟩
  | deliver => exact ⟨h.running, h.unasked⟩
  | lose => exact ⟨h.running, h.unasked⟩
  | register idle next =>
    rw [register]
    split <;> exact ⟨h.running, rest next⟩
  | start idle next => exact ⟨h.running, rest next⟩
  | stop idle next => exact absurd (next ▸ List.mem_cons_self) h.unasked

theorem Open.publish (h : b.Open) (topic : String) (payload : Bytes) :
    (b.publish topic payload).1.Open := by
  rw [Bus.publish, if_neg (Bool.eq_false_iff.1 h.running)]
  refine ⟨h.running, fun asked => ?_⟩
  rcases List.mem_append.1 asked with asked | asked
  · exact h.unasked asked
  · cases List.mem_singleton.1 asked

theorem Open.take {id : Nat} {e : Event} (h : b.Open) (taken : b.take? id = some (e, b')) :
    b'.Open := by
  obtain ⟨s, rest, -, -, rfl⟩ := take?_eq taken
  exact ⟨h.running, h.unasked⟩

/-! ### Published and placed -/

/-- The subscriptions are there, and unless they have lost an event, what was published on their
topics is what came into their queues, then the line. -/
structure Listens (b : Bus) (subs : List (Nat × String)) (published : List (String × Bytes))
    (placed : List Event) : Prop where
  follows : b.Follows subs
  accounts : (∀ id ∈ subs.map (·.1), b.lostOf id = 0) →
    published.filter (fun p => decide (p.1 ∈ subs.map (·.2))) =
      placed.map Event.content ++ b.line subs

variable {published : List (String × Bytes)} {placed : List Event}

theorem Listens.turn (h : b.Listens subs published placed) (sound : b.Sound)
    (ids : (subs.map (·.1)).Nodup) (topics : (subs.map (·.2)).Nodup) (running : b'.stopped = false)
    (turn : Turn b b') :
    b'.Listens subs published (placed ++ arrivals (subs.map (·.1)) b b') where
  follows := h.follows.of_stays fun _ _ => stays_turn sound turn
  accounts lossless := by
    have before : ∀ id ∈ subs.map (·.1), b.lostOf id = 0 := fun id hid =>
      Nat.le_zero.1 (lossless id hid ▸ (h.follows.keeps topics).lostOf_le hid (stays_turn sound turn))
    rw [h.accounts before, line_turn sound h.follows ids topics running lossless turn, List.map_append,
      List.append_assoc]

theorem Listens.publish (h : b.Listens subs published placed) (running : b.stopped = false)
    (topic : String) (payload : Bytes) :
    (b.publish topic payload).1.Listens subs (published ++ [(topic, payload)]) placed where
  follows := h.follows.of_stays fun _ _ => stays_of_eq (find?_publish topic payload)
  accounts lossless := by
    have before : ∀ id ∈ subs.map (·.1), b.lostOf id = 0 := fun id hid => by
      rw [← lossless id hid, lostOf, lostOf, find?_publish]
    rw [List.filter_append, h.accounts before, line_publish running, List.append_assoc]

theorem Listens.take {id : Nat} {e : Event} (h : b.Listens subs published placed)
    (topics : (subs.map (·.2)).Nodup) (taken : b.take? id = some (e, b')) :
    b'.Listens subs published placed where
  follows := h.follows.of_stays fun _ _ => stays_take taken
  accounts lossless := by
    have before : ∀ k ∈ subs.map (·.1), b.lostOf k = 0 := fun k hk =>
      Nat.le_zero.1 (lossless k hk ▸ (h.follows.keeps topics).lostOf_le hk (stays_take taken))
    obtain ⟨s, rest, -, -, rfl⟩ := take?_eq taken
    exact h.accounts before

end Bus

end DeviceFleet
