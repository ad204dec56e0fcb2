import DeviceFleet.Proofs.Bus.Sound

/-! What the changes of a bus do to the subscriptions that a reader keeps. They stay registered
with their topics, and a turn of the dispatcher starts an event, offers it to one subscription, or
leaves the queues as they are. -/

namespace DeviceFleet.Bus

def lostOf (b : Bus) (id : Nat) : Nat := ((b.find? id).map (·.dropped)).getD 0

def waiting (b : Bus) : List (String × Bytes) :=
  b.inbox.filterMap fun
    | .publish topic payload => some (topic, payload)
    | _ => none

/-- The subscriptions are registered, each on a topic of its own, and their receivers are there. -/
structure Keeps (b : Bus) (kept : List Nat) : Prop where
  live : ∀ id ∈ kept, ∃ s, b.find? id = some s ∧ s.live = true
  apart : ∀ id ∈ kept, ∀ k ∈ kept, ∀ s t, b.find? id = some s → b.find? k = some t →
    s.topic = t.topic → id = k

/-- A kept subscription after a change: still there, on its topic, with no fewer losses. -/
def Stays (b b' : Bus) (id : Nat) : Prop :=
  ∀ s, b.find? id = some s → s.live = true →
    ∃ s', b'.find? id = some s' ∧ s'.live = true ∧ s'.topic = s.topic ∧ s.dropped ≤ s'.dropped

section Stays

variable {b b' : Bus} {id : Nat}

theorem stays_of_eq (h : b'.find? id = b.find? id) : Stays b b' id :=
  fun s found live => ⟨s, h.trans found, live, rfl, Nat.le_refl _⟩

theorem stays_modify (k : Nat) {f : Subscriber → Subscriber} (keeps : KeepsId f)
    (topic : ∀ s, (f s).topic = s.topic) (dropped : ∀ s, s.dropped ≤ (f s).dropped)
    (live : id = k → ∀ s, (f s).live = s.live) : Stays b (b.modify k f) id := by
  intro s found alive
  by_cases own : id = k
  · refine ⟨f s, ?_, (live own s).trans alive, topic s, dropped s⟩
    subst own
    exact find?_modify_self keeps found
  · exact ⟨s, (find?_modify_other keeps own).trans found, alive, rfl, Nat.le_refl _⟩

/-- The end of a dispatch removes no subscription whose receiver is there. -/
theorem find?_finish_of_live (h : b.Sound) {d : Dispatch} (busy : b.current = some d) {s : Subscriber}
    (found : b.find? id = some s) (alive : s.live = true) : (b.finish d).find? id = some s := by
  rw [find?_finish, if_neg, found]
  intro closed
  obtain ⟨topicAt, -, fits⟩ := h.fits
  have dead := (fits s (mem_of_find? found)).gone d busy (id_of_find? found ▸ closed)
  rw [alive] at dead
  cases dead

theorem stays_turn (h : b.Sound) (turn : Turn b b') : Stays b b' id := by
  cases turn with
  | finish busy ended =>
    exact fun s found alive =>
      ⟨s, find?_finish_of_live h busy found alive, alive, rfl, Nat.le_refl _⟩
  | skip => exact stays_of_eq rfl
  | deliver =>
    exact stays_modify _ (fun _ => rfl) (fun _ => rfl) (fun _ => Nat.le_refl _) fun _ _ => rfl
  | lose => exact stays_modify _ (fun _ => rfl) (fun _ => rfl) (fun _ => Nat.le_succ _) fun _ _ => rfl
  | register =>
    exact fun s found alive => ⟨s, find?_register _ _ _ found, alive, rfl, Nat.le_refl _⟩
  | start => exact stays_of_eq rfl
  | stop => exact stays_of_eq rfl

theorem find?_publish (topic : String) (payload : Bytes) :
    (b.publish topic payload).1.find? id = b.find? id := by
  rw [publish]
  split <;> rfl

theorem find?_shutdown : b.shutdown.find? id = b.find? id := by
  rw [shutdown]
  split <;> rfl

theorem stays_change {kept : List Nat} (h : b.Sound) (change : Change kept b b') (member : id ∈ kept) :
    Stays b b' id := by
  cases change with
  | turn _ turn => exact stays_turn h turn
  | publish topic payload => exact stays_of_eq (find?_publish topic payload)
  | request => exact stays_of_eq rfl
  | shutdown => exact stays_of_eq find?_shutdown
  | take _ taken =>
    obtain ⟨s, rest, -, -, rfl⟩ := take?_eq taken
    exact stays_modify _ (fun _ => rfl) (fun _ => rfl) (fun _ => Nat.le_refl _) fun _ _ => rfl
  | close other =>
    exact stays_modify _ (fun _ => rfl) (fun _ => rfl) (fun _ => Nat.le_refl _)
      fun own _ => absurd (own ▸ member) other

theorem Keeps.of_stays {kept : List Nat} (keeps : b.Keeps kept) (h : ∀ id ∈ kept, Stays b b' id) :
    b'.Keeps kept where
  live id hid := by
    obtain ⟨s, found, alive⟩ := keeps.live id hid
    obtain ⟨s', found', alive', -, -⟩ := h id hid s found alive
    exact ⟨s', found', alive'⟩
  apart id hid k hk s' t' fs' ft' same := by
    obtain ⟨s, fs, alive⟩ := keeps.live id hid
    obtain ⟨t, ft, alive'⟩ := keeps.live k hk
    obtain ⟨s'', fs'', -, topic, -⟩ := h id hid s fs alive
    obtain ⟨t'', ft'', -, topic', -⟩ := h k hk t ft alive'
    cases fs'.symm.trans fs''
    cases ft'.symm.trans ft''
    exact keeps.apart id hid k hk s t fs ft (topic.symm.trans (same.trans topic'))

theorem Keeps.lostOf_le {kept : List Nat} (keeps : b.Keeps kept) (member : id ∈ kept)
    (h : Stays b b' id) : b.lostOf id ≤ b'.lostOf id := by
  obtain ⟨s, found, alive⟩ := keeps.live id member
  obtain ⟨s', found', -, -, le⟩ := h s found alive
  rw [lostOf, lostOf, found, found']
  exact le

end Stays

/-! ### Turns of the dispatcher -/

/-- What a turn means for the subscriptions that a reader keeps. -/
inductive Effect (kept : List Nat) (b b' : Bus) : Prop where
  /-- The queues stay as they are, and at most a dispatch ends. -/
  | still (queues : ∀ id ∈ kept, b'.queueOf id = b.queueOf id) (sequence : b'.sequence = b.sequence)
      (current : b'.current = b.current ∨
        b'.current = none ∧ ∃ d, b.current = some d ∧ d.remaining = [])
      (waiting : b'.waiting = b.waiting ∨ b'.stopped = true)
  /-- An event comes next, to be offered to its topic. -/
  | start (topic : String) (payload : Bytes) (idle : b.current = none)
      (queues : ∀ id ∈ kept, b'.queueOf id = b.queueOf id)
      (sequence : b'.sequence = b.sequence + 1)
      (current : b'.current =
        some ⟨⟨topic, payload, b.sequence + 1⟩, (b.row topic).map (·.id), []⟩)
      (waiting : b.waiting = (topic, payload) :: b'.waiting)
  /-- The event is offered to one subscription, which gets it, is not kept, or loses it. -/
  | offer (e : Event) (id : Nat) (rest closed found : List Nat)
      (busy : b.current = some ⟨e, id :: rest, closed⟩)
      (current : b'.current = some ⟨e, rest, found⟩) (sequence : b'.sequence = b.sequence)
      (waiting : b'.waiting = b.waiting)
      (others : ∀ k ∈ kept, k ≠ id → b'.queueOf k = b.queueOf k)
      (own : id ∈ kept → b'.queueOf id = b.queueOf id ++ [e] ∨
        b'.queueOf id = b.queueOf id ∧ b.lostOf id < b'.lostOf id)

theorem effect_turn {kept : List Nat} {b b' : Bus} (h : b.Sound) (keeps : b.Keeps kept)
    (turn : Turn b b') : Effect kept b b' := by
  cases turn with
  | @finish d busy ended =>
    refine .still (fun id hid => ?_) rfl (.inr ⟨rfl, d, busy, ended⟩) (.inl rfl)
    obtain ⟨s, found, alive⟩ := keeps.live id hid
    exact queueOf_congr ((find?_finish_of_live h busy found alive).trans found.symm)
  | @skip e id rest closed found busy gone =>
    refine .offer e id rest closed found busy rfl rfl rfl (fun _ _ _ => rfl) fun hid => ?_
    obtain ⟨s, there, alive⟩ := keeps.live id hid
    rcases gone with ⟨missing, -⟩ | ⟨⟨t, there', dead⟩, -⟩
    · cases there.symm.trans missing
    · cases there.symm.trans there'
      rw [alive] at dead
      cases dead
  | @deliver e id rest closed s busy found live room =>
    have there : (b.deliver id e).find? id =
        some { s with queue := s.queue ++ [e], delivered := s.delivered + 1 } :=
      find?_modify_self (by exact fun _ => rfl) found
    have elsewhere (k : Nat) (other : k ≠ id) : (b.deliver id e).find? k = b.find? k :=
      find?_modify_other (by exact fun _ => rfl) other
    refine .offer e id rest closed closed busy rfl rfl rfl
      (fun k _ other => queueOf_congr (elsewhere k other)) fun _ => .inl ?_
    rw [queueOf_of_find? found]
    exact queueOf_of_find? there
  | @lose e id rest closed s busy found =>
    have own : s.id = id := id_of_find? found
    have there : (b.drop s e).1.find? id = some { s with dropped := s.dropped + 1 } := by
      subst own
      exact find?_modify_self (by exact fun _ => rfl) found
    have elsewhere (k : Nat) (other : k ≠ id) : (b.drop s e).1.find? k = b.find? k :=
      find?_modify_other (by exact fun _ => rfl) (own ▸ other)
    refine .offer e id rest closed closed busy rfl rfl rfl
      (fun k _ other => queueOf_congr (elsewhere k other)) fun _ => .inr ⟨?_, ?_⟩
    · show (b.drop s e).1.queueOf id = b.queueOf id
      rw [queueOf_of_find? found, queueOf_of_find? there]
    · rw [lostOf, lostOf, show Bus.find? { (b.drop s e).1 with current := some ⟨e, rest, closed⟩ } id =
        some { s with dropped := s.dropped + 1 } from there, found]
      exact Nat.lt_succ_self _
  | @register id name topic rest idle next =>
    have config : ({ b with inbox := rest }.register id name topic).inbox = rest := by
      rw [register]
      split <;> rfl
    refine .still (fun k hk => ?_) ?_ (.inl ?_) (.inl ?_)
    · obtain ⟨s, found, -⟩ := keeps.live k hk
      have before : Bus.find? { b with inbox := rest } k = some s := found
      exact queueOf_congr ((find?_register id name topic before).trans found.symm)
    · rw [register]
      split <;> rfl
    · rw [register]
      split <;> rfl
    · rw [waiting, waiting, config, next]
      rfl
  | @start topic payload rest idle next =>
    refine .start topic payload idle (fun _ _ => rfl) rfl rfl ?_
    rw [waiting, next]
    rfl
  | stop idle next => exact .still (fun _ _ => rfl) rfl (.inl rfl) (.inr rfl)

/-- An event that is offered to one of the kept subscriptions is offered to no other of them, since
they have other topics. -/
theorem Keeps.alone {kept : List Nat} {b : Bus} (keeps : b.Keeps kept) (h : b.Sound) {e : Event}
    {id : Nat} {rest closed : List Nat} (busy : b.current = some ⟨e, id :: rest, closed⟩) (member : id ∈ kept) :
    ∀ k ∈ kept, k ∉ rest := by
  intro k hk due
  obtain ⟨topicAt, -, fits⟩ := h.fits
  obtain ⟨s, fs, -⟩ := keeps.live id member
  obtain ⟨t, ft, -⟩ := keeps.live k hk
  have own := ((fits s (mem_of_find? fs)).due _ busy (id_of_find? fs ▸ List.mem_cons_self)).1
  have other := ((fits t (mem_of_find? ft)).due _ busy
    (id_of_find? ft ▸ List.mem_cons_of_mem id due)).1
  have same := keeps.apart id member k hk s t fs ft (own.trans other.symm)
  exact (List.nodup_cons.1 (h.current _ busy).2).1 (same ▸ due)

/-- Whatever else happens to a bus leaves the kept queues and the dispatch as they are. -/
theorem quiet_change {kept : List Nat} {b b' : Bus} (change : Change kept b b') :
    (b.stopped = false ∧ Turn b b') ∨
      (∀ id ∈ kept, b'.queueOf id = b.queueOf id) ∧ b'.sequence = b.sequence ∧
        b'.current = b.current := by
  cases change with
  | turn running turn => exact .inl ⟨running, turn⟩
  | publish topic payload =>
    refine .inr ⟨fun id _ => queueOf_congr (find?_publish topic payload), ?_, ?_⟩
    · rw [publish]
      split <;> rfl
    · rw [publish]
      split <;> rfl
  | request => exact .inr ⟨fun _ _ => rfl, rfl, rfl⟩
  | shutdown =>
    refine .inr ⟨fun id _ => queueOf_congr find?_shutdown, ?_, ?_⟩
    · rw [shutdown]
      split <;> rfl
    · rw [shutdown]
      split <;> rfl
  | @take id e _ other taken =>
    obtain ⟨s, rest, -, -, rfl⟩ := take?_eq taken
    refine .inr ⟨fun k hk => queueOf_congr ?_, rfl, rfl⟩
    exact find?_modify_other (by exact fun _ => rfl) fun same => other (same ▸ hk)
  | @close id other =>
    refine .inr ⟨fun k hk => queueOf_congr ?_, rfl, rfl⟩
    exact find?_modify_other (by exact fun _ => rfl) fun same => other (same ▸ hk)

/-! ### Taking an event -/

/-- The first event of a queue is taken, and nothing else changes for the kept queues. -/
theorem queueOf_take {b b' : Bus} {id : Nat} {e : Event} (h : b.take? id = some (e, b')) :
    b.queueOf id = e :: b'.queueOf id ∧ (∀ k, k ≠ id → b'.queueOf k = b.queueOf k) ∧
      b'.sequence = b.sequence ∧ b'.current = b.current := by
  obtain ⟨s, rest, found, first, rfl⟩ := take?_eq h
  refine ⟨?_, fun k other => queueOf_congr ?_, rfl, rfl⟩
  · have there : (b.modify id fun s => { s with queue := s.queue.tail }).find? id =
        some { s with queue := s.queue.tail } := find?_modify_self (by exact fun _ => rfl) found
    rw [queueOf_of_find? found, queueOf_of_find? there, first]
    rfl
  · exact find?_modify_other (by exact fun _ => rfl) other

theorem take?_eq_none {b : Bus} {id : Nat} : b.take? id = none ↔ b.queueOf id = [] := by
  rw [take?, queueOf]
  cases b.find? id with
  | none => simp
  | some s => cases queue : s.queue <;> simp [queue]

theorem sound_take {b b' : Bus} {id : Nat} {e : Event} (h : b.Sound)
    (taken : b.take? id = some (e, b')) : b'.Sound := by
  have change : Change [] b b' := .take List.not_mem_nil taken
  exact sound_change h change

theorem stays_take {b b' : Bus} {id k : Nat} {e : Event} (taken : b.take? id = some (e, b')) :
    Stays b b' k := by
  obtain ⟨s, rest, -, -, rfl⟩ := take?_eq taken
  exact stays_modify _ (fun _ => rfl) (fun _ => rfl) (fun _ => Nat.le_refl _) fun _ _ => rfl

end DeviceFleet.Bus
