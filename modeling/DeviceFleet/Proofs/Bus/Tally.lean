import DeviceFleet.Proofs.Bus.Requests

/-! The account of one subscription, and what each turn of the dispatcher does to it: what its
receiver got, what waits for it and what it is being offered come, in this order, among the events
that are due to it, and its counters add up to their number. -/

namespace DeviceFleet.Bus

open BusRequest (due topic? events)

/-- The event that a subscription is still to be offered. -/
def offering (b : Bus) (id : Nat) : List Event :=
  match b.current with
  | none => []
  | some d => if id ∈ d.remaining then [d.event] else []

/-- The account of a subscription, when the dispatcher has taken the requests `taken` and the
receiver has got the events `got`. -/
structure Tally (b : Bus) (taken : List BusRequest) (got : List Event) (id : Nat) : Prop where
  kept : (got ++ b.queueOf id ++ b.offering id).Sublist (due id 0 taken)
  room : (b.queueOf id).length ≤ b.config.room
  topic : ∀ s, b.find? id = some s → topic? id taken = some s.topic
  delivered : ∀ s, b.find? id = some s → s.live = true → s.delivered = got.length + s.queue.length
  dispatched : ∀ s, b.find? id = some s → s.live = true →
    s.delivered + s.dropped + (b.offering id).length = (due id 0 taken).length

variable {b b' : Bus} {taken : List BusRequest} {got : List Event} {id k : Nat}

theorem offering_idle (idle : b.current = none) : b.offering id = [] := by
  rw [offering, idle]

theorem offering_busy {d : Dispatch} (busy : b.current = some d) :
    b.offering id = if id ∈ d.remaining then [d.event] else [] := by
  rw [offering, busy]

section Offer

variable {e : Event} {rest closed found : List Nat}

theorem offering_first (busy : b.current = some ⟨e, id :: rest, closed⟩) : b.offering id = [e] := by
  rw [offering_busy busy, if_pos List.mem_cons_self]

/-- No subscription is offered an event twice. -/
theorem offering_after (sound : b.Sound) (busy : b.current = some ⟨e, id :: rest, closed⟩)
    (next : b'.current = some ⟨e, rest, found⟩) : b'.offering id = [] := by
  rw [offering_busy next, if_neg (List.nodup_cons.1 (sound.current _ busy).2).1]

theorem offering_other (busy : b.current = some ⟨e, id :: rest, closed⟩)
    (next : b'.current = some ⟨e, rest, found⟩) (other : k ≠ id) : b'.offering k = b.offering k := by
  rw [offering_busy busy, offering_busy next]
  simp [other]

end Offer

/-! ### Registration -/

theorem find?_register_other (name topic : String) (other : k ≠ id) :
    (b.register id name topic).find? k = b.find? k := by
  rw [register]
  split
  · rw [find?, find?, List.find?_append, List.find?_cons_of_neg (by simpa using Ne.symm other),
      List.find?_nil, Option.or_none]
  · rfl

theorem find?_register_new (name topic : String) (missing : b.find? id = none) :
    (b.register id name topic).find? id = some ⟨id, name, topic, [], true, 0, 0⟩ ∨
      (b.register id name topic).find? id = none := by
  rw [register]
  split
  · refine .inl ?_
    rw [find?, List.find?_append, show b.table.find? _ = none from missing]
    simp
  · exact .inr missing

/-- Registration changes nothing but the table. -/
theorem register_frame (b : Bus) (id : Nat) (name topic : String) :
    (b.register id name topic).config = b.config ∧ (b.register id name topic).inbox = b.inbox ∧
      (b.register id name topic).current = b.current ∧
      (b.register id name topic).sequence = b.sequence ∧
      (b.register id name topic).nextId = b.nextId := by
  rw [register]
  split <;> exact ⟨rfl, rfl, rfl, rfl, rfl⟩

namespace Tally

theorem of_find? {s : Subscriber} (found : b.find? id = some s)
    (kept : (got ++ s.queue ++ b.offering id).Sublist (due id 0 taken))
    (room : s.queue.length ≤ b.config.room) (topic : topic? id taken = some s.topic)
    (delivered : s.live = true → s.delivered = got.length + s.queue.length)
    (dispatched : s.live = true →
      s.delivered + s.dropped + (b.offering id).length = (due id 0 taken).length) :
    b.Tally taken got id := by
  refine ⟨by rwa [queueOf_of_find? found], by rwa [queueOf_of_find? found], ?_, ?_, ?_⟩ <;>
    · intro t ht
      cases found.symm.trans ht
      assumption

theorem same (h : b.Tally taken got id) (found : b'.find? id = b.find? id)
    (offer : b'.offering id = b.offering id) (config : b'.config = b.config) :
    b'.Tally taken got id where
  kept := by
    rw [queueOf_congr found, offer]
    exact h.kept
  room := by
    rw [queueOf_congr found, config]
    exact h.room
  topic s hs := h.topic s (found ▸ hs)
  delivered s hs := h.delivered s (found ▸ hs)
  dispatched s hs alive := by
    rw [offer]
    exact h.dispatched s (found ▸ hs) alive

/-- A subscription without a receiver gets nothing more, whether it stays in the table or not. -/
theorem dead (h : b.Tally taken got id) (queue : (b'.queueOf id).Sublist (b.queueOf id))
    (offer : (b'.offering id).Sublist (b.offering id)) (config : b'.config = b.config)
    (dead : ∀ s, b'.find? id = some s → s.live = false ∧ ∃ t, b.find? id = some t ∧ t.topic = s.topic) :
    b'.Tally taken got id where
  kept := ((queue.append_left got).append offer).trans h.kept
  room := config ▸ Nat.le_trans queue.length_le h.room
  topic s hs := by
    obtain ⟨-, t, found, same⟩ := dead s hs
    exact same ▸ h.topic t found
  delivered s hs alive := by
    rw [(dead s hs).1] at alive
    cases alive
  dispatched s hs alive := by
    rw [(dead s hs).1] at alive
    cases alive

/-! ### The end of a dispatch and its steps -/

theorem finish (h : b.Tally taken got id) {d : Dispatch} (busy : b.current = some d)
    (ended : d.remaining = []) : (b.finish d).Tally taken got id := by
  have before : b.offering id = [] := by
    rw [offering_busy busy, ended, if_neg List.not_mem_nil]
  have after : (b.finish d).offering id = [] := offering_idle rfl
  have stays := find?_finish b d id
  by_cases closed : id ∈ d.closed
  · rw [if_pos closed] at stays
    have empty : (b.finish d).queueOf id = [] := by
      rw [queueOf, stays]
      rfl
    refine h.dead (empty ▸ List.nil_sublist _) (after ▸ List.nil_sublist _) rfl fun s hs => ?_
    rw [stays] at hs
    cases hs
  · rw [if_neg closed] at stays
    exact h.same stays (after.trans before.symm) rfl

variable {e : Event} {rest closed found : List Nat} {s : Subscriber}

theorem skip (h : b.Tally taken got k) (sound : b.Sound)
    (busy : b.current = some ⟨e, id :: rest, closed⟩)
    (gone : ∀ s, b.find? id = some s → s.live = false) :
    Tally { b with current := some ⟨e, rest, found⟩ } taken got k := by
  by_cases own : k = id
  · subst own
    have after : offering { b with current := some ⟨e, rest, found⟩ } k = [] :=
      offering_after sound busy rfl
    refine h.dead (.refl _) (after ▸ List.nil_sublist _) rfl fun s hs => ?_
    exact ⟨gone s hs, s, hs, rfl⟩
  · exact h.same rfl (offering_other busy rfl own) rfl

theorem deliver (h : b.Tally taken got k) (sound : b.Sound)
    (busy : b.current = some ⟨e, id :: rest, closed⟩) (there : b.find? id = some s)
    (live : s.live = true) (room : b.hasRoom s = true) :
    Tally { b.deliver id e with current := some ⟨e, rest, closed⟩ } taken got k := by
  have keeps : KeepsId fun s => { s with queue := s.queue ++ [e], delivered := s.delivered + 1 } :=
    fun _ => rfl
  by_cases own : k = id
  · subst own
    have now : find? { b.deliver k e with current := some ⟨e, rest, closed⟩ } k =
        some { s with queue := s.queue ++ [e], delivered := s.delivered + 1 } :=
      find?_modify_self keeps there
    have before := offering_first busy
    have after : offering { b.deliver k e with current := some ⟨e, rest, closed⟩ } k = [] :=
      offering_after sound busy rfl
    have kept := h.kept
    have delivered := h.delivered s there live
    have dispatched := h.dispatched s there live
    rw [queueOf_of_find? there, before] at kept
    rw [before] at dispatched
    refine of_find? now ?_ ?_ (h.topic s there) (fun _ => ?_) fun _ => ?_
    · rw [after, List.append_nil, ← List.append_assoc]
      exact kept
    · rw [List.length_append]
      exact of_decide_eq_true room
    · simp only [List.length_append, List.length_singleton]
      omega
    · rw [after]
      simp only [List.length_singleton, List.length_nil] at *
      omega
  · exact h.same (find?_modify_other keeps own) (offering_other busy rfl own) rfl

theorem lose (h : b.Tally taken got k) (sound : b.Sound)
    (busy : b.current = some ⟨e, id :: rest, closed⟩) (there : b.find? id = some s) :
    Tally { (b.drop s e).1 with current := some ⟨e, rest, closed⟩ } taken got k := by
  have keeps : KeepsId fun s => { s with dropped := s.dropped + 1 } := fun _ => rfl
  have named : s.id = id := id_of_find? there
  by_cases own : k = id
  · subst named own
    have now : find? { (b.drop s e).1 with current := some ⟨e, rest, closed⟩ } s.id =
        some { s with dropped := s.dropped + 1 } := find?_modify_self keeps there
    have before := offering_first busy
    have after : offering { (b.drop s e).1 with current := some ⟨e, rest, closed⟩ } s.id = [] :=
      offering_after sound busy rfl
    have kept := h.kept
    have room := h.room
    rw [queueOf_of_find? there] at kept room
    refine of_find? now ?_ room (h.topic s there) (h.delivered s there) fun live => ?_
    · rw [after]
      exact (List.Sublist.append_left (List.nil_sublist _) _).trans kept
    · have dispatched := h.dispatched s there live
      rw [before] at dispatched
      rw [after]
      simp only [List.length_singleton, List.length_nil] at *
      omega
  · exact h.same (find?_modify_other keeps (named ▸ own)) (offering_other busy rfl own) rfl

/-! ### Requests -/

variable {name topic : String} {payload : Bytes}

theorem silent (h : b.Tally taken got id) {r : BusRequest} (silent : ∀ n, events n [r] = []) :
    b.Tally (taken ++ [r]) got id := by
  have same : due id 0 (taken ++ [r]) = due id 0 taken := BusRequest.due_append_silent silent
  constructor
  · rw [same]
    exact h.kept
  · exact h.room
  · intro s hs
    rw [BusRequest.topic?_append, h.topic s hs]
    rfl
  · exact h.delivered
  · rw [same]
    exact h.dispatched

/-- A subscription that was not asked for before is registered with nothing due to it, or is
refused. -/
theorem register (h : b.Tally taken got k) (idle : b.current = none)
    (fresh : topic? id taken = none) :
    (b.register id name topic).Tally (taken ++ [.subscribe id name topic]) got k := by
  have silent : ∀ n, events n [.subscribe id name topic] = [] := fun _ => rfl
  have before : b.offering k = [] := offering_idle idle
  obtain ⟨config, -, current, -⟩ := register_frame b id name topic
  have after : (b.register id name topic).offering k = [] := offering_idle (current.trans idle)
  by_cases own : k = id
  · subst own
    have missing : b.find? k = none := by
      cases there : b.find? k with
      | none => rfl
      | some s =>
        have asked := h.topic s there
        rw [fresh] at asked
        cases asked
    have nothing : due k 0 (taken ++ [.subscribe k name topic]) = [] := by
      rw [BusRequest.due_append_silent silent, BusRequest.due_of_unasked fresh]
    have ungot := (h.silent silent).kept
    rw [nothing, List.sublist_nil, List.append_eq_nil_iff, List.append_eq_nil_iff] at ungot
    obtain ⟨⟨rfl, -⟩, -⟩ := ungot
    rcases find?_register_new name topic missing with there | refused
    · refine of_find? there ?_ (Nat.zero_le _) ?_ (fun _ => rfl) fun _ => ?_
      · rw [after]
        exact List.nil_sublist _
      · rw [BusRequest.topic?_append, fresh, topic?, if_pos rfl]
        rfl
      · rw [nothing, after]
        rfl
    · exact (h.silent silent).same (refused.trans missing.symm) (after.trans before.symm) config
  · exact (h.silent silent).same (find?_register_other name topic own) (after.trans before.symm) config

/-- An event comes next, and is due to the subscriptions of its topic. -/
theorem start (h : b.Tally taken got id) (sound : b.Sound) (idle : b.current = none)
    (unstopped : .shutdown ∉ taken) (sequence : b.sequence = (events 0 taken).length) :
    (b.beginDispatch topic payload).Tally (taken ++ [.publish topic payload]) got id := by
  have offer : (b.beginDispatch topic payload).offering id =
      if id ∈ (b.row topic).map (·.id) then [⟨topic, payload, b.sequence + 1⟩] else [] := rfl
  have kept := h.kept
  rw [offering_idle idle, List.append_nil] at kept
  cases there : b.find? id with
  | none =>
    rw [if_neg (not_mem_row there topic)] at offer
    refine ⟨?_, h.room, fun s hs => ?_, h.delivered, fun s hs => ?_⟩
    · rw [offer, List.append_nil]
      exact kept.trans BusRequest.due_prefix.sublist
    · cases there.symm.trans hs
    · cases there.symm.trans hs
  | some s =>
    have more : due id 0 (taken ++ [.publish topic payload]) = due id 0 taken ++
        (b.beginDispatch topic payload).offering id := by
      rw [BusRequest.due_append (h.topic s there) unstopped, offer, Nat.zero_add, ← sequence]
      by_cases topics : s.topic = topic
      · rw [if_pos ((mem_row sound there topic).2 topics)]
        simp [events, topics]
      · rw [if_neg fun row => topics ((mem_row sound there topic).1 row)]
        simp [events, Ne.symm topics]
    refine ⟨?_, h.room, fun t ht => ?_, h.delivered, fun t ht alive => ?_⟩
    · rw [more]
      exact kept.append_right _
    · rw [BusRequest.topic?_append, h.topic t ht]
      rfl
    · have dispatched := h.dispatched t ht alive
      rw [offering_idle idle, List.length_nil] at dispatched
      rw [more, List.length_append]
      omega

/-! ### Receivers -/

theorem take (h : b.Tally taken got id) {e : Event} (took : b.take? id = some (e, b')) :
    b'.Tally taken (got ++ [e]) id := by
  obtain ⟨s, rest, there, queue, rfl⟩ := take?_eq took
  have now : (b.modify id fun s => { s with queue := s.queue.tail }).find? id =
      some { s with queue := s.queue.tail } := find?_modify_self (by exact fun _ => rfl) there
  have kept := h.kept
  have room := h.room
  rw [queueOf_of_find? there, queue] at kept room
  refine of_find? now ?_ ?_ (h.topic s there) (fun live => ?_) (h.dispatched s there)
  · rw [queue, List.append_assoc got]
    exact kept
  · rw [queue]
    exact Nat.le_of_succ_le room
  · have delivered := h.delivered s there live
    rw [queue, List.length_cons] at delivered
    simp only [queue, List.length_append, List.length_singleton, List.tail_cons]
    omega

theorem close (h : b.Tally taken got id) : (b.close id).Tally taken got id := by
  cases there : b.find? id with
  | none =>
    have now : (b.close id).find? id = none := by
      rw [Bus.close, find?_modify b id id (by exact fun _ => rfl), if_pos rfl, there]
      rfl
    exact h.same (now.trans there.symm) rfl rfl
  | some s =>
    have now : (b.close id).find? id = some { s with live := false, queue := [] } :=
      find?_modify_self (by exact fun _ => rfl) there
    refine h.dead ?_ (.refl _) rfl fun t ht => ?_
    · rw [queueOf_of_find? now]
      exact List.nil_sublist _
    · cases now.symm.trans ht
      exact ⟨rfl, s, there, rfl⟩

end Tally

end DeviceFleet.Bus
