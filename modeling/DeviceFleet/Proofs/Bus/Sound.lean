import Mathlib.Data.List.Nodup
import DeviceFleet.Proofs.Bus.Changes

/-! The invariant of a bus, which every change keeps. -/

namespace DeviceFleet

def BusRequest.ids : BusRequest → List Nat
  | subscribe id _ _ => [id]
  | _ => []

namespace Bus

/-- The identifiers of the subscriptions, also of those that are still asked for. -/
def taken (b : Bus) : List Nat := b.table.map (·.id) ++ b.inbox.flatMap BusRequest.ids

/-- How a subscription agrees with the number of events and the present dispatch; `topicAt` gives
the topic of the event in each place of the order. -/
structure Fits (topicAt : Nat → String) (count : Nat) (current : Option Dispatch)
    (s : Subscriber) : Prop where
  ascending : s.queue.Pairwise (·.sequence < ·.sequence)
  dispatched : ∀ e ∈ s.queue, e.sequence ≤ count ∧ e.topic = s.topic ∧ e.topic = topicAt e.sequence
  due : ∀ d, current = some d → s.id ∈ d.remaining →
    s.topic = d.event.topic ∧ ∀ e ∈ s.queue, e.sequence < d.event.sequence
  gone : ∀ d, current = some d → s.id ∈ d.closed → s.live = false

structure Sound (b : Bus) : Prop where
  nodup : b.taken.Nodup
  below : ∀ id ∈ b.taken, id < b.nextId
  current : ∀ d, b.current = some d → d.event.sequence = b.sequence ∧ d.remaining.Nodup
  fits : ∃ topicAt, (∀ d, b.current = some d → d.event.topic = topicAt d.event.sequence) ∧
    ∀ s ∈ b.table, Fits topicAt b.sequence b.current s

theorem sound_new (config : BusConfig) : (new config).Sound where
  nodup := List.nodup_nil
  below := nofun
  current := nofun
  fits := ⟨fun _ => "", nofun, nofun⟩

/-! ### Queues that lose or gain events -/

section Fits

variable {topicAt : Nat → String} {count : Nat} {current : Option Dispatch} {s : Subscriber}

/-- A queue that loses events still fits, whatever else changes. -/
theorem Fits.sublist (h : Fits topicAt count current s) {t : Subscriber} (id : t.id = s.id)
    (topic : t.topic = s.topic) (live : s.live = false → t.live = false)
    (queue : t.queue.Sublist s.queue) : Fits topicAt count current t where
  ascending := h.ascending.sublist queue
  dispatched e he := by
    rw [topic]
    exact h.dispatched e (queue.subset he)
  due d hd hid := by
    rw [topic]
    obtain ⟨same, later⟩ := h.due d hd (id ▸ hid)
    exact ⟨same, fun e he => later e (queue.subset he)⟩
  gone d hd hid := live (h.gone d hd (id ▸ hid))

theorem Fits.next {e : Event} {id : Nat} {rest closed found : List Nat}
    (h : Fits topicAt count (some ⟨e, id :: rest, closed⟩) s)
    (gone : s.id ∈ found → s.id ∈ closed ∨ s.live = false) :
    Fits topicAt count (some ⟨e, rest, found⟩) s where
  ascending := h.ascending
  dispatched := h.dispatched
  due d hd hid := by
    cases hd
    exact h.due ⟨e, id :: rest, closed⟩ rfl (List.mem_cons_of_mem id hid)
  gone d hd hid := by
    cases hd
    exact (gone hid).elim (h.gone ⟨e, id :: rest, closed⟩ rfl) fun live => live

theorem Fits.idle (h : Fits topicAt count current s) : Fits topicAt count none s where
  ascending := h.ascending
  dispatched := h.dispatched
  due := nofun
  gone := nofun

end Fits

/-! ### Changes keep the invariant -/

section Changes

variable {b b' : Bus}

theorem Sound.nodup_table (h : b.Sound) : (b.table.map (·.id)).Nodup :=
  (List.nodup_append.1 h.nodup).1

theorem Sound.unique (h : b.Sound) {s t : Subscriber} (hs : s ∈ b.table) (ht : t ∈ b.table)
    (same : s.id = t.id) : s = t :=
  List.inj_on_of_nodup_map h.nodup_table hs ht same

theorem Sound.find?_of_mem (h : b.Sound) {s : Subscriber} (member : s ∈ b.table) :
    b.find? s.id = some s := by
  cases found : b.find? s.id with
  | none => exact absurd (decide_eq_true rfl) (List.find?_eq_none.1 found s member)
  | some t => rw [h.unique (mem_of_find? found) member (id_of_find? found)]

/-- A subscription that still waits in the inbox is not in the table. -/
theorem Sound.find?_first (h : b.Sound) {id : Nat} {name topic : String} {rest : List BusRequest}
    (first : b.inbox = .subscribe id name topic :: rest) : b.find? id = none := by
  have nodup := h.nodup
  rw [taken, first, List.flatMap_cons] at nodup
  cases there : b.find? id with
  | none => rfl
  | some s =>
    have listed : id ∈ b.table.map (·.id) :=
      List.mem_map.2 ⟨s, mem_of_find? there, id_of_find? there⟩
    exact absurd rfl ((List.nodup_append.1 nodup).2.2 id listed id List.mem_cons_self)

/-- A bus with the same subscriptions, fewer requests and the same or no dispatch. -/
theorem Sound.fewer (h : b.Sound) (table : b'.table = b.table)
    (inbox : (b'.inbox.flatMap BusRequest.ids).Sublist (b.inbox.flatMap BusRequest.ids))
    (nextId : b'.nextId = b.nextId) (sequence : b'.sequence = b.sequence)
    (current : b'.current = b.current) : b'.Sound where
  nodup := by
    rw [taken, table]
    exact h.nodup.sublist (inbox.append_left _)
  below id hid := by
    rw [taken, table] at hid
    rw [nextId]
    exact h.below id ((inbox.append_left _).subset hid)
  current d hd := by
    rw [sequence]
    exact h.current d (current ▸ hd)
  fits := by
    rw [table, sequence, current]
    exact h.fits

theorem Sound.modify (h : b.Sound) (id : Nat) {f : Subscriber → Subscriber} (keeps : KeepsId f)
    (topic : ∀ s, (f s).topic = s.topic) (live : ∀ s, s.live = false → (f s).live = false)
    (queue : ∀ s, (f s).queue.Sublist s.queue) : (b.modify id f).Sound where
  nodup := by
    rw [taken, map_id_modify b id keeps]
    exact h.nodup
  below k hk := by
    rw [taken, map_id_modify b id keeps] at hk
    exact h.below k hk
  current := h.current
  fits := by
    obtain ⟨topicAt, present, fits⟩ := h.fits
    refine ⟨topicAt, present, fun s hs => ?_⟩
    obtain ⟨t, ht, rfl⟩ := mem_modify hs
    split
    · exact (fits t ht).sublist (keeps t) (topic t) (live t) (queue t)
    · exact fits t ht

theorem Sound.next {e : Event} {id : Nat} {rest closed found : List Nat} (h : b.Sound)
    (busy : b.current = some ⟨e, id :: rest, closed⟩)
    (gone : ∀ s ∈ b.table, s.id ∈ found → s.id ∈ closed ∨ s.live = false) :
    Sound { b with current := some ⟨e, rest, found⟩ } where
  nodup := h.nodup
  below := h.below
  current d hd := by
    cases hd
    obtain ⟨same, distinct⟩ := h.current _ busy
    exact ⟨same, (List.nodup_cons.1 distinct).2⟩
  fits := by
    obtain ⟨topicAt, present, fits⟩ := h.fits
    refine ⟨topicAt, ?_, fun s hs => ?_⟩
    · intro d hd
      cases hd
      exact present ⟨e, id :: rest, closed⟩ busy
    · have before := fits s hs
      rw [busy] at before
      exact before.next (gone s hs)

theorem sound_deliver {e : Event} {id : Nat} {rest closed : List Nat} (h : b.Sound)
    (busy : b.current = some ⟨e, id :: rest, closed⟩) :
    Sound { b.deliver id e with current := some ⟨e, rest, closed⟩ } := by
  have keeps : KeepsId fun s => { s with queue := s.queue ++ [e], delivered := s.delivered + 1 } :=
    fun _ => rfl
  obtain ⟨same, distinct⟩ := h.current _ busy
  refine ⟨?_, ?_, ?_, ?_⟩
  · show ((b.deliver id e).table.map (·.id) ++ b.inbox.flatMap BusRequest.ids).Nodup
    rw [deliver, map_id_modify b id keeps]
    exact h.nodup
  · intro k hk
    have hk' : k ∈ (b.deliver id e).table.map (·.id) ++ b.inbox.flatMap BusRequest.ids := hk
    rw [deliver, map_id_modify b id keeps] at hk'
    exact h.below k hk'
  · intro d hd
    cases hd
    exact ⟨same, (List.nodup_cons.1 distinct).2⟩
  · obtain ⟨topicAt, present, fits⟩ := h.fits
    refine ⟨topicAt, ?_, fun s hs => ?_⟩
    · intro d hd
      cases hd
      exact present ⟨e, id :: rest, closed⟩ busy
    · obtain ⟨t, ht, rfl⟩ := mem_modify hs
      have before := fits t ht
      rw [busy] at before
      split
      · rename_i here
        obtain ⟨topic, later⟩ := before.due _ rfl (here ▸ List.mem_cons_self)
        constructor
        · refine List.pairwise_append.2 ⟨before.ascending, List.pairwise_singleton _ _, ?_⟩
          intro x hx y hy
          rw [List.mem_singleton.1 hy]
          exact later x hx
        · intro x hx
          rcases List.mem_append.1 hx with hx | hx
          · exact before.dispatched x hx
          · rw [List.mem_singleton.1 hx]
            exact ⟨Nat.le_of_eq same, topic.symm, present _ busy⟩
        · intro d hd hid
          cases hd
          exact absurd (here ▸ hid) (List.nodup_cons.1 distinct).1
        · intro d hd hid
          cases hd
          exact before.gone _ rfl hid
      · exact before.next fun hid => .inl hid

theorem sound_start {topic : String} {payload : Bytes} {rest : List BusRequest} (h : b.Sound)
    (next : b.inbox = .publish topic payload :: rest) :
    ({ b with inbox := rest }.beginDispatch topic payload).Sound where
  nodup := by
    have before := h.nodup
    rw [taken, next] at before
    exact before
  below id hid := by
    apply h.below id
    rw [taken, next]
    exact hid
  current d hd := by
    cases hd
    exact ⟨rfl, h.nodup_table.sublist (List.filter_sublist.map _)⟩
  fits := by
    obtain ⟨topicAt, -, fits⟩ := h.fits
    refine ⟨fun n => if n = b.sequence + 1 then topic else topicAt n, ?_, fun s hs => ?_⟩
    · intro d hd
      cases hd
      exact (if_pos rfl).symm
    · have before := fits s hs
      constructor
      · exact before.ascending
      · intro e he
        obtain ⟨le, own, at_⟩ := before.dispatched e he
        have differs : e.sequence ≠ b.sequence + 1 := by omega
        refine ⟨Nat.le_succ_of_le le, own, ?_⟩
        rw [if_neg differs]
        exact at_
      · intro d hd hid
        cases hd
        obtain ⟨t, ht, same⟩ := List.mem_map.1 hid
        obtain ⟨member, topics⟩ := List.mem_filter.1 ht
        rw [← h.unique member hs same]
        refine ⟨by simpa using topics, fun e he => ?_⟩
        rw [h.unique member hs same] at he
        exact Nat.lt_succ_of_le (before.dispatched e he).1
      · intro d hd hid
        cases hd
        cases hid

theorem sound_register {id : Nat} {name topic : String} {rest : List BusRequest} (h : b.Sound)
    (idle : b.current = none) (next : b.inbox = .subscribe id name topic :: rest) :
    ({ b with inbox := rest }.register id name topic).Sound := by
  have nodup := h.nodup
  have below := h.below
  rw [taken, next, List.flatMap_cons] at nodup below
  rw [register]
  split
  · have same : (b.table ++ [(⟨id, name, topic, [], true, 0, 0⟩ : Subscriber)]).map (·.id) ++
        rest.flatMap BusRequest.ids = b.table.map (·.id) ++ ([id] ++ rest.flatMap BusRequest.ids) := by
      rw [List.map_append, List.append_assoc]
      rfl
    refine ⟨?_, ?_, ?_, ?_⟩
    · rw [taken, same]
      exact nodup
    · rw [taken, same]
      exact below
    · intro d hd
      rw [show b.current = some d from hd] at idle
      cases idle
    · obtain ⟨topicAt, -, fits⟩ := h.fits
      refine ⟨topicAt, ?_, fun s hs => ?_⟩
      · intro d hd
        rw [show b.current = some d from hd] at idle
        cases idle
      · rcases List.mem_append.1 hs with hs | hs
        · exact fits s hs
        · rw [List.mem_singleton.1 hs]
          show Fits topicAt b.sequence b.current _
          rw [idle]
          refine ⟨.nil, ?_, ?_, ?_⟩
          · intro e he
            cases he
          · intro d hd
            cases hd
          · intro d hd
            cases hd
  · refine h.fewer rfl ?_ rfl rfl rfl
    rw [next, List.flatMap_cons]
    exact List.sublist_append_right _ _

theorem sound_finish (h : b.Sound) (d : Dispatch) : (b.finish d).Sound where
  nodup := h.nodup.sublist (List.Sublist.append_right (List.filter_sublist.map _) _)
  below id hid :=
    h.below id ((List.Sublist.append_right (List.filter_sublist.map _) _).subset hid)
  current := nofun
  fits := by
    obtain ⟨topicAt, -, fits⟩ := h.fits
    exact ⟨topicAt, nofun, fun s hs => (fits s (List.mem_filter.1 hs).1).idle⟩

theorem sound_turn (h : b.Sound) (turn : Turn b b') : b'.Sound := by
  cases turn with
  | finish => exact sound_finish h _
  | skip busy gone =>
    apply h.next busy
    intro s hs hid
    rcases gone with ⟨-, rfl⟩ | ⟨⟨t, found, dead⟩, rfl⟩
    · exact .inl hid
    · rcases List.mem_append.1 hid with hid | hid
      · exact .inl hid
      · refine .inr ?_
        have same : s.id = t.id := (List.mem_singleton.1 hid).trans (id_of_find? found).symm
        rw [h.unique hs (mem_of_find? found) same]
        exact dead
  | deliver busy => exact sound_deliver h busy
  | @lose e id rest closed s busy found =>
    have lost := h.modify s.id (f := fun s => { s with dropped := s.dropped + 1 }) (fun _ => rfl)
      (fun _ => rfl) (fun _ live => live) fun _ => .refl _
    exact lost.next busy fun s _ hid => .inl hid
  | register idle next => exact sound_register h idle next
  | start idle next => exact sound_start h next
  | stop idle next => exact h.fewer rfl (List.nil_sublist _) rfl rfl rfl

theorem sound_change {kept : List Nat} (h : b.Sound) (change : Change kept b b') : b'.Sound := by
  cases change with
  | turn _ turn => exact sound_turn h turn
  | publish topic payload =>
    rw [publish]
    split
    · exact h
    · refine h.fewer rfl ?_ rfl rfl rfl
      rw [List.flatMap_append]
      exact List.append_nil _ ▸ List.Sublist.refl _
  | request _ name topic =>
    have same : (b.request name topic).1.taken = b.taken ++ [b.nextId] := by
      rw [request, taken, taken, List.flatMap_append, ← List.append_assoc]
      rfl
    refine ⟨?_, ?_, h.current, h.fits⟩
    · rw [same]
      refine List.nodup_append.2 ⟨h.nodup, List.nodup_singleton _, fun x hx y hy => ?_⟩
      rw [List.mem_singleton.1 hy]
      exact Nat.ne_of_lt (h.below x hx)
    · intro id hid
      rw [same] at hid
      rcases List.mem_append.1 hid with hid | hid
      · exact Nat.lt_succ_of_lt (h.below id hid)
      · rw [List.mem_singleton.1 hid]
        exact Nat.lt_succ_self _
  | shutdown =>
    rw [shutdown]
    split
    · exact h
    · refine h.fewer rfl ?_ rfl rfl rfl
      rw [List.flatMap_append]
      exact List.append_nil _ ▸ List.Sublist.refl _
  | take _ taken =>
    obtain ⟨s, rest, -, -, rfl⟩ := take?_eq taken
    exact h.modify _ (fun _ => rfl) (fun _ => rfl) (fun _ live => live) fun s => s.queue.tail_sublist
  | close =>
    exact h.modify _ (fun _ => rfl) (fun _ => rfl) (fun _ _ => rfl) fun s => List.nil_sublist _

theorem sound_of_leads {kept : List Nat} {config : BusConfig} (h : Leads kept (new config) b) :
    b.Sound := by
  induction h with
  | refl => exact sound_new config
  | tail _ change ih => exact sound_change ih change

end Changes

end Bus

end DeviceFleet
