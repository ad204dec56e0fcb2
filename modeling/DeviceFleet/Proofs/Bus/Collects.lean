import DeviceFleet.Proofs.Bus.Line

/-! A consumer of one topic. As long as nothing is lost for it, what was published on the topic is
what the consumer has taken, then what waits in its queue, then what has not been offered to it. -/

namespace DeviceFleet.Bus

/-- How the consumer with the subscription `id` stands to the bus, when `taken` are the events that
it has taken. -/
structure Collects (b : Bus) (id : Nat) (topic : String) (published : List (String × Bytes))
    (taken : List Event) : Prop where
  sound : b.Sound
  unclosed : b.Open
  listens : b.Listens [(id, topic)] published (taken ++ b.queueOf id)

/-- What was published on the topic and has not been taken. -/
def untaken (b : Bus) (id : Nat) (topic : String) : List (String × Bytes) :=
  (b.queueOf id).map Event.content ++ b.line [(id, topic)]

/-- A turn of the dispatcher adds to a queue what came into it. -/
theorem queueOf_turn {b b' : Bus} {id : Nat} {s : Subscriber} (sound : b.Sound)
    (found : b.find? id = some s) (live : s.live = true) (turn : Turn b b') :
    b'.queueOf id = b.queueOf id ++ arrivals [id] b b' := by
  have keeps : b.Keeps [id] := by
    refine ⟨fun k hk => ?_, fun k hk l hl _ _ _ _ _ => ?_⟩
    · exact List.mem_singleton.1 hk ▸ ⟨s, found, live⟩
    · exact (List.mem_singleton.1 hk).trans (List.mem_singleton.1 hl).symm
  have same (queue : b'.queueOf id = b.queueOf id) :
      b'.queueOf id = b.queueOf id ++ arrivals [id] b b' := by
    rw [arrivals_of_same (by simpa using queue), queue, List.append_nil]
  cases effect_turn sound keeps turn with
  | still queues => exact same (queues id List.mem_cons_self)
  | start _ _ _ queues => exact same (queues id List.mem_cons_self)
  | offer e k rest closed found busy current sequence waits others own =>
    by_cases here : id = k
    · subst here
      rcases own List.mem_cons_self with gets | ⟨queue, -⟩
      · rw [(arrivals_of_gain (List.nodup_singleton id) List.mem_cons_self others gets).1, gets]
      · exact same queue
    · exact same (others id List.mem_cons_self here)

namespace Collects

variable {b b' : Bus} {id : Nat} {topic : String} {published : List (String × Bytes)}
  {taken : List Event}

theorem live (h : b.Collects id topic published taken) :
    ∃ s, b.find? id = some s ∧ s.live = true ∧ s.topic = topic :=
  h.listens.follows (id, topic) List.mem_cons_self

/-- What was published is what was taken, then the rest. -/
theorem accounts (h : b.Collects id topic published taken) (lossless : b.lostOf id = 0) :
    published.filter (fun p => decide (p.1 = topic)) =
      taken.map Event.content ++ b.untaken id topic := by
  have all := h.listens.accounts (by simpa using lossless)
  simp only [List.map_cons, List.map_nil, List.mem_singleton] at all
  rw [all, untaken, List.map_append, List.append_assoc]

theorem lossless (h : b.Collects id topic published taken) (stays : Stays b b' id)
    (after : b'.lostOf id = 0) : b.lostOf id = 0 := by
  obtain ⟨s, found, live, -⟩ := h.live
  obtain ⟨s', found', -, -, le⟩ := stays s found live
  rw [lostOf, found'] at after
  rw [lostOf, found]
  exact Nat.le_zero.1 (after ▸ le)

theorem turn (h : b.Collects id topic published taken) (turn : Turn b b') :
    b'.Collects id topic published taken := by
  obtain ⟨s, found, live, -⟩ := h.live
  have unclosed := h.unclosed.turn turn
  refine ⟨sound_turn h.sound turn, unclosed, ?_⟩
  rw [queueOf_turn h.sound found live turn, ← List.append_assoc]
  exact h.listens.turn h.sound (List.nodup_singleton _) (List.nodup_singleton _) unclosed.running turn

theorem publish (h : b.Collects id topic published taken) (other : String) (payload : Bytes) :
    (b.publish other payload).1.Collects id topic (published ++ [(other, payload)]) taken where
  sound := by
    have change : Change [] b (b.publish other payload).1 := .publish other payload
    exact sound_change h.sound change
  unclosed := h.unclosed.publish other payload
  listens := by
    rw [queueOf_congr (find?_publish other payload)]
    exact h.listens.publish h.unclosed.running other payload

variable {e : Event}

theorem take (h : b.Collects id topic published taken) (took : b.take? id = some (e, b')) :
    b'.Collects id topic published (taken ++ [e]) where
  sound := sound_take h.sound took
  unclosed := h.unclosed.take took
  listens := by
    have listens := h.listens.take (List.nodup_singleton _) took
    rw [(queueOf_take took).1] at listens
    rw [List.append_assoc]
    exact listens

theorem other (h : b.Collects id topic published taken) {k : Nat} (other : k ≠ id)
    (took : b.take? k = some (e, b')) : b'.Collects id topic published taken where
  sound := sound_take h.sound took
  unclosed := h.unclosed.take took
  listens := by
    rw [(queueOf_take took).2.1 id other.symm]
    exact h.listens.take (List.nodup_singleton _) took

end Collects

end DeviceFleet.Bus
