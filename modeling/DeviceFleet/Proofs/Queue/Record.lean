import DeviceFleet.Proofs.Schema.Json
import DeviceFleet.Store.Basic

/-! The queues of a store through their records: each device has the queue that was put last
under its UDID, and an empty one before that. -/

namespace DeviceFleet

theorem QueuedCommand.lawful : schema.Lawful :=
  Schema.lawful_record
    (Fields.lawful_required_text <| Fields.lawful_required_text <|
      Fields.lawful_required_octets <| Fields.lawful_required_time Fields.lawful_done)
    (by decide) fun _ => rfl

theorem InFlight.lawful : schema.Lawful :=
  Schema.lawful_record
    (Fields.lawful_required_text <| Fields.lawful_required_time Fields.lawful_done)
    (by decide) fun _ => rfl

theorem DeviceQueue.lawful : schema.Lawful :=
  Schema.lawful_record
    (Fields.lawful_default (Schema.lawful_list QueuedCommand.lawful) (Schema.solid_list _) <|
      Fields.lawful_optional InFlight.lawful Schema.solid_record Fields.lawful_done)
    (by decide) fun _ => rfl

theorem DeviceQueue.eq_empty_of_isClear {q : DeviceQueue} (h : q.isClear = true) : q = .empty := by
  obtain ⟨commands, inFlight⟩ := q
  simp only [isClear, Bool.and_eq_true, List.isEmpty_iff, Option.isNone_iff_eq_none] at h
  obtain ⟨rfl, rfl⟩ := h
  rfl

namespace Store

theorem queue_empty (udid : String) : empty.queue udid = .ok .empty := rfl

theorem load_store {α : Type} {s : Schema α} (h : s.Lawful) (a : α) : load s (s.store a) = .ok a := by
  rw [load, Schema.load?_store h]

theorem queue_of_find? {s : Store} {udid : String} {q : DeviceQueue}
    (h : s.queues.find? udid = some (DeviceQueue.schema.store q)) : s.queue udid = .ok q := by
  rw [queue, lookup, h]
  simp only [load_store DeviceQueue.lawful]
  rfl

theorem queue_of_missing {s : Store} {udid : String} (h : s.queues.find? udid = none) :
    s.queue udid = .ok .empty := by
  rw [queue, lookup, h]
  rfl

theorem queue_congr {s t : Store} {udid : String} (h : s.queues.find? udid = t.queues.find? udid) :
    s.queue udid = t.queue udid := by
  rw [queue, queue, lookup, lookup, h]

/-- The record of a queue that is put: a clear one has none. -/
theorem find?_putQueue (s : Store) (udid other : String) (q : DeviceQueue) :
    (s.putQueue udid q).queues.find? other =
      if other = udid then if q.isClear then none else some (DeviceQueue.schema.store q)
      else s.queues.find? other := by
  rw [putQueue]
  by_cases clear : q.isClear = true
  · rw [if_pos clear, if_pos clear, Table.find?_erase]
  · rw [if_neg clear, if_neg clear, Table.find?_insert]

theorem putQueue_eq (s : Store) (udid : String) (q : DeviceQueue) :
    s.putQueue udid q = { s with queues := (s.putQueue udid q).queues } := by
  rw [putQueue]
  split <;> rfl

theorem queue_putQueue (s : Store) (udid other : String) (q : DeviceQueue) :
    (s.putQueue udid q).queue other = if other = udid then .ok q else s.queue other := by
  have record := s.find?_putQueue udid other q
  by_cases same : other = udid
  · rw [if_pos same] at record ⊢
    by_cases clear : q.isClear = true
    · rw [if_pos clear] at record
      rw [DeviceQueue.eq_empty_of_isClear clear] at record ⊢
      exact queue_of_missing record
    · rw [if_neg clear] at record
      exact queue_of_find? record
  · rw [if_neg same] at record ⊢
    exact queue_congr record

/-- A change of a queue that succeeds has put what the change gave. -/
theorem updateQueue_ok {ε ρ : Type} {s t : Store} {udid : String} {report : StoreError → ε}
    {f : DeviceQueue → Except ε (DeviceQueue × ρ)} {r : ρ}
    (h : s.updateQueue udid report f = .ok (t, r)) :
    ∃ q q', s.queue udid = .ok q ∧ f q = .ok (q', r) ∧ t = s.putQueue udid q' := by
  rw [updateQueue] at h
  split at h
  · cases h
  · split at h
    · cases h
    · rename_i q found
      cases given : f q with
      | error e =>
        simp only [given] at h
        cases h
      | ok p =>
        obtain ⟨q', r'⟩ := p
        simp only [given] at h
        cases h
        exact ⟨q, q', found, given, rfl⟩

end Store

end DeviceFleet
