import DeviceFleet.Proofs.Fleet.Notices
import DeviceFleet.Proofs.Queue.WellFormed
import DeviceFleet.Proofs.Text.Order

/-! Recovery after a restart. The devices that wait for a command are just those with a record among
the queues, so each of them is woken once and no other is, whatever the tries before it gave. -/

namespace DeviceFleet

/-! ### The devices that wait -/

namespace Table

variable {α : Type} (t : Table α)

theorem names_pairwise : t.names.Pairwise fun a b => Text.encode a < Text.encode b := by
  rw [names, List.pairwise_map]
  exact t.ascending.imp Text.encode_lt

theorem names_nodup : t.names.Nodup := by
  refine t.names_pairwise.imp ?_
  rintro a _ less rfl
  exact List.lt_irrefl _ less

theorem mem_names_iff {name : String} : name ∈ t.names ↔ t.find? name ≠ none := by
  constructor
  · intro listed
    obtain ⟨⟨_, value⟩, member, rfl⟩ := List.mem_map.1 listed
    rw [find?, Named.find?_of_mem t.ascending member]
    exact Option.some_ne_none value
  · intro found
    obtain ⟨value, found⟩ := Option.ne_none_iff_exists'.1 found
    exact List.mem_map_of_mem (Named.mem_of_find? found)

end Table

/-- A device waits just if its queue has a record. -/
theorem Store.WellFormed.mem_names_iff {s : Store} (h : s.WellFormed) (udid : String) :
    ∃ q, s.queue udid = .ok q ∧ (udid ∈ s.queues.names ↔ q.commands ≠ []) := by
  obtain ⟨q, found, -, absent, -⟩ := h.queue udid
  exact ⟨q, found, by rw [Table.mem_names_iff, ne_eq, ← absent]⟩

theorem Store.wellFormed_of_queues {s : Store} (h : s.queues = ∅) : s.WellFormed := by
  intro e member
  rw [h] at member
  cases member

/-! ### The tries -/

namespace Fleet

variable (f : Fleet)

/-- All devices that wait are tried in their order, and only the notices tell of it. -/
theorem reconcile_of_pending {udids : List String} (h : Delivery.pendingUdids f.store = .ok udids) :
    ∃ ns, f.reconcile = ((f, ns), .ok (udids.countP fun u => (f.waker f.store u).outcome.toBool)) ∧
      tries ns = udids.map (fun u => (u, f.waker f.store u)) ∧
      warned ns = udids.filterMap fun u =>
        (f.waker f.store u).failure?.map (.reconcileFailed u) := by
  refine ⟨udids.flatMap fun u => wakeNotices u (f.waker f.store u) (.reconcileFailed u), ?_, ?_, ?_⟩
  · simp only [reconcile, h, List.flatMap_map, List.filter_map, List.length_map,
      List.countP_eq_length_filter]
    rfl
  · simp only [tries_flatMap, tries_wakeNotices, List.map_eq_flatMap]
  · simp only [warned_flatMap, warned_wakeNotices, List.filterMap_eq_flatMap_toList]

/-- Whatever was asked of the queues since they were empty, refused or not, and whatever a try to
wake a device gives: the devices that wait are listed once each, ascending by the octets of their
UDIDs. They are those whose queue has a command, and they are the names of the queue table. A
recovery tries each of them in this order, counts the tries that succeed, warns of each that fails,
and leaves the fleet as it was. -/
theorem recovery_exact (delay : Nat) (tables : Store) (rs : List Delivery.Request) (f : Fleet) :
    let s := Delivery.run delay { tables with queues := ∅ } rs
    let f := { f with store := s }
    ∃ udids ns, Delivery.pendingUdids s = .ok udids ∧ udids = s.queues.names ∧
      (∀ u, ∃ q, s.queue u = .ok q ∧ (u ∈ udids ↔ q.commands ≠ [])) ∧
      udids.Pairwise (fun u v => Text.encode u < Text.encode v) ∧ udids.Nodup ∧
      f.reconcile = ((f, ns), .ok (udids.countP fun u => (f.waker s u).outcome.toBool)) ∧
      tries ns = udids.map (fun u => (u, f.waker s u)) ∧
      warned ns = udids.filterMap fun u => (f.waker s u).failure?.map (.reconcileFailed u) := by
  intro s f
  have formed : s.WellFormed := Delivery.wellFormed_run delay rs (Store.wellFormed_of_queues rfl)
  have pending : Delivery.pendingUdids s = .ok s.queues.names := by
    rw [Delivery.pendingUdids, formed.pendingUdids, Store.reported]
  obtain ⟨ns, reply, tried, warnings⟩ := f.reconcile_of_pending pending
  exact ⟨s.queues.names, ns, pending, rfl, formed.mem_names_iff, s.queues.names_pairwise,
    s.queues.names_nodup, reply, tried, warnings⟩

end Fleet

end DeviceFleet
