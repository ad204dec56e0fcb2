import DeviceFleet.Fleet.Basic
import DeviceFleet.Proofs.Queue.WellFormed

/-! Devices are kept apart. The records of a device and the answers to the operations on it depend on
these operations alone: those on other devices could as well be left out. The index of serial numbers
is common to all devices and is not among the records. -/

namespace DeviceFleet

/-- What the tables have under the UDID of a device. -/
structure Store.Records where
  device : Option Bytes
  pushInfo : Option Bytes
  queue : Option Bytes

def Store.records (s : Store) (udid : String) : Records :=
  ⟨s.devices.find? udid, s.pushInfos.find? udid, s.queues.find? udid⟩

namespace Separation

open Store (Records)

/-- An operation on the records of a device, with the clock reading and the identifier that it uses. -/
inductive Operation where
  | request (r : Delivery.Request)
  /-- The device records are to follow a check-in. -/
  | checkin (m : Checkin) (stamp : Stamp)
  /-- The push credentials of a registration are to be kept. -/
  | registration (m : TokenUpdate) (now : Instant)

def Operation.udid : Operation → String
  | request r => r.udid
  | checkin m _ => m.udid
  | registration m _ => m.udid

inductive Answer where
  | request (o : Delivery.Outcome)
  | record (r : Except Error Unit)

def record (s : Store) : Except Error Store → Store × Answer
  | .ok t => (t, .record (.ok ()))
  | .error e => (s, .record (.error e))

def perform (delay : Nat) (s : Store) : Operation → Store × Answer
  | .request r => ((Delivery.perform delay s r).1, .request (Delivery.perform delay s r).2)
  | .checkin m stamp => record s (Enrolment.apply s m stamp.id stamp.now)
  | .registration m now => record s (Enrolment.keepToken s m now)

def run (delay : Nat) (s : Store) (ops : List Operation) : Store :=
  ops.foldl (fun s op => (perform delay s op).1) s

def answers (delay : Nat) : Store → List Operation → List (Operation × Answer)
  | _, [] => []
  | s, op :: ops => (op, (perform delay s op).2) :: answers delay (perform delay s op).1 ops

/-! ### Operations on the device -/

variable {udid : String} {s t : Store}

/-- What is to be seen of a device after a change that may fail. -/
def seen {ε ρ : Type} (udid : String) (r : Except ε (Store × ρ)) : Except ε (Records × ρ) :=
  r.map fun p => (p.1.records udid, p.2)

theorem records_putQueue (s : Store) (udid other : String) (q : DeviceQueue) :
    (s.putQueue udid q).records other =
      if other = udid then
        { s.records other with queue := if q.isClear then none else some (DeviceQueue.schema.store q) }
      else s.records other := by
  rw [Store.records, Store.find?_putQueue, Store.putQueue_eq]
  split <;> rfl

theorem queue_eq (h : s.records udid = t.records udid) : s.queue udid = t.queue udid :=
  Store.queue_congr (congrArg Records.queue h)

/-- A change of the queue of a device depends on its queue alone. -/
theorem seen_updateQueue {ε ρ : Type} (h : s.records udid = t.records udid) (report : StoreError → ε)
    (f : DeviceQueue → Except ε (DeviceQueue × ρ)) :
    seen udid (s.updateQueue udid report f) = seen udid (t.updateQueue udid report f) := by
  rw [Store.updateQueue, Store.updateQueue, queue_eq h]
  split
  · rfl
  · cases t.queue udid with
    | error e => rfl
    | ok q =>
      simp only
      cases f q with
      | error e => rfl
      | ok p =>
        obtain ⟨q', r⟩ := p
        show Except.ok ((s.putQueue udid q').records udid, r) =
          Except.ok ((t.putQueue udid q').records udid, r)
        rw [records_putQueue, records_putQueue, h]

theorem seen_enqueue (h : s.records udid = t.records udid) (c : Command) (now : Instant) :
    seen udid (Delivery.enqueue s udid c now) = seen udid (Delivery.enqueue t udid c now) := by
  rw [Delivery.enqueue, Delivery.enqueue]
  split
  · rfl
  · exact seen_updateQueue h _ _

theorem seen_acknowledge {r : Response} (h : s.records r.udid = t.records r.udid) (now : Instant)
    (delay : Nat) :
    seen r.udid (Delivery.acknowledge s r now delay).1 =
      seen r.udid (Delivery.acknowledge t r now delay).1 := by
  rw [Delivery.acknowledge_fst, Delivery.acknowledge_fst]
  split
  · rfl
  · cases r.validate with
    | error e => rfl
    | ok => exact seen_updateQueue h _ _

theorem seen_reported {ρ : Type} {x y : Except StoreError (Store × ρ)}
    (h : seen udid x = seen udid y) : seen udid (Store.reported x) = seen udid (Store.reported y) := by
  have reported (z : Except StoreError (Store × ρ)) :
      seen udid (Store.reported z) = Store.reported (seen udid z) := by
    cases z <;> rfl
  rw [reported, reported, h]

theorem seen_insertDevice {d : Device} (h : s.records d.udid = t.records d.udid) :
    seen d.udid (s.insertDevice d) = seen d.udid (t.insertDevice d) := by
  have known : s.devices.contains d.udid = t.devices.contains d.udid := by
    rw [Table.contains, Table.contains, show s.devices.find? d.udid = _ from congrArg Records.device h]
    rfl
  rw [Store.insertDevice, Store.insertDevice, known]
  split
  · rfl
  · split
    · simp only [seen, Except.map, h]
    · obtain ⟨-, pushInfo, queue⟩ := Records.mk.injEq .. ▸ h
      simp only [seen, Except.map, Store.records, Table.find?_insert, if_pos, pushInfo, queue]

theorem seen_updateDevice (h : s.records udid = t.records udid) (f : Device → Device) :
    seen udid (s.updateDevice udid f) = seen udid (t.updateDevice udid f) := by
  obtain ⟨device, pushInfo, queue⟩ := Records.mk.injEq .. ▸ h
  rw [Store.updateDevice, Store.updateDevice, device]
  cases t.devices.find? udid with
  | none => rfl
  | some text =>
    simp only
    cases Store.load Device.schema text with
    | error e => rfl
    | ok d =>
      simp only [seen, bind, Except.bind, Except.map, Store.records, Table.find?_insert, if_pos, pushInfo,
        queue]

theorem settle_eq {ρ : Type} (h : s.records udid = t.records udid) (outcome : ρ → Delivery.Outcome)
    {x y : Except Error (Store × ρ)} (same : seen udid x = seen udid y) :
    (Delivery.settle s outcome x).1.records udid = (Delivery.settle t outcome y).1.records udid ∧
      (Delivery.settle s outcome x).2 = (Delivery.settle t outcome y).2 := by
  cases x with
  | error e =>
    cases y with
    | error e' =>
      cases same
      exact ⟨h, rfl⟩
    | ok p => cases same
  | ok p =>
    cases y with
    | error e => cases same
    | ok p' =>
      obtain ⟨records, answer⟩ := Prod.ext_iff.1 (Except.ok.inj same)
      exact ⟨records, congrArg outcome answer⟩

/-- A change of the device records depends on the records of the device alone. -/
theorem records_reported {ρ : Type} {x y : Except StoreError (Store × ρ)}
    (h : seen udid x = seen udid y) :
    (Store.reported (x.map (·.1))).map (·.records udid) =
      (Store.reported (y.map (·.1))).map (·.records udid) := by
  have first (z : Except StoreError (Store × ρ)) :
      (Store.reported (z.map (·.1))).map (·.records udid) =
        Store.reported ((seen udid z).map (·.1)) := by
    cases z <;> rfl
  rw [first, first, h]

theorem records_apply {m : Checkin} (h : s.records m.udid = t.records m.udid) (uuid : String)
    (now : Instant) :
    (Enrolment.apply s m uuid now).map (·.records m.udid) =
      (Enrolment.apply t m uuid now).map (·.records m.udid) := by
  cases m with
  | authenticate m =>
    exact records_reported (seen_insertDevice (d := .ofAuthenticate m uuid now) h)
  | tokenUpdate m =>
    simp only [Enrolment.apply]
    split
    · exact congrArg Except.ok h
    · exact records_reported (seen_updateDevice h _)
  | checkOut m => exact records_reported (seen_updateDevice h _)

theorem records_keepToken {m : TokenUpdate} (h : s.records m.udid = t.records m.udid) (now : Instant) :
    (Enrolment.keepToken s m now).map (·.records m.udid) =
      (Enrolment.keepToken t m now).map (·.records m.udid) := by
  obtain ⟨device, -, queue⟩ := Records.mk.injEq .. ▸ h
  rw [Enrolment.keepToken, Enrolment.keepToken, Store.putPushInfo, Store.putPushInfo]
  split
  · exact congrArg Except.ok h
  · split
    · rfl
    · simp only [Store.reported, Except.map, Store.records, PushInfo.ofTokenUpdate, Table.find?_insert,
        if_pos, device, queue]

theorem record_eq (h : s.records udid = t.records udid) {x y : Except Error Store}
    (same : x.map (·.records udid) = y.map (·.records udid)) :
    (record s x).1.records udid = (record t y).1.records udid ∧ (record s x).2 = (record t y).2 := by
  cases x with
  | error e =>
    cases y with
    | error e' =>
      cases same
      exact ⟨h, rfl⟩
    | ok b => cases same
  | ok a =>
    cases y with
    | error e => cases same
    | ok b => exact ⟨Except.ok.inj same, rfl⟩

/-- An operation on a device depends on its records alone. -/
theorem perform_own (delay : Nat) {op : Operation} (h : s.records op.udid = t.records op.udid) :
    (perform delay s op).1.records op.udid = (perform delay t op).1.records op.udid ∧
      (perform delay s op).2 = (perform delay t op).2 := by
  cases op with
  | request r =>
    have same : (Delivery.perform delay s r).1.records r.udid =
          (Delivery.perform delay t r).1.records r.udid ∧
        (Delivery.perform delay s r).2 = (Delivery.perform delay t r).2 := by
      cases r with
      | enqueue v c now => exact settle_eq h _ (seen_enqueue h c now)
      | acknowledge r now => exact settle_eq h _ (seen_acknowledge h now delay)
      | clear v => exact settle_eq h _ (seen_reported (seen_updateQueue h _ _))
    exact ⟨same.1, congrArg Answer.request same.2⟩
  | checkin m stamp => exact record_eq h (records_apply h stamp.id stamp.now)
  | registration m now => exact record_eq h (records_keepToken h now)

/-! ### Operations on other devices -/

theorem records_insertDevice (s : Store) {d : Device} (other : d.udid ≠ udid) {p : Store × Bool}
    (h : s.insertDevice d = .ok p) : p.1.records udid = s.records udid := by
  rw [Store.insertDevice] at h
  split at h
  · cases h
  · split at h
    · cases h
      rfl
    · cases h
      simp only [Store.records, Table.find?_insert, if_neg other.symm]

theorem records_updateDevice (s : Store) {v : String} (other : v ≠ udid) {f : Device → Device}
    {p : Store × Device} (h : s.updateDevice v f = .ok p) : p.1.records udid = s.records udid := by
  rw [Store.updateDevice] at h
  split at h
  · cases h
  · rename_i text _
    cases loaded : Store.load Device.schema text with
    | error e =>
      rw [loaded] at h
      cases h
    | ok d =>
      rw [loaded] at h
      cases h
      simp only [Store.records, Table.find?_insert, if_neg other.symm]

theorem record_frame {ρ : Type} {x : Except StoreError (Store × ρ)}
    (h : ∀ p, x = .ok p → p.1.records udid = s.records udid) :
    (record s (Store.reported (x.map (·.1)))).1.records udid = s.records udid := by
  cases x with
  | error e => rfl
  | ok p => exact h p rfl

theorem perform_other (delay : Nat) (s : Store) {op : Operation} (other : op.udid ≠ udid) :
    (perform delay s op).1.records udid = s.records udid := by
  cases op with
  | request r =>
    show (Delivery.perform delay s r).1.records udid = s.records udid
    rcases Delivery.perform_cases delay s r with ⟨e, same⟩ | ⟨q, q', o, -, -, -, put⟩
    · rw [same]
    · rw [put]
      exact (records_putQueue s r.udid udid q').trans (if_neg (Ne.symm other))
  | checkin m stamp =>
    show (record s (Enrolment.apply s m stamp.id stamp.now)).1.records udid = s.records udid
    cases m with
    | authenticate m => exact record_frame fun p => records_insertDevice s other
    | tokenUpdate m =>
      rw [Enrolment.apply]
      split
      · rfl
      · exact record_frame fun p => records_updateDevice s other
    | checkOut m => exact record_frame fun p => records_updateDevice s other
  | registration m now =>
    show (record s (Enrolment.keepToken s m now)).1.records udid = s.records udid
    rw [Enrolment.keepToken, Store.putPushInfo]
    split
    · rfl
    · split
      · rfl
      · have away : udid ≠ m.udid := Ne.symm other
        simp only [Store.reported, record, Store.records, PushInfo.ofTokenUpdate, Table.find?_insert,
          if_neg away]

/-! ### Runs -/

/-- Two runs of which one leaves out the operations on other devices agree on a device, if they start
with the same records of it. -/
theorem agree (delay : Nat) (ops : List Operation) (h : s.records udid = t.records udid) :
    (run delay s ops).records udid = (run delay t (ops.filter (·.udid = udid))).records udid ∧
      (answers delay s ops).filter (·.1.udid = udid) =
        answers delay t (ops.filter (·.udid = udid)) := by
  induction ops generalizing s t with
  | nil => exact ⟨h, rfl⟩
  | cons op ops ih =>
    by_cases here : op.udid = udid
    · subst here
      obtain ⟨records, answer⟩ := perform_own delay h
      obtain ⟨last, others⟩ := ih records
      rw [List.filter_cons_of_pos (by simp)]
      refine ⟨last, ?_⟩
      rw [answers, answers, List.filter_cons_of_pos (by simp), others, answer]
    · rw [List.filter_cons_of_neg (by simpa using here), answers,
        List.filter_cons_of_neg (by simpa using here)]
      exact ih ((perform_other delay s here).trans h)

/-- What is read of a device depends on its records alone. -/
theorem reads_eq (h : s.records udid = t.records udid) :
    s.device? udid = t.device? udid ∧ s.pushInfo? udid = t.pushInfo? udid ∧
      s.queue udid = t.queue udid := by
  refine ⟨?_, ?_, queue_eq h⟩
  · rw [Store.device?, Store.device?, Store.lookup, Store.lookup,
      show s.devices.find? udid = _ from congrArg Records.device h]
    rfl
  · rw [Store.pushInfo?, Store.pushInfo?, Store.lookup, Store.lookup,
      show s.pushInfos.find? udid = _ from congrArg Records.pushInfo h]
    rfl

/-- After any operations on any devices, refused or not, the records of each device are those that the
operations on this device alone would have made, so the same device, push credentials and queue are
read; and each operation on it has answered as it would have among these. -/
theorem records_separate (delay : Nat) (s : Store) (ops : List Operation) (udid : String) :
    let all := run delay s ops
    let own := run delay s (ops.filter (·.udid = udid))
    all.records udid = own.records udid ∧
      (all.device? udid = own.device? udid ∧ all.pushInfo? udid = own.pushInfo? udid ∧
        all.queue udid = own.queue udid) ∧
      (answers delay s ops).filter (·.1.udid = udid) =
        answers delay s (ops.filter (·.udid = udid)) := by
  intro all own
  have same : s.records udid = s.records udid := rfl
  obtain ⟨records, answered⟩ := agree delay ops same
  exact ⟨records, reads_eq records, answered⟩

end Separation

end DeviceFleet
