import DeviceFleet.Fleet.Basic
import DeviceFleet.Proofs.Bus.Line
import DeviceFleet.Proofs.Message.Checkin
import DeviceFleet.Proofs.Queue.History

/-! Check-ins applied one after another. The device records depend on the device records alone, and
so do the push credentials on the push credentials, so each consumer has its own course of them
whatever the others do to the store. -/

namespace DeviceFleet.Enrolment

/-- The store after a check-in, as it was if it fails. -/
def applied (s : Store) (m : Checkin) (uuid : String) (now : Instant) : Store :=
  (apply s m uuid now).toOption.getD s

def kept (s : Store) (m : TokenUpdate) (now : Instant) : Store :=
  (keepToken s m now).toOption.getD s

/-- The store after check-ins, each with the identifier and the time that its application used. -/
def applyAll (s : Store) (ms : List (Checkin × Stamp)) : Store :=
  ms.foldl (fun s m => applied s m.1 m.2.id m.2.now) s

def keepAll (s : Store) (ms : List (TokenUpdate × Instant)) : Store :=
  ms.foldl (fun s m => kept s m.1 m.2) s

def tokenUpdate? : Checkin → Option TokenUpdate
  | .tokenUpdate m => some m
  | _ => none

def tokenUpdates (ms : List Checkin) : List TokenUpdate := ms.filterMap tokenUpdate?

/-! ### What the applications depend on -/

/-- The device records and the index of serial numbers of two stores agree. -/
structure SameDevices (s t : Store) : Prop where
  devices : s.devices = t.devices
  serials : s.serials = t.serials

theorem SameDevices.trans {s t u : Store} (h : SameDevices s t) (h' : SameDevices t u) :
    SameDevices s u := ⟨h.devices.trans h'.devices, h.serials.trans h'.serials⟩

abbrev beside (s : Store) (pushInfos queues : Table Bytes) : Store := { s with pushInfos, queues }

theorem SameDevices.eq_beside {s t : Store} (h : SameDevices s t) :
    s = beside t s.pushInfos s.queues := by
  obtain ⟨d, n, p, q⟩ := s
  obtain ⟨rfl, rfl⟩ := h
  rfl

theorem insertDevice_beside (s : Store) (pushInfos queues : Table Bytes) (d : Device) :
    (beside s pushInfos queues).insertDevice d =
      (s.insertDevice d).map fun r => (beside r.1 pushInfos queues, r.2) := by
  rw [Store.insertDevice, Store.insertDevice]
  by_cases unnamed : d.udid = ""
  · rw [if_pos unnamed, if_pos unnamed]
    rfl
  · by_cases known : s.devices.contains d.udid = true
    · rw [if_neg unnamed, if_neg unnamed, if_pos known, if_pos known]
      rfl
    · rw [if_neg unnamed, if_neg unnamed, if_neg known, if_neg known]
      rfl

theorem updateDevice_beside (s : Store) (pushInfos queues : Table Bytes) (udid : String)
    (f : Device → Device) : (beside s pushInfos queues).updateDevice udid f =
      (s.updateDevice udid f).map fun r => (beside r.1 pushInfos queues, r.2) := by
  simp only [Store.updateDevice]
  split
  · rfl
  · cases Store.load Device.schema _ <;> rfl

theorem apply_beside (s : Store) (pushInfos queues : Table Bytes) (m : Checkin) (uuid : String)
    (now : Instant) : apply (beside s pushInfos queues) m uuid now =
      (apply s m uuid now).map (beside · pushInfos queues) := by
  have report {α : Type} (r : Except StoreError (Store × α)) :
      Store.reported ((r.map fun r => (beside r.1 pushInfos queues, r.2)).map (·.1)) =
        (Store.reported (r.map (·.1))).map (beside · pushInfos queues) := by
    cases r <;> rfl
  cases m with
  | authenticate m => simp only [apply, insertDevice_beside, report]
  | tokenUpdate m =>
    simp only [apply, updateDevice_beside, report]
    split <;> rfl
  | checkOut m => simp only [apply, updateDevice_beside, report]

theorem SameDevices.applied {s t : Store} (h : SameDevices s t) (m : Checkin) (uuid : String)
    (now : Instant) : SameDevices (applied s m uuid now) (applied t m uuid now) := by
  rw [Enrolment.applied, Enrolment.applied]
  have same := h.eq_beside
  generalize s.pushInfos = pushInfos, s.queues = queues at same
  subst same
  rw [apply_beside]
  cases Enrolment.apply t m uuid now with
  | error e => exact ⟨rfl, rfl⟩
  | ok t => exact ⟨rfl, rfl⟩

/-- A check-in changes nothing but the device records. -/
theorem applied_frame (s : Store) (m : Checkin) (uuid : String) (now : Instant) :
    (applied s m uuid now).pushInfos = s.pushInfos ∧ (applied s m uuid now).queues = s.queues := by
  rw [applied]
  cases h : Enrolment.apply s m uuid now with
  | error e => exact ⟨rfl, rfl⟩
  | ok t =>
    have same := apply_beside s s.pushInfos s.queues m uuid now
    rw [h] at same
    have eq : t = beside t s.pushInfos s.queues := Except.ok.inj same
    show t.pushInfos = s.pushInfos ∧ t.queues = s.queues
    rw [eq]
    exact ⟨rfl, rfl⟩

theorem pushInfos_kept {s t : Store} (h : s.pushInfos = t.pushInfos) (m : TokenUpdate)
    (now : Instant) : (kept s m now).pushInfos = (kept t m now).pushInfos := by
  simp only [kept, keepToken, Store.putPushInfo]
  split
  · exact h
  · split
    · exact h
    · show s.pushInfos.insert _ _ = t.pushInfos.insert _ _
      rw [h]

/-- A registration changes nothing but the push credentials. -/
theorem kept_frame (s : Store) (m : TokenUpdate) (now : Instant) :
    SameDevices (kept s m now) s ∧ (kept s m now).queues = s.queues := by
  simp only [kept, keepToken, Store.putPushInfo]
  split
  · exact ⟨⟨rfl, rfl⟩, rfl⟩
  · split <;> exact ⟨⟨rfl, rfl⟩, rfl⟩

/-! ### Events -/

def received (e : Event) : Option Checkin :=
  (CheckinEvent.schema.decode e.payload).toOption.map (·.message)

theorem takeDevice_eq (s : Store) (e : Event) (uuid : String) (now : Instant) :
    (takeDevice s e uuid now).1 = (received e).elim s (applied s · uuid now) := by
  rw [takeDevice, onDevices, received]
  cases CheckinEvent.schema.decode e.payload with
  | error error => rfl
  | ok c =>
    simp only [bind, Except.bind, Except.toOption, Option.map_some, Option.elim_some, applied]
    cases apply s c.message uuid now <;> rfl

theorem takePushInfo_eq (s : Store) (e : Event) (now : Instant) :
    (takePushInfo s e now).1 = ((received e).bind tokenUpdate?).elim s (kept s · now) := by
  rw [takePushInfo, onPushInfos, received]
  cases CheckinEvent.schema.decode e.payload with
  | error error => rfl
  | ok c =>
    obtain ⟨id, time, m⟩ := c
    cases m with
    | tokenUpdate m =>
      simp only [bind, Except.bind, Except.toOption, Option.map_some, Option.bind_some,
        tokenUpdate?, Option.elim_some, kept]
      cases keepToken s m now <;> rfl
    | authenticate m => rfl
    | checkOut m => rfl

theorem SameDevices.takeDevice {s t : Store} (h : SameDevices s t) (e : Event) (uuid : String)
    (now : Instant) : SameDevices (takeDevice s e uuid now).1 (takeDevice t e uuid now).1 := by
  rw [takeDevice_eq, takeDevice_eq]
  cases received e with
  | none => exact h
  | some m => exact h.applied m uuid now

theorem pushInfos_takeDevice (s : Store) (e : Event) (uuid : String) (now : Instant) :
    (takeDevice s e uuid now).1.pushInfos = s.pushInfos := by
  rw [takeDevice_eq]
  cases received e with
  | none => rfl
  | some m => exact (applied_frame s m uuid now).1

theorem queues_takeDevice (s : Store) (e : Event) (uuid : String) (now : Instant) :
    (takeDevice s e uuid now).1.queues = s.queues := by
  rw [takeDevice_eq]
  cases received e with
  | none => rfl
  | some m => exact (applied_frame s m uuid now).2

theorem pushInfos_takePushInfo {s t : Store} (h : s.pushInfos = t.pushInfos) (e : Event) (now : Instant) :
    (takePushInfo s e now).1.pushInfos = (takePushInfo t e now).1.pushInfos := by
  rw [takePushInfo_eq, takePushInfo_eq]
  cases (received e).bind tokenUpdate? with
  | none => exact h
  | some m => exact pushInfos_kept h m now

theorem sameDevices_takePushInfo (s : Store) (e : Event) (now : Instant) :
    SameDevices (takePushInfo s e now).1 s := by
  rw [takePushInfo_eq]
  cases (received e).bind tokenUpdate? with
  | none => exact ⟨rfl, rfl⟩
  | some m => exact (kept_frame s m now).1

theorem queues_takePushInfo (s : Store) (e : Event) (now : Instant) :
    (takePushInfo s e now).1.queues = s.queues := by
  rw [takePushInfo_eq]
  cases (received e).bind tokenUpdate? with
  | none => rfl
  | some m => exact (kept_frame s m now).2

/-- A new command goes to the end of the queue of its device, which is to be woken if it had none. -/
theorem onQueues_ok {s t : Store} {e : Event} {now : Instant} {wake : Option String}
    (h : Delivery.onQueues s e now = .ok (t, wake)) :
    ∃ c q, CommandEvent.schema.decode e.payload = .ok c ∧ s.queue c.udid = .ok q ∧
      t = s.putQueue c.udid (q.push (Delivery.queued c.command now)) ∧
      wake = if q.commands.isEmpty then some c.udid else none := by
  simp only [Delivery.onQueues, bind, Except.bind] at h
  split at h
  · cases h
  · rename_i c read
    split at h
    · cases h
    · rename_i r queued
      obtain ⟨q, found, -, wasEmpty, put⟩ := Delivery.enqueue_ok queued
      cases h
      exact ⟨c, q, read, found, put, by rw [wasEmpty]⟩

theorem takeCommand_frame (s : Store) (e : Event) (now : Instant) :
    SameDevices (Delivery.takeCommand s e now).1 s ∧
      (Delivery.takeCommand s e now).1.pushInfos = s.pushInfos := by
  rw [Delivery.takeCommand]
  split
  · rename_i t wake queued
    obtain ⟨c, q, -, -, rfl, -⟩ := onQueues_ok queued
    show SameDevices (s.putQueue _ _) s ∧ (s.putQueue _ _).pushInfos = s.pushInfos
    rw [Store.putQueue]
    split <;> exact ⟨⟨rfl, rfl⟩, rfl⟩
  · exact ⟨⟨rfl, rfl⟩, rfl⟩

/-! ### Courses of events -/

/-- The device records after events, each with the stamp that its application used. -/
def takeDevices (s : Store) (es : List (Event × Stamp)) : Store :=
  es.foldl (fun s e => (takeDevice s e.1 e.2.id e.2.now).1) s

def takePushInfos (s : Store) (es : List (Event × Instant)) : Store :=
  es.foldl (fun s e => (takePushInfo s e.1 e.2).1) s

theorem takeDevices_concat (s : Store) {es : List Event} {stamps : List Stamp}
    (same : es.length = stamps.length) (e : Event) (stamp : Stamp) :
    takeDevices s ((es ++ [e]).zip (stamps ++ [stamp])) =
      (takeDevice (takeDevices s (es.zip stamps)) e stamp.id stamp.now).1 := by
  rw [List.zip_append same, takeDevices, List.foldl_append]
  rfl

theorem takePushInfos_concat (s : Store) {es : List Event} {times : List Instant}
    (same : es.length = times.length) (e : Event) (now : Instant) :
    takePushInfos s ((es ++ [e]).zip (times ++ [now])) =
      (takePushInfo (takePushInfos s (es.zip times)) e now).1 := by
  rw [List.zip_append same, takePushInfos, List.foldl_append]
  rfl

/-- An event of the check-in: on its topic, with an envelope that holds it. -/
def Holds (content : String × Bytes) (m : Checkin) : Prop :=
  content.1 = m.topic.name ∧
    ∃ id time, CheckinEvent.schema.decode content.2 = .ok ⟨id, time, m⟩

theorem received_of_holds {e : Event} {m : Checkin} (h : Holds e.content m) : received e = some m := by
  obtain ⟨-, id, time, decoded⟩ := h
  rw [received, show CheckinEvent.schema.decode e.payload = _ from decoded]
  rfl

theorem takeDevices_eq (s : Store) {es : List Event} {ms : List Checkin}
    (h : List.Forall₂ Holds (es.map Event.content) ms) (stamps : List Stamp) :
    takeDevices s (es.zip stamps) = applyAll s (ms.zip stamps) := by
  induction es generalizing s ms stamps with
  | nil =>
    cases h
    rfl
  | cons e es ih =>
    cases h with
    | cons first others =>
      cases stamps with
      | nil => rfl
      | cons stamp stamps =>
        rw [List.zip_cons_cons, List.zip_cons_cons, takeDevices, applyAll, List.foldl_cons,
          List.foldl_cons, takeDevice_eq, received_of_holds first]
        exact ih _ others stamps

theorem takePushInfos_eq (s : Store) {es : List Event} {ms : List TokenUpdate}
    (h : List.Forall₂ Holds (es.map Event.content) (ms.map .tokenUpdate)) (times : List Instant) :
    takePushInfos s (es.zip times) = keepAll s (ms.zip times) := by
  induction es generalizing s ms times with
  | nil =>
    cases ms with
    | nil => rfl
    | cons m ms => cases h
  | cons e es ih =>
    cases ms with
    | nil => cases h
    | cons m ms =>
      cases h with
      | cons first others =>
        cases times with
        | nil => rfl
        | cons time times =>
          rw [List.zip_cons_cons, List.zip_cons_cons, takePushInfos, keepAll, List.foldl_cons,
            List.foldl_cons, takePushInfo_eq, received_of_holds first]
          exact ih _ others times

/-- The events of registrations are those on their topic. -/
theorem holds_tokenUpdates {ps : List (String × Bytes)} {ms : List Checkin}
    (h : List.Forall₂ Holds ps ms) :
    List.Forall₂ Holds (ps.filter fun p => decide (p.1 ∈ [Topic.tokenUpdate.name]))
      ((tokenUpdates ms).map .tokenUpdate) := by
  induction h with
  | nil => exact .nil
  | @cons p m ps ms first others ih =>
    obtain ⟨topic, envelope⟩ := first
    cases m with
    | tokenUpdate m =>
      rw [List.filter_cons_of_pos (by simp [topic, Checkin.topic])]
      exact .cons ⟨topic, envelope⟩ ih
    | authenticate m =>
      rw [List.filter_cons_of_neg (by simp [topic, Checkin.topic, Topic.name])]
      exact ih
    | checkOut m =>
      rw [List.filter_cons_of_neg (by simp [topic, Checkin.topic, Topic.name])]
      exact ih

end DeviceFleet.Enrolment
