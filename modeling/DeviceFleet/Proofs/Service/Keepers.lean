import DeviceFleet.Proofs.Service.Enrolment

/-! The consumers that bring events into the store. Each of them keeps a part of the store, and what it
makes of an event depends on that part alone. An event that is of no use gives one warning and leaves
the store as it was, so a sequence of events leads where its useful events lead. -/

namespace DeviceFleet

/-- A consumer that brings events into the store. -/
inductive Keeper where
  /-- It keeps the device records. -/
  | devices
  /-- It keeps the push credentials. -/
  | pushInfos
  /-- It keeps the command queues. -/
  | queues
  deriving DecidableEq

def Warning.keeper? : Warning → Option Keeper
  | checkinFailed .. => some .devices
  | pushInfoFailed _ => some .pushInfos
  | enqueueFailed _ => some .queues
  | _ => none

def Checkin.changed? : Checkin → Option String
  | authenticate _ => none
  | tokenUpdate m => if m.isUserScoped then none else some m.udid
  | checkOut m => some m.udid

namespace Keeper

/-- The store after an event that is applied with a stamp. The identifier names a new record. -/
def apply (k : Keeper) (s : Store) (e : Event) (t : Stamp) : Except Error Store :=
  match k with
  | devices => Enrolment.onDevices s e t.id t.now
  | pushInfos => Enrolment.onPushInfos s e t.now
  | queues => (Delivery.onQueues s e t.now).map (·.1)

def take (k : Keeper) (s : Store) (e : Event) (t : Stamp) : Store × List Warning :=
  match k with
  | devices => Enrolment.takeDevice s e t.id t.now
  | pushInfos => Enrolment.takePushInfo s e t.now
  | queues =>
    let (s, _, ws) := Delivery.takeCommand s e t.now
    (s, ws)

def warning (k : Keeper) (e : Event) (error : Error) : Warning :=
  match k with
  | devices => .checkinFailed e.topic error
  | pushInfos => .pushInfoFailed error
  | queues => .enqueueFailed error

@[simp] theorem keeper?_warning (k : Keeper) (e : Event) (error : Error) :
    (k.warning e error).keeper? = some k := by
  cases k <;> rfl

theorem take_of_ok {k : Keeper} {s s' : Store} {e : Event} {t : Stamp} (h : k.apply s e t = .ok s') :
    k.take s e t = (s', []) := by
  cases k with
  | devices => simp [take, Enrolment.takeDevice, show Enrolment.onDevices s e t.id t.now = _ from h]
  | pushInfos => simp [take, Enrolment.takePushInfo, show Enrolment.onPushInfos s e t.now = _ from h]
  | queues =>
    cases done : Delivery.onQueues s e t.now with
    | error error => simp [apply, done, Except.map] at h
    | ok r =>
      have same : r.1 = s' := by simpa [apply, done, Except.map] using h
      simp [take, Delivery.takeCommand, done, same]

theorem take_of_error {k : Keeper} {s : Store} {e : Event} {t : Stamp} {error : Error}
    (h : k.apply s e t = .error error) : k.take s e t = (s, [k.warning e error]) := by
  cases k with
  | devices =>
    simp [take, Enrolment.takeDevice, show Enrolment.onDevices s e t.id t.now = _ from h, warning]
  | pushInfos =>
    simp [take, Enrolment.takePushInfo, show Enrolment.onPushInfos s e t.now = _ from h, warning]
  | queues =>
    cases done : Delivery.onQueues s e t.now with
    | error error' =>
      have same : error' = error := by simpa [apply, done, Except.map] using h
      simp [take, Delivery.takeCommand, done, same, warning]
    | ok r => simp [apply, done, Except.map] at h

/-! ### What is wrong with an event -/

/-- Why an event is of no use to a keeper. -/
inductive Flaw (s : Store) (e : Event) : Keeper → Error → Prop where
  /-- The payload is no check-in. -/
  | noCheckin {k : Keeper} {error : Error} (keeper : k ≠ .queues)
      (unread : CheckinEvent.schema.decode e.payload = .error error) : Flaw s e k error
  | unnamedDevice {c : CheckinEvent} {m : Authenticate}
      (read : CheckinEvent.schema.decode e.payload = .ok c) (enrols : c.message = .authenticate m)
      (unnamed : m.udid = "") : Flaw s e .devices Store.emptyDeviceUdid.reported
  | unknownDevice {c : CheckinEvent} {udid : String}
      (read : CheckinEvent.schema.decode e.payload = .ok c) (changes : c.message.changed? = some udid)
      (missing : s.devices.find? udid = none) : Flaw s e .devices (Store.unknownDevice udid).reported
  /-- The stored record is none. -/
  | unreadableDevice {c : CheckinEvent} {udid : String} {text : Bytes} {error : StoreError}
      (read : CheckinEvent.schema.decode e.payload = .ok c) (changes : c.message.changed? = some udid)
      (there : s.devices.find? udid = some text)
      (unread : Store.load Device.schema text = .error error) : Flaw s e .devices error.reported
  /-- The check-in is none that is expected on its topic. -/
  | unexpected {c : CheckinEvent} (read : CheckinEvent.schema.decode e.payload = .ok c)
      (other : Enrolment.tokenUpdate? c.message = none) :
      Flaw s e .pushInfos (Enrolment.unexpected c.message e.topic)
  | unnamedPushInfo {c : CheckinEvent} {m : TokenUpdate}
      (read : CheckinEvent.schema.decode e.payload = .ok c) (registers : c.message = .tokenUpdate m)
      (own : m.isUserScoped = false) (unnamed : m.udid = "") :
      Flaw s e .pushInfos Store.emptyPushUdid.reported
  /-- The payload is no command. -/
  | noCommand {error : Error} (unread : CommandEvent.schema.decode e.payload = .error error) :
      Flaw s e .queues error
  | unnamedQueue {c : CommandEvent} (read : CommandEvent.schema.decode e.payload = .ok c)
      (unnamed : c.udid = "") : Flaw s e .queues Delivery.emptyUdid
  | unreadableQueue {c : CommandEvent} {error : StoreError}
      (read : CommandEvent.schema.decode e.payload = .ok c) (named : c.udid ≠ "")
      (unread : s.queue c.udid = .error error) : Flaw s e .queues error.reported
  /-- A command of this identifier is in the queue. -/
  | queuedBefore {c : CommandEvent} {q : DeviceQueue} {d : QueuedCommand}
      (read : CommandEvent.schema.decode e.payload = .ok c) (named : c.udid ≠ "")
      (there : s.queue c.udid = .ok q) (queued : d ∈ q.commands) (same : d.uuid = c.command.uuid) :
      Flaw s e .queues (Delivery.alreadyQueued c.command.uuid)

variable {s : Store} {e : Event} {error : Error}

theorem insertDevice_eq_error {d : Device} {error : StoreError} :
    s.insertDevice d = .error error ↔ d.udid = "" ∧ error = Store.emptyDeviceUdid := by
  unfold Store.insertDevice
  split_ifs with unnamed <;> simp [unnamed, eq_comm]

theorem updateDevice_eq_error {udid : String} {f : Device → Device} {error : StoreError} :
    s.updateDevice udid f = .error error ↔
      s.devices.find? udid = none ∧ error = Store.unknownDevice udid ∨
      ∃ text, s.devices.find? udid = some text ∧ Store.load Device.schema text = .error error := by
  unfold Store.updateDevice
  cases s.devices.find? udid with
  | none => simp [eq_comm]
  | some text => cases read : Store.load Device.schema text <;> simp [read, bind, Except.bind]

theorem reported_eq_error {α β : Type} {r : Except StoreError α} {f : α → β} :
    Store.reported (r.map f) = .error error ↔ ∃ error', r = .error error' ∧ error = error'.reported := by
  cases r <;> simp [Store.reported, Except.map, eq_comm]

theorem apply_checkin_eq_error {m : Checkin} {uuid : String} {now : Instant} :
    Enrolment.apply s m uuid now = .error error ↔
      (∃ a, m = .authenticate a ∧ a.udid = "" ∧ error = Store.emptyDeviceUdid.reported) ∨
      ∃ udid, m.changed? = some udid ∧ ∃ error', error = error'.reported ∧
        (s.devices.find? udid = none ∧ error' = Store.unknownDevice udid ∨
          ∃ text, s.devices.find? udid = some text ∧
            Store.load Device.schema text = .error error') := by
  cases m with
  | authenticate m =>
    simp [Enrolment.apply, reported_eq_error, insertDevice_eq_error, Checkin.changed?,
      Device.ofAuthenticate]
  | tokenUpdate m =>
    by_cases user : m.isUserScoped = true <;>
      simp [Enrolment.apply, reported_eq_error, updateDevice_eq_error, Checkin.changed?, user, and_comm]
  | checkOut m =>
    simp [Enrolment.apply, reported_eq_error, updateDevice_eq_error, Checkin.changed?, and_comm]

theorem onDevices_eq_error (uuid : String) (now : Instant) :
    Enrolment.onDevices s e uuid now = .error error ↔ Flaw s e .devices error := by
  unfold Enrolment.onDevices
  constructor
  · intro h
    cases read : CheckinEvent.schema.decode e.payload with
    | error error' =>
      rw [read] at h
      cases h
      exact .noCheckin nofun read
    | ok c =>
      rw [read] at h
      rcases apply_checkin_eq_error.1 h with ⟨m, enrols, unnamed, rfl⟩ | ⟨udid, changes, error', rfl, why⟩
      · exact .unnamedDevice read enrols unnamed
      · rcases why with ⟨missing, rfl⟩ | ⟨text, there, unread⟩
        · exact .unknownDevice read changes missing
        · exact .unreadableDevice read changes there unread
  · intro flaw
    cases flaw with
    | noCheckin keeper unread => simp [unread, bind, Except.bind]
    | unnamedDevice read enrols unnamed =>
      simp only [read, bind, Except.bind]
      exact apply_checkin_eq_error.2 (.inl ⟨_, enrols, unnamed, rfl⟩)
    | unknownDevice read changes missing =>
      simp only [read, bind, Except.bind]
      exact apply_checkin_eq_error.2 (.inr ⟨_, changes, _, rfl, .inl ⟨missing, rfl⟩⟩)
    | unreadableDevice read changes there unread =>
      simp only [read, bind, Except.bind]
      exact apply_checkin_eq_error.2 (.inr ⟨_, changes, _, rfl, .inr ⟨_, there, unread⟩⟩)

theorem keepToken_eq_error {m : TokenUpdate} {now : Instant} :
    Enrolment.keepToken s m now = .error error ↔
      m.isUserScoped = false ∧ m.udid = "" ∧ error = Store.emptyPushUdid.reported := by
  unfold Enrolment.keepToken Store.putPushInfo
  by_cases user : m.isUserScoped = true <;> by_cases unnamed : m.udid = "" <;>
    simp [user, unnamed, PushInfo.ofTokenUpdate, Store.reported, eq_comm]

theorem onPushInfos_eq_error (now : Instant) :
    Enrolment.onPushInfos s e now = .error error ↔ Flaw s e .pushInfos error := by
  unfold Enrolment.onPushInfos
  constructor
  · intro h
    cases read : CheckinEvent.schema.decode e.payload with
    | error error' =>
      rw [read] at h
      cases h
      exact .noCheckin nofun read
    | ok c =>
      rw [read] at h
      simp only [bind, Except.bind] at h
      split at h
      · rename_i m registers
        obtain ⟨own, unnamed, rfl⟩ := keepToken_eq_error.1 h
        exact .unnamedPushInfo read registers own unnamed
      · rename_i other
        cases h
        refine .unexpected read ?_
        cases message : c.message with
        | tokenUpdate m => exact absurd message (other m)
        | authenticate => rfl
        | checkOut => rfl
  · intro flaw
    cases flaw with
    | noCheckin keeper unread => simp [unread, bind, Except.bind]
    | @unexpected c read other =>
      simp only [read, bind, Except.bind]
      cases message : c.message <;> simp [message, Enrolment.tokenUpdate?] at other ⊢
    | unnamedPushInfo read registers own unnamed =>
      simp only [read, registers, bind, Except.bind]
      exact keepToken_eq_error.2 ⟨own, unnamed, rfl⟩

theorem enqueue_eq_error {udid : String} {c : Command} {now : Instant} :
    Delivery.enqueue s udid c now = .error error ↔
      udid = "" ∧ error = Delivery.emptyUdid ∨
      udid ≠ "" ∧ ((∃ error', s.queue udid = .error error' ∧ error = error'.reported) ∨
        ∃ q, s.queue udid = .ok q ∧ (∃ d ∈ q.commands, d.uuid = c.uuid) ∧
          error = Delivery.alreadyQueued c.uuid) := by
  unfold Delivery.enqueue Store.updateQueue
  by_cases unnamed : udid = ""
  · simp [unnamed, eq_comm]
  · cases s.queue udid with
    | error error' => simp [unnamed, eq_comm]
    | ok q =>
      by_cases queued : ∃ d ∈ q.commands, d.uuid = c.uuid
      · simp [unnamed, queued, bind, Except.bind, eq_comm (a := error)]
      · simp [unnamed, queued, bind, Except.bind]

theorem onQueues_eq_error (now : Instant) :
    Delivery.onQueues s e now = .error error ↔ Flaw s e .queues error := by
  unfold Delivery.onQueues
  constructor
  · intro h
    cases read : CommandEvent.schema.decode e.payload with
    | error error' =>
      rw [read] at h
      cases h
      exact .noCommand read
    | ok c =>
      cases done : Delivery.enqueue s c.udid c.command now with
      | ok r => simp [read, done, bind, Except.bind] at h
      | error error' =>
        have same : error' = error := by simpa [read, done, bind, Except.bind] using h
        subst same
        rcases enqueue_eq_error.1 done with ⟨unnamed, rfl⟩ | ⟨named, ⟨_, unread, rfl⟩ | queued⟩
        · exact .unnamedQueue read unnamed
        · exact .unreadableQueue read named unread
        · obtain ⟨q, there, ⟨d, queued, same⟩, rfl⟩ := queued
          exact .queuedBefore read named there queued same
  · intro flaw
    have fails {c : CommandEvent} (read : CommandEvent.schema.decode e.payload = .ok c)
        (h : Delivery.enqueue s c.udid c.command now = .error error) :
        (CommandEvent.schema.decode e.payload >>= fun c => Delivery.enqueue s c.udid c.command now >>=
          fun r => .ok (r.1, if r.2 then some c.udid else none)) = .error error := by
      simp [read, h, bind, Except.bind]
    cases flaw with
    | noCheckin keeper => exact absurd rfl keeper
    | noCommand unread => simp [unread, bind, Except.bind]
    | unnamedQueue read unnamed => exact fails read (enqueue_eq_error.2 (.inl ⟨unnamed, rfl⟩))
    | unreadableQueue read named unread =>
      exact fails read (enqueue_eq_error.2 (.inr ⟨named, .inl ⟨_, unread, rfl⟩⟩))
    | queuedBefore read named there queued same =>
      exact fails read (enqueue_eq_error.2 (.inr ⟨named, .inr ⟨_, there, ⟨_, queued, same⟩, rfl⟩⟩))

/-- An event fails for the reasons above and no others. -/
theorem apply_eq_error_iff {k : Keeper} {t : Stamp} :
    k.apply s e t = .error error ↔ Flaw s e k error := by
  cases k with
  | devices => exact onDevices_eq_error t.id t.now
  | pushInfos => exact onPushInfos_eq_error t.now
  | queues =>
    rw [← onQueues_eq_error t.now, apply]
    cases Delivery.onQueues s e t.now <;> simp [Except.map]

end Keeper

end DeviceFleet
