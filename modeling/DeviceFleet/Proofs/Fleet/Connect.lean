import DeviceFleet.Fleet.Basic
import DeviceFleet.Proofs.Message.Connect
import DeviceFleet.Proofs.Queue.Refusals

/-! An exchange is all or nothing. If the body of a device is refused, for whatever reason and
whatever the store holds, the fleet stays as it was and nothing is published. Otherwise the response
is published once, and no record changes but the queue of its device. -/

namespace DeviceFleet

/-- The second store has the records of the first one, except for the queue of a device. -/
structure Store.SameBeside (udid : String) (s t : Store) : Prop where
  devices : t.devices = s.devices
  serials : t.serials = s.serials
  pushInfos : t.pushInfos = s.pushInfos
  queues : ∀ v, v ≠ udid → t.queues.find? v = s.queues.find? v

theorem Store.sameBeside_putQueue (s : Store) (udid : String) (q : DeviceQueue) :
    SameBeside udid s (s.putQueue udid q) := by
  refine ⟨?_, ?_, ?_, fun v other => ?_⟩
  · rw [putQueue_eq]
  · rw [putQueue_eq]
  · rw [putQueue_eq]
  · rw [find?_putQueue, if_neg other]

/-- A change of a queue under a UDID fails if the queue cannot be read or the change fails. -/
theorem Store.updateQueue_cases {ε ρ : Type} (s : Store) {udid : String} (named : udid ≠ "")
    (report : StoreError → ε) (f : DeviceQueue → Except ε (DeviceQueue × ρ)) :
    (∃ e, s.queue udid = .error e ∧ s.updateQueue udid report f = .error (report e)) ∨
      ∃ q, s.queue udid = .ok q ∧
        s.updateQueue udid report f = (f q).map fun (q', r) => (s.putQueue udid q', r) := by
  cases found : s.queue udid with
  | error e =>
    refine .inl ⟨e, rfl, ?_⟩
    rw [updateQueue, if_neg named, found]
  | ok q =>
    refine .inr ⟨q, rfl, ?_⟩
    rw [updateQueue_eq found, if_neg named]

namespace Fleet

/-- One event came to the bus and nothing else; a bus that has stopped passes it over with a
warning. -/
def Published (f : Fleet) (o : Outcome) (topic : String) (payload : Bytes) : Prop :=
  if f.bus.stopped then o.1.bus = f.bus ∧ .warning (.busClosed topic) ∈ o.2
  else o.1.bus = { f.bus with inbox := f.bus.inbox ++ [.publish topic payload] }

/-- Why the body of a device is refused: it is no complete response, it is from the channel of a user,
the queue of the device cannot be read, or the queue refuses the report. -/
inductive Refused (f : Fleet) (body : Bytes) : Error → Prop where
  | body (e : Error) (read : Response.decode body = .error e) : Refused f body e
  | user (r : Response) (read : Response.decode body = .ok r) (user : r.isUserScoped = true) :
      Refused f body Delivery.userResponse
  | record (r : Response) (read : Response.decode body = .ok r) (device : r.isUserScoped = false)
      (e : StoreError) (broken : f.store.queue r.udid = .error e) : Refused f body e.reported
  | report (r : Response) (read : Response.decode body = .ok r) (device : r.isUserScoped = false)
      (q : DeviceQueue) (found : f.store.queue r.udid = .ok q) (e : Error)
      (refused : Exchange.Refuses q r e) : Refused f body e

variable (f : Fleet) (body : Bytes) (s : Stamp)

theorem complete_of_decode {body : Bytes} {r : Response} (h : Response.decode body = .ok r) :
    r.validate = .ok () ∧ r.udid ≠ "" := by
  obtain ⟨-, -, -, -, -, valid⟩ := Response.decode_ok h
  refine ⟨valid, fun unnamed => ?_⟩
  rw [Response.validate, if_pos unnamed] at valid
  cases valid

/-- What the answer to a body may be, and the fleet then. -/
theorem connect_cases :
    (∃ e ws, Refused f body e ∧ f.connect body s = ((f, warnings ws), .error e)) ∨
      ∃ r q q' x ws, Response.decode body = .ok r ∧ f.store.queue r.udid = .ok q ∧
        Exchange.run q r s.now f.delay = .ok (q', x) ∧ f.connect body s = (({ f with
          store := f.store.putQueue r.udid q'
          bus := (f.bus.publish Topic.connect.name (ConnectEvent.schema.encode ⟨s.id, s.now, r⟩)).1 },
          warnings ws ++ warnings
            (f.bus.publish Topic.connect.name (ConnectEvent.schema.encode ⟨s.id, s.now, r⟩)).2),
          .ok x.payload) := by
  rw [connect]
  cases read : Response.decode body with
  | error e => exact .inl ⟨e, [], .body e read, rfl⟩
  | ok r =>
    obtain ⟨valid, named⟩ := complete_of_decode read
    simp only [acknowledge, Delivery.acknowledge]
    cases user : r.isUserScoped with
    | true => exact .inl ⟨_, [], .user r read user, rfl⟩
    | false =>
      simp only [Bool.false_eq_true, if_false, valid, Delivery.exchange]
      rcases f.store.updateQueue_cases named StoreError.reported
        (fun q => Exchange.run q r s.now f.delay) with ⟨e, broken, failed⟩ | ⟨q, found, changed⟩
      · rw [failed]
        exact .inl ⟨_, _, .record r read user e broken, rfl⟩
      · rw [changed]
        rcases Exchange.run_cases q r s.now f.delay with ⟨q', x, ran⟩ | ⟨e, refused, ran⟩
        · rw [ran]
          exact .inr ⟨r, q, q', x, _, rfl, found, ran, rfl⟩
        · rw [ran]
          exact .inl ⟨e, _, .report r read user q found e refused, rfl⟩

/-- Each of these reasons is enough. -/
theorem connect_of_refused {e : Error} (h : Refused f body e) : (f.connect body s).2 = .error e := by
  -- A complete response of a device has the answer of its exchange.
  have answer {r : Response} (read : Response.decode body = .ok r) (device : r.isUserScoped = false)
      {e : Error} (failed : f.store.updateQueue r.udid StoreError.reported
        (fun q => Exchange.run q r s.now f.delay) = .error e) : (f.connect body s).2 = .error e := by
    obtain ⟨valid, -⟩ := complete_of_decode read
    simp only [connect, read, acknowledge, Delivery.acknowledge, device, valid, Delivery.exchange, failed,
      Bool.false_eq_true, if_false]
  cases h with
  | body e read =>
    rw [connect, read]
    rfl
  | user r read user =>
    simp only [connect, read, acknowledge, Delivery.acknowledge, user, if_true]
  | record r read device e broken =>
    apply answer read device
    rw [Store.updateQueue, if_neg (complete_of_decode read).2, broken]
  | report r read device q found e refused =>
    apply answer read device
    rw [Store.updateQueue_eq found, if_neg (complete_of_decode read).2,
      (Exchange.run_error_iff q r s.now f.delay).2 refused]
    rfl

theorem published_publish (f : Fleet) (topic : String) (payload : Bytes) (store : Store)
    (ns : List Notice) :
    f.Published ({ f with store, bus := (f.bus.publish topic payload).1 },
      ns ++ warnings (f.bus.publish topic payload).2) topic payload := by
  rw [Published, Bus.publish]
  split
  · exact ⟨rfl, List.mem_append_right _ List.mem_cons_self⟩
  · rfl

/-- A body is refused for the known reasons only, and then the fleet stays as it was, its store and its
bus, and there are warnings at most. On an answered one, the queue of the response's device goes through
the exchange and no other record changes, and the response comes to the bus as one event, from whose
envelope it is read back. The exchange itself, on any queue in its place, fails just for the reports
that do not name the delivered command, and leaves the queue as it was then. -/
theorem connect_all_or_nothing (fits : Words.Fits body) (id : Words.Fits (Text.encode s.id)) :
    let after := (f.connect body s).1
    (∀ e, (f.connect body s).2 = .error e ↔ Refused f body e) ∧
    (∀ e, (f.connect body s).2 = .error e → after.1 = f ∧ ∀ n ∈ after.2, ∃ w, n = .warning w) ∧
    (∀ answer, (f.connect body s).2 = .ok answer → ∃ r payload, Response.decode body = .ok r ∧
      ConnectEvent.schema.decode payload = .ok ⟨s.id, s.now, r⟩ ∧
      f.Published after Topic.connect.name payload ∧ f.store.SameBeside r.udid after.1.store ∧
      (∃ q q' x, f.store.queue r.udid = .ok q ∧ Exchange.run q r s.now f.delay = .ok (q', x) ∧
        after.1.store.queue r.udid = .ok q' ∧ answer = x.payload) ∧
      after.1 = { f with store := after.1.store, bus := after.1.bus }) ∧
    ∀ q r now delay,
      let (answer, q') := (Exchange.inPlace r now delay).on q
      ((∃ e, answer = .error e) ↔ r.status ≠ .idle ∧
        (q.inFlightUuid? = none ∨ ∃ uuid, q.inFlightUuid? = some uuid ∧ uuid ≠ r.command)) ∧
      (∀ e, answer = .error e → q' = q ∧ Exchange.Refuses q r e) ∧
      ∀ x, answer = .ok x → Exchange.run q r now delay = .ok (q', x) := by
  intro after
  refine ⟨fun e => ⟨fun failed => ?_, f.connect_of_refused body s⟩, fun e failed => ?_,
    fun answer answered => ?_, fun q r now delay => ?_⟩
  · rcases f.connect_cases body s with ⟨e', ws, refused, reply⟩ | ⟨r, q, q', x, ws, read, found, ran, reply⟩
    · rw [reply] at failed
      cases failed
      exact refused
    · rw [reply] at failed
      cases failed
  · rcases f.connect_cases body s with ⟨e', ws, refused, reply⟩ | ⟨r, q, q', x, ws, read, found, ran, reply⟩
    · have outcome : after = (f, warnings ws) := congrArg Prod.fst reply
      rw [outcome]
      refine ⟨rfl, fun n hn => ?_⟩
      obtain ⟨w, -, rfl⟩ := List.mem_map.1 hn
      exact ⟨w, rfl⟩
    · rw [reply] at failed
      cases failed
  · rcases f.connect_cases body s with ⟨e', ws, refused, reply⟩ | ⟨r, q, q', x, ws, read, found, ran, reply⟩
    · rw [reply] at answered
      cases answered
    · have outcome : after = _ := congrArg Prod.fst reply
      rw [reply] at answered
      rw [outcome]
      have queue := (f.store.queue_putQueue r.udid r.udid q').trans (if_pos rfl)
      exact ⟨r, _, read, ConnectEvent.decode_encode id s.now (Response.takesBack_of_decode fits read),
        f.published_publish _ _ _ _, f.store.sameBeside_putQueue r.udid q',
        ⟨q, q', x, found, ran, queue, (Except.ok.inj answered).symm⟩, rfl⟩
  · rcases Exchange.inPlace_cases q r now delay with ⟨q', x, placed, ran⟩ | ⟨e, refused, placed⟩
    · rw [placed]
      have taken : ¬ ∃ e, Exchange.Refuses q r e := by
        rintro ⟨e, refused⟩
        cases ran.symm.trans ((Exchange.run_error_iff q r now delay).2 refused)
      rw [Exchange.refuses_iff] at taken
      refine ⟨⟨nofun, fun unnamed => absurd unnamed taken⟩, nofun, fun y same => ?_⟩
      cases same
      exact ran
    · rw [placed]
      refine ⟨⟨fun _ => (Exchange.refuses_iff q r).1 ⟨e, refused⟩, fun _ => ⟨e, rfl⟩⟩,
        fun e' same => ?_, fun x same => ?_⟩
      · cases same
        exact ⟨rfl, refused⟩
      · cases same

set_option maxRecDepth 4096 in
/-- One device has a record that is no queue, and its question is refused; another one asks for a
command and reports an error beside. -/
theorem connect_all_or_nothing_unreadable :
    let f : Fleet := new { Store.empty with queues := Store.empty.queues.insert "D" [0x7b] }
      ⟨1, .block, 0⟩ (fun _ _ => ⟨none, .ok ""⟩) 5
    let s : Stamp := ⟨"e-1", .ofNanos 0⟩
    let broken := Response.toWire ⟨"D", none, .idle, none, none, []⟩
    let fine := Response.toWire ⟨"E", none, .idle, none, none, [⟨12, "MCMDMErrorDomain", "no"⟩]⟩
    ((f.connect broken s).2 = .error StoreError.unreadable.reported ∧ (f.connect broken s).1.1 = f) ∧
      (f.connect fine s).2 = .ok none ∧ ∃ r payload, Response.decode fine = .ok r ∧
        ConnectEvent.schema.decode payload = .ok ⟨s.id, s.now, r⟩ ∧
        (f.connect fine s).1.1.bus.inbox = [.publish "mdm.Connect" payload] := by
  intro f s broken fine
  have id : Words.Fits (Text.encode s.id) := by decide
  have refused : (f.connect broken s).2 = .error StoreError.unreadable.reported := rfl
  have answered : (f.connect fine s).2 = .ok none := rfl
  obtain ⟨-, kept, -, -⟩ := f.connect_all_or_nothing broken s (by decide) id
  obtain ⟨-, -, published, -⟩ := f.connect_all_or_nothing fine s (by decide) id
  obtain ⟨r, payload, read, envelope, event, -⟩ := published none answered
  refine ⟨⟨refused, (kept _ refused).1⟩, answered, r, payload, read, envelope, ?_⟩
  rw [Published] at event
  exact congrArg Bus.inbox event

end Fleet

end DeviceFleet
