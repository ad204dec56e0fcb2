import DeviceFleet.Bus.Merge
import DeviceFleet.Service.Audit
import DeviceFleet.Service.Delivery
import DeviceFleet.Service.Push

/-! The fleet: a store and a bus, the consumers that read the bus, and the devices that
are about to be woken. Requests of devices and operators publish events; the consumers
bring them into the store. -/

namespace DeviceFleet

/-- A fresh identifier and the time, as they come from outside. -/
structure Stamp where
  id : String
  now : Instant

inductive Notice where
  | warning (w : Warning)
  /-- A try to wake a device. -/
  | wake (udid : String) (attempt : Push.Attempt)

/-- A consumer of events: whether it counts as started, and its loop while there is one. -/
structure Consumer (α : Type) where
  started : Bool
  loop : Option α

def Consumer.idle {α : Type} : Consumer α := ⟨false, none⟩

structure Fleet where
  waker : Waker
  /-- When a delivery without an outcome is repeated, in nanoseconds. -/
  delay : Nat
  store : Store
  bus : Bus
  /-- The keeper of the device records. -/
  devices : Consumer Merge
  /-- The keeper of the push credentials. -/
  pushInfos : Consumer Nat
  /-- The keeper of the command queues. -/
  queues : Consumer Nat
  /-- The subscriptions of the audits. -/
  audits : List (Nat × Audit.Subject)
  audit : Audit
  /-- The devices that are about to be woken. -/
  wakes : List String

namespace Fleet

def new (store : Store) (bus : BusConfig) (waker : Waker) (delay : Nat) : Fleet where
  waker
  delay
  store
  bus := .new bus
  devices := .idle
  pushInfos := .idle
  queues := .idle
  audits := []
  audit := .empty
  wakes := []

abbrev Outcome := Fleet × List Notice

abbrev Reply (α : Type) := Outcome × Except Error α

def warnings (ws : List Warning) : List Notice := ws.map .warning

/-- The answer to a request that changes nothing. -/
def refuse {α : Type} (f : Fleet) (e : Error) : Reply α := ((f, []), .error e)

def publish (f : Fleet) (topic : String) (payload : Bytes) : Outcome :=
  let (bus, ws) := f.bus.publish topic payload
  ({ f with bus }, warnings ws)

/-- Asks the bus to stop after what has been published. The consumers end with it. -/
def shutdown (f : Fleet) : Fleet := { f with bus := f.bus.shutdown }

/-! Check-ins. -/

def emptyCheckinUdid : Error := .validation "check-in has an empty UDID"

/-- Publishes a check-in; the answer is the identifier of the event. -/
def checkin (f : Fleet) (m : Checkin) (s : Stamp) : Reply String :=
  if m.udid = "" then f.refuse emptyCheckinUdid
  else
    (f.publish m.topic.name (CheckinEvent.schema.encode ⟨s.id, s.now, m⟩), .ok s.id)

def checkinBody (f : Fleet) (body : Bytes) (s : Stamp) : Reply String :=
  match Checkin.decode body with
  | .error e => f.refuse e
  | .ok m => f.checkin m s

/-! Commands. -/

def emptyRequestUdid : Error := .validation "command request has an empty UDID"

/-- Makes the wished command under the identifier `uuid` and publishes it. -/
def newCommand (f : Fleet) (r : CommandRequest) (uuid : String) (s : Stamp) : Reply Command :=
  if r.udid = "" then f.refuse emptyRequestUdid
  else match r.payload.validate with
    | .error e => f.refuse e
    | .ok () =>
      let c : Command := ⟨uuid, r.payload⟩
      (f.publish Topic.command.name (CommandEvent.schema.encode ⟨s.id, s.now, r.udid, c⟩), .ok c)

/-- Puts a command into the queue of a device, past the bus. -/
def enqueue (f : Fleet) (udid : String) (c : Command) (now : Instant) : Reply Bool :=
  match Delivery.enqueue f.store udid c now with
  | .error e => f.refuse e
  | .ok (store, wasEmpty) => (({ f with store }, []), .ok wasEmpty)

/-- Removes the commands of a device; the answer says how many there were. -/
def clear (f : Fleet) (udid : String) : Reply Nat :=
  match Delivery.clear f.store udid with
  | .error e => f.refuse e
  | .ok (store, n) => (({ f with store }, []), .ok n)

/-! Exchanges. -/

/-- Answers a response of a device with the body of its next command, if one is due,
and publishes the response. -/
def acknowledge (f : Fleet) (r : Response) (s : Stamp) : Reply (Option Bytes) :=
  match Delivery.acknowledge f.store r s.now f.delay with
  | (.error e, ws) => ((f, warnings ws), .error e)
  | (.ok (store, x), ws) =>
    let (f, ns) := { f with store }.publish Topic.connect.name
      (ConnectEvent.schema.encode ⟨s.id, s.now, r⟩)
    ((f, warnings ws ++ ns), .ok x.payload)

def connect (f : Fleet) (body : Bytes) (s : Stamp) : Reply (Option Bytes) :=
  match Response.decode body with
  | .error e => f.refuse e
  | .ok r => f.acknowledge r s

/-! Waking. -/

/-- The notices of a try to wake a device; `failed` makes the warning. -/
def wakeNotices (udid : String) (a : Push.Attempt) (failed : Error → Warning) : List Notice :=
  .wake udid a :: match a.outcome with
    | .ok _ => []
    | .error e => [.warning (failed e)]

def wake (f : Fleet) (udid : String) : Reply String :=
  let a := f.waker f.store udid
  ((f, [.wake udid a]), a.outcome)

/-- Wakes every device that waits for a command; the answer says how many were woken. -/
def reconcile (f : Fleet) : Reply Nat :=
  match Delivery.pendingUdids f.store with
  | .error e => f.refuse e
  | .ok udids =>
    let attempts := udids.map fun udid => (udid, f.waker f.store udid)
    ((f, attempts.flatMap fun (udid, a) => wakeNotices udid a (.reconcileFailed udid)),
      .ok (attempts.filter fun (_, a) => a.outcome.toBool).length)

/-! Starting the consumers. -/

def devicesStarted : Error := .internal "device store already started"
def pushInfosStarted : Error := .internal "push info store already started"
def queuesStarted : Error := .internal "command queue already started"

/-- Starts the keeper of the device records. It counts as started even if the bus
refuses its subscriptions. -/
def startDevices (f : Fleet) : Reply Unit :=
  if f.devices.started then f.refuse devicesStarted
  else
    let topics := [Topic.authenticate, .tokenUpdate, .checkOut].map Topic.name
    let ((bus, ws), r) := f.bus.subscribeAll "device-store" topics
    let loop := r.toOption.map Merge.ofIds
    (({ f with bus, devices := ⟨true, loop⟩ }, warnings ws), r.map fun _ => ())

def startPushInfos (f : Fleet) : Reply Unit :=
  if f.pushInfos.started then f.refuse pushInfosStarted
  else
    let ((bus, ws), r) := f.bus.subscribe "push-info-store" Topic.tokenUpdate.name
    (({ f with bus, pushInfos := ⟨true, r.toOption⟩ }, warnings ws), r.map fun _ => ())

def startQueues (f : Fleet) : Reply Unit :=
  if f.queues.started then f.refuse queuesStarted
  else
    let ((bus, ws), r) := f.bus.subscribe "command-queue" Topic.command.name
    (({ f with bus, queues := ⟨true, r.toOption⟩ }, warnings ws), r.map fun _ => ())

/-- Starts an audit; several of them count together. -/
def startAudit (f : Fleet) : Reply Unit :=
  let topics := [Topic.command, .connect].map Topic.name
  let ((bus, ws), r) := f.bus.subscribeAll "audit" topics
  let feeds := (r.toOption.getD []).zip [Audit.Subject.commands, .connects]
  (({ f with bus, audits := f.audits ++ feeds }, warnings ws), r.map fun _ => ())

/-- Starts all consumers, one after another, unless one of them fails. -/
def startAll (f : Fleet) : Reply Unit :=
  let next (reply : Reply Unit) (start : Fleet → Reply Unit) : Reply Unit :=
    match reply with
    | ((f, ns), .ok ()) =>
      let ((f, ms), r) := start f
      ((f, ns ++ ms), r)
    | failed => failed
  next (next (next f.startDevices startPushInfos) startQueues) startAudit

end Fleet

end DeviceFleet
