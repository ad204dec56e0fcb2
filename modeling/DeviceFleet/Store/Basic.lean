import DeviceFleet.Store.Table
import DeviceFleet.Store.Records
import DeviceFleet.Queue.Basic

/-! The store: devices, an index of their serial numbers, push credentials and command
queues, each record as its stored text. An operation that fails leaves the store as it
was, since it gives no new one. -/

namespace DeviceFleet

structure Store where
  devices : Table Bytes
  /-- The device that a serial number stands for. -/
  serials : Table String
  pushInfos : Table Bytes
  queues : Table Bytes

namespace Store

def empty : Store := ⟨∅, ∅, ∅, ∅⟩

def load {α : Type} (s : Schema α) (text : Bytes) : Except StoreError α :=
  match s.load? text with
  | some a => .ok a
  | none => .error .unreadable

def lookup {α : Type} (s : Schema α) (t : Table Bytes) (name : String) :
    Except StoreError (Option α) :=
  match t.find? name with
  | none => .ok none
  | some text => some <$> load s text

/-- The result of an operation as a service reports it. -/
def reported {α : Type} : Except StoreError α → Except Error α
  | .ok a => .ok a
  | .error e => .error e.reported

/-! Devices. -/

def emptyDeviceUdid : StoreError := .invalidInput "device record has an empty UDID"
def unknownDevice (udid : String) : StoreError := ⟨.notFound, "device " ++ udid⟩

def device? (s : Store) (udid : String) : Except StoreError (Option Device) :=
  lookup Device.schema s.devices udid

/-- The index with a serial number for a device; an empty one is not listed. -/
def listSerial (serials : Table String) (serial udid : String) : Table String :=
  if serial = "" then serials else serials.insert serial udid

def unlistSerial (serials : Table String) (serial : String) : Table String :=
  if serial = "" then serials else serials.erase serial

/-- Adds a device unless its UDID is known; the flag says whether it was added. -/
def insertDevice (s : Store) (d : Device) : Except StoreError (Store × Bool) :=
  if d.udid = "" then .error emptyDeviceUdid
  else if s.devices.contains d.udid then .ok (s, false)
  else .ok ({ s with
    devices := s.devices.insert d.udid (Device.schema.store d)
    serials := listSerial s.serials d.serialNumber d.udid }, true)

/-- Changes a device. It keeps its UDID, and the index follows its serial number. -/
def updateDevice (s : Store) (udid : String) (f : Device → Device) :
    Except StoreError (Store × Device) := do
  match s.devices.find? udid with
  | none => .error (unknownDevice udid)
  | some text =>
    let old ← load Device.schema text
    let new := { f old with udid }
    let serials :=
      if old.serialNumber = new.serialNumber then s.serials
      else listSerial (unlistSerial s.serials old.serialNumber) new.serialNumber udid
    .ok ({ s with devices := s.devices.insert udid (Device.schema.store new), serials }, new)

/-- All devices, in the order of their UDIDs. -/
def deviceList (s : Store) : Except StoreError (List Device) :=
  s.devices.entries.mapM fun e => load Device.schema e.2

def deviceBySerial? (s : Store) (serial : String) : Except StoreError (Option Device) :=
  match s.serials.find? serial with
  | none => .ok none
  | some udid => s.device? udid

/-! Push credentials. -/

def emptyPushUdid : StoreError := .invalidInput "push info has an empty UDID"

def pushInfo? (s : Store) (udid : String) : Except StoreError (Option PushInfo) :=
  lookup PushInfo.schema s.pushInfos udid

def putPushInfo (s : Store) (p : PushInfo) : Except StoreError Store :=
  if p.udid = "" then .error emptyPushUdid
  else .ok { s with pushInfos := s.pushInfos.insert p.udid (PushInfo.schema.store p) }

/-! Command queues. -/

def emptyQueueUdid : StoreError := .invalidInput "queue update with an empty UDID"

/-- The queue of a device; one without a record is empty. -/
def queue (s : Store) (udid : String) : Except StoreError DeviceQueue := do
  let q ← lookup DeviceQueue.schema s.queues udid
  .ok (q.getD .empty)

/-- The store with the queue of a device; a clear queue has no record. -/
def putQueue (s : Store) (udid : String) (q : DeviceQueue) : Store :=
  if q.isClear then { s with queues := s.queues.erase udid }
  else { s with queues := s.queues.insert udid (DeviceQueue.schema.store q) }

/-- Changes the queue of a device, unless `f` fails; `report` turns a failure of the
store into one of the caller's. -/
def updateQueue {ε ρ : Type} (s : Store) (udid : String) (report : StoreError → ε)
    (f : DeviceQueue → Except ε (DeviceQueue × ρ)) : Except ε (Store × ρ) :=
  if udid = "" then .error (report emptyQueueUdid)
  else match s.queue udid with
    | .error e => .error (report e)
    | .ok q => do
      let (q, r) ← f q
      .ok (s.putQueue udid q, r)

/-- The devices with a command in their queue, in the order of their UDIDs. -/
def pendingUdids (s : Store) : Except StoreError (List String) := do
  let queues ← s.queues.entries.mapM fun e => do
    let q ← load DeviceQueue.schema e.2
    .ok (e.1, q)
  .ok ((queues.filter fun e => !e.2.commands.isEmpty).map (·.1))

/-- Removes the commands of a device; the number says how many there were. -/
def clearQueue (s : Store) (udid : String) : Except StoreError (Store × Nat) :=
  s.updateQueue udid id fun q => .ok (.empty, q.size)

end Store

end DeviceFleet
