import DeviceFleet.Bus.Basic
import DeviceFleet.Message.Event
import DeviceFleet.Store.Basic

/-! Check-ins applied to the store. Two consumers read them: one keeps the device
records, the other the push credentials. Messages on the channel of a user change
nothing. -/

namespace DeviceFleet.Enrolment

/-- The device records after a check-in. A device that is known stays as it is when it
enrols again. `uuid` names a new record. -/
def apply (s : Store) (m : Checkin) (uuid : String) (now : Instant) : Except Error Store :=
  match m with
  | .authenticate m => Store.reported ((s.insertDevice (.ofAuthenticate m uuid now)).map (·.1))
  | .tokenUpdate m =>
    if m.isUserScoped then .ok s
    else Store.reported ((s.updateDevice m.udid (·.register m now)).map (·.1))
  | .checkOut m => Store.reported ((s.updateDevice m.udid (·.leave now)).map (·.1))

/-- The push credentials after a registration. -/
def keepToken (s : Store) (m : TokenUpdate) (now : Instant) : Except Error Store :=
  if m.isUserScoped then .ok s else Store.reported (s.putPushInfo (.ofTokenUpdate m now))

def unexpected (m : Checkin) (topic : String) : Error :=
  .validation ("unexpected " ++ m.messageType ++ " on " ++ topic)

def onDevices (s : Store) (e : Event) (uuid : String) (now : Instant) : Except Error Store := do
  let c ← CheckinEvent.schema.decode e.payload
  apply s c.message uuid now

/-- The push credentials after an event; only registrations are expected. -/
def onPushInfos (s : Store) (e : Event) (now : Instant) : Except Error Store := do
  let c ← CheckinEvent.schema.decode e.payload
  match c.message with
  | .tokenUpdate m => keepToken s m now
  | other => .error (unexpected other e.topic)

/-- The device records after an event, as they were if it is of no use. -/
def takeDevice (s : Store) (e : Event) (uuid : String) (now : Instant) : Store × List Warning :=
  match onDevices s e uuid now with
  | .ok s => (s, [])
  | .error error => (s, [.checkinFailed e.topic error])

def takePushInfo (s : Store) (e : Event) (now : Instant) : Store × List Warning :=
  match onPushInfos s e now with
  | .ok s => (s, [])
  | .error error => (s, [.pushInfoFailed error])

def unknownDevice (udid : String) : Error := .notFound ("device " ++ udid)
def unknownSerial (serial : String) : Error := .notFound ("device with serial " ++ serial)
def unknownPushInfo (udid : String) : Error := .notFound ("push info for " ++ udid)

/-- A record that has to be there. -/
def found {α : Type} (missing : Error) : Except StoreError (Option α) → Except Error α
  | .ok (some a) => .ok a
  | .ok none => .error missing
  | .error e => .error e.reported

def device (s : Store) (udid : String) : Except Error Device :=
  found (unknownDevice udid) (s.device? udid)

def deviceBySerial (s : Store) (serial : String) : Except Error Device :=
  found (unknownSerial serial) (s.deviceBySerial? serial)

def devices (s : Store) : Except Error (List Device) := Store.reported s.deviceList

def pushInfo (s : Store) (udid : String) : Except Error PushInfo :=
  found (unknownPushInfo udid) (s.pushInfo? udid)

end DeviceFleet.Enrolment
