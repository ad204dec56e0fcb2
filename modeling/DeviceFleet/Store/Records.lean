import DeviceFleet.Message.Checkin

/-! The records of the store: managed devices and their push credentials. -/

namespace DeviceFleet

structure Device where
  /-- The identifier that the fleet gives. -/
  uuid : String
  udid : String
  serialNumber : String
  osVersion : String
  buildVersion : String
  productName : String
  model : String
  deviceName : String
  imei : String
  meid : String
  /-- The push channel that the device registered on. -/
  topic : String
  pushToken : Bytes
  pushMagic : String
  unlockToken : Bytes
  enrolled : Bool
  awaitingConfiguration : Bool
  createdAt : Instant
  /-- The time of the last check-in. -/
  lastSeen : Instant
  deriving DecidableEq

namespace Device

def schema : Schema Device :=
  .record
    (.required "uuid" .text <| .required "udid" .text <| .text "serial_number" <|
      .text "os_version" <| .text "build_version" <| .text "product_name" <| .text "model" <|
      .text "device_name" <| .text "imei" <| .text "meid" <| .text "topic" <|
      .octets "push_token" <| .text "push_magic" <| .octets "unlock_token" <|
      .flag "enrolled" <| .flag "awaiting_configuration" <| .required "created_at" .time <|
      .required "last_seen" .time .done)
    (fun (uuid, udid, serialNumber, osVersion, buildVersion, productName, model, deviceName, imei,
      meid, topic, pushToken, pushMagic, unlockToken, enrolled, awaitingConfiguration, createdAt,
      lastSeen, ()) =>
      { uuid, udid, serialNumber, osVersion, buildVersion, productName, model, deviceName, imei,
        meid, topic, pushToken, pushMagic, unlockToken, enrolled, awaitingConfiguration, createdAt,
        lastSeen })
    (fun d => (d.uuid, d.udid, d.serialNumber, d.osVersion, d.buildVersion, d.productName, d.model,
      d.deviceName, d.imei, d.meid, d.topic, d.pushToken, d.pushMagic, d.unlockToken, d.enrolled,
      d.awaitingConfiguration, d.createdAt, d.lastSeen, ()))

def ofAuthenticate (m : Authenticate) (uuid : String) (now : Instant) : Device where
  uuid
  udid := m.udid
  serialNumber := m.serialNumber
  osVersion := m.osVersion
  buildVersion := m.buildVersion
  productName := m.productName
  model := m.model
  deviceName := m.deviceName
  imei := m.imei
  meid := m.meid
  topic := m.topic
  pushToken := []
  pushMagic := ""
  unlockToken := []
  enrolled := false
  awaitingConfiguration := false
  createdAt := now
  lastSeen := now

/-- The record after the device registers its push credentials. A topic that is not
given stays as it was. -/
def register (d : Device) (m : TokenUpdate) (now : Instant) : Device :=
  { d with
    pushToken := m.token
    pushMagic := m.pushMagic
    unlockToken := m.unlockToken
    awaitingConfiguration := m.awaitingConfiguration
    topic := if m.topic = "" then d.topic else m.topic
    enrolled := true
    lastSeen := now }

def leave (d : Device) (now : Instant) : Device := { d with enrolled := false, lastSeen := now }

end Device

/-- What it takes to wake a device. -/
structure PushInfo where
  udid : String
  token : Bytes
  pushMagic : String
  topic : String
  updatedAt : Instant
  deriving DecidableEq

namespace PushInfo

def schema : Schema PushInfo :=
  .record
    (.required "udid" .text <| .required "token" .octets <| .required "push_magic" .text <|
      .text "topic" <| .required "updated_at" .time .done)
    (fun (udid, token, pushMagic, topic, updatedAt, ()) =>
      { udid, token, pushMagic, topic, updatedAt })
    (fun p => (p.udid, p.token, p.pushMagic, p.topic, p.updatedAt, ()))

def ofTokenUpdate (m : TokenUpdate) (now : Instant) : PushInfo where
  udid := m.udid
  token := m.token
  pushMagic := m.pushMagic
  topic := m.topic
  updatedAt := now

end PushInfo

end DeviceFleet
