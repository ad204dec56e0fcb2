import DeviceFleet.Message.Topic
import DeviceFleet.Text.Quoted

/-! Commands. A payload has one of eleven kinds, named by its `RequestType`; a command
is a payload under an identifier. Devices get a command as an object of `CommandUUID`
and `Command`, the latter with `RequestType` beside the fields of the kind. -/

namespace DeviceFleet

structure DeviceInformation where
  queries : List String
  deriving DecidableEq, Repr

structure InstallProfile where
  payload : Bytes
  deriving DecidableEq, Repr

structure RemoveProfile where
  identifier : String
  deriving DecidableEq, Repr

structure InstallApplication where
  manifestUrl : Option String
  storeId : Option Int64
  identifier : Option String
  managementFlags : Option Int64
  notManaged : Option Bool
  changeManagementState : Option String
  deriving DecidableEq, Repr

structure InstalledApplicationList where
  identifiers : List String
  managedAppsOnly : Option Bool
  deriving DecidableEq, Repr

structure DeviceLock where
  pin : Option String
  message : Option String
  phoneNumber : Option String
  deriving DecidableEq, Repr

structure EraseDevice where
  pin : Option String
  deriving DecidableEq, Repr

namespace DeviceInformation

def schema : Schema DeviceInformation :=
  .record (.default "Queries" (.list .text) [] .done)
    (fun (queries, ()) => { queries }) (fun c => (c.queries, ()))

end DeviceInformation

namespace InstallProfile

def schema : Schema InstallProfile :=
  .record (.octets "Payload" .done) (fun (payload, ()) => { payload }) (fun c => (c.payload, ()))

end InstallProfile

namespace RemoveProfile

def schema : Schema RemoveProfile :=
  .record (.text "Identifier" .done)
    (fun (identifier, ()) => { identifier }) (fun c => (c.identifier, ()))

end RemoveProfile

namespace InstallApplication

def schema : Schema InstallApplication :=
  .record
    (.optional "ManifestURL" .text <| .optional "iTunesStoreID" .int64 <|
      .optional "Identifier" .text <| .optional "ManagementFlags" .int64 <|
      .optional "NotManaged" .flag <| .optional "ChangeManagementState" .text .done)
    (fun (manifestUrl, storeId, identifier, managementFlags, notManaged, changeManagementState,
      ()) =>
      { manifestUrl, storeId, identifier, managementFlags, notManaged, changeManagementState })
    (fun c => (c.manifestUrl, c.storeId, c.identifier, c.managementFlags, c.notManaged,
      c.changeManagementState, ()))

end InstallApplication

namespace InstalledApplicationList

def schema : Schema InstalledApplicationList :=
  .record (.default "Identifiers" (.list .text) [] <| .optional "ManagedAppsOnly" .flag .done)
    (fun (identifiers, managedAppsOnly, ()) => { identifiers, managedAppsOnly })
    (fun c => (c.identifiers, c.managedAppsOnly, ()))

end InstalledApplicationList

namespace DeviceLock

def schema : Schema DeviceLock :=
  .record
    (.optional "PIN" .text <| .optional "Message" .text <| .optional "PhoneNumber" .text .done)
    (fun (pin, message, phoneNumber, ()) => { pin, message, phoneNumber })
    (fun c => (c.pin, c.message, c.phoneNumber, ()))

end DeviceLock

namespace EraseDevice

def schema : Schema EraseDevice :=
  .record (.optional "PIN" .text .done) (fun (pin, ()) => { pin }) (fun c => (c.pin, ()))

end EraseDevice

/-- What a command asks of a device. -/
inductive Payload where
  | deviceInformation (c : DeviceInformation)
  | installProfile (c : InstallProfile)
  | removeProfile (c : RemoveProfile)
  | profileList
  | installApplication (c : InstallApplication)
  | installedApplicationList (c : InstalledApplicationList)
  | securityInfo
  | deviceLock (c : DeviceLock)
  | eraseDevice (c : EraseDevice)
  | restartDevice
  | shutDownDevice
  deriving DecidableEq, Repr

namespace Payload

def requestType : Payload → String
  | deviceInformation _ => "DeviceInformation"
  | installProfile _ => "InstallProfile"
  | removeProfile _ => "RemoveProfile"
  | profileList => "ProfileList"
  | installApplication _ => "InstallApplication"
  | installedApplicationList _ => "InstalledApplicationList"
  | securityInfo => "SecurityInfo"
  | deviceLock _ => "DeviceLock"
  | eraseDevice _ => "EraseDevice"
  | restartDevice => "RestartDevice"
  | shutDownDevice => "ShutDownDevice"

/-- The kinds, in the order of their places in envelopes. -/
def alternatives : List (Alternative Payload) :=
  [.holding "DeviceInformation" DeviceInformation.schema deviceInformation fun
      | deviceInformation c => some c
      | _ => none,
    .holding "InstallProfile" InstallProfile.schema installProfile fun
      | installProfile c => some c
      | _ => none,
    .holding "RemoveProfile" RemoveProfile.schema removeProfile fun
      | removeProfile c => some c
      | _ => none,
    .bare "ProfileList" profileList,
    .holding "InstallApplication" InstallApplication.schema installApplication fun
      | installApplication c => some c
      | _ => none,
    .holding "InstalledApplicationList" InstalledApplicationList.schema installedApplicationList fun
      | installedApplicationList c => some c
      | _ => none,
    .bare "SecurityInfo" securityInfo,
    .holding "DeviceLock" DeviceLock.schema deviceLock fun
      | deviceLock c => some c
      | _ => none,
    .holding "EraseDevice" EraseDevice.schema eraseDevice fun
      | eraseDevice c => some c
      | _ => none,
    .bare "RestartDevice" restartDevice,
    .bare "ShutDownDevice" shutDownDevice]

def schema : Schema Payload := .alternatives alternatives

def requestTypes : List String := alternatives.map (·.name)

def missingProfile : Error := .validation "InstallProfile requires a Payload"
def missingIdentifier : Error := .validation "RemoveProfile requires an Identifier"
def missingApplication : Error :=
  .validation "InstallApplication requires ManifestURL, iTunesStoreID or Identifier"

/-- A payload that a device can make sense of. -/
def validate : Payload → Except Error Unit
  | installProfile c => if c.payload = [] then .error missingProfile else .ok ()
  | removeProfile c => if c.identifier = "" then .error missingIdentifier else .ok ()
  | installApplication c =>
    if c.manifestUrl = none ∧ c.storeId = none ∧ c.identifier = none then .error missingApplication
    else .ok ()
  | _ => .ok ()

/-- The fields of the kind, as an object; a kind without fields has an empty one. -/
def fields (p : Payload) : Json.Members :=
  match p with
  | deviceInformation c => (DeviceInformation.schema.write c).members
  | installProfile c => (InstallProfile.schema.write c).members
  | removeProfile c => (RemoveProfile.schema.write c).members
  | installApplication c => (InstallApplication.schema.write c).members
  | installedApplicationList c => (InstalledApplicationList.schema.write c).members
  | deviceLock c => (DeviceLock.schema.write c).members
  | eraseDevice c => (EraseDevice.schema.write c).members
  | profileList | securityInfo | restartDevice | shutDownDevice => []

def unknownType (name : String) : Error :=
  .validation ("unknown RequestType " ++ Quoted.text name)

def ofFields (kind : String) (v : Json) : Except Error Payload :=
  match kind with
  | "DeviceInformation" => deviceInformation <$> DeviceInformation.schema.ofJson v
  | "InstallProfile" => installProfile <$> InstallProfile.schema.ofJson v
  | "RemoveProfile" => removeProfile <$> RemoveProfile.schema.ofJson v
  | "ProfileList" => .ok profileList
  | "InstallApplication" => installApplication <$> InstallApplication.schema.ofJson v
  | "InstalledApplicationList" =>
    installedApplicationList <$> InstalledApplicationList.schema.ofJson v
  | "SecurityInfo" => .ok securityInfo
  | "DeviceLock" => deviceLock <$> DeviceLock.schema.ofJson v
  | "EraseDevice" => eraseDevice <$> EraseDevice.schema.ofJson v
  | "RestartDevice" => .ok restartDevice
  | "ShutDownDevice" => .ok shutDownDevice
  | other => .error (unknownType other)

end Payload

structure Command where
  uuid : String
  payload : Payload
  deriving DecidableEq, Repr

namespace Command

def requestType (c : Command) : String := c.payload.requestType

def schema : Schema Command :=
  .record (.required "uuid" .text <| .required "payload" Payload.schema .done)
    (fun (uuid, payload, ()) => { uuid, payload }) (fun c => (c.uuid, c.payload, ()))

def toWire (c : Command) : Bytes :=
  let kind := ("RequestType", Json.string c.requestType)
  let command := Json.object (kind :: Json.dropNulls c.payload.fields)
  Json.wire [("CommandUUID", .string c.uuid), ("Command", command)]

def notObject : Error := .validation "command body is not an object"
def missingUuid : Error := .validation "command body is missing CommandUUID"
def missingCommand : Error := .validation "command body is missing Command"
def missingType : Error := .validation "command is missing RequestType"

def ofMembers (body : Json.Members) : Except Error Command :=
  match Json.get? "CommandUUID" body with
  | some (.string uuid) =>
    if uuid = "" then .error missingUuid
    else match Json.get? "Command" body with
      | some (.object command) =>
        match Json.get? "RequestType" command with
        | some (.string kind) => do
          let payload ← Payload.ofFields kind (.object (Json.without "RequestType" command))
          .ok { uuid, payload }
        | _ => .error missingType
      | _ => .error missingCommand
  | _ => .error missingUuid

def decode (bs : Bytes) : Except Error Command :=
  match Json.read? bs with
  | none => .error .unreadable
  | some (.object body) => ofMembers body
  | some _ => .error notObject

end Command

/-- A wish for a command to a device. -/
structure CommandRequest where
  udid : String
  payload : Payload
  deriving DecidableEq, Repr

def CommandRequest.schema : Schema CommandRequest :=
  .record (.required "udid" .text <| .required "payload" Payload.schema .done)
    (fun (udid, payload, ()) => { udid, payload }) (fun r => (r.udid, r.payload, ()))

end DeviceFleet
