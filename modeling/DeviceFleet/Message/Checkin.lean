import DeviceFleet.Message.Topic

/-! Check-ins: what a device sends when it enrols (Authenticate), registers its push
credentials (TokenUpdate) or leaves (CheckOut). A body names its kind in
`MessageType` beside the fields of that kind. -/

namespace DeviceFleet

/-- What a device says of itself when it enrols. -/
structure Authenticate where
  udid : String
  topic : String
  serialNumber : String
  osVersion : String
  buildVersion : String
  productName : String
  model : String
  deviceName : String
  imei : String
  meid : String
  deriving DecidableEq, Repr

/-- Push credentials. -/
structure TokenUpdate where
  udid : String
  /-- Set for the channel of a user of the device, which the fleet does not keep. -/
  userId : Option String
  topic : String
  token : Bytes
  pushMagic : String
  unlockToken : Bytes
  awaitingConfiguration : Bool
  deriving DecidableEq, Repr

structure CheckOut where
  udid : String
  topic : String
  deriving DecidableEq, Repr

inductive Checkin where
  | authenticate (m : Authenticate)
  | tokenUpdate (m : TokenUpdate)
  | checkOut (m : CheckOut)
  deriving DecidableEq, Repr

namespace Authenticate

def schema : Schema Authenticate :=
  .record
    (.text "UDID" <| .text "Topic" <| .text "SerialNumber" <| .text "OSVersion" <|
      .text "BuildVersion" <| .text "ProductName" <| .text "Model" <| .text "DeviceName" <|
      .text "IMEI" <| .text "MEID" .done)
    (fun (udid, topic, serialNumber, osVersion, buildVersion, productName, model, deviceName,
      imei, meid, ()) =>
      { udid, topic, serialNumber, osVersion, buildVersion, productName, model, deviceName,
        imei, meid })
    (fun m => (m.udid, m.topic, m.serialNumber, m.osVersion, m.buildVersion, m.productName,
      m.model, m.deviceName, m.imei, m.meid, ()))

end Authenticate

namespace TokenUpdate

def isUserScoped (m : TokenUpdate) : Bool := namesUser m.userId

def schema : Schema TokenUpdate :=
  .record
    (.text "UDID" <| .optional "UserID" .text <| .text "Topic" <| .octets "Token" <|
      .text "PushMagic" <| .octets "UnlockToken" <| .flag "AwaitingConfiguration" .done)
    (fun (udid, userId, topic, token, pushMagic, unlockToken, awaitingConfiguration, ()) =>
      { udid, userId, topic, token, pushMagic, unlockToken, awaitingConfiguration })
    (fun m => (m.udid, m.userId, m.topic, m.token, m.pushMagic, m.unlockToken,
      m.awaitingConfiguration, ()))

end TokenUpdate

namespace CheckOut

def schema : Schema CheckOut :=
  .record (.text "UDID" <| .text "Topic" .done)
    (fun (udid, topic, ()) => { udid, topic }) (fun m => (m.udid, m.topic, ()))

end CheckOut

namespace Checkin

def udid : Checkin → String
  | authenticate m => m.udid
  | tokenUpdate m => m.udid
  | checkOut m => m.udid

def messageType : Checkin → String
  | authenticate _ => "Authenticate"
  | tokenUpdate _ => "TokenUpdate"
  | checkOut _ => "CheckOut"

def topic : Checkin → Topic
  | authenticate _ => .authenticate
  | tokenUpdate _ => .tokenUpdate
  | checkOut _ => .checkOut

def isUserScoped : Checkin → Bool
  | tokenUpdate m => m.isUserScoped
  | _ => false

def schema : Schema Checkin :=
  .alternatives
    [.holding "Authenticate" Authenticate.schema authenticate fun
        | authenticate m => some m
        | _ => none,
      .holding "TokenUpdate" TokenUpdate.schema tokenUpdate fun
        | tokenUpdate m => some m
        | _ => none,
      .holding "CheckOut" CheckOut.schema checkOut fun
        | checkOut m => some m
        | _ => none]

/-- The fields of the body beside `MessageType`. -/
def body : Checkin → Json
  | authenticate m => Authenticate.schema.write m
  | tokenUpdate m => TokenUpdate.schema.write m
  | checkOut m => CheckOut.schema.write m

/-- The body as devices send it. -/
def toWire (m : Checkin) : Bytes :=
  Json.wire (("MessageType", .string m.messageType) :: m.body.members)

def missingType : Error := .validation "check-in is missing MessageType"
def userAuthentication : Error :=
  ⟨.protocolReject, "per-user authentication is not supported"⟩
def unknownType (name : String) : Error := ⟨.unknownMessageType, name⟩
def emptyUdid (m : Checkin) : Error :=
  .validation (m.messageType ++ " check-in has an empty UDID")

def ofFields (kind : String) (v : Json) : Except Error Checkin :=
  match kind with
  | "Authenticate" => authenticate <$> Authenticate.schema.ofJson v
  | "TokenUpdate" => tokenUpdate <$> TokenUpdate.schema.ofJson v
  | "CheckOut" => checkOut <$> CheckOut.schema.ofJson v
  | "UserAuthenticate" => .error userAuthentication
  | other => .error (unknownType other)

/-- The check-in in a body. It names a device. -/
def decode (bs : Bytes) : Except Error Checkin :=
  match Json.read? bs with
  | none => .error .unreadable
  | some v =>
    match Json.get? "MessageType" v.members with
    | some (.string kind) => do
      let m ← ofFields kind v
      if m.udid = "" then .error m.emptyUdid else .ok m
    | _ => .error missingType

end Checkin

end DeviceFleet
