import DeviceFleet.Message.Topic
import DeviceFleet.Text.Quoted

/-! Connect responses: a device reports the outcome of its last command and asks for
the next one. -/

namespace DeviceFleet

inductive Status where
  /-- Nothing; the device only asks. -/
  | idle
  | acknowledged
  | error
  | commandFormatError
  /-- The device cannot carry out the command at present. -/
  | notNow
  deriving DecidableEq, Repr

namespace Status

def name : Status → String
  | idle => "Idle"
  | acknowledged => "Acknowledged"
  | error => "Error"
  | commandFormatError => "CommandFormatError"
  | notNow => "NotNow"

def all : List Status := [idle, acknowledged, error, commandFormatError, notNow]

/-- Whether the command has failed for good. -/
def isFailure : Status → Bool
  | error | commandFormatError => true
  | _ => false

def requiresCommand (s : Status) : Bool := s ≠ idle

def unknown (text : String) : Error := .validation ("unknown status " ++ Quoted.text text)

def ofName (text : String) : Except Error Status :=
  match all.find? (·.name = text) with
  | some s => .ok s
  | none => .error (unknown text)

def schema : Schema Status := .alternatives (all.map fun s => .bare s.name s)

end Status

/-- One of the errors that a device gives as reasons. -/
structure ErrorItem where
  code : Int64
  domain : String
  description : String
  deriving DecidableEq, Repr

namespace ErrorItem

def schema : Schema ErrorItem :=
  .record
    (.default "ErrorCode" .int64 0 <| .text "ErrorDomain" <| .text "LocalizedDescription" .done)
    (fun (code, domain, description, ()) => { code, domain, description })
    (fun e => (e.code, e.domain, e.description, ()))

/-- The error on one line. -/
def line (e : ErrorItem) : String :=
  e.domain ++ ":" ++ toString e.code.toInt ++ " " ++ e.description

end ErrorItem

structure Response where
  udid : String
  userId : Option String
  status : Status
  commandUuid : Option String
  requestType : Option String
  errorChain : List ErrorItem
  deriving DecidableEq, Repr

namespace Response

def schema : Schema Response :=
  .record
    (.required "UDID" .text <| .optional "UserID" .text <| .required "Status" Status.schema <|
      .optional "CommandUUID" .text <| .optional "RequestType" .text <|
      .default "ErrorChain" ErrorItem.schema.list [] .done)
    (fun (udid, userId, status, commandUuid, requestType, errorChain, ()) =>
      { udid, userId, status, commandUuid, requestType, errorChain })
    (fun r => (r.udid, r.userId, r.status, r.commandUuid, r.requestType, r.errorChain, ()))

def isUserScoped (r : Response) : Bool := namesUser r.userId

/-- The command that the response names, empty if it names none. -/
def command (r : Response) : String := r.commandUuid.getD ""

def emptyUdid : Error := .validation "connect response has an empty UDID"
def missingCommand (s : Status) : Error := .validation (s.name ++ " response without CommandUUID")
def missingStatus : Error := .validation "connect response is missing Status"

/-- A response names a device, and a report names the command it is about. -/
def validate (r : Response) : Except Error Unit :=
  if r.udid = "" then .error emptyUdid
  else if r.status.requiresCommand ∧ r.command = "" then .error (missingCommand r.status)
  else .ok ()

def toWire (r : Response) : Bytes := Json.wire (schema.write r).members

def decode (bs : Bytes) : Except Error Response :=
  match Json.read? bs with
  | none => .error .unreadable
  | some v =>
    match Json.get? "Status" v.members with
    | some (.string name) => do
      let _ ← Status.ofName name
      let r ← schema.ofJson v
      r.validate
      .ok r
    | _ => .error missingStatus

end Response

end DeviceFleet
