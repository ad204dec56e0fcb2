import DeviceFleet.Service.Enrolment
import DeviceFleet.Text.Hex

/-! Waking a device: a push message goes to its token through a transport, on the topic
that the device registered or else on the default topic. Nothing is sent for a device
without credentials or with a token that no transport takes. -/

namespace DeviceFleet

/-- A message for the transport. -/
structure Push where
  /-- The token in hexadecimal. -/
  token : String
  topic : String
  payload : Bytes
  deriving DecidableEq, Repr

namespace Push

/-- The transport: it answers with the identifier of the message. -/
abbrev Sender := Push → Except Error String

def maxTokenLength : Nat := 100

def emptyToken : Error := ⟨.invalidToken, "push token is empty"⟩
def longToken (length : Nat) : Error :=
  ⟨.invalidToken, "push token is " ++ toString length ++ " bytes, at most " ++
    toString maxTokenLength ++ " allowed"⟩

def validateToken (token : Bytes) : Except Error Unit :=
  if token = [] then .error emptyToken
  else if token.length > maxTokenLength then .error (longToken token.length)
  else .ok ()

/-- What wakes a device: an object with its push magic. -/
def wakePayload (magic : String) : Bytes := Json.print (.object [("mdm", .string magic)])

def ofInfo (defaultTopic : String) (info : PushInfo) : Except Error Push := do
  validateToken info.token
  .ok {
    token := Hex.text info.token
    topic := if info.topic = "" then defaultTopic else info.topic
    payload := wakePayload info.pushMagic }

/-- One try to wake a device: the message that was sent, if one was, and the answer. -/
structure Attempt where
  sent : Option Push
  outcome : Except Error String

def wake (sender : Sender) (defaultTopic : String) (s : Store) (udid : String) : Attempt :=
  match Enrolment.pushInfo s udid >>= ofInfo defaultTopic with
  | .error e => ⟨none, .error e⟩
  | .ok p => ⟨some p, sender p⟩

end Push

abbrev Waker := Store → String → Push.Attempt

end DeviceFleet
