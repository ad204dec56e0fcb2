/-! Failures. A failure has a kind, which callers act on, and a text for people. The
store has failures of its own, which become failures of the fleet where a service
reports them. -/

namespace DeviceFleet

inductive ErrorKind where
  /-- Nothing is stored under the name. -/
  | notFound
  | storage
  /-- A request breaks a rule it could have kept. -/
  | validation
  /-- A request that the protocol knows and this fleet does not serve. -/
  | protocolReject
  | unknownMessageType
  /-- A device's push token cannot be sent to. -/
  | invalidToken
  | push
  /-- Octets that are no value of the type they are read as. -/
  | serialization
  | config
  | internal
  deriving DecidableEq, Repr

namespace ErrorKind

/-- The words before the text of a failure. -/
def label : ErrorKind → String
  | notFound => "Not found"
  | storage => "Storage error"
  | validation => "Validation error"
  | protocolReject => "Protocol reject"
  | unknownMessageType => "Unknown message type"
  | invalidToken => "Invalid push token"
  | push => "Push error"
  | serialization => "Serialization error"
  | config => "Configuration error"
  | internal => "Internal error"

/-- Whether the same request may succeed later. -/
def isTransient : ErrorKind → Bool
  | storage | push | internal => true
  | _ => false

end ErrorKind

structure Error where
  kind : ErrorKind
  text : String
  deriving DecidableEq, Repr

namespace Error

def message (e : Error) : String := e.kind.label ++ ": " ++ e.text

def isTransient (e : Error) : Bool := e.kind.isTransient

def notFound (what : String) : Error := ⟨.notFound, what⟩
def validation (what : String) : Error := ⟨.validation, what⟩
def internal (what : String) : Error := ⟨.internal, what⟩
def config (what : String) : Error := ⟨.config, what⟩

def unreadable : Error := ⟨.serialization, "unreadable value"⟩

end Error

inductive StoreErrorKind where
  | io
  | serialization
  | storage
  | notFound
  | invalidInput
  deriving DecidableEq, Repr

namespace StoreErrorKind

def label : StoreErrorKind → String
  | io => "IO error"
  | serialization => "Serialization error"
  | storage => "Storage error"
  | notFound => "Resource not found"
  | invalidInput => "Invalid input"

/-- The kind of the failure that a service reports. -/
def reported : StoreErrorKind → ErrorKind
  | io | storage => .storage
  | serialization => .serialization
  | notFound => .notFound
  | invalidInput => .validation

end StoreErrorKind

structure StoreError where
  kind : StoreErrorKind
  text : String
  deriving DecidableEq, Repr

namespace StoreError

def message (e : StoreError) : String := e.kind.label ++ ": " ++ e.text

def reported (e : StoreError) : Error := ⟨e.kind.reported, e.text⟩

def unreadable : StoreError := ⟨.serialization, "unreadable record"⟩

def invalidInput (what : String) : StoreError := ⟨.invalidInput, what⟩

end StoreError

end DeviceFleet
