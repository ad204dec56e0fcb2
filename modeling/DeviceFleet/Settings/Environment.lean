import DeviceFleet.Settings.File
import DeviceFleet.Text.Numeral

/-! Settings from the environment. A variable that is set goes before the file. Numbers
and the policy are read without the white space around them, and a value that is none is
reported and ignored; the path and the push topic are taken as they are. -/

namespace DeviceFleet

abbrev Environment := String → Option String

namespace Environment

def configPath : String := "FLEETMDM_CONFIG"
def storePath : String := "FLEETMDM_DB_PATH"
def capacity : String := "FLEETMDM_BUS_SUBSCRIBER_CAPACITY"
def policy : String := "FLEETMDM_BUS_BACKPRESSURE"
def timeout : String := "FLEETMDM_BUS_SEND_TIMEOUT_MS"
def redeliverAfter : String := "FLEETMDM_QUEUE_REDELIVER_AFTER_SECS"
def pushTopic : String := "FLEETMDM_PUSH_TOPIC"

/-- The value that a variable has without the white space around it. -/
def parsed {α : Type} (parse? : String → Option α) (value : Option String) : Option α :=
  value.bind fun v => parse? (Text.trim v)

/-- The value of a variable, or what it would replace, and the warning of a value that
cannot be read. -/
def override {α : Type} (env : Environment) (name : String) (parse? : String → Option α)
    (present : α) : α × List Warning :=
  match env name with
  | none => (present, [])
  | some v => match parse? (Text.trim v) with
    | some a => (a, [])
    | none => (present, [.invalidOverride name v])

def policy? (name : String) : Option Policy := (Policy.ofName name).toOption

end Environment

namespace Settings

/-- The settings with the environment's in place of their own. -/
def override (s : Settings) (env : Environment) : Settings × List Warning :=
  let (capacity, w₁) := env.override Environment.capacity (Text.unsigned? 64) s.capacity
  let (policy, w₂) := env.override Environment.policy Environment.policy? s.policy
  let (timeout, w₃) := env.override Environment.timeout (Text.unsigned? 64) s.timeout
  let (redeliverAfter, w₄) :=
    env.override Environment.redeliverAfter (Text.unsigned? 64) s.redeliverAfter
  ({ storePath := (env Environment.storePath).getD s.storePath
     pushTopic := (env Environment.pushTopic).getD s.pushTopic
     capacity, policy, timeout, redeliverAfter }, w₁ ++ w₂ ++ w₃ ++ w₄)

inductive Source where
  | missing
  /-- Something that cannot be read as a file. -/
  | unreadable
  | file (content : Bytes)

def failedToRead (path : String) : Error := .config ("failed to read " ++ path)

/-- The settings of a source; one that is missing has the defaults. -/
def ofSource (path : String) : Source → Except Error Settings
  | .missing => .ok {}
  | .unreadable => .error (failedToRead path)
  | .file content => match Text.decode? content with
    | none => .error (failedToRead path)
    | some text => parse text

/-- Loads settings: those of the source, then those of the environment, which together
have to keep the rules. -/
def load (path : String) (source : Source) (env : Environment) :
    Except Error Settings × List Warning :=
  match ofSource path source with
  | .error e => (.error e, [])
  | .ok s =>
    let (s, ws) := s.override env
    match s.validate with
    | .error e => (.error e, ws)
    | .ok () => (.ok s, ws)

end Settings

end DeviceFleet
