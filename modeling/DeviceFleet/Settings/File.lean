import DeviceFleet.Settings.Basic
import DeviceFleet.Toml.Document

/-! Settings in a TOML document, in the sections `storage`, `bus`, `queue` and `push`.
Sections and settings that are missing have their defaults; unknown ones are passed
over. -/

namespace DeviceFleet.Settings

/-- The entries of a section. A list gives the settings in their order; a date names no
setting. -/
def section? (names : List String) : Toml → Option Toml.Entries
  | .table _ es => some es
  | .array items => some (names.zip items)
  | .tables items => some (names.zip items)
  | .date => some []
  | _ => none

/-- The setting of a section, or its default. -/
def setting? {α : Type} (name : String) (read? : Toml → Option α) (absent : α) (es : Toml.Entries) :
    Option α :=
  match Toml.find? name es with
  | none => some absent
  | some v => read? v

def text? : Toml → Option String
  | .string s => some s
  | _ => none

def count? : Toml → Option Nat
  | .integer n => if 0 ≤ n then some n.toNat else none
  | _ => none

/-- The policy with a name in lower case. -/
def policyNamed? (name : String) : Option Policy := [Policy.block, .reject].find? (·.name = name)

/-- A policy by its name, which may also stand before something empty. -/
def policy? : Toml → Option Policy
  | .string name => policyNamed? name
  | .table _ [(name, .table _ [])] => policyNamed? name
  | .table _ [(name, .array [])] => policyNamed? name
  | _ => none

/-- The entries of a section of a document; one that is missing has none. -/
def sectionOf? (name : String) (names : List String) (document : Toml.Entries) :
    Option Toml.Entries :=
  setting? name (section? names) [] document

def ofDocument? (document : Toml.Entries) : Option Settings := do
  let d : Settings := {}
  let storage ← sectionOf? "storage" ["path"] document
  let bus ← sectionOf? "bus" ["subscriber_capacity", "backpressure", "send_timeout_ms"] document
  let queue ← sectionOf? "queue" ["redeliver_after_secs"] document
  let push ← sectionOf? "push" ["topic"] document
  let storePath ← setting? "path" text? d.storePath storage
  let capacity ← setting? "subscriber_capacity" count? d.capacity bus
  let policy ← setting? "backpressure" policy? d.policy bus
  let timeout ← setting? "send_timeout_ms" count? d.timeout bus
  let redeliverAfter ← setting? "redeliver_after_secs" count? d.redeliverAfter queue
  let pushTopic ← setting? "topic" text? d.pushTopic push
  some { storePath, capacity, policy, timeout, redeliverAfter, pushTopic }

def invalid : Error := .config "invalid config: unreadable document"

def parse (text : String) : Except Error Settings :=
  match Toml.parse? text >>= ofDocument? with
  | some s => .ok s
  | none => .error invalid

end DeviceFleet.Settings
