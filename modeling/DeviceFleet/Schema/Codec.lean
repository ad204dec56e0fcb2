import DeviceFleet.Error
import DeviceFleet.Json.Parser
import DeviceFleet.Json.Printer
import DeviceFleet.Schema.Variant

/-! The uses of a schema: stored texts, which are compact JSON with the fields in
their order, and envelopes, which are octets with anything after them passed over. -/

namespace DeviceFleet.Schema

variable {α : Type} (s : Schema α)

def ofJson (v : Json) : Except Error α :=
  match s.read? v with
  | some a => .ok a
  | none => .error .unreadable

theorem read?_of_ofJson {s : Schema α} {v : Json} {a : α} (h : s.ofJson v = .ok a) :
    s.read? v = some a := by
  rw [ofJson] at h
  split at h
  · rename_i found
    cases h
    exact found
  · cases h

theorem read?_of_map_ofJson {β : Type} {s : Schema α} {make : α → β} {v : Json} {b : β}
    (h : make <$> s.ofJson v = .ok b) : ∃ a, s.read? v = some a ∧ make a = b := by
  cases read : s.ofJson v with
  | error e =>
    rw [read] at h
    cases h
  | ok a =>
    rw [read] at h
    cases h
    exact ⟨a, read?_of_ofJson read, rfl⟩

/-- The stored text of a value. -/
def store (a : α) : Bytes := (s.write a).print

def load? (bs : Bytes) : Option α := Json.parse? bs >>= s.read?

/-- The envelope of a value. -/
def encode (a : α) : Bytes := s.put a

def decode? (bs : Bytes) : Option α := (s.take? bs).map (·.1)

def decode (bs : Bytes) : Except Error α :=
  match s.decode? bs with
  | some a => .ok a
  | none => .error .unreadable

end DeviceFleet.Schema
