import DeviceFleet.Bus.Basic
import DeviceFleet.Text.Blank

/-! The settings of a fleet, with their defaults and the rules that they have to keep. -/

namespace DeviceFleet

structure Settings where
  /-- The file of the store. -/
  storePath : String := "data/fleetmdm.redb"
  /-- The size of a subscription's queue. -/
  capacity : Nat := 1024
  policy : Policy := .block
  /-- How long the dispatcher waits for room, in milliseconds. -/
  timeout : Nat := 5000
  /-- When a delivery without an outcome is repeated, in seconds. -/
  redeliverAfter : Nat := 300
  /-- The push topic of devices that name none. -/
  pushTopic : String := ""
  deriving DecidableEq, Repr

namespace Settings

/-- The path that stands for a store without a file. -/
def memoryPath : String := ":memory:"

def inMemory : Settings := { storePath := memoryPath }

/-- Whether the store outlives the program. -/
def isPersistent (s : Settings) : Bool := s.storePath ≠ memoryPath

def busConfig (s : Settings) : BusConfig := ⟨s.capacity, s.policy, s.timeout⟩

/-- When a delivery without an outcome is repeated, in nanoseconds. -/
def delay (s : Settings) : Nat := s.redeliverAfter * 1000000000

def emptyPath : Error := .config "storage.path is empty"
def noCapacity : Error := .config "bus.subscriber_capacity must be at least 1"

/-- The store has a path, and queues have room. -/
def validate (s : Settings) : Except Error Unit :=
  if Text.trim s.storePath = "" then .error emptyPath
  else if s.capacity = 0 then .error noCapacity
  else .ok ()

end Settings

end DeviceFleet
