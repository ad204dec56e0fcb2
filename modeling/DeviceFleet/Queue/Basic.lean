import DeviceFleet.Schema.Codec

/-! The command queue of one device. Commands are delivered in their order, the head
first; a marker names the command that was delivered and has no outcome yet. -/

namespace DeviceFleet

/-- A command in the form in which the device gets it. -/
structure QueuedCommand where
  uuid : String
  requestType : String
  payload : Bytes
  enqueuedAt : Instant
  deriving DecidableEq

/-- The delivered command and the time of its delivery. -/
structure InFlight where
  commandUuid : String
  deliveredAt : Instant
  deriving DecidableEq

structure DeviceQueue where
  commands : List QueuedCommand
  inFlight : Option InFlight
  deriving DecidableEq

/-- What is to be seen of a queue. -/
inductive QueueState where
  | empty
  | hasPending
  | inFlight
  deriving DecidableEq, Repr

def QueueState.name : QueueState → String
  | empty => "Empty"
  | hasPending => "HasPending"
  | inFlight => "InFlight"

def QueuedCommand.schema : Schema QueuedCommand :=
  .record
    (.required "uuid" .text <| .required "request_type" .text <| .required "payload" .octets <|
      .required "enqueued_at" .time .done)
    (fun (uuid, requestType, payload, enqueuedAt, ()) => { uuid, requestType, payload, enqueuedAt })
    (fun c => (c.uuid, c.requestType, c.payload, c.enqueuedAt, ()))

def InFlight.schema : Schema InFlight :=
  .record (.required "command_uuid" .text <| .required "delivered_at" .time .done)
    (fun (commandUuid, deliveredAt, ()) => { commandUuid, deliveredAt })
    (fun f => (f.commandUuid, f.deliveredAt, ()))

namespace DeviceQueue

def empty : DeviceQueue := ⟨[], none⟩

def schema : Schema DeviceQueue :=
  .record
    (.default "commands" QueuedCommand.schema.list [] <|
      .optional "in_flight" InFlight.schema .done)
    (fun (commands, inFlight, ()) => { commands, inFlight })
    (fun q => (q.commands, q.inFlight, ()))

def state (q : DeviceQueue) : QueueState :=
  match q.inFlight, q.commands with
  | some _, _ => .inFlight
  | none, [] => .empty
  | none, _ :: _ => .hasPending

def size (q : DeviceQueue) : Nat := q.commands.length

def head? (q : DeviceQueue) : Option QueuedCommand := q.commands.head?

def inFlightUuid? (q : DeviceQueue) : Option String := q.inFlight.map (·.commandUuid)

def isClear (q : DeviceQueue) : Bool := q.commands.isEmpty && q.inFlight.isNone

def push (q : DeviceQueue) (c : QueuedCommand) : DeviceQueue :=
  { q with commands := q.commands ++ [c] }

def pop (q : DeviceQueue) : DeviceQueue := ⟨q.commands.tail, none⟩

/-- The queue with its marker removed. -/
def release (q : DeviceQueue) : DeviceQueue := { q with inFlight := none }

def deliver (q : DeviceQueue) (now : Instant) : DeviceQueue :=
  match q.head? with
  | some c => { q with inFlight := some ⟨c.uuid, now⟩ }
  | none => q

end DeviceQueue

end DeviceFleet
