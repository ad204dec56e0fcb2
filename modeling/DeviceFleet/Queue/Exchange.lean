import DeviceFleet.Message.Connect
import DeviceFleet.Queue.Basic

/-! One exchange with a device: its response is applied to its queue, and the next
command, if one is due, is handed out. A report has to name the delivered command.
`NotNow` gives the command back to the queue; the other outcomes remove it. A command
that was delivered and has no outcome is handed out again once the delay has passed. -/

namespace DeviceFleet

structure Exchange where
  /-- The body for the device; none is an empty answer. -/
  payload : Option Bytes
  delivered : Option String
  /-- The command that was removed, with its outcome. -/
  completed : Option (QueuedCommand × Status)
  /-- Whether the command had been handed out before. -/
  redelivered : Bool
  /-- The number of commands left, with the delivered one. -/
  remaining : Nat
  deriving DecidableEq

namespace Exchange

def otherInFlight (r : Response) (uuid : String) : Error :=
  .validation (r.status.name ++ " for command " ++ r.command ++ " but " ++ uuid ++ " is in flight")

def noneInFlight (r : Response) : Error :=
  .validation (r.status.name ++ " for command " ++ r.command ++ " but no command is in flight")

/-- An exchange that hands out nothing. -/
def quiet (q : DeviceQueue) (completed : Option (QueuedCommand × Status)) : Exchange :=
  ⟨none, none, completed, false, q.size⟩

def handOut (q : DeviceQueue) (completed : Option (QueuedCommand × Status)) (redelivered : Bool)
    (now : Instant) : DeviceQueue × Exchange :=
  (q.deliver now,
    ⟨q.head?.map (·.payload), q.head?.map (·.uuid), completed, redelivered, q.size⟩)

/-- Whether a delivery without an outcome is to be repeated, with a delay in
nanoseconds. It is not while the clock stands before the delivery. -/
def isDue (f : InFlight) (now : Instant) (delay : Nat) : Bool :=
  let elapsed := now.since f.deliveredAt
  0 ≤ elapsed && (delay : Int) ≤ elapsed

/-- The answer to a device that waits for a command. -/
def offer (q : DeviceQueue) (completed : Option (QueuedCommand × Status)) (now : Instant)
    (delay : Nat) : DeviceQueue × Exchange :=
  match q.inFlight with
  | none => handOut q completed false now
  | some f => if isDue f now delay then handOut q completed true now else (q, quiet q completed)

/-- The exchange for a response, and the queue after it. -/
def run (q : DeviceQueue) (r : Response) (now : Instant) (delay : Nat) :
    Except Error (DeviceQueue × Exchange) :=
  if r.status = .idle then .ok (offer q none now delay)
  else match q.inFlightUuid? with
    | none => .error (noneInFlight r)
    | some uuid =>
      if uuid ≠ r.command then .error (otherInFlight r uuid)
      else if r.status = .notNow then .ok (q.release, quiet q.release none)
      else .ok (offer q.pop (q.head?.map (·, r.status)) now delay)

end Exchange

end DeviceFleet
