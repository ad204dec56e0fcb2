import DeviceFleet.Bus.Basic
import DeviceFleet.Message.Event
import DeviceFleet.Queue.Exchange
import DeviceFleet.Store.Basic

/-! Commands on their way to devices: new ones are put into the queues, and exchanges
with devices take them out. -/

namespace DeviceFleet.Delivery

def emptyUdid : Error := .validation "enqueue with an empty UDID"
def alreadyQueued (uuid : String) : Error :=
  .validation ("command " ++ uuid ++ " is already queued")
def userResponse : Error := ⟨.protocolReject, "user-scoped connect responses are not handled"⟩

def queued (c : Command) (now : Instant) : QueuedCommand :=
  ⟨c.uuid, c.requestType, c.toWire, now⟩

/-- Puts a command at the end of a device's queue, unless its identifier is queued; the
flag says whether the queue had no command. -/
def enqueue (s : Store) (udid : String) (c : Command) (now : Instant) :
    Except Error (Store × Bool) :=
  if udid = "" then .error emptyUdid
  else s.updateQueue udid StoreError.reported fun q =>
    if q.commands.any (·.uuid = c.uuid) then .error (alreadyQueued c.uuid)
    else .ok (q.push (queued c now), q.commands.isEmpty)

/-- Queues the command of an event; the device is to be woken if its queue had none. -/
def onQueues (s : Store) (e : Event) (now : Instant) : Except Error (Store × Option String) := do
  let c ← CommandEvent.schema.decode e.payload
  let (s, wasEmpty) ← enqueue s c.udid c.command now
  .ok (s, if wasEmpty then some c.udid else none)

/-- The queues after an event, as they were if it is of no use, and the devices to be
woken. -/
def takeCommand (s : Store) (e : Event) (now : Instant) : Store × List String × List Warning :=
  match onQueues s e now with
  | .ok (s, wake) => (s, wake.toList, [])
  | .error error => (s, [], [.enqueueFailed error])

/-- The warning of an exchange in which a device gave up a command. -/
def failureWarning (r : Response) (x : Exchange) : List Warning :=
  match x.completed with
  | some (c, status) =>
    if status.isFailure then
      [.commandFailed r.udid c.uuid c.requestType status.name
        (Quoted.list (r.errorChain.map (·.line)))]
    else []
  | none => []

def rejectionWarning (r : Response) (e : Error) : List Warning :=
  if e.kind = .validation then [.responseRejected r.udid r.status.name r.command e] else []

/-- Runs one exchange with a device: response and queue are checked and changed in one
step. -/
def exchange (s : Store) (r : Response) (now : Instant) (delay : Nat) :
    Except Error (Store × Exchange) :=
  s.updateQueue r.udid StoreError.reported fun q => Exchange.run q r now delay

/-- Answers a response: the store and the exchange, or a failure; and the warnings. -/
def acknowledge (s : Store) (r : Response) (now : Instant) (delay : Nat) :
    Except Error (Store × Exchange) × List Warning :=
  if r.isUserScoped then (.error userResponse, [])
  else match r.validate with
    | .error e => (.error e, [])
    | .ok () => match exchange s r now delay with
      | .error e => (.error e, rejectionWarning r e)
      | .ok (s, x) => (.ok (s, x), failureWarning r x)

/-- The commands of a device in the order of their delivery. -/
def pending (s : Store) (udid : String) : Except Error (List Command) := do
  let q ← Store.reported (s.queue udid)
  q.commands.mapM fun c => Command.decode c.payload

def queueSize (s : Store) (udid : String) : Except Error Nat := do
  let q ← Store.reported (s.queue udid)
  .ok q.size

def clear (s : Store) (udid : String) : Except Error (Store × Nat) :=
  Store.reported (s.clearQueue udid)

def pendingUdids (s : Store) : Except Error (List String) := Store.reported s.pendingUdids

end DeviceFleet.Delivery
