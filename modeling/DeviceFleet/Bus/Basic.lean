import DeviceFleet.Text.Octets
import DeviceFleet.Text.Quoted
import DeviceFleet.Warning

/-! The event bus. Requests wait in an inbox, and a dispatcher takes them one at a time:
it gives each event its place in the order of all events and offers it to the
subscribers of its topic, in the order of their registration. Each subscription has a
queue of bounded size. When it is full the policy decides: the event is lost for that
subscriber at once, or the dispatcher waits for room until its time is over. A
subscription whose receiver is gone is removed when it is next offered an event. -/

namespace DeviceFleet

/-- An event, and its place in the order of all events of the bus. -/
structure Event where
  topic : String
  payload : Bytes
  sequence : Nat
  deriving DecidableEq, Repr

/-- What happens to an event for a subscriber whose queue is full. -/
inductive Policy where
  /-- The dispatcher waits for room, and drops the event when its time is over. -/
  | block
  /-- The event is dropped at once. -/
  | reject
  deriving DecidableEq, Repr

namespace Policy

def name : Policy → String
  | block => "block"
  | reject => "reject"

def unknown (text : String) : Error :=
  .config ("unknown backpressure policy " ++ Quoted.text text)

/-- The policy with a name in letters of either case. -/
def ofName (text : String) : Except Error Policy :=
  let lower := text.map Char.toLower
  if lower = "block" then .ok block
  else if lower = "reject" then .ok reject
  else .error (unknown lower)

end Policy

structure BusConfig where
  /-- The size of a subscription's queue; none counts as one. -/
  capacity : Nat
  policy : Policy
  /-- How long the dispatcher waits for room, in milliseconds. -/
  timeout : Nat
  deriving DecidableEq, Repr

namespace BusConfig

/-- The number of events that a queue holds. -/
def room (c : BusConfig) : Nat := max c.capacity 1

def waits (c : BusConfig) : Bool := c.policy = .block && c.timeout ≠ 0

end BusConfig

structure Subscriber where
  id : Nat
  name : String
  topic : String
  queue : List Event
  /-- Whether the receiver is still there. -/
  live : Bool
  delivered : Nat
  dropped : Nat
  deriving DecidableEq, Repr

/-- What waits in the inbox. -/
inductive BusRequest where
  | subscribe (id : Nat) (name topic : String)
  | publish (topic : String) (payload : Bytes)
  | shutdown
  deriving DecidableEq, Repr

/-- An event that is being offered. -/
structure Dispatch where
  event : Event
  /-- The subscribers still to be offered the event. -/
  remaining : List Nat
  /-- The subscribers whose receivers were found gone. -/
  closed : List Nat
  deriving DecidableEq, Repr

structure Bus where
  config : BusConfig
  /-- The subscriptions, in the order of their registration. -/
  table : List Subscriber
  /-- The number of subscriptions. -/
  count : Nat
  /-- The number of events dispatched. -/
  sequence : Nat
  inbox : List BusRequest
  current : Option Dispatch
  stopped : Bool
  /-- The identifier of the next subscription. -/
  nextId : Nat
  deriving DecidableEq, Repr

namespace Bus

def new (config : BusConfig) : Bus := ⟨config, [], 0, 0, [], none, false, 0⟩

def maxSubscriptions : Nat := 4096

def limitReached : Error :=
  .internal ("subscription limit of " ++ toString maxSubscriptions ++ " reached")
def closedError : Error := .internal "event bus is closed"

def find? (b : Bus) (id : Nat) : Option Subscriber := b.table.find? (·.id = id)

def modify (b : Bus) (id : Nat) (f : Subscriber → Subscriber) : Bus :=
  { b with table := b.table.map fun s => if s.id = id then f s else s }

/-- The subscriptions of a topic. -/
def row (b : Bus) (topic : String) : List Subscriber := b.table.filter (·.topic = topic)

def hasRoom (b : Bus) (s : Subscriber) : Bool := s.queue.length < b.config.room

/-- The table with a new subscription, unless it is full. -/
def register (b : Bus) (id : Nat) (name topic : String) : Bus :=
  if b.count < maxSubscriptions then
    { b with table := b.table ++ [⟨id, name, topic, [], true, 0, 0⟩], count := b.count + 1 }
  else b

/-- The event comes next in the order and is offered to its topic. -/
def beginDispatch (b : Bus) (topic : String) (payload : Bytes) : Bus :=
  let sequence := b.sequence + 1
  { b with sequence, current := some ⟨⟨topic, payload, sequence⟩, (b.row topic).map (·.id), []⟩ }

def deliver (b : Bus) (id : Nat) (e : Event) : Bus :=
  b.modify id fun s => { s with queue := s.queue ++ [e], delivered := s.delivered + 1 }

def drop (b : Bus) (s : Subscriber) (e : Event) : Bus × List Warning :=
  (b.modify s.id fun s => { s with dropped := s.dropped + 1 },
    [.queueFull s.name e.topic (s.dropped + 1)])

/-- The event has been offered to all; the subscriptions found closed are removed.

They are removed by their identifiers. To remove them from the row of the topic by their places in
it, the last place first and with one off the count each time, leaves the same row and the same count:
see `removeAt?` and `removeAt?_marked` in `DeviceFleet.Proofs.Bus.Rows`. -/
def finish (b : Bus) (d : Dispatch) : Bus :=
  { b with
    table := b.table.filter (·.id ∉ d.closed)
    count := b.count - d.closed.length
    current := none }

def handle (b : Bus) : BusRequest → Bus
  | .subscribe id name topic => b.register id name topic
  | .publish topic payload => b.beginDispatch topic payload
  | .shutdown => { b with stopped := true, inbox := [] }

/-- The event is offered to the subscriber `id`, and `rest` remain. Nothing happens
while the dispatcher waits for room. -/
def offer (b : Bus) (d : Dispatch) (id : Nat) (rest : List Nat) : Option (Bus × List Warning) :=
  let next (b : Bus) (closed : List Nat) : Bus := { b with current := some ⟨d.event, rest, closed⟩ }
  match b.find? id with
  | none => some (next b d.closed, [])
  | some s =>
    if !s.live then some (next b (d.closed ++ [id]), [])
    else if b.hasRoom s then some (next (b.deliver id d.event) d.closed, [])
    else if b.config.waits then none
    else
      let (b, ws) := b.drop s d.event
      some (next b d.closed, ws)

/-- One step of the dispatcher, unless it is idle, waits or has stopped. -/
def step (b : Bus) : Option (Bus × List Warning) :=
  if b.stopped then none
  else match b.current with
    | some d => match d.remaining with
      | [] => some (b.finish d, [])
      | id :: rest => b.offer d id rest
    | none => match b.inbox with
      | [] => none
      | r :: rest => some ({ b with inbox := rest }.handle r, [])

/-- The time of a waiting dispatcher is over. -/
def expire (b : Bus) : Option (Bus × List Warning) :=
  if b.stopped then none
  else match b.current with
    | some ⟨e, id :: rest, closed⟩ => (b.find? id).map fun s =>
      let (b, ws) := b.drop s e
      ({ b with current := some ⟨e, rest, closed⟩ }, ws)
    | _ => none

/-- The steps that the present dispatch still takes, at most. -/
def rank (b : Bus) : Nat :=
  match b.current with
  | none => 0
  | some d => d.remaining.length + 1

@[simp] theorem modify_inbox (b : Bus) (id : Nat) (f : Subscriber → Subscriber) :
    (b.modify id f).inbox = b.inbox := rfl

theorem handle_inbox_le (b : Bus) (r : BusRequest) :
    (b.handle r).inbox.length ≤ b.inbox.length := by
  cases r with
  | subscribe id name topic => simp only [handle, register]; split <;> simp
  | publish topic payload => simp [handle, beginDispatch]
  | shutdown => simp [handle]

/-- A step shortens the inbox or the present dispatch. -/
theorem step_lt {b b' : Bus} {ws : List Warning} (h : b.step = some (b', ws)) :
    Prod.Lex (· < ·) (· < ·) (b'.inbox.length, b'.rank) (b.inbox.length, b.rank) := by
  simp only [step] at h
  split at h
  · cases h
  · split at h
    · rename_i d hd
      split at h
      · rename_i hr
        obtain ⟨rfl, -⟩ := Prod.mk.inj (Option.some.inj h)
        exact .right _ (by simp [rank, finish, hd])
      · rename_i id rest hr
        simp only [offer] at h
        split at h
        · obtain ⟨rfl, -⟩ := Prod.mk.inj (Option.some.inj h)
          exact .right _ (by simp [rank, hd, hr])
        · split at h
          · obtain ⟨rfl, -⟩ := Prod.mk.inj (Option.some.inj h)
            exact .right _ (by simp [rank, hd, hr])
          · split at h
            · obtain ⟨rfl, -⟩ := Prod.mk.inj (Option.some.inj h)
              exact .right _ (by simp [rank, hd, hr])
            · split at h
              · cases h
              · obtain ⟨rfl, -⟩ := Prod.mk.inj (Option.some.inj h)
                exact .right _ (by simp [rank, hd, hr])
    · split at h
      · cases h
      · rename_i r rest hi
        obtain ⟨rfl, -⟩ := Prod.mk.inj (Option.some.inj h)
        refine .left _ _ (Nat.lt_of_le_of_lt (handle_inbox_le _ r) ?_)
        simp [hi]

theorem expire_lt {b b' : Bus} {ws : List Warning} (h : b.expire = some (b', ws)) :
    Prod.Lex (· < ·) (· < ·) (b'.inbox.length, b'.rank) (b.inbox.length, b.rank) := by
  simp only [expire] at h
  split at h
  · cases h
  · split at h
    · rename_i e id rest closed hd
      obtain ⟨s, -, hs⟩ := Option.map_eq_some_iff.1 h
      obtain ⟨rfl, -⟩ := Prod.mk.inj hs
      exact .right _ (by simp [rank, hd])
    · cases h

end Bus

end DeviceFleet
