import DeviceFleet.Bus.Basic

/-! The bus as its users see it. `run` lets the dispatcher go on until it is idle or
waits for room, and `settle` also lets the time of its waits pass. Receivers take
events from their queues; one that waits lets time pass only when nothing else can
bring it an event. -/

namespace DeviceFleet.Bus

/-- What the dispatcher did, with the warnings it gave. -/
abbrev Outcome := Bus × List Warning

def Outcome.after (ws : List Warning) (o : Outcome) : Outcome := (o.1, ws ++ o.2)

/-- The dispatcher goes on until it is idle or waits. -/
def run (b : Bus) : Outcome :=
  match _h : b.step with
  | none => (b, [])
  | some (b', ws) => (run b').after ws
termination_by (b.inbox.length, b.rank)
decreasing_by exact step_lt _h

/-- One step of the dispatcher, or the end of its wait. -/
def advance (b : Bus) : Option Outcome :=
  match b.step with
  | some o => some o
  | none => b.expire

theorem advance_lt {b b' : Bus} {ws : List Warning} (h : b.advance = some (b', ws)) :
    Prod.Lex (· < ·) (· < ·) (b'.inbox.length, b'.rank) (b.inbox.length, b.rank) := by
  simp only [advance] at h
  split at h
  · rename_i o ho
    exact step_lt (ho.trans h)
  · exact expire_lt h

/-- The dispatcher goes on until it is idle, however long it waits. -/
def settle (b : Bus) : Outcome :=
  match _h : b.advance with
  | none => (b, [])
  | some (b', ws) => (settle b').after ws
termination_by (b.inbox.length, b.rank)
decreasing_by exact advance_lt _h

/-- Publishes an event. On a stopped bus the event is lost, with a warning; one behind
a request to stop is lost without. -/
def publish (b : Bus) (topic : String) (payload : Bytes) : Outcome :=
  if b.stopped then (b, [.busClosed topic])
  else ({ b with inbox := b.inbox ++ [.publish topic payload] }, [])

/-- Asks the dispatcher to stop after what is in the inbox. -/
def shutdown (b : Bus) : Bus :=
  if b.stopped then b else { b with inbox := b.inbox ++ [.shutdown] }

/-- Puts a subscription into the inbox; the number is its identifier. -/
def request (b : Bus) (name topic : String) : Bus × Nat :=
  ({ b with inbox := b.inbox ++ [.subscribe b.nextId name topic], nextId := b.nextId + 1 },
    b.nextId)

/-- Subscribes, and waits until the subscription is registered or refused. -/
def subscribe (b : Bus) (name topic : String) : Outcome × Except Error Nat :=
  if b.stopped then ((b, []), .error closedError)
  else
    let (b, id) := b.request name topic
    let (b, ws) := b.settle
    let answer :=
      if (b.find? id).isSome then .ok id
      else if b.stopped then .error closedError
      else .error limitReached
    ((b, ws), answer)

def take? (b : Bus) (id : Nat) : Option (Event × Bus) := do
  let s ← b.find? id
  match s.queue with
  | [] => none
  | e :: _ => some (e, b.modify id fun s => { s with queue := s.queue.tail })

def queued (b : Bus) : Nat := (b.table.flatMap (·.queue)).length

/-- The number of events after one subscription has lost one and none has gained any. -/
theorem length_flatMap_lt {f g : Subscriber → List Event} {s : Subscriber} :
    ∀ {table : List Subscriber}, (∀ t ∈ table, (f t).length ≤ (g t).length) → s ∈ table →
      (f s).length < (g s).length → (table.flatMap f).length < (table.flatMap g).length
  | t :: ts, le, member, lt => by
    have head := le t List.mem_cons_self
    have le_rest : ∀ u ∈ ts, (f u).length ≤ (g u).length :=
      fun u hu => le u (List.mem_cons_of_mem _ hu)
    have rest_le (us : List Subscriber) (h : ∀ u ∈ us, (f u).length ≤ (g u).length) :
        (us.flatMap f).length ≤ (us.flatMap g).length := by
      induction us with
      | nil => simp
      | cons u us ih =>
        have first := h u List.mem_cons_self
        have others := ih fun w hw => h w (List.mem_cons_of_mem _ hw)
        rw [List.flatMap_cons, List.flatMap_cons, List.length_append, List.length_append]
        omega
    rw [List.flatMap_cons, List.flatMap_cons, List.length_append, List.length_append]
    rcases List.mem_cons.1 member with rfl | member
    · have := rest_le ts le_rest
      omega
    · have := length_flatMap_lt le_rest member lt
      omega

theorem take?_queued_lt {b b' : Bus} {id : Nat} {e : Event} (h : b.take? id = some (e, b')) :
    b'.queued < b.queued ∧ b'.inbox = b.inbox ∧ b'.rank = b.rank := by
  simp only [take?, Option.bind_eq_bind, Option.bind_eq_some_iff] at h
  obtain ⟨s, hs, hq⟩ := h
  split at hq
  · cases hq
  · rename_i rest heq
    obtain ⟨-, rfl⟩ := Prod.mk.inj (Option.some.inj hq)
    refine ⟨?_, rfl, rfl⟩
    have found := List.find?_some hs
    have member := List.mem_of_find?_eq_some hs
    simp only [decide_eq_true_eq] at found
    rw [queued, queued, modify, List.flatMap_map]
    refine length_flatMap_lt (fun t _ => ?_) member ?_
    · split <;> simp
    · simp [found, heq]

inductive Received where
  | event (e : Event)
  /-- The bus has stopped and nothing is left. -/
  | ended
  /-- Nothing can arrive. -/
  | pending
  deriving DecidableEq, Repr

/-- A receiver waits for an event: the dispatcher goes on, and its wait ends if that
alone can help. -/
def await (b : Bus) (id : Nat) : Outcome × Received :=
  match _h : b.step with
  | some (b', ws) =>
    let (o, r) := await b' id
    (o.after ws, r)
  | none =>
    match b.take? id with
    | some (e, b) => ((b, []), .event e)
    | none =>
      match _hx : b.expire with
      | some (b', ws) =>
        let (o, r) := await b' id
        (o.after ws, r)
      | none => ((b, []), if b.stopped then .ended else .pending)
termination_by (b.inbox.length, b.rank)
decreasing_by
  · exact step_lt _h
  · exact expire_lt _hx

/-- A receiver takes what its queue holds, or waits for an event. -/
def recv (b : Bus) (id : Nat) : Outcome × Received :=
  match b.take? id with
  | some (e, b) => ((b, []), .event e)
  | none => b.await id

/-- The receiver of a subscription goes away, with what its queue holds. -/
def close (b : Bus) (id : Nat) : Bus := b.modify id fun s => { s with live := false, queue := [] }

/-- Subscribes to several topics under one name. When one is refused, the receivers of
the others go away. -/
def subscribeAll (b : Bus) (name : String) : List String → Outcome × Except Error (List Nat)
  | [] => ((b, []), .ok [])
  | topic :: topics =>
    match b.subscribe name topic with
    | (o, .error e) => (o, .error e)
    | ((b, ws), .ok id) => match b.subscribeAll name topics with
      | (o, .ok ids) => (o.after ws, .ok (id :: ids))
      | ((b, ws'), .error e) => ((b.close id, ws ++ ws'), .error e)

structure Stats where
  name : String
  topic : String
  delivered : Nat
  dropped : Nat
  deriving DecidableEq, Repr

def Stats.le (a b : Stats) : Bool := a.topic < b.topic || (a.topic = b.topic && a.name ≤ b.name)

/-- The subscriptions by topic and name, equal ones in the order of registration. A
stopped bus lists none. -/
def stats (b : Bus) : List Stats :=
  if b.stopped then []
  else (b.table.map fun s => ⟨s.name, s.topic, s.delivered, s.dropped⟩).mergeSort Stats.le

def totalDropped (stats : List Stats) : Nat := stats.foldl (fun n s => n + s.dropped) 0

end DeviceFleet.Bus
