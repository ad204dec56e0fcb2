import DeviceFleet.Proofs.Queue.Record
import DeviceFleet.Service.Delivery

/-! Histories of the command queues: requests are performed one after another, and a refused
one leaves the store as it was. An accepted exchange is one of five turns of the device's
queue, and a request moves the queue of no device but its own. -/

namespace DeviceFleet

/-- Whether the report is the final outcome of a command. -/
def Status.settles : Status → Bool
  | acknowledged | error | commandFormatError => true
  | idle | notNow => false

/-! ### Turns of one queue -/

namespace Exchange

/-- What an accepted exchange does to a queue, and what it reports. -/
inductive Turn (q : DeviceQueue) (r : Response) (now : Instant) (delay : Nat) :
    DeviceQueue → Exchange → Prop where
  /-- The device gets the head, for the first time since it was at the front. -/
  | first (idle : r.status = .idle) (free : q.inFlight = none) :
      Turn q r now delay (handOut q none false now).1 (handOut q none false now).2
  /-- The device gets the delivered command again. -/
  | again (f : InFlight) (idle : r.status = .idle) (marked : q.inFlight = some f)
      (due : isDue f now delay = true) :
      Turn q r now delay (handOut q none true now).1 (handOut q none true now).2
  /-- It is too early for that. -/
  | wait (f : InFlight) (idle : r.status = .idle) (marked : q.inFlight = some f)
      (early : isDue f now delay = false) : Turn q r now delay q (quiet q none)
  /-- The delivered command goes back to the queue. -/
  | postpone (f : InFlight) (later : r.status = .notNow) (marked : q.inFlight = some f)
      (named : f.commandUuid = r.command) : Turn q r now delay q.release (quiet q.release none)
  /-- The delivered command is done, and the device gets the next one. -/
  | settle (f : InFlight) (final : r.status.settles = true) (marked : q.inFlight = some f)
      (named : f.commandUuid = r.command) :
      Turn q r now delay (handOut q.pop (q.head?.map (·, r.status)) false now).1
        (handOut q.pop (q.head?.map (·, r.status)) false now).2

theorem turn_of_run {q q' : DeviceQueue} {r : Response} {now : Instant} {delay : Nat} {x : Exchange}
    (h : run q r now delay = .ok (q', x)) : Turn q r now delay q' x := by
  rw [run] at h
  split at h
  · rename_i idle
    cases marked : q.inFlight with
    | none =>
      simp only [offer, marked] at h
      cases h
      exact .first idle marked
    | some f =>
      simp only [offer, marked] at h
      split at h
      · rename_i due
        cases h
        exact .again f idle marked due
      · rename_i early
        cases h
        exact .wait f idle marked (Bool.eq_false_iff.2 early)
  · rename_i report
    cases marked : q.inFlight with
    | none =>
      simp only [DeviceQueue.inFlightUuid?, marked, Option.map_none] at h
      cases h
    | some f =>
      simp only [DeviceQueue.inFlightUuid?, marked, Option.map_some] at h
      split at h
      · cases h
      · rename_i other
        have named : f.commandUuid = r.command := Decidable.not_not.1 other
        split at h
        · rename_i later
          cases h
          exact .postpone f later marked named
        · rename_i final
          cases h
          refine .settle f ?_ marked named
          cases status : r.status <;> first | rfl | exact absurd status ‹_›

end Exchange

namespace DeviceQueue

def Marked (q : DeviceQueue) : Prop :=
  ∀ f, q.inFlight = some f → ∃ c rest, q.commands = c :: rest ∧ c.uuid = f.commandUuid

theorem marked_empty : empty.Marked := by
  intro f h
  cases h

theorem marked_of_free {q : DeviceQueue} (h : q.inFlight = none) : q.Marked := by
  intro f marked
  rw [h] at marked
  cases marked

theorem marked_deliver (q : DeviceQueue) (h : q.Marked) (now : Instant) : (q.deliver now).Marked := by
  obtain ⟨commands, inFlight⟩ := q
  cases commands with
  | nil => exact h
  | cons c rest =>
    intro f marked
    cases marked
    exact ⟨c, rest, rfl, rfl⟩

theorem marked_push {q : DeviceQueue} (h : q.Marked) (c : QueuedCommand) : (q.push c).Marked := by
  intro f marked
  obtain ⟨d, rest, first, named⟩ := h f marked
  refine ⟨d, rest ++ [c], ?_, named⟩
  show q.commands ++ [c] = _
  rw [first, List.cons_append]

end DeviceQueue

theorem Exchange.Turn.marked {q q' : DeviceQueue} {r : Response} {now : Instant} {delay : Nat}
    {x : Exchange} (h : Turn q r now delay q' x) (hq : q.Marked) : q'.Marked := by
  cases h with
  | first => exact q.marked_deliver hq now
  | again => exact q.marked_deliver hq now
  | wait => exact hq
  | postpone => exact DeviceQueue.marked_of_free rfl
  | settle => exact q.pop.marked_deliver (DeviceQueue.marked_of_free rfl) now

/-! ### Requests -/

namespace Delivery

inductive Request where
  | enqueue (udid : String) (c : Command) (now : Instant)
  | acknowledge (r : Response) (now : Instant)
  | clear (udid : String)

def Request.udid : Request → String
  | enqueue udid _ _ => udid
  | acknowledge r _ => r.udid
  | clear udid => udid

inductive Outcome where
  | queued (wasEmpty : Bool)
  | exchanged (x : Exchange)
  | cleared (count : Nat)
  | refused (e : Error)

/-- The store and the outcome of what may fail; a failure leaves the store as it was. -/
def settle {α : Type} (s : Store) (outcome : α → Outcome) : Except Error (Store × α) → Store × Outcome
  | .ok (t, a) => (t, outcome a)
  | .error e => (s, .refused e)

def perform (delay : Nat) (s : Store) : Request → Store × Outcome
  | .enqueue udid c now => settle s .queued (enqueue s udid c now)
  | .acknowledge r now => settle s .exchanged (acknowledge s r now delay).1
  | .clear udid => settle s .cleared (clear s udid)

def run (delay : Nat) (s : Store) (rs : List Request) : Store :=
  rs.foldl (fun s r => (perform delay s r).1) s

/-- One request of a history, with the stores around it. -/
structure Step where
  before : Store
  request : Request
  outcome : Outcome
  after : Store

def step (delay : Nat) (s : Store) (r : Request) : Step :=
  ⟨s, r, (perform delay s r).2, (perform delay s r).1⟩

def trace (delay : Nat) : Store → List Request → List Step
  | _, [] => []
  | s, r :: rs => step delay s r :: trace delay (perform delay s r).1 rs

@[simp] theorem run_nil (delay : Nat) (s : Store) : run delay s [] = s := rfl

@[simp] theorem run_cons (delay : Nat) (s : Store) (r : Request) (rs : List Request) :
    run delay s (r :: rs) = run delay (perform delay s r).1 rs := rfl

theorem run_append (delay : Nat) (s : Store) (rs more : List Request) :
    run delay s (rs ++ more) = run delay (run delay s rs) more :=
  List.foldl_append

theorem trace_append (delay : Nat) (s : Store) (rs more : List Request) :
    trace delay s (rs ++ more) = trace delay s rs ++ trace delay (run delay s rs) more := by
  induction rs generalizing s with
  | nil => rfl
  | cons r rs ih => rw [List.cons_append, trace, ih, trace, List.cons_append, run_cons]

/-- A step of a history is that of one of the requests, after those before it. -/
theorem trace_split {delay : Nat} {s : Store} {rs : List Request} {before after : List Step}
    {k : Step} (h : trace delay s rs = before ++ k :: after) :
    ∃ rs₁ r rs₂, rs = rs₁ ++ r :: rs₂ ∧ before = trace delay s rs₁ ∧
      k = step delay (run delay s rs₁) r ∧ after = trace delay k.after rs₂ := by
  induction rs generalizing s before with
  | nil => cases before <;> cases h
  | cons r rs ih =>
    rw [trace] at h
    cases before with
    | nil =>
      cases h
      exact ⟨[], r, rs, rfl, rfl, rfl, rfl⟩
    | cons b before =>
      obtain ⟨rfl, rest⟩ := List.cons.inj h
      obtain ⟨rs₁, r', rs₂, rfl, rfl, rfl, tail⟩ := ih rest
      exact ⟨r :: rs₁, r', rs₂, rfl, rfl, rfl, tail⟩

/-! ### What a request does to the queue of a device -/

/-- How a request and its outcome move the queue of the device `udid`. -/
inductive Moves (delay : Nat) (udid : String) (q : DeviceQueue) :
    Request → Outcome → DeviceQueue → Prop where
  | refused (i : Request) (e : Error) : Moves delay udid q i (.refused e) q
  | elsewhere (i : Request) (o : Outcome) (other : i.udid ≠ udid) : Moves delay udid q i o q
  | enqueue (c : Command) (now : Instant) (wasEmpty : Bool)
      (fresh : ∀ d ∈ q.commands, d.uuid ≠ c.uuid) :
      Moves delay udid q (.enqueue udid c now) (.queued wasEmpty) (q.push (queued c now))
  | exchange (r : Response) (now : Instant) (x : Exchange) (q' : DeviceQueue) (here : r.udid = udid)
      (turn : Exchange.Turn q r now delay q' x) :
      Moves delay udid q (.acknowledge r now) (.exchanged x) q'
  | clear : Moves delay udid q (.clear udid) (.cleared q.size) .empty

theorem enqueue_ok {s t : Store} {v : String} {c : Command} {now : Instant} {wasEmpty : Bool}
    (h : enqueue s v c now = .ok (t, wasEmpty)) :
    ∃ q, s.queue v = .ok q ∧ (∀ d ∈ q.commands, d.uuid ≠ c.uuid) ∧ wasEmpty = q.commands.isEmpty ∧
      t = s.putQueue v (q.push (queued c now)) := by
  rw [enqueue] at h
  split at h
  · cases h
  · obtain ⟨q, q', found, made, rfl⟩ := Store.updateQueue_ok h
    split at made
    · cases made
    · rename_i fresh
      cases made
      refine ⟨q, found, fun d hd same => fresh ?_, rfl, rfl⟩
      exact List.any_eq_true.2 ⟨d, hd, decide_eq_true same⟩

theorem acknowledge_ok {s t : Store} {r : Response} {now : Instant} {delay : Nat} {x : Exchange}
    (h : (acknowledge s r now delay).1 = .ok (t, x)) :
    ∃ q q', s.queue r.udid = .ok q ∧ Exchange.Turn q r now delay q' x ∧
      t = s.putQueue r.udid q' := by
  rw [acknowledge] at h
  split at h
  · cases h
  · split at h
    · cases h
    · split at h
      · cases h
      · rename_i done
        cases h
        obtain ⟨q, q', found, turned, rfl⟩ := Store.updateQueue_ok done
        exact ⟨q, q', found, Exchange.turn_of_run turned, rfl⟩

theorem clear_ok {s t : Store} {v : String} {count : Nat} (h : clear s v = .ok (t, count)) :
    ∃ q, s.queue v = .ok q ∧ count = q.size ∧ t = s.putQueue v .empty := by
  rw [clear] at h
  cases done : s.clearQueue v with
  | error e =>
    rw [done] at h
    cases h
  | ok p =>
    rw [done] at h
    cases h
    obtain ⟨q, q', found, made, rfl⟩ := Store.updateQueue_ok done
    cases made
    exact ⟨q, found, rfl, rfl⟩

theorem perform_enqueue (delay : Nat) {s : Store} {v : String} {q : DeviceQueue} {c : Command}
    (now : Instant) (named : v ≠ "") (hq : s.queue v = .ok q)
    (fresh : q.commands.any (·.uuid = c.uuid) = false) :
    perform delay s (.enqueue v c now) =
      (s.putQueue v (q.push (queued c now)), .queued q.commands.isEmpty) := by
  have done : enqueue s v c now = .ok (s.putQueue v (q.push (queued c now)), q.commands.isEmpty) := by
    simp only [enqueue, if_neg named, Store.updateQueue, hq, fresh]
    rfl
  rw [perform, done, settle]

theorem perform_acknowledge {delay : Nat} {s : Store} {r : Response} {q q' : DeviceQueue}
    {now : Instant} {x : Exchange} (device : r.isUserScoped = false) (valid : r.validate = .ok ())
    (named : r.udid ≠ "") (hq : s.queue r.udid = .ok q) (run : Exchange.run q r now delay = .ok (q', x)) :
    perform delay s (.acknowledge r now) = (s.putQueue r.udid q', .exchanged x) := by
  have done : exchange s r now delay = .ok (s.putQueue r.udid q', x) := by
    simp only [exchange, Store.updateQueue, if_neg named, hq, run]
    rfl
  have accepted : (acknowledge s r now delay).1 = .ok (s.putQueue r.udid q', x) := by
    rw [acknowledge, device, valid, done]
    rfl
  rw [perform, accepted, settle]

/-- A put queue is that of its device and leaves the others. -/
theorem moves_put {delay : Nat} {s : Store} {udid v : String} {q q₀ q' : DeviceQueue}
    (hq : s.queue udid = .ok q) (found : s.queue v = .ok q₀) {i : Request} {o : Outcome}
    (about : i.udid = v) (own : v = udid → Moves delay udid q₀ i o q') :
    ∃ q'', (s.putQueue v q').queue udid = .ok q'' ∧ Moves delay udid q i o q'' := by
  by_cases here : v = udid
  · have same : q₀ = q := by
      rw [here] at found
      exact Except.ok.inj (found.symm.trans hq)
    refine ⟨q', ?_, same ▸ own here⟩
    rw [Store.queue_putQueue, if_pos here.symm]
  · refine ⟨q, ?_, .elsewhere i o fun same => here (about.symm.trans same)⟩
    rw [Store.queue_putQueue, if_neg (Ne.symm here), hq]

/-- A request moves the queue of its own device as its outcome says, and no other. -/
theorem moves_perform (delay : Nat) {s : Store} {udid : String} {q : DeviceQueue}
    (hq : s.queue udid = .ok q) (i : Request) :
    ∃ q', (perform delay s i).1.queue udid = .ok q' ∧
      Moves delay udid q i (perform delay s i).2 q' := by
  cases i with
  | enqueue v c now =>
    rw [perform]
    cases done : enqueue s v c now with
    | error e => exact ⟨q, hq, .refused _ e⟩
    | ok p =>
      obtain ⟨t, wasEmpty⟩ := p
      obtain ⟨q₀, found, fresh, -, rfl⟩ := enqueue_ok done
      apply moves_put hq found rfl
      rintro rfl
      exact .enqueue c now wasEmpty fresh
  | acknowledge r now =>
    rw [perform]
    cases done : (acknowledge s r now delay).1 with
    | error e => exact ⟨q, hq, .refused _ e⟩
    | ok p =>
      obtain ⟨t, x⟩ := p
      obtain ⟨q₀, q', found, turn, rfl⟩ := acknowledge_ok done
      exact moves_put hq found rfl fun here => .exchange r now x q' here turn
  | clear v =>
    rw [perform]
    cases done : clear s v with
    | error e => exact ⟨q, hq, .refused _ e⟩
    | ok p =>
      obtain ⟨t, count⟩ := p
      obtain ⟨q₀, found, rfl, rfl⟩ := clear_ok done
      apply moves_put hq found rfl
      rintro rfl
      exact .clear

theorem Moves.marked {delay : Nat} {udid : String} {q q' : DeviceQueue} {i : Request} {o : Outcome}
    (h : Moves delay udid q i o q') (hq : q.Marked) : q'.Marked := by
  cases h with
  | refused => exact hq
  | elsewhere => exact hq
  | enqueue c now => exact DeviceQueue.marked_push hq (queued c now)
  | exchange _ _ _ _ _ turn => exact turn.marked hq
  | clear => exact DeviceQueue.marked_empty

end Delivery

end DeviceFleet
