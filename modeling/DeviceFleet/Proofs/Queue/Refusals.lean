import DeviceFleet.Proofs.Message.Connect
import DeviceFleet.Proofs.Queue.WellFormed

/-! Which responses a queue refuses: the reports that do not name its delivered command. A refused
report leaves the queue as it was even where an exchange changes the queue in its place, step by
step: the report is checked before the first change. -/

namespace DeviceFleet.Exchange

/-! ### The exchange in place -/

/-- Work on a queue in its place. What was changed before a failure stays changed. -/
abbrev InPlace := ExceptT Error (StateM DeviceQueue)

/-- What comes of some work on a queue, and the queue after it. -/
def InPlace.on {α : Type} (work : InPlace α) (q : DeviceQueue) : Except Error α × DeviceQueue :=
  work.run.run q

/-- A report is taken only if it names the delivered command. -/
def check (r : Response) : InPlace Unit := do
  match (← get).inFlightUuid? with
  | none => throw (noneInFlight r)
  | some uuid => if uuid ≠ r.command then throw (otherInFlight r uuid)

def complete (r : Response) : InPlace (Option (QueuedCommand × Status)) := do
  let q ← get
  set q.pop
  return q.head?.map (·, r.status)

def mark (completed : Option (QueuedCommand × Status)) (redelivered : Bool) (now : Instant) :
    InPlace Exchange := do
  modify fun q => q.deliver now
  let q ← get
  return ⟨q.head?.map (·.payload), q.head?.map (·.uuid), completed, redelivered, q.size⟩

/-- The head is handed out unless it was, and the delay has not passed. -/
def answer (completed : Option (QueuedCommand × Status)) (now : Instant) (delay : Nat) :
    InPlace Exchange := do
  let q ← get
  match q.inFlight with
  | none => mark completed false now
  | some f => if isDue f now delay then mark completed true now else return quiet q completed

def inPlace (r : Response) (now : Instant) (delay : Nat) : InPlace Exchange := do
  if r.status = .idle then answer none now delay
  else
    check r
    if r.status = .notNow then
      modify fun q => q.release
      return quiet (← get) none
    else answer (← complete r) now delay

/-- The next piece of work runs on the queue that the one before left, unless that failed. -/
theorem InPlace.on_bind {α β : Type} (work : InPlace α) (next : α → InPlace β) (q : DeviceQueue) :
    (work >>= next).on q = match work.on q with
      | (.ok a, q') => (next a).on q'
      | (.error e, q') => (.error e, q') := by
  show (ExceptT.run (work >>= next)).run q = match (ExceptT.run work).run q with
    | (.ok a, q') => (next a).on q'
    | (.error e, q') => (.error e, q')
  rw [ExceptT.run_bind, StateT.run_bind]
  cases (ExceptT.run work).run q with
  | mk outcome q' => cases outcome <;> rfl

variable (q : DeviceQueue) (r : Response) (now : Instant) (delay : Nat)

theorem mark_on (done : Option (QueuedCommand × Status)) (again : Bool) :
    (mark done again now).on q = (.ok (handOut q done again now).2, (handOut q done again now).1) := by
  obtain ⟨commands, inFlight⟩ := q
  cases commands <;> rfl

theorem answer_on (done : Option (QueuedCommand × Status)) :
    (answer done now delay).on q = (.ok (offer q done now delay).2, (offer q done now delay).1) := by
  have read : (answer done now delay).on q = InPlace.on (match q.inFlight with
      | none => mark done false now
      | some f => if isDue f now delay then mark done true now else return quiet q done) q := rfl
  rw [read, offer]
  cases q.inFlight with
  | none => exact mark_on q now done false
  | some f =>
    simp only
    split
    · exact mark_on q now done true
    · rfl

/-- The report that a queue takes names its delivered command. -/
theorem check_on :
    (check r).on q = (match q.inFlightUuid? with
      | none => .error (noneInFlight r)
      | some uuid => if uuid ≠ r.command then .error (otherInFlight r uuid) else .ok (), q) := by
  have read : (check r).on q = InPlace.on (match q.inFlightUuid? with
      | none => throw (noneInFlight r)
      | some uuid => if uuid ≠ r.command then throw (otherInFlight r uuid) else return ()) q := rfl
  rw [read]
  cases q.inFlightUuid? with
  | none => rfl
  | some uuid =>
    simp only
    split <;> rfl

/-- In its place the queue goes through the same exchange, and a refused response leaves it. -/
theorem inPlace_on :
    (inPlace r now delay).on q = match run q r now delay with
      | .ok (q', x) => (.ok x, q')
      | .error e => (.error e, q) := by
  rw [inPlace, run]
  split
  · exact answer_on q now delay none
  · rw [InPlace.on_bind, check_on]
    cases q.inFlightUuid? with
    | none => rfl
    | some uuid =>
      by_cases other : uuid ≠ r.command
      · simp only [if_pos other]
      · simp only [if_neg other]
        split
        · rfl
        · rw [InPlace.on_bind]
          exact answer_on q.pop now delay (q.head?.map (·, r.status))

/-! ### The refused responses -/

/-- The failures of a report that does not name the delivered command. -/
inductive Refuses (q : DeviceQueue) (r : Response) : Error → Prop where
  | free (report : r.status ≠ .idle) (none : q.inFlightUuid? = none) : Refuses q r (noneInFlight r)
  | other (report : r.status ≠ .idle) (uuid : String) (delivered : q.inFlightUuid? = some uuid)
      (differs : uuid ≠ r.command) : Refuses q r (otherInFlight r uuid)

theorem Refuses.invalid {q : DeviceQueue} {r : Response} {e : Error} (h : Refuses q r e) :
    e.kind = .validation := by
  cases h <;> rfl

theorem refuses_iff : (∃ e, Refuses q r e) ↔ r.status ≠ .idle ∧
    (q.inFlightUuid? = none ∨ ∃ uuid, q.inFlightUuid? = some uuid ∧ uuid ≠ r.command) := by
  constructor
  · rintro ⟨e, refused⟩
    cases refused with
    | free report none => exact ⟨report, .inl none⟩
    | other report uuid delivered differs => exact ⟨report, .inr ⟨uuid, delivered, differs⟩⟩
  · rintro ⟨report, none | ⟨uuid, delivered, differs⟩⟩
    · exact ⟨_, .free report none⟩
    · exact ⟨_, .other report uuid delivered differs⟩

theorem exists_refuses {q : DeviceQueue} {r : Response} (report : r.status ≠ .idle)
    (other : q.inFlightUuid? ≠ some r.command) : ∃ e, Refuses q r e := by
  cases delivered : q.inFlightUuid? with
  | none => exact ⟨_, .free report delivered⟩
  | some uuid =>
    exact ⟨_, .other report uuid delivered fun same => other (delivered.trans (congrArg some same))⟩

/-- A queue refuses the reports that do not name its delivered command, and no other response. -/
theorem run_error_iff {e : Error} : run q r now delay = .error e ↔ Refuses q r e := by
  constructor
  · intro h
    rw [run] at h
    split at h
    · cases h
    · rename_i report
      cases delivered : q.inFlightUuid? with
      | none =>
        rw [delivered] at h
        cases h
        exact .free report delivered
      | some uuid =>
        simp only [delivered] at h
        split at h
        · rename_i differs
          cases h
          exact .other report uuid delivered differs
        · split at h <;> cases h
  · intro h
    cases h with
    | free report none => rw [run, if_neg report, none]
    | other report uuid delivered differs =>
      rw [run, if_neg report, delivered]
      simp only [if_pos differs]

theorem run_cases : (∃ q' x, run q r now delay = .ok (q', x)) ∨
    ∃ e, Refuses q r e ∧ run q r now delay = .error e := by
  cases ran : run q r now delay with
  | ok p => exact .inl ⟨p.1, p.2, rfl⟩
  | error e => exact .inr ⟨e, (run_error_iff q r now delay).1 ran, rfl⟩

/-- The exchange in place fails just for the reports that do not name the delivered command, and leaves
the queue as it was then; else it is the exchange. -/
theorem inPlace_cases :
    (∃ q' x, (inPlace r now delay).on q = (.ok x, q') ∧ run q r now delay = .ok (q', x)) ∨
      ∃ e, Refuses q r e ∧ (inPlace r now delay).on q = (.error e, q) := by
  rw [inPlace_on]
  rcases run_cases q r now delay with ⟨q', x, ran⟩ | ⟨e, refused, ran⟩
  · rw [ran]
    exact .inl ⟨q', x, rfl, rfl⟩
  · rw [ran]
    exact .inr ⟨e, refused, rfl⟩

end DeviceFleet.Exchange

namespace DeviceFleet.Delivery

/-- A device's report that does not name its delivered command is refused as invalid, and the store
stays as it was. -/
theorem perform_refused (delay : Nat) {s : Store} {r : Response} {q : DeviceQueue} (now : Instant)
    (hq : s.queue r.udid = .ok q) (device : r.isUserScoped = false) (report : r.status ≠ .idle)
    (other : q.inFlightUuid? ≠ some r.command) :
    ∃ e, perform delay s (.acknowledge r now) = (s, .refused e) ∧ e.kind = .validation := by
  have refused : ∃ e, (acknowledge s r now delay).1 = .error e ∧ e.kind = .validation := by
    rw [acknowledge_fst, if_neg (Bool.eq_false_iff.1 device)]
    cases valid : r.validate with
    | error e => exact ⟨e, rfl, Response.kind_of_validate valid⟩
    | ok =>
      obtain ⟨e, refused⟩ := Exchange.exists_refuses report other
      have failed := (Exchange.run_error_iff q r now delay).2 refused
      show ∃ e, exchange s r now delay = .error e ∧ e.kind = .validation
      rw [exchange, Store.updateQueue_eq hq, failed]
      split
      · exact ⟨_, rfl, rfl⟩
      · exact ⟨e, rfl, refused.invalid⟩
  obtain ⟨e, failed, invalid⟩ := refused
  refine ⟨e, ?_, invalid⟩
  rw [perform, failed, settle]

end DeviceFleet.Delivery
