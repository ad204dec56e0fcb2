import Mathlib.Data.List.Forall2
import DeviceFleet.Proofs.Message.Command
import DeviceFleet.Proofs.Queue.History

/-! The queue of a device is first in, first out, and nothing is lost on the way through the
store and the wire form. In every history that starts with an empty store, the commands that
were enqueued for a device are the ones that were removed, followed by the ones that are
pending, in one order. -/

namespace DeviceFleet.Delivery

def Step.enqueued (udid : String) (i : Step) : List Command :=
  match i.request, i.outcome with
  | .enqueue v c _, .queued _ => if v = udid then [c] else []
  | _, _ => []

/-- The commands that a step took out of the queue of a device: the one that an exchange reports
as completed, or all that were pending when the queue was cleared. -/
def Step.removed (udid : String) (i : Step) : List Command :=
  match i.request, i.outcome with
  | .acknowledge r _, .exchanged x =>
    if r.udid = udid then x.completed.toList.filterMap fun c => (Command.decode c.1.payload).toOption
    else []
  | .clear v, .cleared _ => if v = udid then ((pending i.before udid).toOption).getD [] else []
  | _, _ => []

/-- An accepted exchange with the device hands out the first command that is pending after it, and
removes a command if the report is final: the one that the device named. -/
def Step.Honest (udid : String) (i : Step) : Prop :=
  ∀ r now x, i.request = .acknowledge r now → i.outcome = .exchanged x → r.udid = udid →
    (∀ p, x.payload = some p → ∃ c cs, pending i.after udid = .ok (c :: cs) ∧ p = c.toWire) ∧
    x.completed.isSome = r.status.settles ∧
    ∀ d status, x.completed = some (d, status) → status = r.status ∧
      ∃ c, Command.decode d.payload = .ok c ∧ r.commandUuid = some c.uuid

/-! ### A queue and the commands it stands for -/

def Stands (d : QueuedCommand) (c : Command) : Prop :=
  d.uuid = c.uuid ∧ d.payload = c.toWire ∧ c.uuid ≠ ""

theorem Stands.decode {d : QueuedCommand} {c : Command} (h : Stands d c) :
    Command.decode d.payload = .ok c := by
  rw [h.2.1, Command.decode_toWire h.2.2]

/-- The queue of the device stands for the commands, and its marker names the first of them. -/
def Holds (s : Store) (udid : String) (cs : List Command) : Prop :=
  ∃ q, s.queue udid = .ok q ∧ q.Marked ∧ List.Forall₂ Stands q.commands cs

theorem mapM_decode {ds : List QueuedCommand} {cs : List Command} (h : List.Forall₂ Stands ds cs) :
    ds.mapM (fun d => Command.decode d.payload) = .ok cs := by
  induction h with
  | nil => rfl
  | cons first _ ih =>
    rw [List.mapM_cons, first.decode, ih]
    rfl

theorem Holds.pending {s : Store} {udid : String} {cs : List Command} (h : Holds s udid cs) :
    pending s udid = .ok cs := by
  obtain ⟨q, hq, -, same⟩ := h
  rw [Delivery.pending, hq]
  exact mapM_decode same

theorem holds_empty (udid : String) : Holds .empty udid [] :=
  ⟨.empty, Store.queue_empty udid, DeviceQueue.marked_empty, .nil⟩

/-! ### One exchange -/

@[simp] theorem deliver_commands (q : DeviceQueue) (now : Instant) :
    (q.deliver now).commands = q.commands := by
  obtain ⟨commands, inFlight⟩ := q
  cases commands <;> rfl

theorem payload_head {q : DeviceQueue} {cs : List Command} (h : List.Forall₂ Stands q.commands cs)
    {p : Bytes} (hp : q.head?.map (·.payload) = some p) : ∃ c rest, cs = c :: rest ∧ p = c.toWire := by
  obtain ⟨commands, inFlight⟩ := q
  cases h with
  | nil => cases hp
  | cons first _ =>
    cases hp
    exact ⟨_, _, rfl, first.2.1⟩

/-- What an exchange leaves in the queue and takes out of it, as commands. -/
theorem exchange_commands {q q' : DeviceQueue} {r : Response} {now : Instant} {delay : Nat}
    {x : Exchange} (turn : Exchange.Turn q r now delay q' x) (marked : q.Marked) {cs : List Command}
    (same : List.Forall₂ Stands q.commands cs) :
    ∃ cs', List.Forall₂ Stands q'.commands cs' ∧
      cs = (x.completed.toList.filterMap fun c => (Command.decode c.1.payload).toOption) ++ cs' ∧
      (∀ p, x.payload = some p → ∃ c rest, cs' = c :: rest ∧ p = c.toWire) ∧
      x.completed.isSome = r.status.settles ∧
      ∀ d status, x.completed = some (d, status) → status = r.status ∧
        ∃ c, Command.decode d.payload = .ok c ∧ r.commandUuid = some c.uuid := by
  cases turn with
  | first idle free =>
    refine ⟨cs, ?_, rfl, fun p => payload_head same, by rw [idle]; rfl, fun d status h => by cases h⟩
    rw [Exchange.handOut, deliver_commands]
    exact same
  | again f idle _ due =>
    refine ⟨cs, ?_, rfl, fun p => payload_head same, by rw [idle]; rfl, fun d status h => by cases h⟩
    rw [Exchange.handOut, deliver_commands]
    exact same
  | wait f idle _ early =>
    exact ⟨cs, same, rfl, (fun p h => by cases h), by rw [idle]; rfl, fun d status h => by cases h⟩
  | postpone f later _ named =>
    exact ⟨cs, same, rfl, (fun p h => by cases h), by rw [later]; rfl, fun d status h => by cases h⟩
  | settle f final delivered named =>
    obtain ⟨d, rest, first, uuid⟩ := marked f delivered
    have head : q.head? = some d := by
      rw [DeviceQueue.head?, first]
      rfl
    rw [first] at same
    cases same with
    | @cons _ c _ cs' stands others =>
      have tail : List.Forall₂ Stands q.pop.commands cs' := by
        rw [DeviceQueue.pop, first]
        exact others
      refine ⟨cs', ?_, ?_, fun p => payload_head tail, ?_, ?_⟩
      · rw [Exchange.handOut, deliver_commands]
        exact tail
      · rw [Exchange.handOut, head]
        simp [stands.decode, Except.toOption]
      · rw [Exchange.handOut, head, final]
        rfl
      · intro e status h
        rw [Exchange.handOut, head] at h
        cases h
        refine ⟨rfl, c, stands.decode, ?_⟩
        have command : r.command = c.uuid := named.symm.trans (uuid.symm.trans stands.1)
        rw [Response.command] at command
        cases given : r.commandUuid with
        | none =>
          rw [given] at command
          exact absurd command.symm stands.2.2
        | some uuid =>
          rw [given] at command
          exact congrArg some command

/-! ### Histories -/

/-- A step keeps the order: what stood in the queue and what it enqueues is what it removes and
what stands in the queue then. -/
theorem holds_step (delay : Nat) {s : Store} {udid : String} {cs : List Command}
    (h : Holds s udid cs) (i : Request)
    (named : ∀ v c now, i = .enqueue v c now → c.uuid ≠ "") :
    ∃ cs', Holds (step delay s i).after udid cs' ∧
      cs ++ (step delay s i).enqueued udid = (step delay s i).removed udid ++ cs' ∧
      (step delay s i).Honest udid := by
  have before := h.pending
  obtain ⟨q, hq, marked, same⟩ := h
  obtain ⟨q', hq', moves⟩ := moves_perform delay hq i
  have marked' := moves.marked marked
  simp only [step, Step.enqueued, Step.removed, Step.Honest]
  generalize (perform delay s i).1 = t at hq' ⊢
  generalize (perform delay s i).2 = o at moves ⊢
  cases moves with
  | refused _ e =>
    refine ⟨cs, ⟨q, hq', marked, same⟩, ?_, ?_⟩
    · cases i <;> simp
    · intro r now x _ accepted
      cases accepted
  | elsewhere _ _ other =>
    refine ⟨cs, ⟨q, hq', marked, same⟩, ?_, ?_⟩
    · cases i <;> cases o <;> simp_all [Request.udid]
    · intro r now x asked _ here
      rw [asked] at other
      exact absurd here other
  | enqueue c now wasEmpty fresh =>
    have stands : Stands (queued c now) c := ⟨rfl, rfl, named udid c now rfl⟩
    refine ⟨cs ++ [c], ⟨_, hq', marked', List.rel_append same (.cons stands .nil)⟩, ?_, ?_⟩
    · simp
    · intro r now x asked
      cases asked
  | exchange r now x _ here turn =>
    obtain ⟨cs', left, split, handed, removed, completed⟩ := exchange_commands turn marked same
    have holds : Holds t udid cs' := ⟨q', hq', marked', left⟩
    refine ⟨cs', holds, ?_, ?_⟩
    · simp only [if_pos here, List.append_nil]
      exact split
    · intro r' now' x' asked accepted _
      cases asked
      cases accepted
      refine ⟨fun p hp => ?_, removed, completed⟩
      obtain ⟨c, rest, rfl, wire⟩ := handed p hp
      exact ⟨c, rest, holds.pending, wire⟩
  | clear =>
    refine ⟨[], ⟨_, hq', marked', .nil⟩, ?_, ?_⟩
    · simp [before, Except.toOption]
    · intro r now x asked
      cases asked

theorem holds_run (delay : Nat) (rs : List Request)
    (named : ∀ v c now, .enqueue v c now ∈ rs → c.uuid ≠ "") {s : Store} {udid : String}
    {cs : List Command} (h : Holds s udid cs) :
    ∃ cs', Holds (run delay s rs) udid cs' ∧
      cs ++ (trace delay s rs).flatMap (·.enqueued udid) =
        (trace delay s rs).flatMap (·.removed udid) ++ cs' ∧
      ∀ i ∈ trace delay s rs, i.Honest udid := by
  induction rs generalizing s cs with
  | nil => exact ⟨cs, h, List.append_nil cs, List.forall_mem_nil _⟩
  | cons i rs ih =>
    obtain ⟨cs₁, first, kept, honest⟩ := holds_step delay h i fun v c now same =>
      named v c now (same ▸ List.mem_cons_self)
    obtain ⟨cs₂, last, others, honestly⟩ := ih
      (fun v c now mem => named v c now (List.mem_cons_of_mem _ mem)) first
    refine ⟨cs₂, last, ?_, List.forall_mem_cons.2 ⟨honest, honestly⟩⟩
    rw [trace, List.flatMap_cons, List.flatMap_cons, ← List.append_assoc, kept, List.append_assoc,
      List.append_assoc]
    exact congrArg _ others

/-- Commands leave the queue of a device in the order in which they came, none is lost and none
comes twice: those enqueued are those removed, then those pending. What an exchange hands out is
the wire form of the first one pending, and what it removes is the one that the device named. -/
theorem enqueued_eq_removed_append_pending (delay : Nat) (rs : List Request)
    (named : ∀ v c now, .enqueue v c now ∈ rs → c.uuid ≠ "") (udid : String) :
    ∃ cs, pending (run delay .empty rs) udid = .ok cs ∧
      (trace delay .empty rs).flatMap (·.enqueued udid) =
        (trace delay .empty rs).flatMap (·.removed udid) ++ cs ∧
      ∀ i ∈ trace delay .empty rs, i.Honest udid := by
  obtain ⟨cs, holds, kept, honest⟩ := holds_run delay rs named (holds_empty udid)
  exact ⟨cs, holds.pending, kept, honest⟩

/-- A command is queued, delivered, reported as done and followed by another one. -/
theorem enqueued_eq_removed_append_pending_two :
    let t := Instant.ofMillis 0
    let report (status : Status) (uuid : Option String) : Response :=
      ⟨"D", none, status, uuid, none, []⟩
    let rs : List Request :=
      [.enqueue "D" ⟨"c-1", .restartDevice⟩ t,
        .enqueue "D" ⟨"c-2", .deviceLock ⟨some "1234", none, none⟩⟩ t,
        .acknowledge (report .idle none) t, .acknowledge (report .acknowledged (some "c-1")) t]
    (∀ v c now, .enqueue v c now ∈ rs → c.uuid ≠ "") ∧
      ∃ cs, pending (run 5 .empty rs) "D" = .ok cs ∧
        (trace 5 .empty rs).flatMap (·.enqueued "D") =
          (trace 5 .empty rs).flatMap (·.removed "D") ++ cs ∧
        ∀ i ∈ trace 5 .empty rs, i.Honest "D" := by
  intro t report rs
  have named : ∀ v c now, .enqueue v c now ∈ rs → c.uuid ≠ "" := by
    intro v c now h
    simp only [rs, List.mem_cons, Request.enqueue.injEq, List.not_mem_nil, reduceCtorEq, or_false] at h
    rcases h with ⟨-, rfl, -⟩ | ⟨-, rfl, -⟩ <;> decide
  exact ⟨named, enqueued_eq_removed_append_pending 5 rs named "D"⟩

end DeviceFleet.Delivery
