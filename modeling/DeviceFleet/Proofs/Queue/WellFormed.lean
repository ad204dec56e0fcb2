import Mathlib.Data.List.Nodup
import DeviceFleet.Proofs.Queue.Fifo

/-! What stands in the store between requests. Every record of the command queues is under a UDID
and reads as a queue that has commands, no two of them with one identifier, and whose marker names
the head. So no request fails on a record that cannot be read, and a queue is seen as empty just if
it has no record. -/

namespace DeviceFleet

/-! ### Queues -/

namespace DeviceQueue

/-- No two commands have one identifier, and the marker names the head. -/
structure Consistent (q : DeviceQueue) : Prop where
  distinct : (q.commands.map (·.uuid)).Nodup
  marked : q.Marked

theorem consistent_empty : empty.Consistent := ⟨List.nodup_nil, marked_empty⟩

theorem Marked.free_of_nil {q : DeviceQueue} (h : q.Marked) (none : q.commands = []) :
    q.inFlight = .none := by
  cases marker : q.inFlight with
  | none => rfl
  | some f =>
    obtain ⟨c, rest, first, -⟩ := h f marker
    rw [none] at first
    cases first

/-- The marker decides what is to be seen of a queue, and without one the commands do. -/
theorem state_iff (q : DeviceQueue) :
    (q.state = .inFlight ↔ q.inFlight.isSome = true) ∧
      (q.state = .hasPending ↔ q.commands ≠ [] ∧ q.inFlight = none) ∧
      (q.state = .empty ↔ q.commands = [] ∧ q.inFlight = none) := by
  obtain ⟨commands, inFlight⟩ := q
  cases inFlight <;> cases commands <;> simp [state]

end DeviceQueue

theorem Exchange.Turn.sublist {q q' : DeviceQueue} {r : Response} {now : Instant} {delay : Nat}
    {x : Exchange} (h : Turn q r now delay q' x) : q'.commands.Sublist q.commands := by
  cases h with
  | first => simp [handOut]
  | again => simp [handOut]
  | wait => exact .refl _
  | postpone => exact .refl _
  | settle => simpa [handOut, DeviceQueue.pop] using q.commands.tail_sublist

/-! ### Records -/

/-- Every record is the text of a consistent queue with commands, under a UDID. -/
def Store.WellFormed (s : Store) : Prop :=
  ∀ e ∈ s.queues.entries, e.1 ≠ "" ∧
    ∃ q, Store.load DeviceQueue.schema e.2 = .ok q ∧ q.commands ≠ [] ∧ q.Consistent

namespace Store

theorem wellFormed_empty : empty.WellFormed := nofun

variable {s : Store} {udid : String} {q : DeviceQueue}

/-- The queue of a device is read: it is empty without a record, and else it has commands. -/
theorem WellFormed.queue (h : s.WellFormed) (udid : String) :
    ∃ q, s.queue udid = .ok q ∧ q.Consistent ∧
      (q.commands = [] ↔ s.queues.find? udid = none) ∧ (q.commands ≠ [] → udid ≠ "") := by
  cases found : s.queues.find? udid with
  | none =>
    exact ⟨.empty, queue_of_missing found, DeviceQueue.consistent_empty, by simp [DeviceQueue.empty],
      absurd rfl⟩
  | some text =>
    obtain ⟨named, q, loaded, busy, consistent⟩ := h _ (Named.mem_of_find? found)
    refine ⟨q, ?_, consistent, by simp [busy], fun _ => named⟩
    rw [Store.queue, lookup, found]
    simp only [loaded]
    rfl

/-- A consistent queue is put under a UDID; a clear one leaves no record. -/
theorem WellFormed.putQueue (h : s.WellFormed) (named : udid ≠ "") (hq : q.Consistent) :
    (s.putQueue udid q).WellFormed := by
  intro e he
  rw [Store.putQueue] at he
  split at he
  · exact h e (List.mem_filter.1 he).1
  · rename_i busy
    rcases Named.mem_insert he with rfl | he
    · refine ⟨named, q, load_store DeviceQueue.lawful q, fun none => busy ?_, hq⟩
      simp [DeviceQueue.isClear, none, hq.marked.free_of_nil none]
    · exact h e he

/-- A change of a queue that can be read fails without a UDID and where the change itself fails, and
in no other way. -/
theorem updateQueue_eq {ε ρ : Type} (found : s.queue udid = .ok q) (report : StoreError → ε)
    (f : DeviceQueue → Except ε (DeviceQueue × ρ)) :
    s.updateQueue udid report f = if udid = "" then .error (report emptyQueueUdid)
      else (f q).map fun (q', r) => (s.putQueue udid q', r) := by
  rw [updateQueue, found]
  split
  · rfl
  · simp only
    cases f q <;> rfl

theorem named_of_updateQueue {t : Store} {ε ρ : Type} {report : StoreError → ε}
    {f : DeviceQueue → Except ε (DeviceQueue × ρ)} {r : ρ}
    (h : s.updateQueue udid report f = .ok (t, r)) : udid ≠ "" := by
  rintro rfl
  rw [Store.updateQueue, if_pos rfl] at h
  cases h

/-- Every record names a device that waits for a command. -/
theorem WellFormed.pendingUdids (h : s.WellFormed) : s.pendingUdids = .ok s.queues.names := by
  rw [WellFormed] at h
  rw [Store.pendingUdids, Table.names]
  -- The queues are read one by one, and none of them is left out.
  have reads : ∀ entries : List (String × Bytes),
      (∀ e ∈ entries, ∃ q, load DeviceQueue.schema e.2 = .ok q ∧ q.commands ≠ []) →
      ∃ queues : List (String × DeviceQueue),
        (entries.mapM fun e => do
          let q ← load DeviceQueue.schema e.2
          .ok (e.1, q)) = Except.ok queues ∧
        (queues.filter fun e => !e.2.commands.isEmpty).map (·.1) = entries.map (·.1) := by
    intro entries readable
    induction entries with
    | nil => exact ⟨[], rfl, rfl⟩
    | cons e rest ih =>
      obtain ⟨q, loaded, busy⟩ := readable e List.mem_cons_self
      obtain ⟨queues, others, names⟩ := ih fun e he => readable e (List.mem_cons_of_mem _ he)
      refine ⟨(e.1, q) :: queues, ?_, ?_⟩
      · rw [List.mapM_cons, loaded, others]
        rfl
      · rw [List.filter_cons_of_pos (by simpa using busy), List.map_cons, names, List.map_cons]
  obtain ⟨queues, all, names⟩ := reads s.queues.entries fun e he =>
    let ⟨_, q, loaded, busy, _⟩ := h e he
    ⟨q, loaded, busy⟩
  rw [all, ← names]
  rfl

end Store

/-! ### Requests -/

namespace Delivery

/-- The answer to a response, whatever is to be warned of. -/
theorem acknowledge_fst (s : Store) (r : Response) (now : Instant) (delay : Nat) :
    (acknowledge s r now delay).1 =
      if r.isUserScoped = true then .error userResponse
      else match r.validate with
        | .error e => .error e
        | .ok () => exchange s r now delay := by
  rw [acknowledge]
  split
  · rfl
  · cases r.validate with
    | error e => rfl
    | ok =>
      simp only
      cases exchange s r now delay <;> rfl

/-- An answered response is from a device, is complete, and was an exchange. -/
theorem exchange_of_acknowledge {s : Store} {r : Response} {now : Instant} {delay : Nat}
    {p : Store × Exchange} (h : (acknowledge s r now delay).1 = .ok p) :
    r.isUserScoped = false ∧ r.validate = .ok () ∧ exchange s r now delay = .ok p := by
  rw [acknowledge_fst] at h
  split at h
  · cases h
  · rename_i device
    split at h
    · cases h
    · rename_i valid
      exact ⟨Bool.eq_false_iff.2 device, valid, h⟩

/-- A request is refused and leaves the store as it was, or moves the queue of a named device, which
is put in place of the earlier one. -/
theorem perform_cases (delay : Nat) (s : Store) (i : Request) :
    (∃ e, perform delay s i = (s, .refused e)) ∨
      ∃ q q' o, i.udid ≠ "" ∧ s.queue i.udid = .ok q ∧ Moves delay i.udid q i o q' ∧
        perform delay s i = (s.putQueue i.udid q', o) := by
  cases i with
  | enqueue v c now =>
    rw [perform]
    cases done : enqueue s v c now with
    | error e => exact .inl ⟨e, rfl⟩
    | ok p =>
      obtain ⟨t, wasEmpty⟩ := p
      obtain ⟨q, found, fresh, -, rfl⟩ := enqueue_ok done
      refine .inr ⟨q, _, _, ?_, found, .enqueue c now wasEmpty fresh, rfl⟩
      rintro rfl
      rw [enqueue, if_pos rfl] at done
      cases done
  | acknowledge r now =>
    rw [perform]
    cases done : (acknowledge s r now delay).1 with
    | error e => exact .inl ⟨e, rfl⟩
    | ok p =>
      obtain ⟨t, x⟩ := p
      have named := Store.named_of_updateQueue (exchange_of_acknowledge done).2.2
      obtain ⟨q, q', found, turn, rfl⟩ := acknowledge_ok done
      exact .inr ⟨q, q', _, named, found, .exchange r now x q' rfl turn, rfl⟩
  | clear v =>
    rw [perform]
    cases done : clear s v with
    | error e => exact .inl ⟨e, rfl⟩
    | ok p =>
      obtain ⟨t, count⟩ := p
      obtain ⟨q, found, rfl, rfl⟩ := clear_ok done
      refine .inr ⟨q, .empty, _, ?_, found, .clear, rfl⟩
      rintro rfl
      cases done

theorem Moves.consistent {delay : Nat} {udid : String} {q q' : DeviceQueue} {i : Request} {o : Outcome}
    (h : Moves delay udid q i o q') (hq : q.Consistent) : q'.Consistent := by
  refine ⟨?_, h.marked hq.marked⟩
  cases h with
  | refused => exact hq.distinct
  | elsewhere => exact hq.distinct
  | enqueue c now _ fresh =>
    show ((q.commands ++ [queued c now]).map (·.uuid)).Nodup
    rw [List.map_append]
    refine List.Nodup.append hq.distinct (List.nodup_singleton _) fun x hx hy => ?_
    obtain ⟨d, hd, rfl⟩ := List.mem_map.1 hx
    exact fresh d hd (List.mem_singleton.1 hy)
  | exchange _ _ _ _ _ turn => exact hq.distinct.sublist (turn.sublist.map _)
  | clear => exact List.nodup_nil

theorem wellFormed_perform (delay : Nat) {s : Store} (h : s.WellFormed) (i : Request) :
    (perform delay s i).1.WellFormed := by
  rcases perform_cases delay s i with ⟨e, same⟩ | ⟨q, q', o, named, found, moves, put⟩
  · rw [same]
    exact h
  · obtain ⟨q₀, found₀, consistent, -⟩ := h.queue i.udid
    cases found.symm.trans found₀
    rw [put]
    exact h.putQueue named (moves.consistent consistent)

theorem wellFormed_run (delay : Nat) (rs : List Request) {s : Store} (h : s.WellFormed) :
    (run delay s rs).WellFormed := by
  induction rs generalizing s with
  | nil => exact h
  | cons i rs ih => exact ih (wellFormed_perform delay h i)

/-- After any requests, refused or not: each record of the command queues is under a UDID and is read
as a queue that has commands, all with identifiers of their own, and whose marker names the head. What
is to be seen of the queue of a device follows from this; a queue is seen as empty just if the device
has no record. A change of a queue fails only without a UDID or by itself, and all devices with a
record are listed as waiting. -/
theorem records_wellFormed (delay : Nat) (rs : List Request) :
    let s := run delay .empty rs
    (∀ e ∈ s.queues.entries, e.1 ≠ "" ∧ ∃ q, Store.load DeviceQueue.schema e.2 = .ok q ∧
      q.commands ≠ [] ∧ (q.commands.map (·.uuid)).Nodup ∧
      ∀ f, q.inFlight = some f → ∃ c rest, q.commands = c :: rest ∧ c.uuid = f.commandUuid) ∧
    (∀ udid, ∃ q, s.queue udid = .ok q ∧
      (q.state = .inFlight ↔ q.inFlight.isSome = true) ∧
      (q.state = .hasPending ↔ q.commands ≠ [] ∧ q.inFlight = none) ∧
      (q.state = .empty ↔ s.queues.find? udid = none) ∧
      ∀ (ε ρ : Type) (report : StoreError → ε) (f : DeviceQueue → Except ε (DeviceQueue × ρ)),
        s.updateQueue udid report f = if udid = "" then .error (report Store.emptyQueueUdid)
          else (f q).map fun (q', r) => (s.putQueue udid q', r)) ∧
    s.pendingUdids = .ok s.queues.names := by
  intro s
  have h : s.WellFormed := wellFormed_run delay rs Store.wellFormed_empty
  refine ⟨fun e he => ?_, fun udid => ?_, h.pendingUdids⟩
  · obtain ⟨named, q, loaded, busy, consistent⟩ := h e he
    exact ⟨named, q, loaded, busy, consistent.distinct, consistent.marked⟩
  · obtain ⟨q, found, consistent, absent, -⟩ := h.queue udid
    obtain ⟨inFlight, hasPending, empty⟩ := q.state_iff
    refine ⟨q, found, inFlight, hasPending, empty.trans ?_,
      fun _ _ report => Store.updateQueue_eq found report⟩
    rw [← absent]
    exact ⟨And.left, fun none => ⟨none, consistent.marked.free_of_nil none⟩⟩

end Delivery

end DeviceFleet
