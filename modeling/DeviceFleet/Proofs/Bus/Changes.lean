import Mathlib.Logic.Relation
import DeviceFleet.Bus.Run

/-! What can happen to a bus: a turn of its dispatcher, or something that a user does. The
subscriptions in `kept` belong to one reader, so no other takes from their queues or closes
them. In every bus that comes about in this way identifiers are unique, the queues are in the
order of dispatch, and an event that is being offered is later than all that lie in the queues
it is still to be offered to. -/

namespace DeviceFleet.Bus

/-! ### Subscriptions by identifier -/

def queueOf (b : Bus) (id : Nat) : List Event := ((b.find? id).map (·.queue)).getD []

theorem id_of_find? {b : Bus} {id : Nat} {s : Subscriber} (h : b.find? id = some s) : s.id = id := by
  have found := List.find?_some h
  simpa using found

theorem mem_of_find? {b : Bus} {id : Nat} {s : Subscriber} (h : b.find? id = some s) : s ∈ b.table :=
  List.mem_of_find?_eq_some h

theorem queueOf_of_find? {b : Bus} {id : Nat} {s : Subscriber} (h : b.find? id = some s) :
    b.queueOf id = s.queue := by
  rw [queueOf, h]
  rfl

theorem queueOf_congr {b c : Bus} {id : Nat} (h : b.find? id = c.find? id) :
    b.queueOf id = c.queueOf id := by
  rw [queueOf, queueOf, h]

def KeepsId (f : Subscriber → Subscriber) : Prop := ∀ s, (f s).id = s.id

theorem find?_modify (b : Bus) (id k : Nat) {f : Subscriber → Subscriber} (h : KeepsId f) :
    (b.modify id f).find? k = if k = id then (b.find? k).map f else b.find? k := by
  have same : (fun s : Subscriber => decide (s.id = k)) ∘ (fun s => if s.id = id then f s else s) =
      fun s => decide (s.id = k) := by
    funext s
    simp only [Function.comp]
    split <;> simp [h s]
  rw [find?, modify, List.find?_map, same]
  split
  · rename_i here
    cases found : b.table.find? fun s => s.id = k with
    | none => rw [find?, found]; rfl
    | some s =>
      have own : s.id = id := (id_of_find? found).trans here
      rw [find?, found, Option.map_some, Option.map_some, if_pos own]
  · rename_i other
    cases found : b.table.find? fun s => s.id = k with
    | none => rw [find?, found]; rfl
    | some s =>
      have own : s.id ≠ id := fun same => other ((id_of_find? found).symm.trans same)
      rw [find?, found, Option.map_some, if_neg own]

theorem find?_modify_self {b : Bus} {id : Nat} {s : Subscriber} {f : Subscriber → Subscriber}
    (h : KeepsId f) (found : b.find? id = some s) : (b.modify id f).find? id = some (f s) := by
  rw [find?_modify b id id h, if_pos rfl, found, Option.map_some]

theorem find?_modify_other {b : Bus} {id k : Nat} {f : Subscriber → Subscriber} (h : KeepsId f)
    (other : k ≠ id) : (b.modify id f).find? k = b.find? k := by
  rw [find?_modify b id k h, if_neg other]

theorem find?_finish (b : Bus) (d : Dispatch) (k : Nat) :
    (b.finish d).find? k = if k ∈ d.closed then none else b.find? k := by
  rw [find?, finish, List.find?_filter, find?]
  split
  · rename_i gone
    refine List.find?_eq_none.2 fun s _ both => ?_
    simp only [decide_eq_true_eq] at both
    exact both.1 (both.2.symm ▸ gone)
  · rename_i stays
    apply congrArg (List.find? · b.table)
    funext s
    by_cases same : s.id = k
    · simp [same, stays]
    · simp [same]

theorem find?_register {b : Bus} {k : Nat} {s : Subscriber} (id : Nat) (name topic : String)
    (h : b.find? k = some s) : (b.register id name topic).find? k = some s := by
  rw [register]
  split
  · rw [find?, List.find?_append]
    rw [find?] at h
    rw [h]
    rfl
  · exact h

theorem map_id_modify (b : Bus) (id : Nat) {f : Subscriber → Subscriber} (h : KeepsId f) :
    (b.modify id f).table.map (·.id) = b.table.map (·.id) := by
  rw [modify, List.map_map]
  apply List.map_congr_left
  intro s _
  simp only [Function.comp]
  split
  · exact h s
  · rfl

theorem mem_modify {b : Bus} {id : Nat} {f : Subscriber → Subscriber} {s : Subscriber}
    (h : s ∈ (b.modify id f).table) : ∃ t ∈ b.table, s = if t.id = id then f t else t := by
  obtain ⟨t, ht, rfl⟩ := List.mem_map.1 h
  exact ⟨t, ht, rfl⟩

/-! ### Changes -/

inductive Turn (b : Bus) : Bus → Prop where
  /-- The event has been offered to all. -/
  | finish {d : Dispatch} (busy : b.current = some d) (ended : d.remaining = []) :
      Turn b (b.finish d)
  /-- The subscription is not there, or its receiver is gone. -/
  | skip {e : Event} {id : Nat} {rest closed found : List Nat}
      (busy : b.current = some ⟨e, id :: rest, closed⟩)
      (gone : b.find? id = none ∧ found = closed ∨
        (∃ s, b.find? id = some s ∧ s.live = false) ∧ found = closed ++ [id]) :
      Turn b { b with current := some ⟨e, rest, found⟩ }
  | deliver {e : Event} {id : Nat} {rest closed : List Nat} {s : Subscriber}
      (busy : b.current = some ⟨e, id :: rest, closed⟩) (found : b.find? id = some s)
      (live : s.live = true) (room : b.hasRoom s = true) :
      Turn b { b.deliver id e with current := some ⟨e, rest, closed⟩ }
  /-- The event is lost for the subscription. -/
  | lose {e : Event} {id : Nat} {rest closed : List Nat} {s : Subscriber}
      (busy : b.current = some ⟨e, id :: rest, closed⟩) (found : b.find? id = some s) :
      Turn b { (b.drop s e).1 with current := some ⟨e, rest, closed⟩ }
  | register {id : Nat} {name topic : String} {rest : List BusRequest} (idle : b.current = none)
      (next : b.inbox = .subscribe id name topic :: rest) :
      Turn b ({ b with inbox := rest }.register id name topic)
  /-- An event comes next in the order. -/
  | start {topic : String} {payload : Bytes} {rest : List BusRequest} (idle : b.current = none)
      (next : b.inbox = .publish topic payload :: rest) :
      Turn b ({ b with inbox := rest }.beginDispatch topic payload)
  | stop {rest : List BusRequest} (idle : b.current = none) (next : b.inbox = .shutdown :: rest) :
      Turn b { b with inbox := [], stopped := true }

theorem turn_of_step {b b' : Bus} {ws : List Warning} (h : b.step = some (b', ws)) :
    b.stopped = false ∧ Turn b b' := by
  rw [step] at h
  split at h
  · cases h
  · rename_i running
    refine ⟨Bool.eq_false_iff.2 running, ?_⟩
    split at h
    · rename_i d busy
      obtain ⟨e, remaining, closed⟩ := d
      cases remaining with
      | nil =>
        cases h
        exact .finish busy rfl
      | cons id rest =>
        simp only [offer] at h
        split at h
        · rename_i missing
          cases h
          exact .skip busy (.inl ⟨missing, rfl⟩)
        · rename_i s found
          split at h
          · rename_i gone
            cases h
            exact .skip busy (.inr ⟨⟨s, found, by simpa using gone⟩, rfl⟩)
          · rename_i live
            split at h
            · rename_i room
              cases h
              exact .deliver busy found (by simpa using live) room
            · split at h
              · cases h
              · cases h
                exact .lose busy found
    · rename_i idle
      split at h
      · cases h
      · rename_i r rest next
        cases h
        cases r with
        | subscribe id name topic => exact .register idle next
        | publish topic payload => exact .start idle next
        | shutdown => exact .stop idle next

theorem turn_of_expire {b b' : Bus} {ws : List Warning} (h : b.expire = some (b', ws)) :
    b.stopped = false ∧ Turn b b' := by
  rw [expire] at h
  split at h
  · cases h
  · rename_i running
    refine ⟨Bool.eq_false_iff.2 running, ?_⟩
    split at h
    · rename_i e id rest closed busy
      obtain ⟨s, found, same⟩ := Option.map_eq_some_iff.1 h
      cases same
      exact .lose busy found
    · cases h

/-- What can happen to a bus while one reader keeps some of its subscriptions. -/
inductive Change (kept : List Nat) (b : Bus) : Bus → Prop where
  | turn {b' : Bus} (running : b.stopped = false) (h : Turn b b') : Change kept b b'
  | publish (topic : String) (payload : Bytes) : Change kept b (b.publish topic payload).1
  | request (running : b.stopped = false) (name topic : String) :
      Change kept b (b.request name topic).1
  | shutdown : Change kept b b.shutdown
  | take {id : Nat} {e : Event} {b' : Bus} (other : id ∉ kept) (h : b.take? id = some (e, b')) :
      Change kept b b'
  | close {id : Nat} (other : id ∉ kept) : Change kept b (b.close id)

theorem change_of_step {kept : List Nat} {b b' : Bus} {ws : List Warning}
    (h : b.step = some (b', ws)) : Change kept b b' :=
  .turn (turn_of_step h).1 (turn_of_step h).2

abbrev Leads (kept : List Nat) : Bus → Bus → Prop := Relation.ReflTransGen (Change kept)

theorem take?_eq {b b' : Bus} {id : Nat} {e : Event} (h : b.take? id = some (e, b')) :
    ∃ s rest, b.find? id = some s ∧ s.queue = e :: rest ∧
      b' = b.modify id fun s => { s with queue := s.queue.tail } := by
  simp only [take?, Option.bind_eq_bind, Option.bind_eq_some_iff] at h
  obtain ⟨s, found, taken⟩ := h
  split at taken
  · cases taken
  · rename_i rest first
    obtain ⟨rfl, rfl⟩ := Prod.mk.inj (Option.some.inj taken)
    exact ⟨s, rest, found, first, rfl⟩

end DeviceFleet.Bus
