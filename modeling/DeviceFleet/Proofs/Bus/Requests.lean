import DeviceFleet.Proofs.Bus.Line

/-! What a list of requests means to a bus that takes them in their order: the events that they
bring, numbered from the first one on, and those of them that are due to a subscription, which are
the ones on its topic after it was asked for. Nothing comes after a request to stop. -/

namespace DeviceFleet.BusRequest

def publication? : BusRequest → Option (String × Bytes)
  | publish topic payload => some (topic, payload)
  | _ => none

/-- The events that requests bring when `n` were brought before. -/
def events (n : Nat) : List BusRequest → List Event
  | [] => []
  | .publish topic payload :: rs => ⟨topic, payload, n + 1⟩ :: events (n + 1) rs
  | .subscribe _ _ _ :: rs => events n rs
  | .shutdown :: _ => []

def topic? (id : Nat) : List BusRequest → Option String
  | [] => none
  | .subscribe k _ topic :: rs => if k = id then some topic else topic? id rs
  | _ :: rs => topic? id rs

/-- The events that requests bring on the topic of a subscription, after it was asked for. -/
def due (id n : Nat) : List BusRequest → List Event
  | [] => []
  | .subscribe k _ topic :: rs =>
    if k = id then (events n rs).filter (·.topic = topic) else due id n rs
  | .publish _ _ :: rs => due id (n + 1) rs
  | .shutdown :: _ => []

variable {id n : Nat} {rs : List BusRequest}

theorem topic?_eq_none : topic? id rs = none ↔ id ∉ rs.flatMap BusRequest.ids := by
  induction rs with
  | nil => simp [topic?]
  | cons r rs ih =>
    cases r with
    | subscribe k name topic =>
      by_cases h : k = id
      · simp [topic?, h, BusRequest.ids]
      · simp [topic?, h, BusRequest.ids, ih, Ne.symm h]
    | publish => simpa [topic?, BusRequest.ids] using ih
    | shutdown => simpa [topic?, BusRequest.ids] using ih

theorem due_of_unasked (h : topic? id rs = none) : due id n rs = [] := by
  induction rs generalizing n with
  | nil => rfl
  | cons r rs ih =>
    cases r with
    | subscribe k name topic =>
      rw [topic?] at h
      split at h
      · cases h
      · rename_i other
        rw [due, if_neg other, ih h]
    | publish => exact ih h
    | shutdown => rfl

theorem due_sublist : (due id n rs).Sublist (events n rs) := by
  induction rs generalizing n with
  | nil => exact .refl _
  | cons r rs ih =>
    cases r with
    | subscribe k name topic =>
      rw [due, events]
      split
      · exact List.filter_sublist
      · exact ih
    | publish => exact ih.cons _
    | shutdown => exact .refl _

/-! ### Numbers -/

/-- Numbers ascend, and all are later than those before. -/
theorem ascending_events :
    (events n rs).Pairwise (·.sequence < ·.sequence) ∧ ∀ e ∈ events n rs, n < e.sequence := by
  induction rs generalizing n with
  | nil => exact ⟨.nil, List.forall_mem_nil _⟩
  | cons r rs ih =>
    cases r with
    | subscribe => exact ih
    | publish topic payload =>
      obtain ⟨ascending, later⟩ := @ih (n + 1)
      refine ⟨List.pairwise_cons.2 ⟨later, ascending⟩, List.forall_mem_cons.2 ⟨n.lt_succ_self, ?_⟩⟩
      exact fun e he => Nat.lt_of_succ_lt (later e he)
    | shutdown => exact ⟨.nil, List.forall_mem_nil _⟩

/-- The number of an event is its place among all that are published. -/
theorem publication_of_mem {e : Event} (h : e ∈ events n rs) :
    (rs.filterMap publication?)[e.sequence - 1 - n]? = some e.content := by
  induction rs generalizing n with
  | nil => cases h
  | cons r rs ih =>
    cases r with
    | subscribe => exact ih h
    | publish topic payload =>
      rw [List.filterMap_cons_some (by rfl)]
      rcases List.mem_cons.1 h with rfl | h
      · simp [Event.content]
      · have later := ascending_events.2 e h
        rw [show e.sequence - 1 - n = e.sequence - 1 - (n + 1) + 1 by omega, List.getElem?_cons_succ]
        exact ih h
    | shutdown => cases h

/-! ### More requests -/

variable {more : List BusRequest}

theorem events_append (open_ : .shutdown ∉ rs) :
    events n (rs ++ more) = events n rs ++ events (n + (events n rs).length) more := by
  induction rs generalizing n with
  | nil => rfl
  | cons r rs ih =>
    have rest : .shutdown ∉ rs := fun h => open_ (List.mem_cons_of_mem r h)
    cases r with
    | subscribe => exact ih rest
    | publish topic payload =>
      rw [List.cons_append, events, ih rest, events, List.cons_append, List.length_cons,
        Nat.add_right_comm, Nat.add_assoc]
    | shutdown => exact absurd List.mem_cons_self open_

theorem topic?_append : topic? id (rs ++ more) = (topic? id rs).or (topic? id more) := by
  induction rs with
  | nil => rfl
  | cons r rs ih =>
    cases r with
    | subscribe k name topic =>
      rw [List.cons_append, topic?, topic?, ih]
      split <;> rfl
    | publish => exact ih
    | shutdown => exact ih

/-- What further requests bring is due to a subscription that was asked for, if it is on its topic. -/
theorem due_append {topic : String} (asked : topic? id rs = some topic) (open_ : .shutdown ∉ rs) :
    due id n (rs ++ more) =
      due id n rs ++ (events (n + (events n rs).length) more).filter (·.topic = topic) := by
  induction rs generalizing n with
  | nil => cases asked
  | cons r rs ih =>
    have rest : .shutdown ∉ rs := fun h => open_ (List.mem_cons_of_mem r h)
    cases r with
    | subscribe k name own =>
      rw [topic?] at asked
      rw [List.cons_append, due, due, events]
      split at asked
      · rename_i same
        cases asked
        rw [if_pos same, if_pos same, events_append rest, List.filter_append]
      · rename_i other
        rw [if_neg other, if_neg other, ih asked rest]
    | publish =>
      rw [List.cons_append, due, due, ih asked rest, events, List.length_cons, Nat.add_right_comm,
        Nat.add_assoc]
    | shutdown => exact absurd List.mem_cons_self open_

theorem events_append_silent (silent : ∀ n, events n more = []) :
    events n (rs ++ more) = events n rs := by
  induction rs generalizing n with
  | nil => exact silent n
  | cons r rs ih =>
    cases r with
    | subscribe => exact ih
    | publish topic payload => rw [List.cons_append, events, events, ih]
    | shutdown => rfl

theorem due_append_silent (silent : ∀ n, events n more = []) : due id n (rs ++ more) = due id n rs := by
  induction rs generalizing n with
  | nil => exact List.sublist_nil.1 (silent n ▸ due_sublist)
  | cons r rs ih =>
    cases r with
    | subscribe k name topic =>
      rw [List.cons_append, due, due, events_append_silent silent]
      split
      · rfl
      · exact ih
    | publish => exact ih
    | shutdown => rfl

theorem events_prefix : events n rs <+: events n (rs ++ more) := by
  induction rs generalizing n with
  | nil => exact List.nil_prefix
  | cons r rs ih =>
    cases r with
    | subscribe => exact ih
    | publish => exact List.cons_prefix_cons.2 ⟨rfl, ih⟩
    | shutdown => exact List.prefix_refl _

theorem due_prefix : due id n rs <+: due id n (rs ++ more) := by
  induction rs generalizing n with
  | nil => exact List.nil_prefix
  | cons r rs ih =>
    cases r with
    | subscribe k name topic =>
      rw [List.cons_append, due, due]
      split
      · exact events_prefix.filter _
      · exact ih
    | publish => exact ih
    | shutdown => exact List.prefix_refl _

end DeviceFleet.BusRequest
