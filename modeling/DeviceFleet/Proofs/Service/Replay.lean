import DeviceFleet.Proofs.Bus.Line
import DeviceFleet.Proofs.Service.Keepers

/-! Events taken by a keeper one after another. What comes of them depends on the contents of the events,
their stamps and the part of the store that the keeper keeps. The events that are of no use give one
warning each, and without them the others lead to the same store. -/

deriving instance DecidableEq for DeviceFleet.Stamp

namespace DeviceFleet.Keeper

/-! ### The part of the store that a keeper keeps -/

def Same (k : Keeper) (s t : Store) : Prop :=
  match k with
  | devices => Enrolment.SameDevices s t
  | pushInfos => s.pushInfos = t.pushInfos
  | queues => s.queues = t.queues

/-- The store with what the keeper keeps from `own`. -/
def graft (k : Keeper) (own s : Store) : Store :=
  match k with
  | devices => { s with devices := own.devices, serials := own.serials }
  | pushInfos => { s with pushInfos := own.pushInfos }
  | queues => { s with queues := own.queues }

variable {k : Keeper} {s t u own : Store} {e : Event} {x : Stamp}

theorem Same.refl (k : Keeper) (s : Store) : k.Same s s := by
  cases k <;> constructor <;> rfl

theorem Same.symm (h : k.Same s t) : k.Same t s := by
  cases k with
  | devices => exact ⟨h.devices.symm, h.serials.symm⟩
  | pushInfos => exact Eq.symm h
  | queues => exact Eq.symm h

theorem Same.trans (h : k.Same s t) (h' : k.Same t u) : k.Same s u := by
  cases k with
  | devices => exact Enrolment.SameDevices.trans h h'
  | pushInfos => exact Eq.trans h h'
  | queues => exact Eq.trans h h'

theorem graft_of_same (h : k.Same s t) : k.graft t s = s := by
  cases k with
  | devices =>
    obtain ⟨devices, serials⟩ : Enrolment.SameDevices s t := h
    simp [graft, ← devices, ← serials]
  | pushInfos => simp [graft, ← show s.pushInfos = t.pushInfos from h]
  | queues => simp [graft, ← show s.queues = t.queues from h]

theorem same_graft (k : Keeper) (own s : Store) : k.Same (k.graft own s) own := by
  cases k <;> constructor <;> rfl

theorem same_graft_other {j : Keeper} (other : j ≠ k) (own s : Store) : j.Same (k.graft own s) s := by
  cases j <;> cases k <;> first | exact absurd rfl other | constructor <;> rfl

theorem onPushInfos_graft (s r : Store) (e : Event) (now : Instant) :
    Enrolment.onPushInfos (graft .pushInfos s r) e now =
      (Enrolment.onPushInfos s e now).map (graft .pushInfos · r) := by
  unfold Enrolment.onPushInfos
  cases CheckinEvent.schema.decode e.payload with
  | error error => rfl
  | ok c =>
    simp only [bind, Except.bind]
    split
    · unfold Enrolment.keepToken Store.putPushInfo
      split_ifs <;> rfl
    · rfl

theorem putQueue_graft (s r : Store) (udid : String) (q : DeviceQueue) :
    (graft .queues s r).putQueue udid q = graft .queues (s.putQueue udid q) r := by
  unfold Store.putQueue
  split_ifs <;> rfl

theorem enqueue_graft (s r : Store) (udid : String) (c : Command) (now : Instant) :
    Delivery.enqueue (graft .queues s r) udid c now =
      (Delivery.enqueue s udid c now).map fun o => (graft .queues o.1 r, o.2) := by
  have queue : (graft .queues s r).queue udid = s.queue udid := rfl
  unfold Delivery.enqueue Store.updateQueue
  split_ifs with unnamed
  · rfl
  · rw [queue]
    cases s.queue udid with
    | error error => rfl
    | ok q =>
      simp only [bind, Except.bind, putQueue_graft]
      split_ifs <;> rfl

theorem onQueues_graft (s r : Store) (e : Event) (now : Instant) :
    Delivery.onQueues (graft .queues s r) e now =
      (Delivery.onQueues s e now).map fun o => (graft .queues o.1 r, o.2) := by
  unfold Delivery.onQueues
  cases CommandEvent.schema.decode e.payload with
  | error error => rfl
  | ok c =>
    simp only [bind, Except.bind, enqueue_graft]
    cases Delivery.enqueue s c.udid c.command now <;> rfl

/-- An event is applied to what the keeper keeps, whatever else is in the store. -/
theorem apply_graft (k : Keeper) (s r : Store) (e : Event) (x : Stamp) :
    k.apply (k.graft s r) e x = (k.apply s e x).map (k.graft · r) := by
  cases k with
  | devices =>
    show Enrolment.onDevices (Enrolment.beside s r.pushInfos r.queues) e x.id x.now = _
    unfold apply Enrolment.onDevices
    cases CheckinEvent.schema.decode e.payload with
    | error error => rfl
    | ok c => exact Enrolment.apply_beside s r.pushInfos r.queues c.message x.id x.now
  | pushInfos => exact onPushInfos_graft s r e x.now
  | queues =>
    show (Delivery.onQueues (graft .queues s r) e x.now).map (·.1) = ((Delivery.onQueues s e x.now).map (·.1)).map _
    rw [onQueues_graft]
    cases Delivery.onQueues s e x.now <;> rfl

/-! ### One event -/

def fault? (k : Keeper) (s : Store) (e : Event) (x : Stamp) : Option Error :=
  match k.apply s e x with
  | .ok _ => none
  | .error error => some error

theorem fault?_eq_some_iff {error : Error} : k.fault? s e x = some error ↔ Flaw s e k error := by
  rw [← apply_eq_error_iff (t := x), fault?]
  cases k.apply s e x <;> simp

theorem take_of_fault {error : Error} (h : k.fault? s e x = some error) :
    k.take s e x = (s, [k.warning e error]) := by
  unfold fault? at h
  cases done : k.apply s e x <;> simp [done] at h
  rw [take_of_error done, h]

theorem warnings_take (k : Keeper) (s : Store) (e : Event) (x : Stamp) :
    (k.take s e x).2 = (k.fault? s e x).toList.map (k.warning e) := by
  unfold fault?
  cases done : k.apply s e x with
  | error error => rw [take_of_error done]; rfl
  | ok s' => rw [take_of_ok done]; rfl

theorem take_same (h : k.Same s t) (e : Event) (x : Stamp) :
    k.fault? s e x = k.fault? t e x ∧ k.Same (k.take s e x).1 (k.take t e x).1 := by
  have applied := apply_graft k t s e x
  rw [graft_of_same h] at applied
  unfold fault?
  cases done : k.apply t e x with
  | error error =>
    rw [done] at applied
    rw [applied, take_of_error applied, take_of_error done]
    exact ⟨rfl, h⟩
  | ok t' =>
    rw [done] at applied
    rw [applied, take_of_ok applied, take_of_ok done]
    exact ⟨rfl, same_graft k t' s⟩

/-- A keeper leaves what the others keep. -/
theorem same_take_other {j : Keeper} (other : j ≠ k) (s : Store) (e : Event) (x : Stamp) :
    j.Same (k.take s e x).1 s := by
  have applied := apply_graft k s s e x
  rw [graft_of_same (.refl k s)] at applied
  cases done : k.apply s e x with
  | error error =>
    rw [take_of_error done]
    exact .refl j s
  | ok s' =>
    rw [done] at applied
    have own : s' = k.graft s' s := Except.ok.inj applied
    rw [take_of_ok done, own]
    exact same_graft_other other s' s

/-- The place of an event in the order of the bus has no part in it. -/
theorem take_content {e' : Event} (h : e.content = e'.content) (k : Keeper) (s : Store) (x : Stamp) :
    k.take s e x = k.take s e' x := by
  obtain ⟨topic, payload, n⟩ := e
  obtain ⟨topic', payload', n'⟩ := e'
  obtain ⟨rfl, rfl⟩ := Prod.mk.inj h
  cases k <;> rfl

/-! ### Sequences of events -/

def replay (k : Keeper) (s : Store) (xs : List (Event × Stamp)) : Store :=
  xs.foldl (fun s x => (k.take s x.1 x.2).1) s

/-- Events one after another, each with what it fails with. -/
def judged (k : Keeper) : Store → List (Event × Stamp) → List ((Event × Stamp) × Option Error)
  | _, [] => []
  | s, x :: xs => (x, k.fault? s x.1 x.2) :: k.judged (k.take s x.1 x.2).1 xs

def useful (k : Keeper) (s : Store) (xs : List (Event × Stamp)) : List (Event × Stamp) :=
  ((k.judged s xs).filter (·.2.isNone)).map (·.1)

def warnings (k : Keeper) (s : Store) (xs : List (Event × Stamp)) : List Warning :=
  (k.judged s xs).filterMap fun x => x.2.map (k.warning x.1.1)

/-- What is applied of events: their contents, and the stamps. -/
def contents (xs : List (Event × Stamp)) : List ((String × Bytes) × Stamp) :=
  xs.map fun x => (x.1.content, x.2)

variable {xs ys : List (Event × Stamp)}

@[simp] theorem replay_nil (k : Keeper) (s : Store) : k.replay s [] = s := rfl

@[simp] theorem replay_cons (k : Keeper) (s : Store) (y : Event × Stamp) (xs : List (Event × Stamp)) :
    k.replay s (y :: xs) = k.replay (k.take s y.1 y.2).1 xs := rfl

theorem replay_append (k : Keeper) (s : Store) (xs ys : List (Event × Stamp)) :
    k.replay s (xs ++ ys) = k.replay (k.replay s xs) ys := List.foldl_append

theorem judged_append (k : Keeper) (s : Store) (xs ys : List (Event × Stamp)) :
    k.judged s (xs ++ ys) = k.judged s xs ++ k.judged (k.replay s xs) ys := by
  induction xs generalizing s with
  | nil => rfl
  | cons y xs ih => simp [judged, ih]

@[simp] theorem warnings_nil (k : Keeper) (s : Store) : k.warnings s [] = [] := rfl

@[simp] theorem warnings_cons (k : Keeper) (s : Store) (y : Event × Stamp) (xs : List (Event × Stamp)) :
    k.warnings s (y :: xs) = (k.take s y.1 y.2).2 ++ k.warnings (k.take s y.1 y.2).1 xs := by
  rw [warnings_take, warnings, judged, List.filterMap_cons]
  cases k.fault? s y.1 y.2 <;> rfl

theorem warnings_append (k : Keeper) (s : Store) (xs ys : List (Event × Stamp)) :
    k.warnings s (xs ++ ys) = k.warnings s xs ++ k.warnings (k.replay s xs) ys := by
  simp [warnings, judged_append]

theorem length_warnings (k : Keeper) (s : Store) (xs : List (Event × Stamp)) :
    (k.warnings s xs).length + (k.useful s xs).length = xs.length := by
  unfold warnings useful
  induction xs generalizing s with
  | nil => rfl
  | cons y xs ih =>
    have others := ih (k.take s y.1 y.2).1
    cases fault : k.fault? s y.1 y.2 <;> simp [judged, fault] at others ⊢ <;> omega

theorem replay_same (h : k.Same s t) (xs : List (Event × Stamp)) :
    k.Same (k.replay s xs) (k.replay t xs) ∧ k.judged s xs = k.judged t xs := by
  induction xs generalizing s t with
  | nil => exact ⟨h, rfl⟩
  | cons y xs ih =>
    obtain ⟨fault, same⟩ := take_same h y.1 y.2
    obtain ⟨last, judged'⟩ := ih same
    exact ⟨last, by rw [judged, judged, fault, judged']⟩

theorem warnings_same (h : k.Same s t) (xs : List (Event × Stamp)) :
    k.warnings s xs = k.warnings t xs := by
  rw [warnings, warnings, (replay_same h xs).2]

theorem replay_congr (h : contents xs = contents ys) (k : Keeper) (s : Store) :
    k.replay s xs = k.replay s ys ∧ k.warnings s xs = k.warnings s ys := by
  induction xs generalizing s ys with
  | nil =>
    cases ys with
    | nil => exact ⟨rfl, rfl⟩
    | cons y ys => cases h
  | cons y xs ih =>
    cases ys with
    | nil => cases h
    | cons z ys =>
      obtain ⟨first, others⟩ := List.cons.inj h
      obtain ⟨content, stamp⟩ := Prod.mk.inj first
      obtain ⟨last, warned⟩ := ih others (k.take s z.1 z.2).1
      simp [stamp, take_content content, last, warned]

/-- Without the events that are of no use, every event is of use, and the store is the same. -/
theorem judged_useful (k : Keeper) (s : Store) (xs : List (Event × Stamp)) :
    k.replay s (k.useful s xs) = k.replay s xs ∧
      k.judged s (k.useful s xs) = (k.useful s xs).map fun x => (x, none) := by
  induction xs generalizing s with
  | nil => exact ⟨rfl, rfl⟩
  | cons y xs ih =>
    cases fault : k.fault? s y.1 y.2 with
    | none =>
      have first : k.useful s (y :: xs) = y :: k.useful (k.take s y.1 y.2).1 xs := by
        simp [useful, judged, fault]
      obtain ⟨last, all⟩ := ih (k.take s y.1 y.2).1
      rw [first, replay_cons, replay_cons, judged, fault, all, last]
      exact ⟨rfl, rfl⟩
    | some error =>
      have still : (k.take s y.1 y.2).1 = s := by rw [take_of_fault fault]
      have first : k.useful s (y :: xs) = k.useful s xs := by
        simp [useful, judged, fault, still]
      rw [first, replay_cons, still]
      exact ih s

theorem warnings_useful (k : Keeper) (s : Store) (xs : List (Event × Stamp)) :
    k.warnings s (k.useful s xs) = [] := by
  rw [warnings, (judged_useful k s xs).2, List.filterMap_map]
  exact List.filterMap_eq_nil_iff.2 fun _ _ => rfl

end DeviceFleet.Keeper
