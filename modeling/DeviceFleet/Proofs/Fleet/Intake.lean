import DeviceFleet.Proofs.Fleet.Attends
import DeviceFleet.Proofs.Fleet.Notices
import DeviceFleet.Proofs.Service.Replay

/-! A fleet whose keepers take whatever comes over the bus. Each of them takes every event that is
delivered to it, warns once of each that is of no use, and its part of the store is the one to which the
others alone lead. -/

namespace DeviceFleet

namespace Bus

variable {b b' : Bus} {ws : List Warning}

theorem keeper?_of_drop (b : Bus) (s : Subscriber) (e : Event) :
    ∀ w ∈ (b.drop s e).2, w.keeper? = none := by
  simp [drop, Warning.keeper?]

theorem keeper?_of_offer {d : Dispatch} {id : Nat} {rest : List Nat}
    (h : b.offer d id rest = some (b', ws)) : ∀ w ∈ ws, w.keeper? = none := by
  unfold offer at h
  split at h
  · cases h
    exact List.forall_mem_nil _
  · split_ifs at h <;> cases h
    · exact List.forall_mem_nil _
    · exact List.forall_mem_nil _
    · exact keeper?_of_drop b _ d.event

/-- The bus does not warn of events that are of no use. -/
theorem keeper?_of_step (h : b.step = some (b', ws)) : ∀ w ∈ ws, w.keeper? = none := by
  unfold step at h
  split at h
  · cases h
  · split at h
    · split at h
      · cases h
        exact List.forall_mem_nil _
      · exact keeper?_of_offer h
    · split at h <;> cases h
      exact List.forall_mem_nil _

theorem keeper?_of_expire (h : b.expire = some (b', ws)) : ∀ w ∈ ws, w.keeper? = none := by
  unfold expire at h
  split at h
  · cases h
  · split at h
    · obtain ⟨s, -, dropped⟩ := Option.map_eq_some_iff.1 h
      cases dropped
      exact keeper?_of_drop b s _
    · cases h

theorem keeper?_of_publish (b : Bus) (topic : String) (payload : Bytes) :
    ∀ w ∈ (b.publish topic payload).2, w.keeper? = none := by
  unfold publish
  split_ifs <;> simp [Warning.keeper?]

end Bus

theorem Audit.keeper?_of_count (a : Audit) (e : Event) (subject : Audit.Subject) :
    ∀ w ∈ (a.count e subject).2, w.keeper? = none := by
  cases subject
  · unfold count onCommand
    cases CommandEvent.schema.decode e.payload <;> simp [reject, Warning.keeper?]
  · unfold count onConnect
    cases ConnectEvent.schema.decode e.payload <;> simp [reject, Warning.keeper?]

/-- A fleet at work, with what became known, and for each keeper the events that were delivered to it
and those that it has taken. -/
structure Intake where
  fleet : Fleet
  notices : List Notice
  delivered : Keeper → List Event
  taken : Keeper → List (Event × Stamp)

namespace Intake

open Fleet

/-- What happens to a fleet: any payload is published on any topic, the bus is asked to stop, or a move
is made. -/
inductive Act where
  | publish (topic : String) (payload : Bytes)
  | shutdown
  | move (m : Move)

/-- The fleet after an act. A move that is not possible changes nothing. -/
def Act.perform (f : Fleet) : Act → Outcome
  | publish topic payload => f.publish topic payload
  | shutdown => (f.shutdown, [])
  | move m => (f.perform m).getD (f, [])

def Act.takes (f : Fleet) : Act → Keeper → List (Event × Stamp)
  | move m => f.takes m
  | _ => fun _ => []

def act (h : Intake) (a : Act) : Intake :=
  let (f, ns) := a.perform h.fleet
  { fleet := f
    notices := h.notices ++ ns
    delivered := fun k => h.delivered k ++ Bus.arrivals k.subs h.fleet.bus f.bus
    taken := fun k => h.taken k ++ a.takes h.fleet k }

def run (acts : List Act) (h : Intake) : Intake := acts.foldl act h

def start (store : Store) (config : BusConfig) (waker : Waker) (delay : Nat) : Intake :=
  ⟨(Fleet.new store config waker delay).startAll.1.1, [], fun _ => [], fun _ => []⟩

def warnings (h : Intake) (k : Keeper) : List Warning :=
  (warned h.notices).filter (·.keeper? = some k)

variable {f f' : Fleet} {m : Move} {ns : List Notice} {k : Keeper}

/-! ### The store and the warnings -/

theorem filter_take {j : Keeper} (s : Store) (e : Event) (x : Stamp) :
    (j.take s e x).2.filter (·.keeper? = some k) = if j = k then (j.take s e x).2 else [] := by
  rw [Keeper.warnings_take]
  cases j.fault? s e x <;> by_cases same : j = k <;> simp [same]

theorem kept_of_take {j : Keeper} {e : Event} {x : Stamp} (mover : m.keeper? = some j)
    (own : f.takes m j = [(e, x)]) (store : f'.store = (j.take f.store e x).1)
    (told : warned ns = (j.take f.store e x).2) :
    k.Same f'.store (k.replay f.store (f.takes m k)) ∧
      (warned ns).filter (·.keeper? = some k) = k.warnings f.store (f.takes m k) := by
  rw [store, told, filter_take]
  by_cases same : j = k
  · subst same
    simp [own, Keeper.Same.refl, Keeper.warnings_nil]
  · rw [takes_other fun mover' => same (Option.some.inj (mover.symm.trans mover')), if_neg same]
    exact ⟨Keeper.same_take_other (Ne.symm same) f.store e x, rfl⟩

theorem kept_of_still (nothing : f.takes m k = []) (store : f'.store = f.store)
    (told : ∀ w ∈ warned ns, w.keeper? = none) :
    k.Same f'.store (k.replay f.store (f.takes m k)) ∧
      (warned ns).filter (·.keeper? = some k) = k.warnings f.store (f.takes m k) := by
  rw [nothing, store]
  refine ⟨.refl k f.store, List.filter_eq_nil_iff.2 fun w hw => ?_⟩
  simp [told w hw]

theorem kept_of_deed (deed : Deed f m f' ns) (k : Keeper) :
    k.Same f'.store (k.replay f.store (f.takes m k)) ∧
      (warned ns).filter (·.keeper? = some k) = k.warnings f.store (f.takes m k) := by
  cases deed with
  | dispatch stepped =>
    refine kept_of_still (takes_other nofun) rfl ?_
    simpa using Bus.keeper?_of_step stepped
  | expire expired =>
    refine kept_of_still (takes_other nofun) rfl ?_
    simpa using Bus.keeper?_of_expire expired
  | read loop stepped =>
    exact kept_of_still (takes_eq_nil rfl (takes_devices loop stepped) k) rfl (List.forall_mem_nil _)
  | @apply i s _ _ _ e loop stepped =>
    exact kept_of_take (j := .devices) (x := s) rfl (takes_devices loop stepped) rfl (warned_warnings _)
  | @keep now _ e _ loop first =>
    refine kept_of_take (j := .pushInfos) (e := e) (x := ⟨"", now⟩) rfl ?_ rfl (warned_warnings _)
    rw [takes_pushInfos loop, first]
    rfl
  | @enqueue now _ e _ loop first =>
    refine kept_of_take (j := .queues) (e := e) (x := ⟨"", now⟩) rfl ?_ rfl (warned_warnings _)
    rw [takes_queues loop, first]
    rfl
  | audit listed first =>
    refine kept_of_still (takes_other nofun) rfl ?_
    simpa using Audit.keeper?_of_count f.audit _ _
  | wake first =>
    refine kept_of_still (takes_other nofun) rfl ?_
    simp [Warning.keeper?]
  | endDevices loop stopped drained stuck =>
    refine kept_of_still (takes_eq_nil rfl ?_ k) rfl (List.forall_mem_nil _)
    simp only [takes, loop, Option.bind_some, stuck]
  | endPushInfos loop stopped empty =>
    refine kept_of_still (takes_eq_nil rfl ?_ k) rfl (List.forall_mem_nil _)
    rw [takes_pushInfos loop, empty]
    rfl
  | endQueues loop stopped empty =>
    refine kept_of_still (takes_eq_nil rfl ?_ k) rfl (List.forall_mem_nil _)
    rw [takes_queues loop, empty]
    rfl

theorem kept_act (f : Fleet) (a : Act) (k : Keeper) :
    k.Same (a.perform f).1.store (k.replay f.store (a.takes f k)) ∧
      (warned (a.perform f).2).filter (·.keeper? = some k) = k.warnings f.store (a.takes f k) := by
  cases a with
  | publish topic payload =>
    refine ⟨.refl k f.store, List.filter_eq_nil_iff.2 fun w hw => ?_⟩
    have told : w ∈ (f.bus.publish topic payload).2 := by
      simpa [Act.perform, Fleet.publish] using hw
    simp [Bus.keeper?_of_publish _ _ _ w told]
  | shutdown => exact ⟨.refl k f.store, rfl⟩
  | move m =>
    cases made : f.perform m with
    | none =>
      simp only [Act.perform, Act.takes, made, takes_of_impossible made, Option.getD_none]
      exact ⟨.refl k f.store, rfl⟩
    | some o =>
      simp only [Act.perform, Act.takes, made, Option.getD_some]
      exact kept_of_deed (deed_of_perform made) k

/-! ### Runs -/

structure Course (store : Store) (h : Intake) : Prop where
  audits : ∀ x ∈ h.fleet.audits, 4 < x.1
  attends : ∀ k, h.fleet.Attends k (h.delivered k) ((h.taken k).map (·.1))
  stored : ∀ k : Keeper, k.Same h.fleet.store (k.replay store (h.taken k))
  warned : ∀ k, h.warnings k = k.warnings store (h.taken k)

variable {store : Store} {h : Intake}

theorem audits_act (f : Fleet) (a : Act) : (a.perform f).1.audits = f.audits := by
  cases a with
  | publish | shutdown => rfl
  | move m =>
    cases made : f.perform m with
    | none => simp [Act.perform, made]
    | some o => simpa [Act.perform, made] using (deed_of_perform made).audits

theorem attends_act {delivered taken : List Event} (h : f.Attends k delivered taken)
    (readers : ∀ j m, f.reader? j = some m → Feed.ids m.feeds = j.subs)
    (audits : ∀ x ∈ f.audits, 4 < x.1) (a : Act) :
    (a.perform f).1.Attends k (delivered ++ Bus.arrivals k.subs f.bus (a.perform f).1.bus)
      (taken ++ (a.takes f k).map (·.1)) := by
  cases a with
  | publish topic payload =>
    simp only [Act.takes, List.map_nil, List.append_nil]
    exact h.change (by cases k <;> rfl) (.publish topic payload)
  | shutdown =>
    simp only [Act.takes, List.map_nil, List.append_nil]
    exact h.change (by cases k <;> rfl) .shutdown
  | move m =>
    cases made : f.perform m with
    | none =>
      simp only [Act.perform, Act.takes, made, takes_of_impossible made, Option.getD_none, List.map_nil,
        List.append_nil]
      exact h.other rfl (.inl rfl)
    | some o =>
      simp only [Act.perform, Act.takes, made, Option.getD_some]
      exact attends_move h readers audits (deed_of_perform made)

theorem course_act (c : Course store h) (a : Act) : Course store (h.act a) where
  audits := by
    rw [show (h.act a).fleet.audits = _ from audits_act h.fleet a]
    exact c.audits
  attends k := by
    have readers : ∀ j m, h.fleet.reader? j = some m → Feed.ids m.feeds = j.subs :=
      fun j m => (c.attends j).ids
    rw [show (h.act a).taken k = h.taken k ++ a.takes h.fleet k from rfl, List.map_append]
    exact attends_act (c.attends k) readers c.audits a
  stored k := by
    rw [show (h.act a).taken k = h.taken k ++ a.takes h.fleet k from rfl, Keeper.replay_append]
    exact (kept_act h.fleet a k).1.trans (Keeper.replay_same (c.stored k) _).1
  warned k := by
    rw [show (h.act a).taken k = h.taken k ++ a.takes h.fleet k from rfl, Keeper.warnings_append,
      ← c.warned k, ← Keeper.warnings_same (c.stored k), ← (kept_act h.fleet a k).2]
    simp [warnings, act]

theorem course_run (c : Course store h) (acts : List Act) : Course store (run acts h) := by
  induction acts generalizing h with
  | nil => exact c
  | cons a acts ih => exact ih (course_act c a)

theorem course_start (store : Store) (config : BusConfig) (waker : Waker) (delay : Nat) :
    Course store (start store config waker delay) := by
  rw [start, startAll_new]
  refine ⟨?_, attends_started store config waker delay, fun k => .refl k store, fun _ => rfl⟩
  simp [started]

/-- Left to itself, a keeper comes to rest. -/
theorem exists_rests (h : Intake) (k : Keeper) : ∃ moves : List (Nat × Stamp),
    (run (moves.map fun x => .move (k.move x.1 x.2)) h).fleet.Rests k := by
  by_cases rests : h.fleet.Rests k
  · exact ⟨[], rests⟩
  · obtain ⟨i, s, made⟩ : ∃ i s, h.fleet.perform (k.move i s) ≠ none := by
      simpa [Rests] using rests
    obtain ⟨o, made⟩ := Option.ne_none_iff_exists'.1 made
    have less : (h.act (.move (k.move i s))).fleet.load.Less h.fleet.load := by
      simpa [act, Act.perform, made] using perform_lt made
    obtain ⟨moves, last⟩ := exists_rests (h.act (.move (k.move i s))) k
    exact ⟨(i, s) :: moves, last⟩
termination_by h.fleet.load
decreasing_by exact less

/-- In every run, whatever is published and in whatever order the dispatcher and the consumers move:
a keeper is at work until the bus stops. Left to itself it comes to rest, and at rest it has taken every
event that was delivered to it, in the order of delivery. It warns once of each event that it cannot read
or apply, and of no other. Its part of the store is the one to which the other events alone lead, and
every run in which it takes just these, with the same stamps, ends with the same part and without a
warning of the keeper. -/
theorem undisturbed (store : Store) (config : BusConfig) (waker : Waker) (delay : Nat)
    (acts : List Act) (k : Keeper) :
    let h := run acts (start store config waker delay)
    ((h.fleet.reader? k = none → h.fleet.bus.stopped = true) ∧
      (h.fleet.Rests k → (h.taken k).map (·.1) = h.delivered k) ∧
      ∃ moves : List (Nat × Stamp),
        (run (moves.map fun x => .move (k.move x.1 x.2)) h).fleet.Rests k) ∧
    (h.warnings k = k.warnings store (h.taken k) ∧
      (h.warnings k).length + (k.useful store (h.taken k)).length = (h.taken k).length ∧
      ∀ s e x error, k.fault? s e x = some error ↔ Keeper.Flaw s e k error) ∧
    k.Same h.fleet.store (k.replay store (k.useful store (h.taken k))) ∧
    ∀ config' waker' delay' acts', let h' := run acts' (start store config' waker' delay')
      Keeper.contents (h'.taken k) = Keeper.contents (k.useful store (h.taken k)) →
        k.Same h'.fleet.store h.fleet.store ∧ h'.warnings k = [] := by
  intro h
  have course := course_run (course_start store config waker delay) acts
  have stored : k.Same h.fleet.store (k.replay store (k.useful store (h.taken k))) := by
    rw [(Keeper.judged_useful k store (h.taken k)).1]
    exact course.stored k
  refine ⟨⟨(course.attends k).stopped, (course.attends k).all_taken, exists_rests h k⟩,
    ⟨course.warned k, ?_, fun s e x error => Keeper.fault?_eq_some_iff⟩, stored, ?_⟩
  · rw [course.warned k]
    exact Keeper.length_warnings k store (h.taken k)
  · intro config' waker' delay' acts' h' same
    have course' := course_run (course_start store config' waker' delay') acts'
    obtain ⟨replayed, warned⟩ := Keeper.replay_congr same k store
    constructor
    · refine .trans (course'.stored k) ?_
      rw [replayed]
      exact stored.symm
    · rw [course'.warned k, warned, Keeper.warnings_useful]

theorem rests_of_ended {f : Fleet} (ended : f.reader? .devices = none) : f.Rests .devices := by
  have loop : f.devices.loop = none := ended
  intro i s
  simp [Keeper.move, perform, moveDevices, loop]

/-- The keeper of the device records takes four events, of which one is unreadable and one is the
departure of a device that is not known, and ends with the bus. Another fleet takes the other two. -/
theorem undisturbed_until_end :
    ∃ acts acts' h h', run acts (start .empty ⟨4, .block, 5⟩ (fun _ _ => ⟨none, .ok ""⟩) 0) = h ∧
      run acts' (start .empty ⟨4, .block, 5⟩ (fun _ _ => ⟨none, .ok ""⟩) 0) = h' ∧
      (h.fleet.reader? .devices = none ∧ h.fleet.bus.stopped = true) ∧
      (h.fleet.Rests .devices ∧ (h.taken .devices).map (·.1) = h.delivered .devices) ∧
      (h.delivered .devices).length = 4 ∧ (h.warnings .devices).length = 2 ∧
      Keeper.contents (h'.taken .devices) =
        Keeper.contents (Keeper.devices.useful .empty (h.taken .devices)) ∧
      Keeper.devices.Same h'.fleet.store h.fleet.store ∧ h'.warnings .devices = [] := by
  let s : Stamp := ⟨"id", .ofNanos 0⟩
  let sent (m : Checkin) : Act := .publish m.topic.name (CheckinEvent.schema.encode ⟨s.id, s.now, m⟩)
  let joins : Act := sent (.authenticate ⟨"D", "", "S", "", "", "", "", "", "", ""⟩)
  let leaves (udid : String) : Act := sent (.checkOut ⟨udid, ""⟩)
  -- Three turns of the dispatcher for an event, and five steps of the keeper.
  let moves : List Act := List.replicate 13 (.move .dispatch) ++ List.replicate 21 (.move (.devices 2 s))
  let acts : List Act :=
    [.publish Topic.checkOut.name [255], joins, leaves "E", leaves "D", .shutdown] ++ moves
  let acts' : List Act := [joins, leaves "D"] ++ moves
  obtain ⟨h, made⟩ : ∃ h, run acts (start .empty ⟨4, .block, 5⟩ (fun _ _ => ⟨none, .ok ""⟩) 0) = h :=
    ⟨_, rfl⟩
  obtain ⟨h', made'⟩ : ∃ h, run acts' (start .empty ⟨4, .block, 5⟩ (fun _ _ => ⟨none, .ok ""⟩) 0) = h :=
    ⟨_, rfl⟩
  have facts : h.fleet.reader? .devices = none ∧ (h.delivered .devices).length = 4 ∧
      (h.warnings .devices).length = 2 ∧ Keeper.contents (h'.taken .devices) =
        Keeper.contents (Keeper.devices.useful .empty (h.taken .devices)) := by
    rw [← made, ← made', start, startAll_new]
    decide +kernel
  obtain ⟨ended, delivered, warned, same⟩ := facts
  have rests := rests_of_ended ended
  obtain ⟨⟨stops, takes, -⟩, -, -, alike⟩ :=
    undisturbed .empty ⟨4, .block, 5⟩ (fun _ _ => ⟨none, .ok ""⟩) 0 acts .devices
  have alike := alike ⟨4, .block, 5⟩ (fun _ _ => ⟨none, .ok ""⟩) 0 acts'
  rw [made] at stops takes alike
  rw [made'] at alike
  exact ⟨acts, acts', h, h', made, made', ⟨ended, stops ended⟩, ⟨rests, takes rests⟩, delivered, warned,
    same, alike same⟩

end Intake

end DeviceFleet
