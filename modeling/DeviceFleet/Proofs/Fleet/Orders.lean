import DeviceFleet.Proofs.Bus.Collects
import DeviceFleet.Proofs.Fleet.Moves
import DeviceFleet.Proofs.Fleet.Start
import DeviceFleet.Proofs.Message.CommandEvent
import DeviceFleet.Proofs.Queue.Fifo
import DeviceFleet.Proofs.Runs
import DeviceFleet.Proofs.Service.Enrolment

/-! Commands on their way from the operator to the queue of their device. New commands, exchanges,
clearings of queues, check-ins and the moves of the dispatcher and the consumers come in any order.
At every moment a command that was made for a device has been removed from its queue, is pending in
it, or waits on the bus, and in this order the commands are those that were made. -/

namespace DeviceFleet

/-- A fleet at work, with the commands that it has made, each with its device, and the exchanges and
clearings of queues so far. -/
structure Orders where
  fleet : Fleet
  made : List (String × Command)
  steps : List Delivery.Step

namespace Orders

open Fleet

inductive Act where
  /-- A command is wished for; it is made under the identifier `uuid`. -/
  | newCommand (r : CommandRequest) (uuid : String) (s : Stamp)
  | acknowledge (r : Response) (s : Stamp)
  | clear (udid : String)
  | checkin (m : Checkin) (s : Stamp)
  | move (m : Move)

def act (h : Orders) : Act → Option Orders
  | .newCommand r uuid s => some { h with
      fleet := (h.fleet.newCommand r uuid s).1.1
      made := h.made ++ ((h.fleet.newCommand r uuid s).2.toOption.map (r.udid, ·)).toList }
  | .acknowledge r s => some { h with
      fleet := (h.fleet.acknowledge r s).1.1
      steps := h.steps ++ [Delivery.step h.fleet.delay h.fleet.store (.acknowledge r s.now)] }
  | .clear udid => some { h with
      fleet := (h.fleet.clear udid).1.1
      steps := h.steps ++ [Delivery.step h.fleet.delay h.fleet.store (.clear udid)] }
  | .checkin m s => some { h with fleet := (h.fleet.checkin m s).1.1 }
  | .move m => (h.fleet.perform m).map fun (f, _) => { h with fleet := f }

/-- The lengths of envelopes are those of octet strings in memory. -/
def Act.Sized : Act → Prop
  | newCommand r uuid s =>
    Words.Fits (CommandEvent.schema.encode ⟨s.id, s.now, r.udid, ⟨uuid, r.payload⟩⟩)
  | _ => True

instance : DecidablePred Act.Sized
  | .newCommand r uuid s => inferInstanceAs
      (Decidable (Words.Fits (CommandEvent.schema.encode ⟨s.id, s.now, r.udid, ⟨uuid, r.payload⟩⟩)))
  | .acknowledge _ _ | .clear _ | .checkin _ _ | .move _ => inferInstanceAs (Decidable True)

def start (store : Store) (config : BusConfig) (waker : Waker) (delay : Nat) : Orders :=
  ⟨(Fleet.new store config waker delay).startAll.1.1, [], []⟩

def forDevice (udid : String) (ps : List (String × Command)) : List Command :=
  (ps.filter fun p => decide (p.1 = udid)).map (·.2)

def ordered (content : String × Bytes) : Option (String × Command) :=
  (CommandEvent.schema.decode content.2).toOption.map fun e => (e.udid, e.command)

/-- The commands for a device that wait on the bus: first those in the queue of their keeper, then
the one that is being offered to it, then those in the inbox. -/
def waiting (h : Orders) (udid : String) : List Command :=
  forDevice udid ((h.fleet.queues.loop.toList.flatMap fun id =>
    h.fleet.bus.untaken id Topic.command.name).filterMap ordered)

structure Distinct (ps : List (String × Command)) : Prop where
  named : ∀ p ∈ ps, p.2.uuid ≠ ""
  nodup : (ps.map fun p => p.2.uuid).Nodup

theorem Distinct.sublist {ps qs : List (String × Command)} (h : Distinct qs) (part : ps.Sublist qs) :
    Distinct ps where
  named p hp := h.named p (part.subset hp)
  nodup := h.nodup.sublist (part.map _)

theorem forDevice_append (udid : String) (ps qs : List (String × Command)) :
    forDevice udid (ps ++ qs) = forDevice udid ps ++ forDevice udid qs := by
  simp [forDevice]

theorem forDevice_single (udid : String) (p : String × Command) :
    forDevice udid [p] = if p.1 = udid then [p.2] else [] := by
  rw [forDevice, List.filter_singleton]
  by_cases own : p.1 = udid <;> simp [own]

/-! ### Commands at the queues -/

theorem holds_congr {s t : Store} {udid : String} {cs : List Command} (same : t.queues = s.queues)
    (h : Delivery.Holds s udid cs) : Delivery.Holds t udid cs := by
  obtain ⟨q, found, rest⟩ := h
  exact ⟨q, (Store.queue_congr (by rw [same])).trans found, rest⟩

/-- The keeper of the queues enqueues the command that an event brings. -/
theorem takeCommand_eq (delay : Nat) (s : Store) {e : Event} (now : Instant) {p : String × Command}
    (h : ordered e.content = some p) :
    (Delivery.takeCommand s e now).1 = (Delivery.perform delay s (.enqueue p.1 p.2 now)).1 := by
  rw [ordered, Event.content] at h
  rw [Delivery.takeCommand, Delivery.onQueues, Delivery.perform]
  cases decoded : CommandEvent.schema.decode e.payload with
  | error error =>
    rw [decoded] at h
    cases h
  | ok c =>
    rw [decoded] at h
    cases h
    simp only [bind, Except.bind]
    cases Delivery.enqueue s c.udid c.command now <;> rfl

theorem uuids_of_stands {ds : List QueuedCommand} {cs : List Command}
    (h : List.Forall₂ Delivery.Stands ds cs) : ds.map (·.uuid) = cs.map (·.uuid) := by
  induction h with
  | nil => rfl
  | cons first _ ih => rw [List.map_cons, List.map_cons, first.1, ih]

/-- A command with an identifier of its own goes to the end of the queue of its device. -/
theorem holds_enqueue (delay : Nat) {s : Store} {p : String × Command} (now : Instant)
    (device : p.1 ≠ "") (named : p.2.uuid ≠ "") {cs₀ : List Command} (own : Delivery.Holds s p.1 cs₀)
    (fresh : ∀ c ∈ cs₀, c.uuid ≠ p.2.uuid) {udid : String} {cs : List Command}
    (h : Delivery.Holds s udid cs) :
    Delivery.Holds (Delivery.perform delay s (.enqueue p.1 p.2 now)).1 udid
      (cs ++ forDevice udid [p]) := by
  obtain ⟨q, found, -, stands⟩ := own
  have unused : q.commands.any (·.uuid = p.2.uuid) = false := by
    rw [List.any_eq_false]
    intro d hd same
    have member : d.uuid ∈ cs₀.map (·.uuid) := uuids_of_stands stands ▸ List.mem_map_of_mem hd
    obtain ⟨c, hc, equal⟩ := List.mem_map.1 member
    exact fresh c hc (equal.trans (of_decide_eq_true same))
  have done := Delivery.perform_enqueue delay now device found unused
  obtain ⟨cs', holds, moved, -⟩ := Delivery.holds_step delay h (.enqueue p.1 p.2 now)
    fun v c t same => by cases same; exact named
  simp only [Delivery.step, Delivery.Step.enqueued, Delivery.Step.removed, done, List.nil_append]
    at holds moved
  rw [forDevice_single, done, moved]
  exact holds

/-! ### The invariant of a run -/

/-- How the commands that were made stand, when `published` were published on the bus and the keeper
of the queues has taken `taken`. -/
structure Course (h : Orders) (published : List (String × Bytes)) (taken : List Event) : Prop where
  queues : h.fleet.queues.loop = some 4
  devices : ∀ m, h.fleet.devices.loop = some m → 4 ∉ Feed.ids m.feeds
  pushInfos : ∀ id, h.fleet.pushInfos.loop = some id → id ≠ 4
  audits : ∀ x ∈ h.fleet.audits, x.1 ≠ 4
  collects : h.fleet.bus.Collects 4 Topic.command.name published taken
  sent : (published.filter fun p => decide (p.1 = Topic.command.name)).map ordered = h.made.map some
  addressed : ∀ p ∈ h.made, p.1 ≠ ""
  queued : h.fleet.bus.lostOf 4 = 0 → Distinct h.made → ∀ udid, ∃ cs,
    Delivery.Holds h.fleet.store udid cs ∧
      forDevice udid (h.made.take taken.length) = h.steps.flatMap (·.removed udid) ++ cs

variable {store : Store} {config : BusConfig} {waker : Waker} {delay : Nat} {h h' : Orders}
  {published : List (String × Bytes)} {taken : List Event}

theorem start_eq (store : Store) (config : BusConfig) (waker : Waker) (delay : Nat) :
    start store config waker delay = ⟨started store config waker delay, [], []⟩ := by
  rw [start, startAll_new]

theorem course_start (empty : ∀ udid, store.queue udid = .ok .empty) (config : BusConfig)
    (waker : Waker) (delay : Nat) : Course (start store config waker delay) [] [] := by
  rw [start_eq]
  constructor
  · rfl
  · intro m same
    cases same
    decide
  · intro id same
    cases same
    decide
  · intro x hx
    have each : x = (5, .commands) ∨ x = (6, .connects) := by
      simpa [Fleet.started] using hx
    rcases each with rfl | rfl <;> decide
  · refine ⟨Bus.sound_of_leads (leads_started store config waker delay []),
      ⟨rfl, List.not_mem_nil⟩, ⟨fun p hp => ?_, fun _ => rfl⟩⟩
    rw [List.mem_singleton.1 hp]
    exact ⟨_, rfl, rfl, rfl⟩
  · rfl
  · exact List.forall_mem_nil _
  · exact fun _ _ udid => ⟨[], ⟨.empty, empty udid, DeviceQueue.marked_empty, .nil⟩, rfl⟩

namespace Course

/-- What has not been taken are the events of the other commands. -/
theorem untaken (c : Course h published taken) (lossless : h.fleet.bus.lostOf 4 = 0) :
    (h.fleet.bus.untaken 4 Topic.command.name).map ordered =
      (h.made.drop taken.length).map some := by
  have all := c.sent
  rw [c.collects.accounts lossless, List.map_append, List.map_map] at all
  rw [List.map_drop, ← all, List.drop_left' (by simp)]

theorem length_le (c : Course h published taken) (lossless : h.fleet.bus.lostOf 4 = 0) :
    taken.length ≤ h.made.length := by
  have all := congrArg List.length c.sent
  rw [c.collects.accounts lossless] at all
  simp only [List.map_append, List.length_append, List.length_map] at all
  omega

/-! ### Requests -/

theorem publish_other (c : Course h published taken) {topic : String}
    (other : topic ≠ Topic.command.name) (payload : Bytes) :
    Course { h with fleet := { h.fleet with bus := (h.fleet.bus.publish topic payload).1 } }
      (published ++ [(topic, payload)]) taken := by
  refine { c with
    collects := c.collects.publish topic payload
    sent := ?_
    queued := fun lossless => c.queued (c.collects.lossless ?_ lossless) }
  · rw [List.filter_append, List.filter_cons_of_neg (by simpa using other), List.filter_nil,
      List.append_nil]
    exact c.sent
  · exact Bus.stays_of_eq (Bus.find?_publish topic payload)

theorem order (c : Course h published taken) {p : String × Command} (addressed : p.1 ≠ "")
    {payload : Bytes} (brings : ordered (Topic.command.name, payload) = some p) :
    Course { h with
      fleet := { h.fleet with bus := (h.fleet.bus.publish Topic.command.name payload).1 }
      made := h.made ++ [p] } (published ++ [(Topic.command.name, payload)]) taken := by
  refine { c with
    collects := c.collects.publish Topic.command.name payload
    sent := ?_
    addressed := ?_
    queued := fun lossless distinct udid => ?_ }
  · rw [List.filter_append, List.filter_cons_of_pos (by simp), List.filter_nil, List.map_append,
      c.sent, List.map_append, List.map_singleton, List.map_singleton, brings]
  · intro q hq
    rcases List.mem_append.1 hq with hq | hq
    · exact c.addressed q hq
    · exact List.mem_singleton.1 hq ▸ addressed
  · have before := c.collects.lossless
      (Bus.stays_of_eq (Bus.find?_publish Topic.command.name payload)) lossless
    rw [List.take_append_of_le_length (c.length_le before)]
    exact c.queued before (distinct.sublist (List.sublist_append_left _ _)) udid

theorem request (c : Course h published taken) (i : Delivery.Request)
    (other : ∀ v x now, i ≠ .enqueue v x now) :
    Course { h with
      fleet := { h.fleet with store := (Delivery.perform h.fleet.delay h.fleet.store i).1 }
      steps := h.steps ++ [Delivery.step h.fleet.delay h.fleet.store i] } published taken := by
  refine { c with queued := fun lossless distinct udid => ?_ }
  obtain ⟨cs, holds, all⟩ := c.queued lossless distinct udid
  obtain ⟨cs', holds', moved, -⟩ := Delivery.holds_step h.fleet.delay holds i
    fun v x now same => absurd same (other v x now)
  have none_new : (Delivery.step h.fleet.delay h.fleet.store i).enqueued udid = [] := by
    cases i with
    | enqueue v x now => exact absurd rfl (other v x now)
    | acknowledge => rfl
    | clear => rfl
  rw [none_new, List.append_nil] at moved
  refine ⟨cs', holds', ?_⟩
  rw [all, moved, List.flatMap_append, List.flatMap_singleton, List.append_assoc]

/-! ### Moves -/

theorem turn (c : Course h published taken) {b : Bus} (turn : Bus.Turn h.fleet.bus b) :
    Course { h with fleet := { h.fleet with bus := b } } published taken :=
  { c with
    collects := c.collects.turn turn
    queued := fun lossless =>
      c.queued (c.collects.lossless (Bus.stays_turn c.collects.sound turn) lossless) }

/-- The event that the keeper of the queues takes brings the next of the commands. -/
theorem next (c : Course h published taken) (lossless : h.fleet.bus.lostOf 4 = 0) {e : Event} {b : Bus}
    (took : h.fleet.bus.take? 4 = some (e, b)) :
    ∃ p, ordered e.content = some p ∧
      h.made.take (taken ++ [e]).length = h.made.take taken.length ++ [p] := by
  have rest := c.untaken lossless
  rw [Bus.untaken, (Bus.queueOf_take took).1, List.map_cons, List.cons_append, List.map_cons] at rest
  obtain ⟨p, ps, left, first, -⟩ := List.map_eq_cons_iff.1 rest.symm
  have here : h.made[taken.length]? = some p := by
    have head : (h.made.drop taken.length)[0]? = h.made[taken.length + 0]? := List.getElem?_drop
    rw [left] at head
    exact head.symm
  refine ⟨p, first.symm, ?_⟩
  rw [List.length_append, List.length_singleton, List.take_add_one, here]
  rfl

/-- The keeper of the queues takes an event and enqueues its command. -/
theorem take (c : Course h published taken) {e : Event} {b : Bus} (now : Instant)
    (took : h.fleet.bus.take? 4 = some (e, b)) (wakes : List String) :
    Course { h with fleet := { h.fleet with
      bus := b
      store := (Delivery.takeCommand h.fleet.store e now).1
      wakes } } published (taken ++ [e]) := by
  refine { c with collects := c.collects.take took, queued := fun lossless distinct udid => ?_ }
  have before := c.collects.lossless (Bus.stays_take took) lossless
  obtain ⟨p, brings, next⟩ := c.next before took
  have part : (h.made.take taken.length ++ [p]).Sublist h.made := next ▸ List.take_sublist _ _
  have member : p ∈ h.made := part.subset (List.mem_append_right _ List.mem_cons_self)
  obtain ⟨cs₀, own, all₀⟩ := c.queued before distinct p.1
  -- What is pending for the device was made earlier, under other identifiers.
  have fresh : ∀ x ∈ cs₀, x.uuid ≠ p.2.uuid := by
    intro x hx same
    have earlier : x ∈ forDevice p.1 (h.made.take taken.length) := all₀ ▸ List.mem_append_right _ hx
    obtain ⟨q, hq, rfl⟩ := List.mem_map.1 earlier
    have nodup := (distinct.sublist part).nodup
    rw [List.map_append] at nodup
    exact (List.nodup_append.1 nodup).2.2 _ (List.mem_map_of_mem (List.mem_filter.1 hq).1) _
      List.mem_cons_self same
  obtain ⟨cs, holds, all⟩ := c.queued before distinct udid
  refine ⟨cs ++ forDevice udid [p], ?_, ?_⟩
  · show Delivery.Holds (Delivery.takeCommand h.fleet.store e now).1 _ _
    rw [takeCommand_eq h.fleet.delay h.fleet.store now brings]
    exact holds_enqueue h.fleet.delay now (c.addressed p member) (distinct.named p member) own fresh
      holds
  · show forDevice udid (h.made.take (taken ++ [e]).length) = _
    rw [next, forDevice_append, all, List.append_assoc]

/-- Another consumer takes an event and leaves the queues of the store as they are. -/
theorem aside (c : Course h published taken) {id : Nat} {e : Event} {b : Bus} (other : id ≠ 4)
    (took : h.fleet.bus.take? id = some (e, b)) {t : Store} (same : t.queues = h.fleet.store.queues) :
    Course { h with fleet := { h.fleet with bus := b, store := t } } published taken := by
  refine { c with collects := c.collects.other other took, queued := fun lossless distinct udid => ?_ }
  have before := c.collects.lossless (Bus.stays_take took) lossless
  obtain ⟨cs, holds, all⟩ := c.queued before distinct udid
  exact ⟨cs, holds_congr same holds, all⟩

theorem read (c : Course h published taken) {m m' : Merge} {b : Bus} {out : Option Event}
    (loop : h.fleet.devices.loop = some m) (turn : Merge.Turn h.fleet.bus m m' b out) (started : Bool)
    {t : Store} (same : t.queues = h.fleet.store.queues) :
    Course { h with fleet := { h.fleet with bus := b, store := t, devices := ⟨started, some m'⟩ } }
      published taken := by
  have apart := c.devices m loop
  have kept : ∀ m₂, some m' = some m₂ → 4 ∉ Feed.ids m₂.feeds := by
    intro m₂ eq
    cases eq
    rw [turn.ids]
    exact apart
  rcases turn.bus with rfl | ⟨id, own, e, took⟩
  · refine { c with devices := kept, queued := fun lossless distinct udid => ?_ }
    obtain ⟨cs, holds, all⟩ := c.queued lossless distinct udid
    exact ⟨cs, holds_congr same holds, all⟩
  · have other : id ≠ 4 := fun eq => apart (eq ▸ own)
    exact { c.aside other took same with devices := kept }

theorem work (c : Course h published taken) {f : Fleet} {stamps : List Stamp} {times : List Instant}
    (work : Work h.fleet f stamps times) :
    ∃ taken', Course { h with fleet := f } published taken' := by
  cases work with
  | bus running turn => exact ⟨taken, c.turn turn⟩
  | read loop turn => exact ⟨taken, c.read loop turn _ rfl⟩
  | apply stamp loop turn =>
    exact ⟨taken, c.read loop turn _ (Enrolment.queues_takeDevice _ _ stamp.id stamp.now)⟩
  | @keep id e b now loop took =>
    exact ⟨taken, c.aside (c.pushInfos id loop) took (Enrolment.queues_takePushInfo _ e now)⟩
  | @enqueue id e b now loop took =>
    cases c.queues.symm.trans loop
    exact ⟨taken ++ [e], c.take now took _⟩
  | @audit id subject e b listed took =>
    exact ⟨taken, { c.aside (c.audits _ listed) took rfl with }⟩
  | wake wakes => exact ⟨taken, { c with }⟩
  | stop stopped =>
    rw [c.collects.unclosed.running] at stopped
    cases stopped

end Course

/-! ### Runs -/

theorem acknowledge_eq (f : Fleet) (r : Response) (s : Stamp) :
    ∃ b, (b = f.bus ∨ ∃ payload, b = (f.bus.publish Topic.connect.name payload).1) ∧
      (f.acknowledge r s).1.1 = { f with
        bus := b
        store := (Delivery.perform f.delay f.store (.acknowledge r s.now)).1 } := by
  rw [Fleet.acknowledge, Delivery.perform]
  obtain ⟨answer, ws⟩ := Delivery.acknowledge f.store r s.now f.delay
  cases answer with
  | error e => exact ⟨f.bus, .inl rfl, rfl⟩
  | ok p => exact ⟨_, .inr ⟨_, rfl⟩, rfl⟩

theorem clear_eq (f : Fleet) (udid : String) : (f.clear udid).1.1 =
    { f with store := (Delivery.perform f.delay f.store (.clear udid)).1 } := by
  rw [Fleet.clear, Delivery.perform]
  cases Delivery.clear f.store udid <;> rfl

/-- A check-in is published on its topic, or refused. -/
theorem checkin_eq (f : Fleet) (m : Checkin) (s : Stamp) : (f.checkin m s).1.1 = f ∨
    ∃ payload, (f.checkin m s).1.1 = { f with bus := (f.bus.publish m.topic.name payload).1 } := by
  rw [Fleet.checkin]
  split
  · exact .inl rfl
  · exact .inr ⟨_, rfl⟩

/-- A wish is refused and changes nothing, or its command is made and published. -/
theorem newCommand_eq (f : Fleet) (r : CommandRequest) (uuid : String) (s : Stamp) :
    (∃ e, f.newCommand r uuid s = ((f, []), .error e)) ∨
      r.udid ≠ "" ∧ f.newCommand r uuid s = (f.publish Topic.command.name
        (CommandEvent.schema.encode ⟨s.id, s.now, r.udid, ⟨uuid, r.payload⟩⟩), .ok ⟨uuid, r.payload⟩) := by
  rw [Fleet.newCommand]
  split
  · exact .inl ⟨_, rfl⟩
  · rename_i addressed
    split
    · exact .inl ⟨_, rfl⟩
    · exact .inr ⟨addressed, rfl⟩

theorem course_act (c : Course h published taken) {a : Act} (sized : a.Sized)
    (done : h.act a = some h') : ∃ published' taken', Course h' published' taken' := by
  cases a with
  | newCommand r uuid s =>
    cases done
    rcases newCommand_eq h.fleet r uuid s with ⟨e, refused⟩ | ⟨addressed, made⟩
    · have none_made : h.made ++ ((Except.error e : Except Error Command).toOption.map
          (r.udid, ·)).toList = h.made := List.append_nil _
      rw [refused, none_made]
      exact ⟨published, taken, c⟩
    · rw [made]
      refine ⟨_, taken, c.order (p := (r.udid, ⟨uuid, r.payload⟩)) addressed ?_⟩
      rw [ordered, CommandEvent.decode_encode sized]
      rfl
  | acknowledge r s =>
    cases done
    obtain ⟨b, answered, eq⟩ := acknowledge_eq h.fleet r s
    have c' := c.request (.acknowledge r s.now) fun _ _ _ same => by cases same
    rw [eq]
    rcases answered with rfl | ⟨payload, rfl⟩
    · exact ⟨published, taken, c'⟩
    · exact ⟨_, taken, c'.publish_other (by decide) payload⟩
  | clear udid =>
    cases done
    rw [clear_eq]
    exact ⟨published, taken, c.request (.clear udid) fun _ _ _ same => by cases same⟩
  | checkin m s =>
    cases done
    rcases checkin_eq h.fleet m s with refused | ⟨payload, published⟩
    · rw [refused]
      exact ⟨_, _, c⟩
    · rw [published]
      have other : m.topic.name ≠ Topic.command.name := by
        cases m <;> simp [Checkin.topic, Topic.name]
      exact ⟨_, taken, c.publish_other other payload⟩
  | move m =>
    obtain ⟨⟨f, ns⟩, moved, rfl⟩ := Option.map_eq_some_iff.1 done
    obtain ⟨taken', c'⟩ := c.work (work_of_perform moved)
    exact ⟨published, taken', c'⟩

theorem course_run {acts : List Act} (sized : ∀ a ∈ acts, a.Sized) (c : Course h published taken)
    (done : acts.foldlM act h = some h') : ∃ published' taken', Course h' published' taken' :=
  Runs.keeps (P := fun h => ∃ published taken, Course h published taken) done ⟨_, _, c⟩
    fun a ha _ _ first ⟨_, _, c⟩ => course_act c (sized a ha) first

end Orders

end DeviceFleet
