import DeviceFleet.Proofs.Fleet.Orders
import DeviceFleet.Proofs.Message.Envelopes

/-! What the audit counts. Operators wish for commands, devices answer, and anyone may publish
anything; between these the dispatcher and the consumers move in any order. Once the audit has no more
to take, and if it has lost nothing, it has counted each new command, each exchange and each event of
another origin that it can read, and apart from these each one that it cannot. -/

namespace DeviceFleet

/-! ### What the audit makes of a payload -/

namespace Audit

def Subject.topic : Subject → Topic
  | commands => .command
  | connects => .connect

/-- The subscription to that topic in a fleet that was started as a whole. -/
def Subject.subscription : Subject → Nat
  | commands => 5
  | connects => 6

def Subject.reads : Subject → Bytes → Bool
  | commands, payload => (CommandEvent.schema.decode payload).toBool
  | connects, payload => (ConnectEvent.schema.decode payload).toBool

def Subject.readable (x : Subject) (ps : List (String × Bytes)) : Nat :=
  (ps.filter fun p => decide (p.1 = x.topic.name)).countP fun p => x.reads p.2

def Subject.unreadable (x : Subject) (ps : List (String × Bytes)) : Nat :=
  (ps.filter fun p => decide (p.1 = x.topic.name)).countP fun p => !x.reads p.2

def counted (a : Audit) : Subject → Nat
  | .commands => a.commands
  | .connects => a.connects

variable {x y : Subject} {ps qs : List (String × Bytes)}

@[simp] theorem Subject.readable_append : x.readable (ps ++ qs) = x.readable ps + x.readable qs := by
  simp [readable]

@[simp] theorem Subject.unreadable_append :
    x.unreadable (ps ++ qs) = x.unreadable ps + x.unreadable qs := by
  simp [unreadable]

theorem Subject.none_of_other {topic : String} (other : topic ≠ x.topic.name) (payload : Bytes) :
    x.readable [(topic, payload)] = 0 ∧ x.unreadable [(topic, payload)] = 0 := by
  simp [readable, unreadable, other]

/-- An event on the topic that can be read is one, and there is none that cannot. -/
theorem Subject.one_of_reads {payload : Bytes} (h : x.reads payload = true) :
    x.readable [(x.topic.name, payload)] = 1 ∧ x.unreadable [(x.topic.name, payload)] = 0 := by
  simp [readable, unreadable, h]

theorem Subject.topic_ne (other : x ≠ y) : x.topic.name ≠ y.topic.name := by
  cases x <;> cases y <;> simp_all [topic, Topic.name]

/-- An event adds to the count of its subject or to that of the unreadable ones. -/
theorem counts_count (a : Audit) (e : Event) (x : Subject) :
    (∀ y, (a.count e x).1.counted y =
      a.counted y + if y = x ∧ x.reads e.payload = true then 1 else 0) ∧
    (a.count e x).1.undecodable = a.undecodable + if x.reads e.payload = true then 0 else 1 := by
  cases x with
  | commands =>
    cases read : CommandEvent.schema.decode e.payload <;>
      simp only [count, onCommand, reject, Subject.reads, read, Except.toBool] <;>
      exact ⟨fun y => by cases y <;> rfl, rfl⟩
  | connects =>
    cases read : ConnectEvent.schema.decode e.payload <;>
      simp only [count, onConnect, reject, Subject.reads, read, Except.toBool] <;>
      exact ⟨fun y => by cases y <;> rfl, rfl⟩

end Audit

open Audit (Subject)

/-- A fleet at work, with the commands that were made, the answers to responses that were taken, and
the events that came from elsewhere. -/
structure Audited where
  fleet : Fleet
  made : List Command
  answered : List (Option Bytes)
  raw : List (String × Bytes)

namespace Audited

open Fleet

inductive Act where
  /-- A command is wished for; it is made under the identifier `uuid`. -/
  | newCommand (r : CommandRequest) (uuid : String) (s : Stamp)
  | acknowledge (r : Response) (s : Stamp)
  | connect (body : Bytes) (s : Stamp)
  /-- An event comes from elsewhere. -/
  | publish (topic : String) (payload : Bytes)
  | checkin (m : Checkin) (s : Stamp)
  | clear (udid : String)
  | move (m : Move)

def act (h : Audited) : Act → Option Audited
  | .newCommand r uuid s => some { h with
      fleet := (h.fleet.newCommand r uuid s).1.1
      made := h.made ++ (h.fleet.newCommand r uuid s).2.toOption.toList }
  | .acknowledge r s => some { h with
      fleet := (h.fleet.acknowledge r s).1.1
      answered := h.answered ++ (h.fleet.acknowledge r s).2.toOption.toList }
  | .connect body s => some { h with
      fleet := (h.fleet.connect body s).1.1
      answered := h.answered ++ (h.fleet.connect body s).2.toOption.toList }
  | .publish topic payload => some { h with
      fleet := (h.fleet.publish topic payload).1
      raw := h.raw ++ [(topic, payload)] }
  | .checkin m s => some { h with fleet := (h.fleet.checkin m s).1.1 }
  | .clear udid => some { h with fleet := (h.fleet.clear udid).1.1 }
  | .move m => (h.fleet.perform m).map fun (f, _) => { h with fleet := f }

/-- The lengths of envelopes and bodies are those of octet strings in memory. -/
def Act.Sized : Act → Prop
  | newCommand r uuid s =>
    Words.Fits (CommandEvent.schema.encode ⟨s.id, s.now, r.udid, ⟨uuid, r.payload⟩⟩)
  | acknowledge r s => Words.Fits (ConnectEvent.schema.encode ⟨s.id, s.now, r⟩)
  | connect body s => Words.Fits body ∧ Words.Fits (Text.encode s.id)
  | _ => True

instance : DecidablePred Act.Sized
  | .newCommand r uuid s => inferInstanceAs
      (Decidable (Words.Fits (CommandEvent.schema.encode ⟨s.id, s.now, r.udid, ⟨uuid, r.payload⟩⟩)))
  | .acknowledge r s => inferInstanceAs
      (Decidable (Words.Fits (ConnectEvent.schema.encode ⟨s.id, s.now, r⟩)))
  | .connect body s => inferInstanceAs
      (Decidable (Words.Fits body ∧ Words.Fits (Text.encode s.id)))
  | .publish _ _ | .checkin _ _ | .clear _ | .move _ => inferInstanceAs (Decidable True)

def start (store : Store) (config : BusConfig) (waker : Waker) (delay : Nat) : Audited :=
  ⟨(Fleet.new store config waker delay).startAll.1.1, [], [], []⟩

/-- How often the fleet itself had something to tell of a subject. -/
def happened (h : Audited) : Subject → Nat
  | .commands => h.made.length
  | .connects => h.answered.length

def Lossless (h : Audited) : Prop := ∀ x ∈ h.fleet.audits, h.fleet.bus.lostOf x.1 = 0

structure Drained (h : Audited) : Prop where
  inbox : h.fleet.bus.inbox = []
  current : h.fleet.bus.current = none
  rests : ∀ i, h.fleet.perform (.audit i) = none

/-! ### The invariant of a run -/

/-- The events that were published are those that the fleet told of, all readable, and those that came
from elsewhere. -/
def Tells (h : Audited) (published : List (String × Bytes)) : Prop :=
  ∀ x : Subject, x.readable published = h.happened x + x.readable h.raw ∧
    x.unreadable published = x.unreadable h.raw

/-- How the audit stands when `published` were published on the bus and it has taken `taken`. -/
structure Course (h : Audited) (published : List (String × Bytes)) (taken : Subject → List Event) :
    Prop where
  audits : h.fleet.audits = [(5, .commands), (6, .connects)]
  devices : ∀ m, h.fleet.devices.loop = some m → ∀ id ∈ Feed.ids m.feeds, id < 5
  pushInfos : ∀ id, h.fleet.pushInfos.loop = some id → id < 5
  queues : ∀ id, h.fleet.queues.loop = some id → id < 5
  collects : ∀ x : Subject,
    h.fleet.bus.Collects x.subscription x.topic.name published (taken x)
  tells : h.Tells published
  counted : ∀ x, h.fleet.audit.counted x = (taken x).countP fun e => x.reads e.payload
  undecodable : h.fleet.audit.undecodable =
    ((taken .commands).countP fun e => !Subject.commands.reads e.payload) +
      (taken .connects).countP fun e => !Subject.connects.reads e.payload

variable {store : Store} {config : BusConfig} {waker : Waker} {delay : Nat} {h h' : Audited}
  {published : List (String × Bytes)} {taken : Subject → List Event}

theorem start_eq (store : Store) (config : BusConfig) (waker : Waker) (delay : Nat) :
    start store config waker delay = ⟨started store config waker delay, [], [], []⟩ := by
  rw [start, startAll_new]

theorem course_start (store : Store) (config : BusConfig) (waker : Waker) (delay : Nat) :
    Course (start store config waker delay) [] fun _ => [] := by
  rw [start_eq]
  constructor
  · rfl
  · intro m same
    cases same
    decide
  · intro id same
    cases same
    decide
  · intro id same
    cases same
    decide
  · intro x
    refine ⟨Bus.sound_of_leads (leads_started store config waker delay []),
      ⟨rfl, List.not_mem_nil⟩, ⟨fun p hp => ?_, fun _ => ?_⟩⟩
    · rw [List.mem_singleton.1 hp]
      cases x <;> exact ⟨_, rfl, rfl, rfl⟩
    · cases x <;> rfl
  · intro x
    cases x <;> exact ⟨rfl, rfl⟩
  · intro x
    cases x <;> rfl
  · rfl

namespace Course

/-! ### Requests -/

theorem publish (c : Course h published taken) (topic : String) (payload : Bytes) {t : Store}
    {made : List Command} {answered : List (Option Bytes)} {raw : List (String × Bytes)}
    (tells : Tells ⟨h.fleet, made, answered, raw⟩ (published ++ [(topic, payload)])) :
    Course ⟨{ h.fleet with store := t, bus := (h.fleet.bus.publish topic payload).1 },
      made, answered, raw⟩ (published ++ [(topic, payload)]) taken :=
  { c with
    collects := fun x => (c.collects x).publish topic payload
    tells := tells }

/-- An event of the fleet on a topic that the audit does not read. -/
theorem publish_other (c : Course h published taken) {topic : String}
    (other : ∀ x : Subject, topic ≠ x.topic.name) (payload : Bytes) :
    Course { h with fleet := { h.fleet with bus := (h.fleet.bus.publish topic payload).1 } }
      (published ++ [(topic, payload)]) taken := by
  refine c.publish topic payload fun x => ?_
  obtain ⟨none_read, none_unread⟩ := Subject.none_of_other (other x) payload
  simpa [none_read, none_unread] using c.tells x

/-- The fleet tells of a subject, in an event that can be read. -/
theorem tell (c : Course h published taken) (x : Subject) {payload : Bytes}
    (readable : x.reads payload = true) {made : List Command} {answered : List (Option Bytes)}
    (more : ∀ y, happened ⟨h.fleet, made, answered, h.raw⟩ y =
      h.happened y + if y = x then 1 else 0) :
    Tells ⟨h.fleet, made, answered, h.raw⟩ (published ++ [(x.topic.name, payload)]) := by
  intro y
  obtain ⟨read, unread⟩ := c.tells y
  rw [more y, Subject.readable_append, Subject.unreadable_append, read, unread]
  by_cases own : y = x
  · subst own
    obtain ⟨one, none⟩ := Subject.one_of_reads readable
    rw [one, none, if_pos rfl]
    exact ⟨Nat.add_right_comm _ _ _, rfl⟩
  · obtain ⟨none_read, none_unread⟩ := Subject.none_of_other (Subject.topic_ne (Ne.symm own)) payload
    rw [none_read, none_unread, if_neg own]
    exact ⟨rfl, rfl⟩

theorem publish_raw (c : Course h published taken) (topic : String) (payload : Bytes) :
    Course { h with
      fleet := { h.fleet with bus := (h.fleet.bus.publish topic payload).1 }
      raw := h.raw ++ [(topic, payload)] } (published ++ [(topic, payload)]) taken := by
  refine c.publish topic payload fun x => ?_
  obtain ⟨read, unread⟩ := c.tells x
  rw [Subject.readable_append, Subject.unreadable_append, Subject.readable_append,
    Subject.unreadable_append, read, unread, Nat.add_assoc]
  cases x <;> exact ⟨rfl, rfl⟩

/-! ### Moves -/

theorem take (c : Course h published taken) (x : Subject) {e : Event} {b : Bus}
    (took : h.fleet.bus.take? x.subscription = some (e, b)) :
    Course { h with fleet := { h.fleet with bus := b, audit := (h.fleet.audit.count e x).1 } }
      published (Function.update taken x (taken x ++ [e])) := by
  obtain ⟨counted, undecodable⟩ := Audit.counts_count h.fleet.audit e x
  refine { c with collects := fun y => ?_, counted := fun y => ?_, undecodable := ?_ }
  · by_cases own : y = x
    · subst own
      rw [Function.update_self]
      exact (c.collects y).take took
    · rw [Function.update_of_ne own]
      refine (c.collects y).other ?_ took
      cases x <;> cases y <;> simp_all [Subject.subscription]
  · show (h.fleet.audit.count e x).1.counted y = _
    rw [counted y, c.counted y]
    by_cases own : y = x
    · subst own
      simp [List.countP_append, List.countP_singleton]
    · simp [own]
  · show (h.fleet.audit.count e x).1.undecodable = _
    rw [undecodable, c.undecodable]
    cases x <;> cases read : Subject.reads _ e.payload <;>
      simp [List.countP_append, read] <;> omega

theorem aside (c : Course h published taken) {id : Nat} {e : Event} {b : Bus} (other : id < 5)
    (took : h.fleet.bus.take? id = some (e, b)) (t : Store) (wakes : List String) :
    Course { h with fleet := { h.fleet with bus := b, store := t, wakes } } published taken :=
  { c with
    collects := fun x => (c.collects x).other (by cases x <;> simp [Subject.subscription] <;> omega)
      took }

theorem read (c : Course h published taken) {m m' : Merge} {b : Bus} {out : Option Event}
    (loop : h.fleet.devices.loop = some m) (turn : Merge.Turn h.fleet.bus m m' b out) (started : Bool)
    (t : Store) :
    Course { h with fleet := { h.fleet with bus := b, store := t, devices := ⟨started, some m'⟩ } }
      published taken := by
  have kept : ∀ m₂, some m' = some m₂ → ∀ id ∈ Feed.ids m₂.feeds, id < 5 := by
    intro m₂ same
    cases same
    rw [turn.ids]
    exact c.devices m loop
  rcases turn.bus with rfl | ⟨id, own, e, took⟩
  · exact { c with devices := kept }
  · exact { c.aside (c.devices m loop id own) took t h.fleet.wakes with devices := kept }

theorem work (c : Course h published taken) {f : Fleet} {stamps : List Stamp} {times : List Instant}
    (work : Work h.fleet f stamps times) :
    ∃ taken', Course { h with fleet := f } published taken' := by
  cases work with
  | bus running turn => exact ⟨taken, { c with collects := fun x => (c.collects x).turn turn }⟩
  | read loop turn => exact ⟨taken, c.read loop turn _ _⟩
  | apply stamp loop turn => exact ⟨taken, c.read loop turn _ _⟩
  | keep now loop took => exact ⟨taken, c.aside (c.pushInfos _ loop) took _ _⟩
  | enqueue now loop took => exact ⟨taken, c.aside (c.queues _ loop) took _ _⟩
  | @audit id subject e b listed took =>
    have place : id = subject.subscription := by
      rw [c.audits] at listed
      rcases List.mem_cons.1 listed with same | listed
      · cases same
        rfl
      · cases List.mem_singleton.1 listed
        rfl
    subst place
    exact ⟨_, c.take subject took⟩
  | wake wakes => exact ⟨taken, { c with }⟩
  | stop stopped =>
    rw [(c.collects .commands).unclosed.running] at stopped
    cases stopped

end Course

/-! ### Runs -/

/-- A response is refused and its event is not published, or it is answered and published. -/
theorem acknowledge_cases (f : Fleet) (r : Response) (s : Stamp) :
    (∃ e ws, f.acknowledge r s = ((f, warnings ws), .error e)) ∨
      ∃ t ns answer, f.acknowledge r s = (({ f with
        store := t
        bus := (f.bus.publish Topic.connect.name (ConnectEvent.schema.encode ⟨s.id, s.now, r⟩)).1 }, ns),
        .ok answer) := by
  rw [Fleet.acknowledge]
  obtain ⟨answer, ws⟩ := Delivery.acknowledge f.store r s.now f.delay
  cases answer with
  | error e => exact .inl ⟨e, ws, rfl⟩
  | ok p => exact .inr ⟨_, _, _, rfl⟩

/-- A device is answered, if its event can be read. -/
theorem Course.acknowledge (c : Course h published taken) (r : Response) (s : Stamp)
    (readable : Subject.connects.reads (ConnectEvent.schema.encode ⟨s.id, s.now, r⟩) = true) :
    ∃ published', Course { h with
      fleet := (h.fleet.acknowledge r s).1.1
      answered := h.answered ++ (h.fleet.acknowledge r s).2.toOption.toList } published' taken := by
  rcases acknowledge_cases h.fleet r s with ⟨e, ws, refused⟩ | ⟨t, ns, answer, answered⟩
  · rw [refused, append_toList_error]
    exact ⟨published, c⟩
  · rw [answered]
    refine ⟨_, c.publish Topic.connect.name _ (c.tell .connects readable fun y => ?_)⟩
    cases y <;> simp [happened, Except.toOption]

theorem course_act (c : Course h published taken) {a : Act} (sized : a.Sized)
    (done : h.act a = some h') : ∃ published' taken', Course h' published' taken' := by
  cases a with
  | newCommand r uuid s =>
    cases done
    rcases Orders.newCommand_eq h.fleet r uuid s with ⟨e, refused⟩ | ⟨-, made⟩
    · rw [refused, append_toList_error]
      exact ⟨published, taken, c⟩
    · rw [made]
      have readable : Subject.commands.reads
          (CommandEvent.schema.encode ⟨s.id, s.now, r.udid, ⟨uuid, r.payload⟩⟩) = true := by
        rw [Subject.reads, CommandEvent.decode_encode sized]
        rfl
      refine ⟨_, taken, c.publish Topic.command.name _ (c.tell .commands readable fun y => ?_)⟩
      cases y <;> simp [happened, Except.toOption]
  | acknowledge r s =>
    cases done
    have readable : Subject.connects.reads (ConnectEvent.schema.encode ⟨s.id, s.now, r⟩) = true := by
      rw [Subject.reads, Schema.decode_encode (ConnectEvent.restores _ sized)]
      rfl
    obtain ⟨published', c'⟩ := c.acknowledge r s readable
    exact ⟨published', taken, c'⟩
  | connect body s =>
    cases done
    rw [Fleet.connect]
    cases read : Response.decode body with
    | error e =>
      refine ⟨published, taken, ?_⟩
      show Course ⟨h.fleet, h.made, h.answered ++ (Except.error e).toOption.toList, h.raw⟩ published taken
      rw [append_toList_error]
      exact c
    | ok r =>
      have readable : Subject.connects.reads (ConnectEvent.schema.encode ⟨s.id, s.now, r⟩) = true := by
        rw [Subject.reads, ConnectEvent.decode_encode sized.2 s.now
          (Response.takesBack_of_decode sized.1 read)]
        rfl
      obtain ⟨published', c'⟩ := c.acknowledge r s readable
      exact ⟨published', taken, c'⟩
  | publish topic payload =>
    cases done
    exact ⟨_, taken, c.publish_raw topic payload⟩
  | checkin m s =>
    cases done
    rcases Orders.checkin_eq h.fleet m s with refused | ⟨payload, sent⟩
    · rw [refused]
      exact ⟨published, taken, c⟩
    · rw [sent]
      refine ⟨_, taken, c.publish_other (fun x => ?_) payload⟩
      cases m <;> cases x <;> simp [Checkin.topic, Subject.topic, Topic.name]
  | clear udid =>
    cases done
    rw [Orders.clear_eq]
    exact ⟨published, taken, { c with }⟩
  | move m =>
    obtain ⟨⟨f, ns⟩, moved, rfl⟩ := Option.map_eq_some_iff.1 done
    obtain ⟨taken', c'⟩ := c.work (work_of_perform moved)
    exact ⟨published, taken', c'⟩

theorem course_run {acts : List Act} (sized : ∀ a ∈ acts, a.Sized) (c : Course h published taken)
    (done : acts.foldlM act h = some h') : ∃ published' taken', Course h' published' taken' :=
  Runs.keeps (P := fun h => ∃ published taken, Course h published taken) done ⟨_, _, c⟩
    fun a ha _ _ first ⟨_, _, c⟩ => course_act c (sized a ha) first

/-! ### The end of a run -/

/-- An audit that rests has left nothing in its queues. -/
theorem Course.queueOf_of_rests (c : Course h published taken)
    (rests : ∀ i, h.fleet.perform (.audit i) = none) (x : Subject) :
    h.fleet.bus.queueOf x.subscription = [] := by
  have place : ∃ i : Nat, h.fleet.audits[i]? = some (x.subscription, x) := by
    rw [c.audits]
    cases x
    · exact ⟨0, rfl⟩
    · exact ⟨1, rfl⟩
  obtain ⟨i, listed⟩ := place
  have still := rests i
  rw [perform, moveAudit, listed] at still
  exact Bus.take?_eq_none.1 (Option.map_eq_none_iff.1 still)

/-- An audit that has lost nothing and rests has taken all that was published for it. -/
theorem Course.taken_all (c : Course h published taken) (lossless : h.Lossless)
    (drained : h.Drained) (x : Subject) :
    published.filter (fun p => decide (p.1 = x.topic.name)) = (taken x).map Event.content := by
  have listed : (x.subscription, x) ∈ h.fleet.audits := by
    rw [c.audits]
    cases x <;> simp [Subject.subscription]
  rw [(c.collects x).accounts (lossless _ listed), Bus.untaken, c.queueOf_of_rests drained.rests x,
    Bus.line, drained.current, Bus.waiting, drained.inbox]
  simp [Bus.offered]

/-- Left to itself, the audit comes to rest, and counts no more then. -/
theorem exists_rests (h : Audited) : ∃ (is : List Nat) (h' : Audited),
    (is.map fun i => Act.move (.audit i)).foldlM act h = some h' ∧
      ∀ i, h'.fleet.perform (.audit i) = none := by
  by_cases rests : ∀ i, h.fleet.perform (.audit i) = none
  · exact ⟨[], h, rfl, rests⟩
  · obtain ⟨i, made⟩ := not_forall.1 rests
    obtain ⟨⟨f, ns⟩, made⟩ := Option.ne_none_iff_exists'.1 made
    have less : f.load.Less h.fleet.load := perform_lt made
    obtain ⟨is, h', done, last⟩ := exists_rests { h with fleet := f }
    refine ⟨i :: is, h', ?_, last⟩
    rw [List.map_cons, List.foldlM_cons, act, made]
    exact done
termination_by h.fleet.load
decreasing_by exact less

/-- In every run, once the dispatcher has nothing to do and the audit nothing to take, and if the audit
has lost no event: it has counted as commands those that were made and the events from elsewhere that
can be read as new commands, as connects the responses that were answered and the events from elsewhere
that can be read as exchanges, and as undecodable the other events from elsewhere on the two topics. So
there are none of these without events from elsewhere. Left to itself the audit always comes to the
point where it has nothing to take. -/
theorem counts_agree {acts : List Act} (sized : ∀ a ∈ acts, a.Sized)
    (done : acts.foldlM act (start store config waker delay) = some h) :
    (h.Lossless → h.Drained → h.fleet.audit =
        ⟨h.made.length + Subject.commands.readable h.raw, h.answered.length + Subject.connects.readable h.raw,
          Subject.commands.unreadable h.raw + Subject.connects.unreadable h.raw⟩ ∧
      (h.raw = [] → h.fleet.audit.undecodable = 0)) ∧
    ∃ (is : List Nat) (h' : Audited), (is.map fun i => Act.move (.audit i)).foldlM act h = some h' ∧
      ∀ i, h'.fleet.perform (.audit i) = none := by
  obtain ⟨published, taken, c⟩ := course_run sized (course_start store config waker delay) done
  refine ⟨fun lossless drained => ?_, exists_rests h⟩
  have all := c.taken_all lossless drained
  have counted (x : Subject) : h.fleet.audit.counted x = h.happened x + x.readable h.raw := by
    rw [c.counted x, ← (c.tells x).1, Subject.readable, all x, List.countP_map]
    rfl
  have uncounted (x : Subject) :
      ((taken x).countP fun e => !x.reads e.payload) = x.unreadable h.raw := by
    rw [← (c.tells x).2, Subject.unreadable, all x, List.countP_map]
    rfl
  have undecodable : h.fleet.audit.undecodable =
      Subject.commands.unreadable h.raw + Subject.connects.unreadable h.raw := by
    rw [c.undecodable, uncounted, uncounted]
  refine ⟨?_, fun none => ?_⟩
  · have commands := counted .commands
    have connects := counted .connects
    generalize h.fleet.audit = audit at *
    obtain ⟨commands', connects', undecodable'⟩ := audit
    cases commands
    cases connects
    cases undecodable
    rfl
  · rw [undecodable, none]
    rfl

/-- A command is made and a wish is rejected, a device reports twice and is refused once for a response
of a user, and two events come from elsewhere, of which only one can be read: the audit has counted two
commands, two exchanges and one event that it could not read. -/
theorem counts_agree_mixed : ∃ (acts : List Act) (h : Audited), (∀ a ∈ acts, a.Sized) ∧
    acts.foldlM act (start .empty ⟨4, .block, 5⟩ (fun _ _ => ⟨none, .ok ""⟩) 0) = some h ∧
    h.Lossless ∧ h.Drained ∧ h.made.length = 1 ∧ h.answered.length = 2 ∧ h.raw.length = 2 ∧
    h.fleet.audit = ⟨2, 2, 1⟩ := by
  let s : Stamp := ⟨"id", .ofNanos 0⟩
  let report (user : Option String) : Response := ⟨"D", user, .idle, none, none, []⟩
  let acts : List Act :=
    [.newCommand ⟨"D", .restartDevice⟩ "1" s, .newCommand ⟨"", .profileList⟩ "0" s,
      .connect (report none).toWire s, .acknowledge (report none) s,
      .acknowledge (report (some "U")) s, .publish "mdm.Connect" [1, 2, 3],
      .publish "mdm.Command"
        (CommandEvent.schema.encode ⟨"raw", .ofNanos 0, "D", ⟨"2", .profileList⟩⟩)] ++
    List.replicate 17 (.move .dispatch) ++
    ([0, 0, 1, 1, 1].map fun i => .move (.audit i))
  have sized : ∀ a ∈ acts, a.Sized := by
    decide +kernel
  have works : (acts.foldlM act
      ⟨started .empty ⟨4, .block, 5⟩ (fun _ _ => ⟨none, .ok ""⟩) 0, [], [], []⟩).any (fun h =>
        decide (h.fleet.audits = [(5, .commands), (6, .connects)] ∧
          (∀ x ∈ h.fleet.audits, h.fleet.bus.lostOf x.1 = 0) ∧
          h.fleet.bus.inbox = [] ∧ h.fleet.bus.current = none ∧
          h.fleet.bus.take? 5 = none ∧ h.fleet.bus.take? 6 = none ∧
          h.made.length = 1 ∧ h.answered.length = 2 ∧ h.raw.length = 2 ∧
          Subject.commands.readable h.raw = 1 ∧ Subject.connects.readable h.raw = 0 ∧
          Subject.commands.unreadable h.raw = 0 ∧ Subject.connects.unreadable h.raw = 1)) := by
    decide +kernel
  obtain ⟨h, done, facts⟩ := (Option.any_eq_true _ _).1 works
  obtain ⟨audits, lossless, inbox, current, first, second, made, answered, raw, facts⟩ :=
    of_decide_eq_true facts
  rw [← start_eq] at done
  have rests : ∀ i, h.fleet.perform (.audit i) = none := by
    intro i
    rw [perform, moveAudit, audits]
    rcases i with _ | _ | i
    · exact Option.map_eq_none_iff.2 first
    · exact Option.map_eq_none_iff.2 second
    · rfl
  have drained : h.Drained := ⟨inbox, current, rests⟩
  have all := ((counts_agree sized done).1 lossless drained).1
  rw [made, answered, facts.1, facts.2.1, facts.2.2.1, facts.2.2.2] at all
  exact ⟨acts, h, sized, done, lossless, drained, made, answered, raw, all⟩

end Audited

end DeviceFleet
