import DeviceFleet.Proofs.Fleet.Moves
import DeviceFleet.Proofs.Fleet.Readers
import DeviceFleet.Proofs.Runs
import DeviceFleet.Proofs.Service.Enrolment

/-! Check-ins on their way from the body to the store. Bodies are handled in some order, and between
them the dispatcher and the consumers make their moves in any order. Once nothing is on its way, and
if the bus lost nothing, the tables are as if the accepted check-ins had been applied one by one. -/

namespace DeviceFleet

/-- A fleet at work, with the check-ins it has accepted and the stamps and times with which the
keepers took events. -/
structure Ingestion where
  fleet : Fleet
  accepted : List Checkin
  stamps : List Stamp
  times : List Instant

namespace Ingestion

open Enrolment Fleet

inductive Act where
  | body (body : Bytes) (s : Stamp)
  | move (m : Move)

def Act.accepted : Act → List Checkin
  | body bs _ => (Checkin.decode bs).toOption.toList
  | move _ => []

def act (h : Ingestion) : Act → Option Ingestion
  | .body body s => some { h with
      fleet := (h.fleet.checkinBody body s).1.1
      accepted := h.accepted ++ (Checkin.decode body).toOption.toList }
  | .move m => (h.fleet.perform m).map fun (f, _) =>
      ⟨f, h.accepted, h.stamps ++ h.fleet.stampsOf m, h.times ++ h.fleet.timesOf m⟩

/-- The lengths of bodies and of identifiers are those of octet strings in memory. -/
def Act.Sized : Act → Prop
  | body bs s => Words.Fits bs ∧ Words.Fits (Text.encode s.id)
  | move _ => True

def start (store : Store) (config : BusConfig) (waker : Waker) (delay : Nat) : Ingestion :=
  ⟨(Fleet.new store config waker delay).startAll.1.1, [], [], []⟩

theorem start_eq (store : Store) (config : BusConfig) (waker : Waker) (delay : Nat) :
    start store config waker delay = ⟨started store config waker delay, [], [], []⟩ := by
  rw [start, startAll_new]

def Lossless (h : Ingestion) : Prop := ∀ s ∈ h.fleet.bus.table, s.dropped = 0

/-- Nothing is on its way: no request, no event that is offered, none in a queue and none held. -/
structure Drained (h : Ingestion) : Prop where
  inbox : h.fleet.bus.inbox = []
  current : h.fleet.bus.current = none
  queued : h.fleet.bus.queued = 0
  held : h.fleet.held = 0

/-- The invariant of a run, with the events that each keeper has taken. -/
structure Course (store : Store) (h : Ingestion) (m : Merge) (published : List (String × Bytes))
    (placed yielded came taken : List Event) : Prop where
  devices : h.fleet.devices.loop = some m
  pushInfos : h.fleet.pushInfos.loop = some 3
  queues : ∀ id, h.fleet.queues.loop = some id → 3 < id
  audits : ∀ x ∈ h.fleet.audits, 3 < x.1
  readers : Readers h.fleet.bus m published placed yielded came taken
  holds : List.Forall₂ Holds published h.accepted
  applied : SameDevices h.fleet.store (takeDevices store (yielded.zip h.stamps))
  stamped : yielded.length = h.stamps.length
  kept : h.fleet.store.pushInfos = (takePushInfos store (taken.zip h.times)).pushInfos
  timed : taken.length = h.times.length

variable {store : Store} {h h' : Ingestion} {m : Merge} {published : List (String × Bytes)}
  {placed yielded came taken : List Event}

theorem course_start (store : Store) (config : BusConfig) (waker : Waker) (delay : Nat) :
    Course store (start store config waker delay) (.ofIds [0, 1, 2]) [] [] [] [] [] := by
  rw [start_eq]
  constructor
  · rfl
  · rfl
  · intro id same
    cases same
    decide
  · intro x hx
    have each : x = (5, .commands) ∨ x = (6, .connects) := by
      simpa [Fleet.started] using hx
    rcases each with rfl | rfl <;> decide
  · exact Readers.started store config waker delay
  · exact .nil
  · exact ⟨rfl, rfl⟩
  · rfl
  · rfl
  · rfl

/-! ### Bodies -/

theorem checkinBody_error {f : Fleet} {body : Bytes} {e : Error} (h : Checkin.decode body = .error e)
    (s : Stamp) : f.checkinBody body s = ((f, []), .error e) := by
  rw [Fleet.checkinBody, h]
  rfl

theorem checkinBody_ok {f : Fleet} {body : Bytes} {m : Checkin} (h : Checkin.decode body = .ok m)
    (s : Stamp) : f.checkinBody body s =
      (f.publish m.topic.name (CheckinEvent.schema.encode ⟨s.id, s.now, m⟩), .ok s.id) := by
  obtain ⟨-, -, -, -, -, named⟩ := Checkin.decode_ok h
  rw [Fleet.checkinBody, h]
  show f.checkin m s = _
  rw [Fleet.checkin, if_neg named]

/-- A rejected body is one that does not decode; it publishes nothing and changes nothing. -/
theorem eq_of_rejected {f : Fleet} {body : Bytes} {s : Stamp} {e : Error}
    (h : (f.checkinBody body s).2 = .error e) :
    Checkin.decode body = .error e ∧ (f.checkinBody body s).1 = (f, []) := by
  cases decoded : Checkin.decode body with
  | error e' =>
    rw [checkinBody_error decoded] at h ⊢
    cases h
    exact ⟨rfl, rfl⟩
  | ok m =>
    rw [checkinBody_ok decoded] at h
    cases h

theorem course_body (c : Course store h m published placed yielded came taken) (body : Bytes)
    (s : Stamp) (sized : (Act.body body s).Sized) : ∃ published', Course store { h with
      fleet := (h.fleet.checkinBody body s).1.1
      accepted := h.accepted ++ (Checkin.decode body).toOption.toList }
      m published' placed yielded came taken := by
  cases decoded : Checkin.decode body with
  | error e =>
    rw [checkinBody_error decoded]
    refine ⟨published, ?_⟩
    rw [append_toList_error]
    exact c
  | ok message =>
    rw [checkinBody_ok decoded]
    refine ⟨_, { c with readers := c.readers.publish _ _, holds := ?_ }⟩
    refine List.rel_append c.holds (.cons ⟨rfl, s.id, s.now, ?_⟩ .nil)
    exact CheckinEvent.decode_encode sized.2 s.now (Checkin.takesBack_of_decode sized.1 decoded)

/-! ### Moves -/

theorem course_work (c : Course store h m published placed yielded came taken) {f : Fleet}
    {stamps : List Stamp} {times : List Instant} (work : Work h.fleet f stamps times) :
    ∃ m' placed' yielded' came' taken',
      Course store ⟨f, h.accepted, h.stamps ++ stamps, h.times ++ times⟩
        m' published placed' yielded' came' taken' := by
  have stamps_nil := List.append_nil h.stamps
  have times_nil := List.append_nil h.times
  cases work with
  | bus running turn =>
    obtain ⟨placed', came', readers⟩ := c.readers.turn turn
    rw [stamps_nil, times_nil]
    exact ⟨m, placed', yielded, came', taken, { c with readers }⟩
  | @read m₁ m' b loop turn =>
    cases c.devices.symm.trans loop
    have readers := c.readers.read turn
    rw [Option.toList, List.append_nil] at readers
    rw [stamps_nil, times_nil]
    exact ⟨m', placed, yielded, came, taken, { c with devices := rfl, readers }⟩
  | @apply m₁ m' b e s loop turn =>
    cases c.devices.symm.trans loop
    rw [times_nil]
    refine ⟨m', placed, yielded ++ [e], came, taken, { c with
      devices := rfl
      readers := c.readers.read turn
      applied := ?_
      stamped := ?_
      kept := (pushInfos_takeDevice _ e s.id s.now).trans c.kept }⟩
    · rw [takeDevices_concat store c.stamped]
      exact c.applied.takeDevice e s.id s.now
    · rw [List.length_append, List.length_append, c.stamped]
      rfl
  | @keep id e b now loop first =>
    cases c.pushInfos.symm.trans loop
    rw [stamps_nil]
    refine ⟨m, placed, yielded, came, taken ++ [e], { c with
      readers := c.readers.keep first
      applied := (sameDevices_takePushInfo _ e now).trans c.applied
      kept := ?_
      timed := ?_ }⟩
    · rw [takePushInfos_concat store c.timed]
      exact pushInfos_takePushInfo c.kept e now
    · rw [List.length_append, List.length_append, c.timed]
      rfl
  | @enqueue id e b now loop first =>
    obtain ⟨same, kept⟩ := takeCommand_frame h.fleet.store e now
    rw [stamps_nil, times_nil]
    exact ⟨m, placed, yielded, came, taken, { c with
      readers := c.readers.other (c.queues id loop) first
      applied := same.trans c.applied
      kept := kept.trans c.kept }⟩
  | @audit id subject e b listed first =>
    rw [stamps_nil, times_nil]
    have readers := c.readers.other (c.audits _ listed) first
    exact ⟨m, placed, yielded, came, taken, { c with readers }⟩
  | wake wakes =>
    rw [stamps_nil, times_nil]
    exact ⟨m, placed, yielded, came, taken, { c with }⟩
  | stop stopped =>
    rw [c.readers.unclosed.running] at stopped
    cases stopped

theorem accepted_of_run {acts : List Act} (made : acts.foldlM act h = some h') :
    h'.accepted = h.accepted ++ acts.flatMap Act.accepted := by
  refine Runs.holds (P := fun acts h' => h'.accepted = h.accepted ++ acts.flatMap Act.accepted) made
    (List.append_nil _).symm fun past a t t' _ _ first before => ?_
  have step : t'.accepted = t.accepted ++ a.accepted := by
    cases a with
    | body body s =>
      cases first
      rfl
    | move m =>
      obtain ⟨r, -, same⟩ := Option.map_eq_some_iff.1 first
      cases same
      exact (List.append_nil _).symm
  rw [step, before, List.flatMap_append, List.flatMap_singleton, List.append_assoc]

theorem course_act {a : Act} (sized : a.Sized) (c : Course store h m published placed yielded came taken)
    (made : h.act a = some h') : ∃ m' published' placed' yielded' came' taken',
      Course store h' m' published' placed' yielded' came' taken' := by
  cases a with
  | body body s =>
    cases made
    obtain ⟨published', c'⟩ := course_body c body s sized
    exact ⟨m, published', placed, yielded, came, taken, c'⟩
  | move move =>
    obtain ⟨⟨f, ns⟩, possible, same⟩ := Option.map_eq_some_iff.1 made
    cases same
    obtain ⟨m', placed', yielded', came', taken', c'⟩ := course_work c (work_of_perform possible)
    exact ⟨m', published, placed', yielded', came', taken', c'⟩

theorem course_run {acts : List Act} (sized : ∀ a ∈ acts, a.Sized)
    (c : Course store h m published placed yielded came taken) (made : acts.foldlM act h = some h') :
    ∃ m' published' placed' yielded' came' taken',
      Course store h' m' published' placed' yielded' came' taken' :=
  Runs.keeps (P := fun h => ∃ m published placed yielded came taken,
      Course store h m published placed yielded came taken) made ⟨m, published, placed, yielded, came, taken, c⟩
    fun a ha _ _ first ⟨_, _, _, _, _, _, c⟩ => course_act (sized a ha) c first

/-! ### The end of a run -/

theorem events_of_held (devices : h.fleet.devices.loop = some m) (held : h.fleet.held = 0) :
    Feed.events m.feeds = [] := by
  have none_held : Feed.holding m.feeds = 0 := by
    rw [Fleet.held, devices] at held
    exact held
  apply List.filterMap_eq_nil_iff.2
  intro f hf
  have empty := List.filter_eq_nil_iff.1 (List.eq_nil_of_length_eq_zero none_held) f hf
  simpa using empty

/-- Every check-in is on one of the topics that the keeper of the device records reads. -/
theorem filter_devices {ps : List (String × Bytes)} {ms : List Checkin} (h : List.Forall₂ Holds ps ms) :
    ps.filter (fun p => decide (p.1 ∈ deviceSubs.map (·.2))) = ps := by
  apply List.filter_eq_self.2
  induction h with
  | nil => exact List.forall_mem_nil _
  | @cons p m ps ms first _ ih =>
    refine List.forall_mem_cons.2 ⟨decide_eq_true ?_, ih⟩
    rw [first.1]
    cases m <;> simp [deviceSubs, Checkin.topic]

/-- Whatever bodies are handled, and in whatever order the dispatcher and the consumers move in
between: when nothing is on its way any more and nothing was lost, the device records and their
index are those of the accepted check-ins applied in the order of the calls, and the push
credentials those of the accepted registrations. Each keeper has taken each of its check-ins once.
A rejected body publishes nothing and changes nothing. -/
theorem tables_eq_applied {config : BusConfig} {waker : Waker} {delay : Nat} {acts : List Act}
    (sized : ∀ a ∈ acts, a.Sized) (made : acts.foldlM act (start store config waker delay) = some h)
    (lossless : h.Lossless) (drained : h.Drained) :
    (SameDevices h.fleet.store (applyAll store ((acts.flatMap Act.accepted).zip h.stamps)) ∧
        h.stamps.length = (acts.flatMap Act.accepted).length) ∧
      (h.fleet.store.pushInfos =
          (keepAll store ((tokenUpdates (acts.flatMap Act.accepted)).zip h.times)).pushInfos ∧
        h.times.length = (tokenUpdates (acts.flatMap Act.accepted)).length) ∧
      ∀ (f : Fleet) (body : Bytes) (s : Stamp) (e : Error), (f.checkinBody body s).2 = .error e →
        Checkin.decode body = .error e ∧ (f.checkinBody body s).1 = (f, []) := by
  have all : h.accepted = acts.flatMap Act.accepted := (accepted_of_run made).trans (List.nil_append _)
  obtain ⟨m, published, placed, yielded, came, taken, c⟩ :=
    course_run sized (course_start store config waker delay) made
  rw [← all]
  obtain ⟨devices, pushes⟩ := c.readers.settled lossless drained.current drained.inbox drained.queued
    (events_of_held c.devices drained.held)
  have accepted : List.Forall₂ Holds (yielded.map Event.content) h.accepted := by
    rw [← devices, filter_devices c.holds]
    exact c.holds
  have tokens : List.Forall₂ Holds (taken.map Event.content)
      ((tokenUpdates h.accepted).map .tokenUpdate) := by
    rw [← pushes]
    exact holds_tokenUpdates c.holds
  refine ⟨⟨?_, ?_⟩, ⟨?_, ?_⟩, fun f body s e rejected => eq_of_rejected rejected⟩
  · rw [← takeDevices_eq store accepted]
    exact c.applied
  · rw [← c.stamped, ← accepted.length_eq, List.length_map]
  · rw [← takePushInfos_eq store tokens]
    exact c.kept
  · have same := tokens.length_eq
    rw [List.length_map, List.length_map] at same
    rw [← c.timed, same]

/-- A device leaves and enrols again, with a rejected body in between. The keeper of the device
records begins with the subscription of the departures, and the device ends enrolled. -/
theorem tables_eq_applied_enrolled :
    ∃ (acts : List Act) (h : Ingestion), (∀ a ∈ acts, a.Sized) ∧
      acts.foldlM act (start .empty ⟨4, .block, 5⟩ (fun _ _ => ⟨none, .ok ""⟩) 0) = some h ∧
      h.Lossless ∧ h.Drained ∧
      SameDevices h.fleet.store (applyAll .empty ((acts.flatMap Act.accepted).zip h.stamps)) ∧
      (acts.flatMap Act.accepted).map Checkin.messageType =
        ["Authenticate", "CheckOut", "TokenUpdate"] ∧
      (h.fleet.store.device? "D").toOption.join.map (·.enrolled) = some true := by
  let s : Stamp := ⟨"id", .ofNanos 0⟩
  let joins : Checkin := .authenticate ⟨"D", "", "S", "", "", "", "", "", "", ""⟩
  let leaves : Checkin := .checkOut ⟨"D", ""⟩
  let registers : Checkin := .tokenUpdate ⟨"D", none, "", [1], "", [2], false⟩
  let bodies : List Act := [joins.toWire, leaves.toWire, [], registers.toWire].map (.body · s)
  -- Three turns of the dispatcher for a subscription, one more for a second, five steps a round.
  let moves : List Move := List.replicate 10 .dispatch ++
    (List.replicate 15 (.devices 2 s) ++ [.pushInfos s.now])
  have sized : ∀ a ∈ bodies ++ moves.map .move, a.Sized := by
    intro a ha
    rcases List.mem_append.1 ha with ha | ha
    · have fits : ∀ b ∈ [joins.toWire, leaves.toWire, [], registers.toWire], Words.Fits b := by
        decide +kernel
      obtain ⟨b, hb, rfl⟩ := List.mem_map.1 ha
      exact ⟨fits b hb, by decide⟩
    · obtain ⟨m, -, rfl⟩ := List.mem_map.1 ha
      trivial
  have works : ((bodies ++ moves.map Act.move).foldlM act
      ⟨started .empty ⟨4, .block, 5⟩ (fun _ _ => ⟨none, .ok ""⟩) 0, [], [], []⟩).any (fun h =>
        decide ((∀ s ∈ h.fleet.bus.table, s.dropped = 0) ∧ h.fleet.bus.inbox = [] ∧
          h.fleet.bus.current = none ∧ h.fleet.bus.queued = 0 ∧ h.fleet.held = 0 ∧
          (h.fleet.store.device? "D").toOption.join.map (·.enrolled) = some true)) := by
    decide +kernel
  obtain ⟨h, made, facts⟩ := (Option.any_eq_true _ _).1 works
  obtain ⟨lossless, inbox, current, queued, held, enrolled⟩ := of_decide_eq_true facts
  rw [← start_eq] at made
  have drained : h.Drained := ⟨inbox, current, queued, held⟩
  obtain ⟨⟨same, -⟩, -⟩ := tables_eq_applied sized made lossless drained
  exact ⟨_, h, sized, made, lossless, drained, same, by decide +kernel, enrolled⟩

end Ingestion

end DeviceFleet
