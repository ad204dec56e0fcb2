import DeviceFleet.Fleet.Basic

/-! The work that goes on by itself, in moves: a step of the dispatcher or the end of its
wait, a step of a consumer, the waking of a device. Any order of moves is possible. Each
move makes the load of the fleet smaller, so with no new request the work comes to an
end. -/

namespace DeviceFleet

/-- A move, with the stamp or the time that it uses. -/
inductive Move where
  | dispatch
  /-- The wait of the dispatcher is over. -/
  | expire
  /-- The keeper of the device records goes on; a round begins with the subscription in
  place `i`. -/
  | devices (i : Nat) (s : Stamp)
  | pushInfos (now : Instant)
  | queues (now : Instant)
  /-- The audit takes an event of its subscription in place `i`. -/
  | audit (i : Nat)
  /-- The first of the devices to be woken is woken. -/
  | wake

namespace Fleet

def onBus (f : Fleet) (o : Option Bus.Outcome) : Option Outcome :=
  o.map fun (bus, ws) => ({ f with bus }, warnings ws)

/-- The keeper of the device records takes a step, or ends with the bus. -/
def moveDevices (f : Fleet) (i : Nat) (s : Stamp) : Option Outcome :=
  match f.devices.loop with
  | none => none
  | some m => match m.step i f.bus with
    | some (m, bus, none) => some ({ f with bus, devices := ⟨f.devices.started, some m⟩ }, [])
    | some (m, bus, some e) =>
      let (store, ws) := Enrolment.takeDevice f.store e s.id s.now
      some ({ f with bus, store, devices := ⟨f.devices.started, some m⟩ }, warnings ws)
    | none =>
      if f.bus.stopped && m.isDrained f.bus then some ({ f with devices := .idle }, []) else none

/-- A consumer of one subscription takes an event, or ends with the bus. -/
def consume (f : Fleet) (loop : Option Nat) (taken : Event → Bus → Outcome) (ended : Fleet) :
    Option Outcome :=
  match loop with
  | none => none
  | some id => match f.bus.take? id with
    | some (e, bus) => some (taken e bus)
    | none => if f.bus.stopped then some (ended, []) else none

def movePushInfos (f : Fleet) (now : Instant) : Option Outcome :=
  f.consume f.pushInfos.loop (fun e bus =>
    let (store, ws) := Enrolment.takePushInfo f.store e now
    ({ f with bus, store }, warnings ws)) { f with pushInfos := .idle }

def moveQueues (f : Fleet) (now : Instant) : Option Outcome :=
  f.consume f.queues.loop (fun e bus =>
    let (store, wakes, ws) := Delivery.takeCommand f.store e now
    ({ f with bus, store, wakes := f.wakes ++ wakes }, warnings ws)) { f with queues := .idle }

def moveAudit (f : Fleet) (i : Nat) : Option Outcome :=
  match f.audits[i]? with
  | none => none
  | some (id, subject) => (f.bus.take? id).map fun (e, bus) =>
    let (audit, ws) := f.audit.count e subject
    ({ f with bus, audit }, warnings ws)

def moveWake (f : Fleet) : Option Outcome :=
  match f.wakes with
  | [] => none
  | udid :: wakes =>
    some ({ f with wakes }, wakeNotices udid (f.waker f.store udid) (.wakeFailed udid))

def perform (f : Fleet) : Move → Option Outcome
  | .dispatch => f.onBus f.bus.step
  | .expire => f.onBus f.bus.expire
  | .devices i s => f.moveDevices i s
  | .pushInfos now => f.movePushInfos now
  | .queues now => f.moveQueues now
  | .audit i => f.moveAudit i
  | .wake => f.moveWake

/-- The consumers that are at work. -/
def loops (f : Fleet) : Nat :=
  f.devices.loop.toList.length + f.pushInfos.loop.toList.length + f.queues.loop.toList.length

def held (f : Fleet) : Nat := (f.devices.loop.map Merge.holding).getD 0

/-- The questions that it has left to ask. -/
def phase (f : Fleet) : Nat := (f.devices.loop.map Merge.phase).getD 0

/-- What is left to do, most pressing first: the requests in the inbox, the present
dispatch, the events in queues and those that are held, and what consumes them. -/
structure Load where
  inbox : Nat
  rank : Nat
  queued : Nat
  held : Nat
  phase : Nat
  others : Nat

def Load.key (l : Load) : Nat × Nat × Nat × Nat × Nat × Nat :=
  (l.inbox, l.rank, l.queued, l.held, l.phase, l.others)

instance : WellFoundedRelation Load := invImage Load.key inferInstance

def load (f : Fleet) : Load :=
  ⟨f.bus.inbox.length, f.bus.rank, f.bus.queued, f.held, f.phase, f.wakes.length + f.loops⟩

abbrev Load.Less (a b : Load) : Prop := WellFoundedRelation.rel a b

namespace Load

theorem less_of_dispatch {a b : Load}
    (h : Prod.Lex (· < ·) (· < ·) (a.inbox, a.rank) (b.inbox, b.rank)) : Less a b := by
  obtain ⟨ai, ar, aq, ah, ap, ao⟩ := a
  obtain ⟨bi, br, bq, bh, bp, bo⟩ := b
  cases h with
  | left _ _ h => exact .left _ _ h
  | right _ h => exact .right _ (.left _ _ h)

theorem less_of_queued {a b : Load} (inbox : a.inbox = b.inbox) (rank : a.rank = b.rank)
    (h : a.queued < b.queued) : Less a b := by
  obtain ⟨ai, ar, aq, ah, ap, ao⟩ := a
  obtain ⟨bi, br, bq, bh, bp, bo⟩ := b
  cases inbox
  cases rank
  exact .right _ (.right _ (.left _ _ h))

theorem less_of_round {a b : Load} (inbox : a.inbox = b.inbox) (rank : a.rank = b.rank)
    (queued : a.queued = b.queued) (h : a.held < b.held ∨ a.held = b.held ∧ a.phase < b.phase) :
    Less a b := by
  obtain ⟨ai, ar, aq, ah, ap, ao⟩ := a
  obtain ⟨bi, br, bq, bh, bp, bo⟩ := b
  cases inbox
  cases rank
  cases queued
  rcases h with h | ⟨held, h⟩
  · exact .right _ (.right _ (.right _ (.left _ _ h)))
  · cases held
    exact .right _ (.right _ (.right _ (.right _ (.left _ _ h))))

theorem less_of_others {a b : Load} (inbox : a.inbox = b.inbox) (rank : a.rank = b.rank)
    (queued : a.queued = b.queued) (held : a.held = b.held) (phase : a.phase = b.phase)
    (h : a.others < b.others) : Less a b := by
  obtain ⟨ai, ar, aq, ah, ap, ao⟩ := a
  obtain ⟨bi, br, bq, bh, bp, bo⟩ := b
  cases inbox
  cases rank
  cases queued
  cases held
  cases phase
  exact .right _ (.right _ (.right _ (.right _ (.right _ h))))

end Load

theorem onBus_lt {f f' : Fleet} {ns : List Notice} {o : Option Bus.Outcome}
    (lt : ∀ {b ws}, o = some (b, ws) →
      Prod.Lex (· < ·) (· < ·) (b.inbox.length, b.rank) (f.bus.inbox.length, f.bus.rank))
    (h : f.onBus o = some (f', ns)) : f'.load.Less f.load := by
  obtain ⟨⟨b, ws⟩, ho, hy⟩ := Option.map_eq_some_iff.1 h
  obtain ⟨rfl, -⟩ := Prod.mk.inj hy
  exact Load.less_of_dispatch (lt ho)

theorem moveDevices_lt {f f' : Fleet} {i : Nat} {s : Stamp} {ns : List Notice}
    (h : f.moveDevices i s = some (f', ns)) : f'.load.Less f.load := by
  simp only [moveDevices] at h
  split at h
  · cases h
  · rename_i m hm
    have stepped {m' bus r} (hs : m.step i f.bus = some (m', bus, r)) (hb : f'.bus = bus)
        (hd : f'.devices.loop = some m') : f'.load.Less f.load := by
      obtain ⟨inbox, rank, less⟩ := Merge.step_lt hs
      rcases less with less | ⟨queued, less⟩
      · exact Load.less_of_queued (by simp [load, hb, inbox]) (by simp [load, hb, rank])
          (by simpa [load, hb] using less)
      · exact Load.less_of_round (by simp [load, hb, inbox]) (by simp [load, hb, rank])
          (by simpa [load, hb] using queued)
          (by simpa [load, held, phase, hd, hm] using less)
    split at h
    · rename_i hs
      obtain ⟨rfl, -⟩ := Prod.mk.inj (Option.some.inj h)
      exact stepped hs rfl rfl
    · rename_i hs
      obtain ⟨rfl, -⟩ := Prod.mk.inj (Option.some.inj h)
      exact stepped hs rfl rfl
    · split at h
      · rename_i hend
        obtain ⟨rfl, -⟩ := Prod.mk.inj (Option.some.inj h)
        by_cases quiet : m.holding = 0 ∧ m.phase = 0
        · refine Load.less_of_others rfl rfl rfl ?_ ?_ ?_
          · simp [load, held, Consumer.idle, hm, quiet.1]
          · simp [load, phase, Consumer.idle, hm, quiet.2]
          · simp [load, loops, Consumer.idle, hm]
        · refine Load.less_of_round rfl rfl rfl ?_
          simp only [load, held, phase, Consumer.idle, hm, Option.map_none, Option.getD_none,
            Option.map_some, Option.getD_some]
          omega
      · cases h

theorem taken_lt {f f' : Fleet} {id : Nat} {e : Event} {b : Bus}
    (h : f.bus.take? id = some (e, b)) (hb : f'.bus = b) : f'.load.Less f.load := by
  obtain ⟨queued, inbox, rank⟩ := Bus.take?_queued_lt h
  exact Load.less_of_queued (by simp [load, hb, inbox]) (by simp [load, hb, rank])
    (by simpa [load, hb] using queued)

theorem consume_eq_some {f : Fleet} {loop : Option Nat} {taken : Event → Bus → Outcome}
    {ended : Fleet} {o : Outcome} (h : f.consume loop taken ended = some o) : ∃ id, loop = some id ∧
      ((∃ e bus, f.bus.take? id = some (e, bus) ∧ taken e bus = o) ∨
        f.bus.take? id = none ∧ f.bus.stopped = true ∧ (ended, []) = o) := by
  unfold consume at h
  split at h
  · cases h
  · refine ⟨_, rfl, ?_⟩
    split at h
    · rename_i first
      exact .inl ⟨_, _, first, Option.some.inj h⟩
    · rename_i empty
      split at h
      · rename_i stopped
        exact .inr ⟨empty, stopped, Option.some.inj h⟩
      · cases h

/-- The load is smaller if the consumer changes nothing but the bus in what the load counts. -/
theorem consume_lt {f f' ended : Fleet} {loop : Option Nat} {taken : Event → Bus → Outcome}
    {ns : List Notice} (h : f.consume loop taken ended = some (f', ns))
    (bus : ∀ e b, (taken e b).1.bus = b) (ends : ∀ id, loop = some id → ended.load.Less f.load) :
    f'.load.Less f.load := by
  obtain ⟨id, hid, ⟨e, b, ht, ho⟩ | ⟨-, -, ho⟩⟩ := consume_eq_some h
  · have hb := bus e b
    rw [ho] at hb
    exact taken_lt ht hb
  · cases ho
    exact ends id hid

theorem movePushInfos_lt {f f' : Fleet} {now : Instant} {ns : List Notice}
    (h : f.movePushInfos now = some (f', ns)) : f'.load.Less f.load :=
  consume_lt h (fun _ _ => rfl) fun _ hid =>
    Load.less_of_others rfl rfl rfl rfl rfl (by simp [load, loops, Consumer.idle, hid])

theorem moveQueues_lt {f f' : Fleet} {now : Instant} {ns : List Notice}
    (h : f.moveQueues now = some (f', ns)) : f'.load.Less f.load :=
  consume_lt h (fun _ _ => rfl) fun _ hid =>
    Load.less_of_others rfl rfl rfl rfl rfl (by simp [load, loops, Consumer.idle, hid])

theorem moveAudit_lt {f f' : Fleet} {i : Nat} {ns : List Notice}
    (h : f.moveAudit i = some (f', ns)) : f'.load.Less f.load := by
  simp only [moveAudit] at h
  split at h
  · cases h
  · obtain ⟨⟨e, b⟩, ht, hy⟩ := Option.map_eq_some_iff.1 h
    obtain ⟨rfl, -⟩ := Prod.mk.inj hy
    exact taken_lt ht rfl

theorem moveWake_lt {f f' : Fleet} {ns : List Notice} (h : f.moveWake = some (f', ns)) :
    f'.load.Less f.load := by
  simp only [moveWake] at h
  split at h
  · cases h
  · rename_i hw
    obtain ⟨rfl, -⟩ := Prod.mk.inj (Option.some.inj h)
    exact Load.less_of_others rfl rfl rfl rfl rfl (by simp [load, loops, hw])

/-- Every move makes the load smaller. -/
theorem perform_lt {f f' : Fleet} {m : Move} {ns : List Notice} (h : f.perform m = some (f', ns)) :
    f'.load.Less f.load := by
  cases m with
  | dispatch => exact onBus_lt Bus.step_lt h
  | expire => exact onBus_lt Bus.expire_lt h
  | devices i s => exact moveDevices_lt h
  | pushInfos now => exact movePushInfos_lt h
  | queues now => exact moveQueues_lt h
  | audit i => exact moveAudit_lt h
  | wake => exact moveWake_lt h

end Fleet

end DeviceFleet
