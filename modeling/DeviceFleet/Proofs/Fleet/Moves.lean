import DeviceFleet.Fleet.Moves
import DeviceFleet.Proofs.Bus.Reader

/-! What a move of the fleet can be: a turn of the dispatcher, a step of one consumer, the waking
of a device, or the end of a consumer on a stopped bus. -/

namespace DeviceFleet.Fleet

/-- A request that fails adds nothing to the list of those that succeed. -/
theorem append_toList_error {α : Type} (xs : List α) (e : Error) :
    xs ++ (Except.error e : Except Error α).toOption.toList = xs := List.append_nil xs

/-- The stamp with which the keeper of the device records takes an event in the move. -/
def stampsOf (f : Fleet) : Move → List Stamp
  | .devices i s => match f.devices.loop with
    | none => []
    | some m => match m.step i f.bus with
      | some (_, _, some _) => [s]
      | _ => []
  | _ => []

/-- The time at which the keeper of the push credentials takes an event in the move. -/
def timesOf (f : Fleet) : Move → List Instant
  | .pushInfos now => match f.pushInfos.loop with
    | none => []
    | some id => match f.bus.take? id with
      | some _ => [now]
      | none => []
  | _ => []

/-- The fleet after a move, with the stamps and the times at which the keepers took events. -/
inductive Work (f : Fleet) : Fleet → List Stamp → List Instant → Prop where
  | bus {b : Bus} (running : f.bus.stopped = false) (turn : Bus.Turn f.bus b) :
      Work f { f with bus := b } [] []
  /-- The keeper of the device records goes on in its round. -/
  | read {m m' : Merge} {b : Bus} (loop : f.devices.loop = some m)
      (turn : Merge.Turn f.bus m m' b none) :
      Work f { f with bus := b, devices := ⟨f.devices.started, some m'⟩ } [] []
  /-- The keeper of the device records takes an event. -/
  | apply {m m' : Merge} {b : Bus} {e : Event} (s : Stamp) (loop : f.devices.loop = some m)
      (turn : Merge.Turn f.bus m m' b (some e)) :
      Work f { f with
        bus := b
        store := (Enrolment.takeDevice f.store e s.id s.now).1
        devices := ⟨f.devices.started, some m'⟩ } [s] []
  /-- The keeper of the push credentials takes an event. -/
  | keep {id : Nat} {e : Event} {b : Bus} (now : Instant) (loop : f.pushInfos.loop = some id)
      (taken : f.bus.take? id = some (e, b)) :
      Work f { f with bus := b, store := (Enrolment.takePushInfo f.store e now).1 } [] [now]
  | enqueue {id : Nat} {e : Event} {b : Bus} (now : Instant) (loop : f.queues.loop = some id)
      (taken : f.bus.take? id = some (e, b)) :
      Work f { f with
        bus := b
        store := (Delivery.takeCommand f.store e now).1
        wakes := f.wakes ++ (Delivery.takeCommand f.store e now).2.1 } [] []
  | audit {id : Nat} {subject : Audit.Subject} {e : Event} {b : Bus}
      (listed : (id, subject) ∈ f.audits) (taken : f.bus.take? id = some (e, b)) :
      Work f { f with bus := b, audit := (f.audit.count e subject).1 } [] []
  | wake (wakes : List String) : Work f { f with wakes } [] []
  /-- A consumer ends. -/
  | stop {f' : Fleet} (stopped : f.bus.stopped = true) (bus : f'.bus = f.bus)
      (store : f'.store = f.store) : Work f f' [] []

variable {f f' : Fleet} {ns : List Notice}

/-! ### Moves -/

/-- The fleet after a move, and what becomes known with it. -/
inductive Deed (f : Fleet) : Move → Fleet → List Notice → Prop where
  | dispatch {b : Bus} {ws : List Warning} (stepped : f.bus.step = some (b, ws)) :
      Deed f .dispatch { f with bus := b } (warnings ws)
  | expire {b : Bus} {ws : List Warning} (expired : f.bus.expire = some (b, ws)) :
      Deed f .expire { f with bus := b } (warnings ws)
  | read {i : Nat} {s : Stamp} {m m' : Merge} {b : Bus} (loop : f.devices.loop = some m)
      (stepped : m.step i f.bus = some (m', b, none)) :
      Deed f (.devices i s) { f with bus := b, devices := ⟨f.devices.started, some m'⟩ } []
  | apply {i : Nat} {s : Stamp} {m m' : Merge} {b : Bus} {e : Event} (loop : f.devices.loop = some m)
      (stepped : m.step i f.bus = some (m', b, some e)) :
      Deed f (.devices i s) { f with
        bus := b
        store := (Enrolment.takeDevice f.store e s.id s.now).1
        devices := ⟨f.devices.started, some m'⟩ }
        (warnings (Enrolment.takeDevice f.store e s.id s.now).2)
  | keep {now : Instant} {id : Nat} {e : Event} {b : Bus} (loop : f.pushInfos.loop = some id)
      (taken : f.bus.take? id = some (e, b)) :
      Deed f (.pushInfos now) { f with bus := b, store := (Enrolment.takePushInfo f.store e now).1 }
        (warnings (Enrolment.takePushInfo f.store e now).2)
  | enqueue {now : Instant} {id : Nat} {e : Event} {b : Bus} (loop : f.queues.loop = some id)
      (taken : f.bus.take? id = some (e, b)) :
      Deed f (.queues now) { f with
        bus := b
        store := (Delivery.takeCommand f.store e now).1
        wakes := f.wakes ++ (Delivery.takeCommand f.store e now).2.1 }
        (warnings (Delivery.takeCommand f.store e now).2.2)
  | audit {i id : Nat} {subject : Audit.Subject} {e : Event} {b : Bus}
      (listed : f.audits[i]? = some (id, subject)) (taken : f.bus.take? id = some (e, b)) :
      Deed f (.audit i) { f with bus := b, audit := (f.audit.count e subject).1 }
        (warnings (f.audit.count e subject).2)
  | wake {udid : String} {wakes : List String} (first : f.wakes = udid :: wakes) :
      Deed f .wake { f with wakes } (wakeNotices udid (f.waker f.store udid) (.wakeFailed udid))
  /-- The keeper of the device records ends. -/
  | endDevices {i : Nat} {s : Stamp} {m : Merge} (loop : f.devices.loop = some m)
      (stopped : f.bus.stopped = true) (drained : m.isDrained f.bus = true)
      (stuck : m.step i f.bus = none) : Deed f (.devices i s) { f with devices := .idle } []
  | endPushInfos {now : Instant} {id : Nat} (loop : f.pushInfos.loop = some id)
      (stopped : f.bus.stopped = true) (empty : f.bus.take? id = none) :
      Deed f (.pushInfos now) { f with pushInfos := .idle } []
  | endQueues {now : Instant} {id : Nat} (loop : f.queues.loop = some id)
      (stopped : f.bus.stopped = true) (empty : f.bus.take? id = none) :
      Deed f (.queues now) { f with queues := .idle } []

theorem deed_of_moveDevices {i : Nat} {s : Stamp} (h : f.moveDevices i s = some (f', ns)) :
    Deed f (.devices i s) f' ns := by
  unfold moveDevices at h
  split at h
  · cases h
  · rename_i loop
    split at h
    · rename_i stepped
      cases h
      exact .read loop stepped
    · rename_i stepped
      cases h
      exact .apply loop stepped
    · rename_i stuck
      split at h
      · rename_i ended
        obtain ⟨stopped, drained⟩ := Bool.and_eq_true_iff.1 ended
        cases h
        exact .endDevices loop stopped drained stuck
      · cases h

theorem deed_of_movePushInfos {now : Instant} (h : f.movePushInfos now = some (f', ns)) :
    Deed f (.pushInfos now) f' ns := by
  obtain ⟨id, loop, ⟨e, b, taken, same⟩ | ⟨empty, stopped, same⟩⟩ := consume_eq_some h
  · cases same
    exact .keep loop taken
  · cases same
    exact .endPushInfos loop stopped empty

theorem deed_of_moveQueues {now : Instant} (h : f.moveQueues now = some (f', ns)) :
    Deed f (.queues now) f' ns := by
  obtain ⟨id, loop, ⟨e, b, taken, same⟩ | ⟨empty, stopped, same⟩⟩ := consume_eq_some h
  · cases same
    exact .enqueue loop taken
  · cases same
    exact .endQueues loop stopped empty

theorem deed_of_perform {m : Move} (h : f.perform m = some (f', ns)) : Deed f m f' ns := by
  cases m with
  | dispatch =>
    obtain ⟨⟨b, ws⟩, stepped, same⟩ := Option.map_eq_some_iff.1 h
    cases same
    exact .dispatch stepped
  | expire =>
    obtain ⟨⟨b, ws⟩, expired, same⟩ := Option.map_eq_some_iff.1 h
    cases same
    exact .expire expired
  | devices i s => exact deed_of_moveDevices h
  | pushInfos now => exact deed_of_movePushInfos h
  | queues now => exact deed_of_moveQueues h
  | audit i =>
    simp only [perform, moveAudit] at h
    split at h
    · cases h
    · rename_i listed
      obtain ⟨⟨e, b⟩, taken, same⟩ := Option.map_eq_some_iff.1 h
      cases same
      exact .audit listed taken
  | wake =>
    simp only [perform, moveWake] at h
    split at h
    · cases h
    · rename_i first
      cases h
      exact .wake first

theorem Deed.work {m : Move} (deed : Deed f m f' ns) : Work f f' (f.stampsOf m) (f.timesOf m) := by
  cases deed with
  | dispatch stepped => exact (Bus.turn_of_step stepped).elim .bus
  | expire expired => exact (Bus.turn_of_expire expired).elim .bus
  | read loop stepped =>
    simp only [stampsOf, loop, stepped]
    exact .read loop (Merge.turn_of_step stepped)
  | apply loop stepped =>
    simp only [stampsOf, loop, stepped]
    exact .apply _ loop (Merge.turn_of_step stepped)
  | keep loop taken =>
    simp only [timesOf, loop, taken]
    exact .keep _ loop taken
  | enqueue loop taken => exact .enqueue _ loop taken
  | audit listed taken => exact .audit (List.mem_of_getElem? listed) taken
  | wake => exact .wake _
  | endDevices loop stopped drained stuck =>
    simp only [stampsOf, loop, stuck]
    exact .stop stopped rfl rfl
  | endPushInfos loop stopped empty =>
    simp only [timesOf, loop, empty]
    exact .stop stopped rfl rfl
  | endQueues loop stopped => exact .stop stopped rfl rfl

theorem work_of_perform {m : Move} (h : f.perform m = some (f', ns)) :
    Work f f' (f.stampsOf m) (f.timesOf m) := (deed_of_perform h).work

end DeviceFleet.Fleet
