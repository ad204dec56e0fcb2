import DeviceFleet.Proofs.Fleet.Orders
import DeviceFleet.Proofs.Queue.WellFormed
import DeviceFleet.Proofs.Service.Keepers

/-! The wakes that new commands cause. The keeper of the command queues has three things to do for an
event: it takes the event from the bus, it brings the event into the store, and it asks for a wake if
the queue had no command. Exchanges, clearings of queues and all other work come in between. However
they come, one wake is asked for with each event that took a queue from no command to one, in the order
of these events, and with no other event. -/

namespace DeviceFleet

/-- What the keeper of the command queues has to do. -/
inductive Errand where
  /-- It is free to take an event. -/
  | free
  /-- It holds an event that is to be brought into the store. -/
  | holding (e : Event)
  /-- It has to ask for the wake of a device. -/
  | owing (udid : String)

/-- An event that was brought into the store, with the stores around it. -/
structure Handling where
  event : Event
  before : Store
  after : Store

/-- A fleet at work whose keeper of the queues is watched. -/
structure Watch where
  fleet : Fleet
  errand : Errand
  /-- The events that the keeper has brought into the store. -/
  handled : List Handling
  /-- The devices whose wakes it has asked for. -/
  asked : List String

/-- The errand after an event with which some devices, at most one, are to be woken. -/
def Errand.after : List String → Errand
  | [] => free
  | udid :: _ => owing udid

def Errand.owed : Errand → List String
  | owing udid => [udid]
  | free | holding _ => []

/-- The device whose stored queue the event took from no command to one, if there is one. -/
def Handling.filled? (x : Handling) : Option String :=
  ((CommandEvent.schema.decode x.event.payload).toOption.map (·.udid)).filter fun udid =>
    (Delivery.queueSize x.before udid).toOption = some 0 ∧
      (Delivery.queueSize x.after udid).toOption = some 1

namespace Watch

open Fleet

inductive Act where
  | publish (topic : String) (payload : Bytes)
  | shutdown
  | acknowledge (r : Response) (s : Stamp)
  | clear (udid : String)
  /-- The keeper of the queues takes an event, or ends with the bus. -/
  | take
  /-- It brings the event into the store. -/
  | enqueue (now : Instant)
  /-- It asks for the wake of a device. -/
  | ask
  /-- The first of the devices to be woken is woken, with any answer. -/
  | wake (w : Waker)
  /-- Other work goes on. -/
  | move (m : Move)

def take (h : Watch) : Option Watch :=
  match h.errand, h.fleet.queues.loop with
  | .free, some id => match h.fleet.bus.take? id with
    | some (e, bus) => some { h with fleet := { h.fleet with bus }, errand := .holding e }
    | none =>
      if h.fleet.bus.stopped then some { h with fleet := { h.fleet with queues := .idle } } else none
  | _, _ => none

def enqueue (h : Watch) (now : Instant) : Option Watch :=
  match h.errand with
  | .holding e =>
    let (store, wakes, _) := Delivery.takeCommand h.fleet.store e now
    some { h with
      fleet := { h.fleet with store }
      errand := .after wakes
      handled := h.handled ++ [⟨e, h.fleet.store, store⟩] }
  | _ => none

def ask (h : Watch) : Option Watch :=
  match h.errand with
  | .owing udid => some { h with
      fleet := { h.fleet with wakes := h.fleet.wakes ++ [udid] }
      errand := .free
      asked := h.asked ++ [udid] }
  | _ => none

/-- The fleet after a move other than those of the keeper of the queues and of wakes. -/
def others (f : Fleet) : Move → Option Fleet
  | .queues _ | .wake => none
  | m => (f.perform m).map (·.1)

def act (h : Watch) : Act → Option Watch
  | .publish topic payload => some { h with fleet := (h.fleet.publish topic payload).1 }
  | .shutdown => some { h with fleet := h.fleet.shutdown }
  | .acknowledge r s => some { h with fleet := (h.fleet.acknowledge r s).1.1 }
  | .clear udid => some { h with fleet := (h.fleet.clear udid).1.1 }
  | .take => h.take
  | .enqueue now => h.enqueue now
  | .ask => h.ask
  | .wake w =>
    (perform { h.fleet with waker := w } .wake).map fun (f, _) => { h with fleet := f }
  | .move m => (others h.fleet m).map fun f => { h with fleet := f }

def start (f : Fleet) : Watch := ⟨f, .free, [], []⟩

/-- The devices whose wakes were asked for, and then the one whose wake is still to be asked for. -/
def requests (h : Watch) : List String := h.asked ++ h.errand.owed

def wokenBy (w : Waker) (h : Watch) : Watch := { h with fleet := { h.fleet with waker := w } }

def Act.wokenBy (w : Waker) : Act → Act
  | wake _ => wake w
  | a => a

/-! ### One event -/

theorem queueSize_eq_ok {s : Store} {udid : String} {n : Nat} :
    Delivery.queueSize s udid = .ok n ↔ ∃ q, s.queue udid = .ok q ∧ q.commands.length = n := by
  rw [Delivery.queueSize]
  cases s.queue udid <;> simp [Store.reported, bind, Except.bind, DeviceQueue.size]

/-- An event is of no use and leaves the store as it was, or its command goes to the end of the queue of
its device, which is to be woken if it had none. -/
theorem takeCommand_cases (s : Store) (e : Event) (now : Instant) :
    (∃ error, Keeper.Flaw s e .queues error ∧
      Delivery.takeCommand s e now = (s, [], [.enqueueFailed error])) ∨
    ∃ c q, CommandEvent.schema.decode e.payload = .ok c ∧ s.queue c.udid = .ok q ∧
      Delivery.takeCommand s e now =
        (s.putQueue c.udid (q.push (Delivery.queued c.command now)),
          if q.commands.isEmpty then [c.udid] else [], []) := by
  rw [Delivery.takeCommand]
  cases done : Delivery.onQueues s e now with
  | error error => exact .inl ⟨error, (Keeper.onQueues_eq_error now).1 done, rfl⟩
  | ok r =>
    obtain ⟨t, wake⟩ := r
    obtain ⟨c, q, read, found, rfl, rfl⟩ := Enrolment.onQueues_ok done
    refine .inr ⟨c, q, read, found, ?_⟩
    cases q.commands.isEmpty <;> rfl

theorem takeCommand_flaw {s : Store} {e : Event} {error : Error} (flaw : Keeper.Flaw s e .queues error)
    (now : Instant) : (Delivery.takeCommand s e now).1 = s := by
  rw [Delivery.takeCommand, (Keeper.onQueues_eq_error now).2 flaw]

theorem filled?_of_same {x : Handling} (same : x.after = x.before) : x.filled? = none := by
  rw [Handling.filled?, same, Option.filter_eq_none_iff]
  intro udid _ both
  obtain ⟨zero, one⟩ := of_decide_eq_true both
  cases zero.symm.trans one

/-- The keeper is to ask for a wake just if the event has filled a queue. -/
theorem filled?_takeCommand (s : Store) (e : Event) (now : Instant) :
    (Handling.mk e s (Delivery.takeCommand s e now).1).filled?.toList =
      (Delivery.takeCommand s e now).2.1 := by
  rcases takeCommand_cases s e now with ⟨error, -, done⟩ | ⟨c, q, read, found, done⟩
  · rw [done, filled?_of_same rfl]
    rfl
  · have before := queueSize_eq_ok.2 ⟨q, found, rfl⟩
    have after : Delivery.queueSize
        (s.putQueue c.udid (q.push (Delivery.queued c.command now))) c.udid =
          .ok (q.commands.length + 1) :=
      queueSize_eq_ok.2 ⟨_, (s.queue_putQueue ..).trans (if_pos rfl), by simp [DeviceQueue.push]⟩
    rw [done, Handling.filled?, read]
    simp only [Except.toOption, Option.map_some, before, after, Option.filter_some]
    cases q.commands <;> simp

/-- An event fills no queue but that of its wake. -/
theorem empty_takeCommand {s : Store} {udid : String} (e : Event) (now : Instant)
    (empty : Delivery.queueSize s udid = .ok 0) :
    udid ∈ (Delivery.takeCommand s e now).2.1 ∨
      Delivery.queueSize (Delivery.takeCommand s e now).1 udid = .ok 0 := by
  rcases takeCommand_cases s e now with ⟨error, -, done⟩ | ⟨c, q, read, found, done⟩
  · rw [done]
    exact .inr empty
  · obtain ⟨q₀, found₀, none⟩ := queueSize_eq_ok.1 empty
    rw [done]
    by_cases here : udid = c.udid
    · subst here
      cases found.symm.trans found₀
      simp [List.length_eq_zero_iff.1 none]
    · refine .inr (queueSize_eq_ok.2 ⟨q₀, ?_, none⟩)
      rw [Store.queue_putQueue, if_neg here, found₀]

/-! ### Other work -/

/-- No queue without commands has got one. -/
def Spares (s t : Store) : Prop :=
  ∀ udid, Delivery.queueSize s udid = .ok 0 → Delivery.queueSize t udid = .ok 0

theorem spares_refl (s : Store) : Spares s s := fun _ => id

theorem spares_of_queues {s t : Store} (same : t.queues = s.queues) : Spares s t := by
  intro udid empty
  rwa [Delivery.queueSize, Store.queue_congr (congrArg (·.find? udid) same)]

/-- Exchanges and clearings of queues only take commands out. -/
theorem spares_request (delay : Nat) (s : Store) (i : Delivery.Request)
    (other : ∀ v c now, i ≠ .enqueue v c now) : Spares s (Delivery.perform delay s i).1 := by
  intro udid empty
  obtain ⟨q, found, none⟩ := queueSize_eq_ok.1 empty
  obtain ⟨q', found', moves⟩ := Delivery.moves_perform delay found i
  refine queueSize_eq_ok.2 ⟨q', found', ?_⟩
  generalize (Delivery.perform delay s i).2 = o at moves
  cases moves with
  | refused => exact none
  | elsewhere => exact none
  | enqueue => exact absurd rfl (other _ _ _)
  | exchange _ _ _ _ _ turn => exact Nat.le_zero.1 (none ▸ turn.sublist.length_le)
  | clear => rfl

theorem deed_of_others {f f' : Fleet} {m : Move} (h : others f m = some f') :
    ∃ ns, Deed f m f' ns := by
  have moved : (f.perform m).map (·.1) = some f' := by
    cases m with
    | queues | wake => cases h
    | dispatch | expire | devices | pushInfos | audit => exact h
  obtain ⟨⟨f', ns⟩, done, rfl⟩ := Option.map_eq_some_iff.1 moved
  exact ⟨ns, deed_of_perform done⟩

/-- The other consumers change no queue and ask for no wake. -/
theorem spares_others {f f' : Fleet} {m : Move} (h : others f m = some f') :
    Spares f.store f'.store ∧ f'.wakes = f.wakes := by
  obtain ⟨ns, deed⟩ := deed_of_others h
  cases deed with
  | dispatch => exact ⟨spares_refl _, rfl⟩
  | expire => exact ⟨spares_refl _, rfl⟩
  | read => exact ⟨spares_refl _, rfl⟩
  | apply => exact ⟨spares_of_queues (Enrolment.queues_takeDevice ..), rfl⟩
  | keep => exact ⟨spares_of_queues (Enrolment.queues_takePushInfo ..), rfl⟩
  | enqueue => cases h
  | audit => exact ⟨spares_refl _, rfl⟩
  | wake => cases h
  | endDevices => exact ⟨spares_refl _, rfl⟩
  | endPushInfos => exact ⟨spares_refl _, rfl⟩
  | endQueues => cases h

/-! ### One act -/

inductive Step (h : Watch) : Watch → Prop where
  /-- The keeper has no part in it. -/
  | aside {f : Fleet} (spares : Spares h.fleet.store f.store) (listed : f.wakes <:+ h.fleet.wakes) :
      Step h { h with fleet := f }
  | take {e : Event} {bus : Bus} (free : h.errand = .free) :
      Step h { h with fleet := { h.fleet with bus }, errand := .holding e }
  | enqueue {e : Event} (now : Instant) (held : h.errand = .holding e) :
      Step h { h with
        fleet := { h.fleet with store := (Delivery.takeCommand h.fleet.store e now).1 }
        errand := .after (Delivery.takeCommand h.fleet.store e now).2.1
        handled := h.handled ++
          [⟨e, h.fleet.store, (Delivery.takeCommand h.fleet.store e now).1⟩] }
  | ask {udid : String} (owing : h.errand = .owing udid) :
      Step h { h with
        fleet := { h.fleet with wakes := h.fleet.wakes ++ [udid] }
        errand := .free
        asked := h.asked ++ [udid] }

variable {f : Fleet} {h h' : Watch} {acts : List Act} {udid : String}

/-- The keeper takes an event when it is free to, and ends when the stopped bus has none for it. -/
theorem take_cases (done : h.take = some h') : h.errand = .free ∧
    ∃ id, h.fleet.queues.loop = some id ∧
      ((∃ e bus, h.fleet.bus.take? id = some (e, bus) ∧
          h' = { h with fleet := { h.fleet with bus }, errand := .holding e }) ∨
        h.fleet.bus.take? id = none ∧ h.fleet.bus.stopped = true ∧
          h' = { h with fleet := { h.fleet with queues := .idle } }) := by
  unfold take at done
  split at done
  · rename_i id free loop
    refine ⟨free, id, loop, ?_⟩
    split at done
    · rename_i e bus taken
      exact .inl ⟨e, bus, taken, (Option.some.inj done).symm⟩
    · rename_i empty
      split at done
      · rename_i stopped
        exact .inr ⟨empty, stopped, (Option.some.inj done).symm⟩
      · cases done
  · cases done

theorem enqueue_cases {now : Instant} (done : h.enqueue now = some h') :
    ∃ e, h.errand = .holding e ∧ h' = { h with
      fleet := { h.fleet with store := (Delivery.takeCommand h.fleet.store e now).1 }
      errand := .after (Delivery.takeCommand h.fleet.store e now).2.1
      handled := h.handled ++ [⟨e, h.fleet.store, (Delivery.takeCommand h.fleet.store e now).1⟩] } := by
  unfold enqueue at done
  split at done
  · rename_i e held
    exact ⟨e, held, (Option.some.inj done).symm⟩
  · cases done

theorem ask_cases (done : h.ask = some h') : ∃ udid, h.errand = .owing udid ∧ h' = { h with
    fleet := { h.fleet with wakes := h.fleet.wakes ++ [udid] }
    errand := .free
    asked := h.asked ++ [udid] } := by
  unfold ask at done
  split at done
  · rename_i udid owing
    exact ⟨udid, owing, (Option.some.inj done).symm⟩
  · cases done

theorem step_of_act {a : Act} (done : h.act a = some h') : Step h h' := by
  cases a with
  | publish topic payload =>
    cases done
    exact .aside (spares_refl _) (List.suffix_refl _)
  | shutdown =>
    cases done
    exact .aside (spares_refl _) (List.suffix_refl _)
  | acknowledge r s =>
    cases done
    obtain ⟨b, -, eq⟩ := Orders.acknowledge_eq h.fleet r s
    rw [eq]
    have spares := spares_request h.fleet.delay h.fleet.store (.acknowledge r s.now) (by simp)
    exact .aside spares (List.suffix_refl _)
  | clear udid =>
    cases done
    rw [Orders.clear_eq]
    have spares := spares_request h.fleet.delay h.fleet.store (.clear udid) (by simp)
    exact .aside spares (List.suffix_refl _)
  | take =>
    obtain ⟨free, id, -, ⟨e, bus, -, rfl⟩ | ⟨-, -, rfl⟩⟩ := take_cases done
    · exact .take free
    · exact .aside (spares_refl _) (List.suffix_refl _)
  | enqueue now =>
    obtain ⟨e, held, rfl⟩ := enqueue_cases done
    exact .enqueue now held
  | ask =>
    obtain ⟨udid, owing, rfl⟩ := ask_cases done
    exact .ask owing
  | wake w =>
    obtain ⟨⟨f, ns⟩, moved, rfl⟩ := Option.map_eq_some_iff.1 done
    cases deed_of_perform moved with
    | @wake udid wakes first =>
      have listed : h.fleet.wakes = udid :: wakes := first
      exact .aside (spares_refl _) (listed ▸ List.suffix_cons udid wakes)
  | move m =>
    obtain ⟨f, moved, rfl⟩ := Option.map_eq_some_iff.1 done
    obtain ⟨spares, same⟩ := spares_others moved
    exact .aside spares (same ▸ List.suffix_refl _)

/-! ### Runs -/

/-- What has happened between two moments: wakes were asked for just with the events that filled a queue,
and for each queue that was filled. -/
structure Since (h h' : Watch) (more : List String) : Prop where
  requests : h'.requests = h.requests ++ more
  fillings : h'.handled.filterMap Handling.filled? = h.handled.filterMap Handling.filled? ++ more
  spared : ∀ udid, Delivery.queueSize h.fleet.store udid = .ok 0 →
    udid ∈ more ∨ Delivery.queueSize h'.fleet.store udid = .ok 0

theorem since_refl (h : Watch) : Since h h [] :=
  ⟨(List.append_nil _).symm, (List.append_nil _).symm, fun _ => .inr⟩

theorem Since.trans {h₁ h₂ h₃ : Watch} {more others : List String} (first : Since h₁ h₂ more)
    (rest : Since h₂ h₃ others) : Since h₁ h₃ (more ++ others) where
  requests := by rw [rest.requests, first.requests, List.append_assoc]
  fillings := by rw [rest.fillings, first.fillings, List.append_assoc]
  spared udid empty := by
    rcases first.spared udid empty with filled | empty
    · exact .inl (List.mem_append_left _ filled)
    · exact (rest.spared udid empty).imp_left (List.mem_append_right _)

theorem owed_after (wake : Option String) : (Errand.after wake.toList).owed = wake.toList := by
  cases wake <;> rfl

theorem Step.since (step : Step h h') : ∃ more, Since h h' more := by
  cases step with
  | aside spares =>
    exact ⟨[], (List.append_nil _).symm, (List.append_nil _).symm, fun udid => .inr ∘ spares udid⟩
  | take free =>
    refine ⟨[], ?_, (List.append_nil _).symm, fun _ => .inr⟩
    simp [Watch.requests, free, Errand.owed]
  | @enqueue e now held =>
    refine ⟨(Delivery.takeCommand h.fleet.store e now).2.1, ?_, ?_,
      fun udid => empty_takeCommand e now⟩
    · rw [Watch.requests, Watch.requests, held, ← filled?_takeCommand, owed_after]
      simp [Errand.owed]
    · rw [List.filterMap_append, ← filled?_takeCommand, List.filterMap_cons]
      split <;> simp [*]
  | ask owing =>
    refine ⟨[], ?_, (List.append_nil _).symm, fun _ => .inr⟩
    simp [Watch.requests, owing, Errand.owed]

theorem Step.listed (step : Step h h') (listed : h.fleet.wakes <:+ f.wakes ++ h.asked) :
    h'.fleet.wakes <:+ f.wakes ++ h'.asked := by
  cases step with
  | aside _ fewer => exact fewer.trans listed
  | take => exact listed
  | enqueue => exact listed
  | @ask udid owing =>
    obtain ⟨woken, all⟩ := listed
    exact ⟨woken, by rw [← List.append_assoc, all, List.append_assoc]⟩

/-- Each event was brought into the store that was there. -/
def Told (h : Watch) : Prop :=
  ∀ x ∈ h.handled, ∃ now, x.after = (Delivery.takeCommand x.before x.event now).1

theorem Step.told (step : Step h h') (told : h.Told) : h'.Told := by
  cases step with
  | aside => exact told
  | take => exact told
  | enqueue now =>
    intro x hx
    rcases List.mem_append.1 hx with earlier | last
    · exact told x earlier
    · cases List.mem_singleton.1 last
      exact ⟨now, rfl⟩
  | ask => exact told

theorem run_keeps {P : Watch → Prop} (keeps : ∀ {g g'}, Step g g' → P g → P g')
    (done : acts.foldlM act h = some h') (first : P h) : P h' :=
  Runs.keeps done first fun _ _ _ _ acted => keeps (step_of_act acted)

theorem since_of_run (done : acts.foldlM act h = some h') : ∃ more, Since h h' more := by
  refine run_keeps (P := fun g => ∃ more, Since h g more) ?_ done ⟨[], since_refl h⟩
  intro g g' step since
  obtain ⟨more, since⟩ := since
  obtain ⟨others, later⟩ := step.since
  exact ⟨more ++ others, since.trans later⟩

/-- A wake comes to be owed only where the queue has no command. -/
theorem Step.emptied (step : Step h h') (before : h.errand ≠ .owing udid)
    (owing : h'.errand = .owing udid) : Delivery.queueSize h.fleet.store udid = .ok 0 := by
  cases step with
  | aside => exact absurd owing before
  | take => cases owing
  | ask => cases owing
  | @enqueue e now held =>
    rcases takeCommand_cases h.fleet.store e now with ⟨error, -, done⟩ | ⟨c, q, -, found, done⟩
    · rw [done] at owing
      cases owing
    · rw [done] at owing
      simp only at owing
      split at owing
      · rename_i none
        cases owing
        exact queueSize_eq_ok.2 ⟨q, found, by simpa using none⟩
      · cases owing

/-- Before a wake is owed there is a moment at which the queue has no command. -/
theorem emptied_of_run (done : acts.foldlM act h = some h') (before : h.errand ≠ .owing udid)
    (owing : h'.errand = .owing udid) : ∃ part g, part <+: acts ∧ part.foldlM act h = some g ∧
      Delivery.queueSize g.fleet.store udid = .ok 0 := by
  refine Runs.holds (P := fun acts h' => h'.errand = .owing udid → ∃ part g, part <+: acts ∧
    part.foldlM act h = some g ∧ Delivery.queueSize g.fleet.store udid = .ok 0) done (absurd · before) ?_ owing
  intro past a t t' _ reached acted ih owing
  by_cases already : t.errand = .owing udid
  · obtain ⟨part, g, front, reached, empty⟩ := ih already
    exact ⟨part, g, front.trans (List.prefix_append past [a]), reached, empty⟩
  · exact ⟨past, t, List.prefix_append past [a], reached, (step_of_act acted).emptied already owing⟩

/-! ### Wakers -/

theorem others_wokenBy (w : Waker) {f f' : Fleet} {m : Move} (h : others f m = some f') :
    others { f with waker := w } m = some { f' with waker := w } := by
  obtain ⟨ns, deed⟩ := deed_of_others h
  cases deed with
  | dispatch stepped =>
    simp only [others, perform, onBus, stepped]
    rfl
  | expire expired =>
    simp only [others, perform, onBus, expired]
    rfl
  | read loop stepped =>
    simp only [others, perform, moveDevices, loop, stepped]
    rfl
  | apply loop stepped =>
    simp only [others, perform, moveDevices, loop, stepped]
    rfl
  | keep loop taken =>
    simp only [others, perform, movePushInfos, consume, loop, taken]
    rfl
  | enqueue => cases h
  | audit listed taken =>
    simp only [others, perform, moveAudit, listed, taken]
    rfl
  | wake => cases h
  | endDevices loop stopped drained stuck =>
    simp only [others, perform, moveDevices, loop, stopped, drained, stuck]
    rfl
  | endPushInfos loop stopped empty =>
    simp only [others, perform, movePushInfos, consume, loop, stopped, empty]
    rfl
  | endQueues => cases h

theorem act_wokenBy (w : Waker) {a : Act} (done : h.act a = some h') :
    (h.wokenBy w).act (a.wokenBy w) = some (h'.wokenBy w) := by
  cases a with
  | publish =>
    cases done
    rfl
  | shutdown =>
    cases done
    rfl
  | acknowledge r s =>
    cases done
    simp only [act, Act.wokenBy, wokenBy, Fleet.acknowledge]
    rcases Delivery.acknowledge h.fleet.store r s.now h.fleet.delay with ⟨_ | ⟨_, _⟩, _⟩ <;> rfl
  | clear udid =>
    cases done
    simp only [act, Act.wokenBy, wokenBy, Fleet.clear]
    cases Delivery.clear h.fleet.store udid <;> rfl
  | take =>
    obtain ⟨free, id, loop, ⟨e, bus, taken, rfl⟩ | ⟨empty, stopped, rfl⟩⟩ := take_cases done
    · simp only [act, Act.wokenBy, wokenBy, take, free, loop, taken]
    · simp only [act, Act.wokenBy, wokenBy, take, free, loop, empty, stopped, if_true]
  | enqueue now =>
    obtain ⟨e, held, rfl⟩ := enqueue_cases done
    simp only [act, Act.wokenBy, wokenBy, enqueue, held]
  | ask =>
    obtain ⟨udid, owing, rfl⟩ := ask_cases done
    simp only [act, Act.wokenBy, wokenBy, ask, owing]
  | wake w' =>
    obtain ⟨⟨f, ns⟩, moved, rfl⟩ := Option.map_eq_some_iff.1 done
    cases deed_of_perform moved with
    | wake first =>
      simp only at first
      simp only [act, Act.wokenBy, wokenBy, perform, moveWake, first]
      rfl
  | move m =>
    obtain ⟨f, moved, rfl⟩ := Option.map_eq_some_iff.1 done
    simp only [act, Act.wokenBy, wokenBy, others_wokenBy w moved]
    rfl

/-- Whatever the wakers answer, the same is asked of them, and the queues are the same. -/
theorem run_wokenBy (w : Waker) (done : acts.foldlM act h = some h') :
    (acts.map (·.wokenBy w)).foldlM act (h.wokenBy w) = some (h'.wokenBy w) := by
  refine Runs.holds (P := fun acts h' => (acts.map (·.wokenBy w)).foldlM act (h.wokenBy w) =
    some (h'.wokenBy w)) done rfl fun past a t t' _ _ acted ran => ?_
  rw [List.map_append, List.map_singleton, Runs.foldlM_concat, ran]
  exact act_wokenBy w acted

/-! ### The keeper in one move -/

/-- A move of the keeper is a run of its parts. -/
theorem run_of_perform (free : h.errand = .free) {now : Instant} {f' : Fleet} {ns : List Notice}
    (moved : h.fleet.perform (.queues now) = some (f', ns)) :
    ∃ parts h', parts <+: [.take, .enqueue now, .ask] ∧ parts.foldlM act h = some h' ∧ h'.fleet = f' ∧
      h'.errand = .free := by
  cases deed_of_perform moved with
  | @enqueue _ id e b loop taken =>
    let done := Delivery.takeCommand h.fleet.store e now
    let brought : Watch := { h with
      fleet := { h.fleet with bus := b, store := done.1 }
      errand := .after done.2.1
      handled := h.handled ++ [⟨e, h.fleet.store, done.1⟩] }
    have ran : [.take, .enqueue now].foldlM act h = some brought := by
      simp only [List.foldlM_cons, act, take, free, loop, taken, enqueue, Option.bind_eq_bind, Option.bind_some]
      rfl
    have wakes : done.2.1 = _ := (filled?_takeCommand h.fleet.store e now).symm
    generalize Handling.filled? _ = wake at wakes
    cases wake with
    | none =>
      refine ⟨[.take, .enqueue now], brought, ⟨[.ask], rfl⟩, ran, ?_, congrArg Errand.after wakes⟩
      show brought.fleet = { brought.fleet with wakes := h.fleet.wakes ++ done.2.1 }
      rw [wakes]
      simp [brought]
    | some udid =>
      have owing : brought.errand = .owing udid := congrArg Errand.after wakes
      refine ⟨[.take, .enqueue now, .ask], { brought with
        fleet := { brought.fleet with wakes := h.fleet.wakes ++ done.2.1 }
        errand := .free
        asked := h.asked ++ done.2.1 }, List.prefix_refl _, ?_, rfl, rfl⟩
      rw [show [Act.take, .enqueue now, .ask] = [.take, .enqueue now] ++ [.ask] from rfl,
        List.foldlM_append, ran, Option.bind_eq_bind, Option.bind_some, List.foldlM_cons, act, ask, owing, wakes]
      rfl
  | endQueues loop stopped empty =>
    refine ⟨[.take], { h with fleet := { h.fleet with queues := .idle } },
      ⟨[.enqueue now, .ask], rfl⟩, ?_, rfl, free⟩
    simp only [List.foldlM_cons, act, take, free, loop, empty, stopped, if_true]
    rfl

/-! ### All wakes -/

/-- How the wakes stand when acts have led from `f` to `h`. -/
structure Marks (f : Fleet) (acts : List Act) (h : Watch) : Prop where
  /-- One wake is asked for with each event that filled a queue, in the order of these events. -/
  marked : h.requests = h.handled.filterMap Handling.filled?
  /-- What was asked for is to be done, in its order. -/
  listed : h.fleet.wakes <:+ f.wakes ++ h.asked
  /-- An event that is of no use changes nothing and is no reason for a wake. -/
  refused : ∀ x ∈ h.handled, ∀ error, Keeper.Flaw x.before x.event .queues error →
    x.after = x.before ∧ x.filled? = none
  /-- Between two wakes for one device there is a moment at which its queue has no command. -/
  between : ∀ past mid rest g g' udid, acts = past ++ .ask :: mid ++ .ask :: rest →
    past.foldlM act (start f) = some g → g.errand = .owing udid →
    (past ++ .ask :: mid).foldlM act (start f) = some g' → g'.errand = .owing udid →
    ∃ part e, part <+: mid ∧ (past ++ .ask :: part).foldlM act (start f) = some e ∧
      Delivery.queueSize e.fleet.store udid = .ok 0
  /-- A wake is asked for after the last moment at which the queue of a device had no command. -/
  served : ∀ past rest g udid, acts = past ++ rest → past.foldlM act (start f) = some g →
    Delivery.queueSize g.fleet.store udid = .ok 0 →
    Delivery.queueSize h.fleet.store udid ≠ .ok 0 →
    ∃ more, h.requests = g.requests ++ more ∧ udid ∈ more
  /-- A wake changes no queue, whatever its answer. -/
  woken : ∀ past w rest g g', acts = past ++ .wake w :: rest → past.foldlM act (start f) = some g →
    g.act (.wake w) = some g' → g'.fleet.store = g.fleet.store ∧ g'.requests = g.requests
  /-- All comes as it would with the answers of any other waker. -/
  answers : ∀ w, (acts.map (·.wokenBy w)).foldlM act (start { f with waker := w }) = some (h.wokenBy w)
  /-- What the keeper does in one move it does in its parts. -/
  parts : ∀ now f' ns, h.errand = .free → h.fleet.perform (.queues now) = some (f', ns) →
    ∃ parts h', parts <+: [.take, .enqueue now, .ask] ∧ parts.foldlM act h = some h' ∧ h'.fleet = f' ∧
      h'.errand = .free

theorem run_rest {past rest : List Act} {g : Watch} (split : acts = past ++ rest)
    (done : acts.foldlM act h = some h') (reached : past.foldlM act h = some g) :
    rest.foldlM act g = some h' := by
  rwa [split, List.foldlM_append, reached] at done

/-- Between a wake that was asked for and one that is owed, too, the queue has no command for a moment. -/
theorem emptied_between {past mid : List Act} {g g' : Watch} (first : past.foldlM act h = some g)
    (second : (past ++ .ask :: mid).foldlM act h = some g') (owing : g'.errand = .owing udid) :
    ∃ part e, part <+: mid ∧ (past ++ .ask :: part).foldlM act h = some e ∧
      Delivery.queueSize e.fleet.store udid = .ok 0 := by
  obtain ⟨g₁, asked, rest⟩ := Option.bind_eq_some_iff.1 (run_rest rfl second first)
  have free : g₁.errand = .free := by
    obtain ⟨_, -, rfl⟩ := ask_cases asked
    rfl
  obtain ⟨part, e, front, reached, empty⟩ := emptied_of_run rest (by simp [free]) owing
  refine ⟨part, e, front, ?_, empty⟩
  rw [List.foldlM_append, first, Option.bind_eq_bind, Option.bind_some, List.foldlM_cons, asked]
  exact reached

/-- In every run of a fleet, with any events, exchanges, clearings of queues and answers of wakers: the
wakes that the keeper of the queues asks for mark the events that took the queue of their device from no
command to one. -/
theorem wakes_mark_fillings (done : acts.foldlM act (start f) = some h) : Marks f acts h where
  marked := by
    obtain ⟨more, since⟩ := since_of_run done
    rw [since.requests, since.fillings]
    rfl
  listed := run_keeps Step.listed done ⟨[], (List.append_nil _).symm⟩
  refused x hx error flaw := by
    obtain ⟨now, after⟩ := run_keeps Step.told done (List.forall_mem_nil _) x hx
    have same : x.after = x.before := after.trans (takeCommand_flaw flaw now)
    exact ⟨same, filled?_of_same same⟩
  between past mid rest g g' udid _ first _ second owing := emptied_between first second owing
  served past rest g udid split reached empty busy := by
    obtain ⟨more, since⟩ := since_of_run (run_rest split done reached)
    exact ⟨more, since.requests, (since.spared udid empty).resolve_right busy⟩
  woken past w rest g g' _ _ woken := by
    obtain ⟨⟨f', ns⟩, moved, rfl⟩ := Option.map_eq_some_iff.1 woken
    cases deed_of_perform moved with
    | wake => exact ⟨rfl, rfl⟩
  answers w := run_wokenBy w done
  parts now f' ns free moved := run_of_perform free moved

/-- Five events, four of them for one device. The first finds an empty queue, and the device has done the
command before the wake is asked for; so the same command again finds an empty queue. What is no
command, what is queued already and what comes into a queue with a command is no reason for a wake. No
wake succeeds. -/
theorem wakes_mark_fillings_five :
    ∃ (f : Fleet) (acts : List Act) (h : Watch), acts.foldlM act (start f) = some h ∧
      h.asked = ["D", "D"] ∧
      h.handled.map Handling.filled? = [some "D", some "D", none, none, none] ∧
      Delivery.queueSize h.fleet.store "D" = .ok 2 ∧
      Marks f acts h := by
  let s : Stamp := ⟨"id", .ofNanos 0⟩
  let failing : Waker := fun _ _ => ⟨none, .error (.internal "no transport")⟩
  let report (status : Status) (uuid : Option String) : Act :=
    .acknowledge ⟨"D", none, status, uuid, none, []⟩ s
  let order (uuid : String) (p : Payload) : Act :=
    .publish Topic.command.name (CommandEvent.schema.encode ⟨"id", s.now, "D", ⟨uuid, p⟩⟩)
  let handle : List Act := [.take, .enqueue s.now]
  let acts : List Act :=
    [order "1" .restartDevice, order "1" .restartDevice, .publish Topic.command.name [1, 2, 3],
      order "1" .restartDevice, order "2" .profileList] ++
    List.replicate 20 (.move .dispatch) ++ handle ++
    [report .idle none, report .acknowledged (some "1"), .ask, .wake failing] ++ handle ++
    [.ask, .wake failing] ++ handle ++ handle ++ handle
  let f := Fleet.started .empty ⟨8, .block, 5⟩ failing 0
  have works : (acts.foldlM act (start f)).any (fun h =>
      decide (h.asked = ["D", "D"] ∧
        h.handled.map Handling.filled? = [some "D", some "D", none, none, none] ∧
        Delivery.queueSize h.fleet.store "D" = .ok 2)) := by
    decide +kernel
  obtain ⟨h, done, facts⟩ := (Option.any_eq_true _ _).1 works
  obtain ⟨asked, filled, two⟩ := of_decide_eq_true facts
  exact ⟨f, acts, h, done, asked, filled, two, wakes_mark_fillings done⟩

end Watch

end DeviceFleet
