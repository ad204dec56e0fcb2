import DeviceFleet.Proofs.Fleet.Attends
import DeviceFleet.Proofs.Runs

/-! Starting the keepers. They are started again and again, on a bus in any condition, and end with a bus
that has stopped. A keeper counts as started while its loop goes on; and once the bus has refused it a
subscription it does so for ever, without a loop, so that it cannot be started any more. -/

namespace DeviceFleet

namespace Bus

/-- The reasons for which a bus refuses a subscription. -/
def refusals : List Error := [closedError, limitReached]

theorem subscribe_error {b b' : Bus} {name topic : String} {ws : List Warning} {e : Error}
    (refused : b.subscribe name topic = ((b', ws), .error e)) : e ∈ refusals := by
  rw [subscribe] at refused
  split at refused
  · cases refused
    exact List.mem_cons_self
  · obtain ⟨-, answer⟩ := Prod.mk.inj refused
    split at answer
    · cases answer
    · split at answer <;> cases answer
      · exact List.mem_cons_self
      · exact List.mem_cons_of_mem _ List.mem_cons_self

theorem subscribeAll_error {name : String} {topics : List String} {b b' : Bus} {ws : List Warning}
    {e : Error} (refused : b.subscribeAll name topics = ((b', ws), .error e)) : e ∈ refusals := by
  induction topics generalizing b b' ws with
  | nil => cases refused
  | cons topic topics ih =>
    rw [subscribeAll] at refused
    split at refused
    · rename_i first
      cases refused
      exact subscribe_error first
    · split at refused
      · cases refused
      · rename_i others
        cases refused
        exact ih others

/-- One topic is subscribed to as the only one of a list. -/
theorem subscribeAll_singleton (b : Bus) (name topic : String) :
    b.subscribeAll name [topic] =
      ((b.subscribe name topic).1, (b.subscribe name topic).2.map fun id => [id]) := by
  rw [subscribeAll]
  obtain ⟨⟨b', ws⟩, answer⟩ := b.subscribe name topic
  cases answer with
  | error e => rfl
  | ok id => simp [subscribeAll, Outcome.after, Except.map]

theorem subscribeAll_stopped {b : Bus} (stopped : b.stopped = true) (name topic : String)
    (topics : List String) :
    b.subscribeAll name (topic :: topics) = ((b, []), .error closedError) := by
  rw [subscribeAll, subscribe, if_pos stopped]

end Bus

namespace Keeper

def name : Keeper → String
  | devices => "device-store"
  | pushInfos => "push-info-store"
  | queues => "command-queue"

def topics (k : Keeper) : List String := k.reads.map (·.2)

def alreadyStarted : Keeper → Error
  | devices => Fleet.devicesStarted
  | pushInfos => Fleet.pushInfosStarted
  | queues => Fleet.queuesStarted

theorem alreadyStarted_ne (k : Keeper) : k.alreadyStarted ∉ Bus.refusals := by
  cases k <;> decide

end Keeper

namespace Fleet

def start (f : Fleet) : Keeper → Reply Unit
  | .devices => f.startDevices
  | .pushInfos => f.startPushInfos
  | .queues => f.startQueues

def counts (f : Fleet) : Keeper → Bool
  | .devices => f.devices.started
  | .pushInfos => f.pushInfos.started
  | .queues => f.queues.started

variable {f f' : Fleet} {k : Keeper}

/-! ### One start -/

theorem start_of_counts (started : f.counts k = true) : f.start k = f.refuse k.alreadyStarted := by
  cases k <;> exact if_pos started

/-- The subscriptions of a keeper, and what is answered to them. -/
def enter (f : Fleet) (k : Keeper) : Bus.Outcome × Except Error (List Nat) :=
  f.bus.subscribeAll k.name k.topics

theorem enter_stopped (stopped : f.bus.stopped = true) (k : Keeper) :
    (f.enter k).2 = .error Bus.closedError := by
  cases k <;> exact congrArg Prod.snd (Bus.subscribeAll_stopped stopped _ _ _)

theorem enter_idle (idle : f.bus.Idle) (room : f.bus.count + k.topics.length ≤ Bus.maxSubscriptions) :
    (f.enter k).2 = .ok (List.range' f.bus.nextId k.topics.length) := by
  rw [enter, Bus.subscribeAll_idle idle k.name room]

/-- A keeper that does not count as started does so afterwards, and reads what it was given. -/
theorem start_of_new (new : f.counts k = false) :
    (f.start k).2 = (f.enter k).2.map (fun _ => ()) ∧ (f.start k).1.1.counts k = true ∧
      (f.start k).1.1.reader? k = (f.enter k).2.toOption.map .ofIds := by
  cases k with
  | devices =>
    have fresh : f.devices.started = false := new
    rw [start, startDevices, fresh, if_neg Bool.false_ne_true]
    exact ⟨rfl, rfl, rfl⟩
  | pushInfos =>
    have fresh : f.pushInfos.started = false := new
    have entered : f.enter .pushInfos = _ :=
      Bus.subscribeAll_singleton f.bus "push-info-store" Topic.tokenUpdate.name
    rw [start, startPushInfos, fresh, if_neg Bool.false_ne_true, entered]
    obtain ⟨⟨b, ws⟩, answer⟩ := f.bus.subscribe "push-info-store" Topic.tokenUpdate.name
    cases answer <;> exact ⟨rfl, rfl, rfl⟩
  | queues =>
    have fresh : f.queues.started = false := new
    have entered : f.enter .queues = _ :=
      Bus.subscribeAll_singleton f.bus "command-queue" Topic.command.name
    rw [start, startQueues, fresh, if_neg Bool.false_ne_true, entered]
    obtain ⟨⟨b, ws⟩, answer⟩ := f.bus.subscribe "command-queue" Topic.command.name
    cases answer <;> exact ⟨rfl, rfl, rfl⟩

theorem start_other {j : Keeper} (other : j ≠ k) :
    (f.start j).1.1.counts k = f.counts k ∧ (f.start j).1.1.reader? k = f.reader? k := by
  by_cases started : f.counts j = true
  · rw [start_of_counts started]
    exact ⟨rfl, rfl⟩
  · cases j with
    | devices =>
      rw [start, startDevices, if_neg (show ¬f.devices.started = true from started)]
      cases k <;> first | exact ⟨rfl, rfl⟩ | exact absurd rfl other
    | pushInfos =>
      rw [start, startPushInfos, if_neg (show ¬f.pushInfos.started = true from started)]
      cases k <;> first | exact ⟨rfl, rfl⟩ | exact absurd rfl other
    | queues =>
      rw [start, startQueues, if_neg (show ¬f.queues.started = true from started)]
      cases k <;> first | exact ⟨rfl, rfl⟩ | exact absurd rfl other

/-- In a move a keeper stays as it is, goes on reading, or ends and counts as started no more. -/
theorem counts_move {m : Move} {ns : List Notice} (moved : f.perform m = some (f', ns)) (k : Keeper) :
    (f'.counts k = f.counts k ∧ (f'.reader? k).isSome = (f.reader? k).isSome) ∨
      ((f.reader? k).isSome = true ∧ f'.counts k = false ∧ f'.reader? k = none) := by
  cases deed_of_perform moved with
  | dispatch | expire | keep | enqueue | audit | wake => exact .inl ⟨by cases k <;> rfl, by cases k <;> rfl⟩
  | read loop | apply loop =>
    refine .inl ⟨by cases k <;> rfl, ?_⟩
    cases k with
    | devices => rw [reader?, reader?, loop]; rfl
    | pushInfos | queues => rfl
  | endDevices loop =>
    cases k with
    | devices => exact .inr ⟨by rw [reader?, loop]; rfl, rfl, rfl⟩
    | pushInfos | queues => exact .inl ⟨rfl, rfl⟩
  | endPushInfos loop =>
    cases k with
    | pushInfos => exact .inr ⟨by rw [reader?, loop]; rfl, rfl, rfl⟩
    | devices | queues => exact .inl ⟨rfl, rfl⟩
  | endQueues loop =>
    cases k with
    | queues => exact .inr ⟨by rw [reader?, loop]; rfl, rfl, rfl⟩
    | devices | pushInfos => exact .inl ⟨rfl, rfl⟩

end Fleet

/-- A fleet whose keepers are started, with the answers to the starts so far. -/
structure Starting where
  fleet : Fleet
  answers : List (Keeper × Except Error Unit)

namespace Starting

inductive Act where
  | start (k : Keeper)
  | move (m : Move)
  /-- All but the keepers changes in any way: the bus with its subscriptions, the store, the audits. -/
  | change (g : Fleet)

def act (h : Starting) : Act → Option Starting
  | .start k => some ⟨(h.fleet.start k).1.1, h.answers ++ [(k, (h.fleet.start k).2)]⟩
  | .move m => (h.fleet.perform m).map fun (f, _) => { h with fleet := f }
  | .change g => some { h with fleet := { g with
      devices := h.fleet.devices
      pushInfos := h.fleet.pushInfos
      queues := h.fleet.queues } }

def new (store : Store) (config : BusConfig) (waker : Waker) (delay : Nat) : Starting :=
  ⟨.new store config waker delay, []⟩

/-- A start of the keeper has failed at the bus. -/
def Refused (h : Starting) (k : Keeper) : Prop := ∃ e ∈ Bus.refusals, (k, .error e) ∈ h.answers

structure Stands (h : Starting) (k : Keeper) : Prop where
  counts : h.fleet.counts k = true ↔ (h.fleet.reader? k).isSome = true ∨ h.Refused k
  ended : h.Refused k → h.fleet.reader? k = none

variable {h h' : Starting} {k : Keeper}

/-- An answer of another keeper, or another answer, is no refusal. -/
theorem refused_append {x : Keeper × Except Error Unit} {f : Fleet}
    (other : ∀ e ∈ Bus.refusals, x ≠ (k, .error e)) :
    Refused ⟨f, h.answers ++ [x]⟩ k ↔ h.Refused k := by
  refine ⟨fun ⟨e, he, listed⟩ => ?_, fun ⟨e, he, listed⟩ => ⟨e, he, List.mem_append_left _ listed⟩⟩
  rcases List.mem_append.1 listed with listed | listed
  · exact ⟨e, he, listed⟩
  · exact absurd (List.mem_singleton.1 listed).symm (other e he)

/-- A start that the bus accepts, or that is refused since the keeper counts as started. -/
theorem not_refused_start (answer : ∀ e ∈ Bus.refusals, (h.fleet.start k).2 ≠ .error e) (f : Fleet) :
    Refused ⟨f, h.answers ++ [(k, (h.fleet.start k).2)]⟩ k ↔ h.Refused k :=
  refused_append fun e he eq => answer e he (Prod.mk.inj eq).2

theorem Stands.start (stands : h.Stands k) :
    Stands ⟨(h.fleet.start k).1.1, h.answers ++ [(k, (h.fleet.start k).2)]⟩ k := by
  by_cases started : h.fleet.counts k = true
  · have again := Fleet.start_of_counts started
    have same := not_refused_start (h := h) (k := k) (fun e he eq => by
      rw [again] at eq
      cases eq
      exact k.alreadyStarted_ne he) h.fleet
    rw [again] at same ⊢
    exact ⟨stands.counts.trans (or_congr Iff.rfl same.symm), fun refused => stands.ended (same.1 refused)⟩
  · obtain ⟨answer, counts, reader⟩ := Fleet.start_of_new (Bool.eq_false_iff.2 started)
    have before : ¬h.Refused k := fun refused => started (stands.counts.2 (.inr refused))
    match entered : h.fleet.enter k with
    | (o, .ok ids) =>
      rw [entered] at answer reader
      have same := not_refused_start (h := h) (k := k) (fun e he eq => by
        rw [answer] at eq
        cases eq) (h.fleet.start k).1.1
      exact ⟨iff_of_true counts (.inl (by rw [reader]; rfl)), fun refused => absurd (same.1 refused) before⟩
    | (o, .error e) =>
      rw [entered] at answer reader
      have refused : Refused ⟨(h.fleet.start k).1.1, h.answers ++ [(k, (h.fleet.start k).2)]⟩ k :=
        ⟨e, Bus.subscribeAll_error entered, List.mem_append_right _ (by rw [answer]; exact List.mem_cons_self)⟩
      exact ⟨iff_of_true counts (.inr refused), fun _ => reader⟩

/-- Something else happens, and the keeper stays as it is. -/
theorem Stands.congr (stands : h.Stands k) (counts : h'.fleet.counts k = h.fleet.counts k)
    (reader : (h'.fleet.reader? k).isSome = (h.fleet.reader? k).isSome)
    (refused : h'.Refused k ↔ h.Refused k) : h'.Stands k where
  counts := by rw [counts, reader, refused, stands.counts]
  ended now := by
    rw [← Option.not_isSome_iff_eq_none, reader, Option.not_isSome_iff_eq_none]
    exact stands.ended (refused.1 now)

theorem stands_new (store : Store) (config : BusConfig) (waker : Waker) (delay : Nat) (k : Keeper) :
    (new store config waker delay).Stands k := by
  have none : ¬(new store config waker delay).Refused k := fun ⟨e, _, listed⟩ => List.not_mem_nil listed
  refine ⟨?_, fun refused => absurd refused none⟩
  cases k <;> exact iff_of_false Bool.false_ne_true fun either => either.elim Bool.false_ne_true none

theorem stands_act {a : Act} (done : h.act a = some h') (stands : h.Stands k) : h'.Stands k := by
  cases a with
  | start j =>
    cases done
    by_cases own : j = k
    · exact own ▸ stands.start
    · obtain ⟨counts, reader⟩ := h.fleet.start_other own
      exact stands.congr counts (congrArg _ reader) (refused_append fun e _ eq => own (Prod.mk.inj eq).1)
  | move m =>
    obtain ⟨⟨f, ns⟩, moved, rfl⟩ := Option.map_eq_some_iff.1 done
    rcases Fleet.counts_move moved k with ⟨counts, reader⟩ | ⟨works, counts, reader⟩
    · exact stands.congr counts reader Iff.rfl
    · have before : ¬h.Refused k := fun refused => by
        rw [stands.ended refused] at works
        cases works
      refine ⟨iff_of_false ?_ ?_, fun refused => absurd refused before⟩
      · exact Bool.eq_false_iff.1 counts
      · rw [reader]
        exact fun either => either.elim Bool.false_ne_true before
  | change g =>
    cases done
    exact stands.congr (by cases k <;> rfl) (by cases k <;> rfl) Iff.rfl

theorem refused_act {a : Act} (done : h.act a = some h') (refused : h.Refused k) : h'.Refused k := by
  obtain ⟨e, he, listed⟩ := refused
  refine ⟨e, he, ?_⟩
  cases a with
  | start j =>
    cases done
    exact List.mem_append_left _ listed
  | move m =>
    obtain ⟨_, _, rfl⟩ := Option.map_eq_some_iff.1 done
    exact listed
  | change g =>
    cases done
    exact listed

theorem stands_run {acts : List Act} (done : acts.foldlM act h = some h') (stands : h.Stands k) :
    h'.Stands k :=
  Runs.keeps (P := (·.Stands k)) done stands fun _ _ _ _ => stands_act

theorem refused_run {acts : List Act} (done : acts.foldlM act h = some h') (refused : h.Refused k) :
    h'.Refused k :=
  Runs.keeps (P := (·.Refused k)) done refused fun _ _ _ _ => refused_act

/-- In every run of starts, on a bus in any condition, a keeper counts as started just while it has a loop
or if the bus has refused it a start. As long as the bus has not, it counts as started just while it has a
loop, and when it has none, a start does what the bus answers: it fails with the reason of the bus, or
succeeds and gives the keeper a loop. Once the bus has refused, the keeper counts as started for ever, has
no loop, and every start fails and changes nothing. A stopped bus refuses; one that is idle and has room
does not. -/
theorem started_iff {store : Store} {config : BusConfig} {waker : Waker} {delay : Nat}
    {acts : List Act} (done : acts.foldlM act (new store config waker delay) = some h) (k : Keeper) :
    (h.fleet.counts k = true ↔ (h.fleet.reader? k).isSome = true ∨ h.Refused k) ∧
    (¬h.Refused k → (h.fleet.counts k = true ↔ (h.fleet.reader? k).isSome = true) ∧
      (h.fleet.reader? k = none → (h.fleet.start k).2 = (h.fleet.enter k).2.map (fun _ => ()) ∧
        (h.fleet.start k).1.1.reader? k = (h.fleet.enter k).2.toOption.map .ofIds)) ∧
    (h.Refused k → ∀ (acts' : List Act) h', acts'.foldlM act h = some h' → h'.fleet.counts k = true ∧
      h'.fleet.reader? k = none ∧ h'.fleet.start k = h'.fleet.refuse k.alreadyStarted) ∧
    (h.fleet.counts k = true → h.fleet.start k = h.fleet.refuse k.alreadyStarted) ∧
    (h.fleet.bus.stopped = true → (h.fleet.enter k).2 = .error Bus.closedError) ∧
    (h.fleet.bus.Idle → h.fleet.bus.count + k.topics.length ≤ Bus.maxSubscriptions →
      ∃ ids, (h.fleet.enter k).2 = .ok ids) := by
  have stands : h.Stands k := stands_run done (stands_new store config waker delay k)
  refine ⟨stands.counts, fun accepted => ?_, fun refused acts' h' after => ?_, Fleet.start_of_counts,
    fun stopped => Fleet.enter_stopped stopped k, fun idle room => ⟨_, Fleet.enter_idle idle room⟩⟩
  · have counts : h.fleet.counts k = true ↔ (h.fleet.reader? k).isSome = true :=
      stands.counts.trans (or_iff_left accepted)
    refine ⟨counts, fun none => ?_⟩
    have fresh : h.fleet.counts k = false := by
      rw [Bool.eq_false_iff, ne_eq, counts, none]
      exact Bool.false_ne_true
    obtain ⟨answer, -, reader⟩ := Fleet.start_of_new fresh
    exact ⟨answer, reader⟩
  · have later : h'.Stands k := stands_run after stands
    have still : h'.Refused k := refused_run after refused
    have counts := later.counts.2 (.inr still)
    exact ⟨counts, later.ended still, Fleet.start_of_counts counts⟩

/-- The keeper of the push credentials is started on a stopped bus, after that of the queues was started
and has ended with the bus. -/
theorem started_iff_stopped : ∃ (acts : List Act) (h : Starting),
    acts.foldlM act (new .empty ⟨4, .block, 5⟩ (fun _ _ => ⟨none, .ok ""⟩) 0) = some h ∧
    h.answers = [(.queues, .ok ()), (.pushInfos, .error Bus.closedError)] ∧
    (h.fleet.counts .queues = true ↔ (h.fleet.reader? .queues).isSome = true ∨ h.Refused .queues) ∧
    (h.fleet.counts .pushInfos = true ↔
      (h.fleet.reader? .pushInfos).isSome = true ∨ h.Refused .pushInfos) ∧
    h.fleet.counts .queues = false ∧ h.fleet.counts .pushInfos = true ∧
    h.fleet.reader? .pushInfos = none := by
  let f := Fleet.new .empty ⟨4, .block, 5⟩ (fun _ _ => ⟨none, .ok ""⟩) 0
  let g : Fleet := { f with
    bus := f.bus.joined "command-queue" Topic.command.name
    queues := ⟨true, some 0⟩ }
  let rest : List Act :=
    [.change f.shutdown, .move .dispatch, .start .pushInfos, .move (.queues (.ofNanos 0))]
  have started : f.start .queues = ((g, []), .ok ()) :=
    Fleet.startQueues_idle rfl ⟨rfl, rfl, rfl⟩ (by decide)
  have first : act ⟨f, []⟩ (.start .queues) = some ⟨g, [(.queues, .ok ())]⟩ := by
    rw [act, started]
    rfl
  have done : (.start .queues :: rest).foldlM act ⟨f, []⟩ = rest.foldlM act ⟨g, [(.queues, .ok ())]⟩ := by
    rw [List.foldlM_cons, first]
    rfl
  obtain ⟨h, last, facts⟩ : ∃ h, rest.foldlM act ⟨g, [(.queues, .ok ())]⟩ = some h ∧
      h.answers = [(.queues, .ok ()), (.pushInfos, .error Bus.closedError)] ∧
      h.fleet.counts .queues = false ∧ h.fleet.counts .pushInfos = true ∧
      h.fleet.reader? .pushInfos = none := ⟨_, rfl, rfl, rfl, rfl, rfl⟩
  have whole := done.trans last
  exact ⟨_, h, whole, facts.1, (started_iff whole .queues).1, (started_iff whole .pushInfos).1, facts.2⟩

/-- A start that is refused leaves the keeper of the device records without a loop, but as one that counts
as started, and so it cannot be started even on a new bus, which would accept it. -/
theorem started_without_loop : ∃ (acts : List Act) (h h' : Starting),
    acts.foldlM act (new .empty ⟨4, .block, 5⟩ (fun _ _ => ⟨none, .ok ""⟩) 0) = some h ∧
    h.answers = [(.devices, .error Bus.closedError)] ∧
    h.fleet.counts .devices = true ∧ h.fleet.reader? .devices = none ∧
    [.change (.new .empty ⟨4, .block, 5⟩ (fun _ _ => ⟨none, .ok ""⟩) 0)].foldlM act h = some h' ∧
    (h'.fleet.enter .devices).2 = .ok [0, 1, 2] ∧
    (h'.fleet.start .devices).2 = .error Fleet.devicesStarted := by
  let f := Fleet.new .empty ⟨4, .block, 5⟩ (fun _ _ => ⟨none, .ok ""⟩) 0
  exact ⟨[.change f.shutdown, .move .dispatch, .start .devices], _, _, rfl, rfl, rfl, rfl, rfl,
    Fleet.enter_idle ⟨rfl, rfl, rfl⟩ (by decide), rfl⟩

end Starting

end DeviceFleet
