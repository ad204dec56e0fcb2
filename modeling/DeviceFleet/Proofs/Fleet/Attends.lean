import DeviceFleet.Proofs.Bus.Reader
import DeviceFleet.Proofs.Fleet.Moves
import DeviceFleet.Proofs.Fleet.Start
import DeviceFleet.Proofs.Service.Keepers

/-! The keepers at the bus. Each reads subscriptions of its own. Whatever is in the events, it is at work
until the bus stops, and it has no more to do only when it has taken every event that was delivered to
it, in the order of delivery. -/

namespace DeviceFleet

def Move.keeper? : Move → Option Keeper
  | .devices _ _ => some .devices
  | .pushInfos _ => some .pushInfos
  | .queues _ => some .queues
  | _ => none

namespace Keeper

def reads : Keeper → List (Nat × String)
  | devices => Fleet.deviceSubs
  | pushInfos => Fleet.pushSubs
  | queues => [(4, Topic.command.name)]

def subs (k : Keeper) : List Nat := k.reads.map (·.1)

def move (k : Keeper) (i : Nat) (s : Stamp) : Move :=
  match k with
  | devices => .devices i s
  | pushInfos => .pushInfos s.now
  | queues => .queues s.now

theorem subs_disjoint {j k : Keeper} (other : j ≠ k) {id : Nat} (h : id ∈ j.subs) : id ∉ k.subs := by
  cases j <;> cases k <;> simp_all [subs, reads, Fleet.deviceSubs, Fleet.pushSubs] <;> omega

theorem le_of_mem_subs {k : Keeper} {id : Nat} (h : id ∈ k.subs) : id ≤ 4 := by
  cases k <;> simp [subs, reads, Fleet.deviceSubs, Fleet.pushSubs] at h <;> omega

end Keeper

/-! ### Buses -/

namespace Bus

variable {b b' : Bus} {kept : List Nat}

theorem arrivals_take {id : Nat} {e : Event} (taken : b.take? id = some (e, b')) :
    arrivals kept b b' = [] := by
  obtain ⟨first, others, -, -⟩ := queueOf_take taken
  refine List.flatMap_eq_nil_iff.2 fun k _ => List.drop_eq_nil_of_le ?_
  by_cases here : k = id
  · simp [here, first]
  · rw [others k here]

/-- A stopped bus stays so, and delivers nothing. -/
theorem stopped_change (change : Change kept b b') (stopped : b.stopped = true) :
    b'.stopped = true ∧ arrivals kept b b' = [] := by
  constructor
  · cases change with
    | turn running => simp [stopped] at running
    | publish => simp [publish, stopped]
    | request running => simp [stopped] at running
    | shutdown => simp [shutdown, stopped]
    | take _ taken =>
      obtain ⟨_, _, _, _, rfl⟩ := take?_eq taken
      exact stopped
    | close => exact stopped
  · rcases quiet_change change with ⟨running, -⟩ | ⟨queues, -⟩
    · simp [stopped] at running
    · exact arrivals_of_same queues

end Bus

theorem Merge.step_ofIds {b : Bus} {id : Nat} (empty : b.take? id = none) (i : Nat) :
    (ofIds [id]).step i b = none := by
  cases i <;> simp [ofIds, step, Feed.select?, empty]

theorem Merge.isDrained_ofIds {b : Bus} {id : Nat} (empty : b.take? id = none) :
    (ofIds [id]).isDrained b = true := by
  simp [isDrained, ofIds, feeds, empty]

namespace Fleet

/-- How a keeper reads, while its loop goes on. -/
def reader? (f : Fleet) : Keeper → Option Merge
  | .devices => f.devices.loop
  | .pushInfos => f.pushInfos.loop.map fun id => .ofIds [id]
  | .queues => f.queues.loop.map fun id => .ofIds [id]

/-- What a keeper takes in a move, with the stamp of its application. -/
def takes (f : Fleet) : Move → Keeper → List (Event × Stamp)
  | .devices i s, .devices => match f.devices.loop.bind (·.step i f.bus) with
    | some (_, _, some e) => [(e, s)]
    | _ => []
  | .pushInfos now, .pushInfos => match f.pushInfos.loop.bind f.bus.take? with
    | some (e, _) => [(e, ⟨"", now⟩)]
    | none => []
  | .queues now, .queues => match f.queues.loop.bind f.bus.take? with
    | some (e, _) => [(e, ⟨"", now⟩)]
    | none => []
  | _, _ => []

def Rests (f : Fleet) (k : Keeper) : Prop := ∀ i s, f.perform (k.move i s) = none

/-- How a keeper stands to the events that were delivered to it and those that it has taken. -/
inductive Attends (f : Fleet) (k : Keeper) (delivered taken : List Event) : Prop where
  | works {m : Merge} (reader : f.reader? k = some m) (ids : Feed.ids m.feeds = k.subs)
      (stands : Reader.Stands ⟨f.bus, m, delivered, taken⟩)
  | ended (reader : f.reader? k = none) (stopped : f.bus.stopped = true) (all : taken = delivered)

variable {f f' : Fleet} {k : Keeper} {delivered taken : List Event}

namespace Attends

theorem change (h : f.Attends k delivered taken) (reader : f'.reader? k = f.reader? k)
    (change : Bus.Change k.subs f.bus f'.bus) :
    f'.Attends k (delivered ++ Bus.arrivals k.subs f.bus f'.bus) taken := by
  cases h with
  | works there ids stands =>
    rw [← ids] at change ⊢
    exact .works (reader.trans there) ids (Reader.stands_bus stands change)
  | ended missing stopped all =>
    obtain ⟨still, none⟩ := Bus.stopped_change change stopped
    rw [none, List.append_nil]
    exact .ended (reader.trans missing) still all

theorem other (h : f.Attends k delivered taken) (reader : f'.reader? k = f.reader? k)
    (bus : f'.bus = f.bus ∨ ∃ id, id ∉ k.subs ∧ ∃ e, f.bus.take? id = some (e, f'.bus)) :
    f'.Attends k (delivered ++ Bus.arrivals k.subs f.bus f'.bus) taken := by
  rcases bus with same | ⟨id, apart, e, first⟩
  · rw [same, Bus.arrivals_of_same fun _ _ => rfl, List.append_nil]
    cases h with
    | works there ids stands => exact .works (reader.trans there) ids (same ▸ stands)
    | ended missing stopped all => exact .ended (reader.trans missing) (same ▸ stopped) all
  · exact h.change reader (.take apart first)

theorem read {m m' : Merge} {b : Bus} {out : Option Event} (h : f.Attends .devices delivered taken)
    (loop : f.devices.loop = some m) (turn : Merge.Turn f.bus m m' b out) (bus : f'.bus = b)
    (loop' : f'.devices.loop = some m') :
    f'.Attends .devices (delivered ++ Bus.arrivals Keeper.devices.subs f.bus f'.bus)
      (taken ++ out.toList) := by
  subst bus
  have none : Bus.arrivals Keeper.devices.subs f.bus f'.bus = [] := by
    rcases turn.bus with same | ⟨id, -, e, first⟩
    · rw [same]
      exact Bus.arrivals_of_same fun _ _ => rfl
    · exact Bus.arrivals_take first
  rw [none, List.append_nil]
  cases h with
  | works there ids stands =>
    cases there.symm.trans loop
    exact .works loop' (turn.ids.trans ids) (Reader.stands_read stands turn)
  | ended missing => cases missing.symm.trans loop

theorem pass_on {id : Nat} {e : Event} (h : f.Attends k delivered taken)
    (loop : f.reader? k = some (.ofIds [id])) (first : f.bus.take? id = some (e, f'.bus))
    (loop' : f'.reader? k = some (.ofIds [id])) :
    f'.Attends k (delivered ++ Bus.arrivals k.subs f.bus f'.bus) (taken ++ [e]) := by
  rw [Bus.arrivals_take first, List.append_nil]
  cases h with
  | works there ids stands =>
    cases there.symm.trans loop
    exact .works loop' ids ⟨stands.merged.pass_on first, nofun⟩
  | ended missing => cases missing.symm.trans loop

/-- A keeper that holds nothing and can take nothing ends with the bus. -/
theorem stop {m : Merge} (h : f.Attends k delivered taken) (loop : f.reader? k = some m)
    (drained : m.isDrained f.bus = true) (stopped : f.bus.stopped = true) (bus : f'.bus = f.bus)
    (loop' : f'.reader? k = none) :
    f'.Attends k (delivered ++ Bus.arrivals k.subs f.bus f'.bus) taken := by
  rw [bus, Bus.arrivals_of_same fun _ _ => rfl, List.append_nil]
  cases h with
  | works there ids stands =>
    cases there.symm.trans loop
    exact .ended loop' (bus ▸ stopped) (Reader.given_of_drained stands drained)
  | ended missing => cases missing.symm.trans loop

theorem stopped (h : f.Attends k delivered taken) (reader : f.reader? k = none) :
    f.bus.stopped = true := by
  cases h with
  | works there => cases there.symm.trans reader
  | ended _ stopped => exact stopped

theorem ids {m : Merge} (h : f.Attends k delivered taken) (loop : f.reader? k = some m) :
    Feed.ids m.feeds = k.subs := by
  cases h with
  | works there ids =>
    cases there.symm.trans loop
    exact ids
  | ended missing => cases missing.symm.trans loop

end Attends

/-! ### Moves -/

theorem Deed.audits {m : Move} {ns : List Notice} (deed : Deed f m f' ns) : f'.audits = f.audits := by
  cases deed <;> rfl

theorem takes_other {m : Move} (other : m.keeper? ≠ some k) : f.takes m k = [] := by
  cases m <;> cases k <;> first | rfl | exact absurd rfl other

/-- If the keeper that moves takes nothing, no keeper does. -/
theorem takes_eq_nil {j : Keeper} {m : Move} (mover : m.keeper? = some j) (own : f.takes m j = [])
    (k : Keeper) : f.takes m k = [] := by
  by_cases same : j = k
  · exact same ▸ own
  · exact takes_other fun mover' => same (Option.some.inj (mover.symm.trans mover'))

theorem takes_devices {i : Nat} {s : Stamp} {m m' : Merge} {b : Bus} {out : Option Event}
    (loop : f.devices.loop = some m) (stepped : m.step i f.bus = some (m', b, out)) :
    f.takes (.devices i s) .devices = out.toList.map fun e => (e, s) := by
  cases out <;> simp [takes, loop, stepped]

theorem takes_pushInfos {now : Instant} {id : Nat} (loop : f.pushInfos.loop = some id) :
    f.takes (.pushInfos now) .pushInfos =
      (f.bus.take? id).toList.map fun x => (x.1, ⟨"", now⟩) := by
  cases first : f.bus.take? id <;> simp [takes, loop, first]

theorem takes_queues {now : Instant} {id : Nat} (loop : f.queues.loop = some id) :
    f.takes (.queues now) .queues = (f.bus.take? id).toList.map fun x => (x.1, ⟨"", now⟩) := by
  cases first : f.bus.take? id <;> simp [takes, loop, first]

theorem reader?_pushInfos {id : Nat} (loop : f.pushInfos.loop = some id) :
    f.reader? .pushInfos = some (.ofIds [id]) := by rw [reader?, loop, Option.map_some]

theorem reader?_queues {id : Nat} (loop : f.queues.loop = some id) :
    f.reader? .queues = some (.ofIds [id]) := by rw [reader?, loop, Option.map_some]

theorem takes_of_impossible {m : Move} (h : f.perform m = none) (k : Keeper) : f.takes m k = [] := by
  cases m with
  | dispatch | expire | audit | wake => exact takes_other nofun
  | devices i s =>
    refine takes_eq_nil rfl ?_ k
    cases loop : f.devices.loop with
    | none => simp [takes, loop]
    | some m =>
      cases stepped : m.step i f.bus with
      | none => simp [takes, loop, stepped]
      | some r =>
        obtain ⟨m', b, out⟩ := r
        simp only [perform, moveDevices, loop, stepped] at h
        cases out <;> cases h
  | pushInfos now =>
    refine takes_eq_nil rfl ?_ k
    cases loop : f.pushInfos.loop with
    | none => simp [takes, loop]
    | some id =>
      cases first : f.bus.take? id with
      | none => simp [takes, loop, first]
      | some r => simp [perform, movePushInfos, consume, loop, first] at h
  | queues now =>
    refine takes_eq_nil rfl ?_ k
    cases loop : f.queues.loop with
    | none => simp [takes, loop]
    | some id =>
      cases first : f.bus.take? id with
      | none => simp [takes, loop, first]
      | some r => simp [perform, moveQueues, consume, loop, first] at h

/-- In a move of its own a keeper takes an event, goes on in a round or ends. -/
theorem attends_own {m : Move} {ns : List Notice} (h : f.Attends k delivered taken)
    (deed : Deed f m f' ns) (own : m.keeper? = some k) :
    f'.Attends k (delivered ++ Bus.arrivals k.subs f.bus f'.bus) (taken ++ (f.takes m k).map (·.1)) := by
  cases deed with
  | dispatch | expire | audit | wake => cases own
  | read loop stepped =>
    cases own
    rw [takes_devices loop stepped]
    exact h.read loop (Merge.turn_of_step stepped) rfl rfl
  | apply loop stepped =>
    cases own
    rw [takes_devices loop stepped]
    exact h.read loop (Merge.turn_of_step stepped) rfl rfl
  | keep loop first =>
    cases own
    rw [takes_pushInfos loop, first]
    exact h.pass_on (reader?_pushInfos loop) first (reader?_pushInfos loop)
  | enqueue loop first =>
    cases own
    rw [takes_queues loop, first]
    exact h.pass_on (reader?_queues loop) first (reader?_queues loop)
  | endDevices loop stopped drained stuck =>
    cases own
    simp only [takes, loop, Option.bind_some, stuck, List.map_nil, List.append_nil]
    exact h.stop loop drained stopped rfl rfl
  | endPushInfos loop stopped empty =>
    cases own
    rw [takes_pushInfos loop, empty, Option.toList_none, List.map_nil, List.map_nil, List.append_nil]
    exact h.stop (reader?_pushInfos loop) (Merge.isDrained_ofIds empty) stopped rfl rfl
  | endQueues loop stopped empty =>
    cases own
    rw [takes_queues loop, empty, Option.toList_none, List.map_nil, List.map_nil, List.append_nil]
    exact h.stop (reader?_queues loop) (Merge.isDrained_ofIds empty) stopped rfl rfl

theorem attends_other {m : Move} {ns : List Notice} (h : f.Attends k delivered taken)
    (readers : ∀ j m, f.reader? j = some m → Feed.ids m.feeds = j.subs)
    (audits : ∀ x ∈ f.audits, 4 < x.1) (deed : Deed f m f' ns) (other : m.keeper? ≠ some k) :
    f'.Attends k (delivered ++ Bus.arrivals k.subs f.bus f'.bus) taken := by
  have reader : f'.reader? k = f.reader? k := by
    cases deed <;> cases k <;> first | rfl | exact absurd rfl other
  have foreign {j : Keeper} {m' : Merge} (mover : m.keeper? = some j) (loop : f.reader? j = some m')
      (bus : f'.bus = f.bus ∨ ∃ id ∈ Feed.ids m'.feeds, ∃ e, f.bus.take? id = some (e, f'.bus)) :
      f'.Attends k (delivered ++ Bus.arrivals k.subs f.bus f'.bus) taken := by
    have differs : j ≠ k := fun same => other (mover.trans (congrArg some same))
    refine h.other reader (bus.imp_right fun ⟨id, own, first⟩ => ⟨id, ?_, first⟩)
    exact Keeper.subs_disjoint differs (readers j m' loop ▸ own)
  cases deed with
  | dispatch stepped =>
    obtain ⟨running, turn⟩ := Bus.turn_of_step stepped
    exact h.change reader (.turn running turn)
  | expire expired =>
    obtain ⟨running, turn⟩ := Bus.turn_of_expire expired
    exact h.change reader (.turn running turn)
  | read loop stepped => exact foreign rfl loop (Merge.turn_of_step stepped).bus
  | apply loop stepped => exact foreign rfl loop (Merge.turn_of_step stepped).bus
  | keep loop first =>
    exact foreign rfl (reader?_pushInfos loop) (.inr ⟨_, List.mem_singleton_self _, _, first⟩)
  | enqueue loop first =>
    exact foreign rfl (reader?_queues loop) (.inr ⟨_, List.mem_singleton_self _, _, first⟩)
  | audit listed first =>
    have later := audits _ (List.mem_of_getElem? listed)
    refine h.other reader (.inr ⟨_, fun own => ?_, _, first⟩)
    exact absurd (Keeper.le_of_mem_subs own) (Nat.not_le_of_gt later)
  | wake | endDevices | endPushInfos | endQueues => exact h.other reader (.inl rfl)

/-- Whatever move is made, and whatever is in the events. -/
theorem attends_move {m : Move} {ns : List Notice} (h : f.Attends k delivered taken)
    (readers : ∀ j m, f.reader? j = some m → Feed.ids m.feeds = j.subs)
    (audits : ∀ x ∈ f.audits, 4 < x.1) (deed : Deed f m f' ns) :
    f'.Attends k (delivered ++ Bus.arrivals k.subs f.bus f'.bus)
      (taken ++ (f.takes m k).map (·.1)) := by
  by_cases own : m.keeper? = some k
  · exact attends_own h deed own
  · rw [takes_other own, List.map_nil, List.append_nil]
    exact attends_other h readers audits deed own

/-- A keeper that has nothing to do has taken all events that were delivered to it. -/
theorem Attends.all_taken (h : f.Attends k delivered taken) (rests : f.Rests k) : taken = delivered := by
  cases h with
  | ended missing stopped all => exact all
  | @works m reader ids stands =>
    have stuck (i : Nat) : m.step i f.bus = none := by
      have rest := rests i ⟨"", .ofNanos 0⟩
      cases k with
      | devices =>
        have loop : f.devices.loop = some m := reader
        cases stepped : m.step i f.bus with
        | none => rfl
        | some r =>
          obtain ⟨m', b, out⟩ := r
          simp only [Keeper.move, perform, moveDevices, loop, stepped] at rest
          cases out <;> cases rest
      | pushInfos =>
        obtain ⟨id, loop, rfl⟩ := Option.map_eq_some_iff.1 reader
        refine Merge.step_ofIds (Option.eq_none_iff_forall_ne_some.2 fun r first => ?_) i
        simp [Keeper.move, perform, movePushInfos, consume, loop, first] at rest
      | queues =>
        obtain ⟨id, loop, rfl⟩ := Option.map_eq_some_iff.1 reader
        refine Merge.step_ofIds (Option.eq_none_iff_forall_ne_some.2 fun r first => ?_) i
        simp [Keeper.move, perform, moveQueues, consume, loop, first] at rest
    exact Reader.given_of_drained stands (Reader.drained_of_stuck stands stuck)

theorem attends_started (store : Store) (config : BusConfig) (waker : Waker) (delay : Nat) (k : Keeper) :
    (started store config waker delay).Attends k [] [] := by
  have sound := Bus.sound_of_leads (leads_started store config waker delay [])
  have follows : (started store config waker delay).bus.Follows k.reads := by
    intro p hp
    cases k <;> fin_cases hp <;> exact ⟨_, rfl, rfl, rfl⟩
  have stands := Reader.stands_start sound (follows.keeps (by cases k <;> decide)) (by cases k <;> decide)
  rw [Reader.start_of_empty (by cases k <;> rfl)] at stands
  exact .works (by cases k <;> rfl) (Reader.ids_ofIds k.subs) stands

end Fleet

end DeviceFleet
