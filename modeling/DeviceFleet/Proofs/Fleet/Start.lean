import DeviceFleet.Fleet.Moves
import DeviceFleet.Proofs.Bus.Line
import DeviceFleet.Proofs.Bus.Subscribe

/-! The fleet right after its start. The subscriptions of the consumers are registered one after
another on a bus that has nothing else to do. -/

namespace DeviceFleet

def Fleet.deviceSubs : List (Nat × String) :=
  [(0, Topic.authenticate.name), (1, Topic.tokenUpdate.name), (2, Topic.checkOut.name)]

def Fleet.pushSubs : List (Nat × String) := [(3, Topic.tokenUpdate.name)]

namespace Fleet

/-! ### One consumer at a time -/

variable {f : Fleet}

theorem startDevices_idle (new : f.devices.started = false) (idle : f.bus.Idle)
    (room : f.bus.count + 3 ≤ Bus.maxSubscriptions) :
    f.startDevices =
      (({ f with
        bus := (deviceSubs.map (·.2)).foldl (·.joined "device-store" ·) f.bus
        devices := ⟨true, some (.ofIds (List.range' f.bus.nextId 3))⟩ }, []), .ok ()) := by
  have subscribed := Bus.subscribeAll_idle idle "device-store"
    (show f.bus.count + ([Topic.authenticate, .tokenUpdate, .checkOut].map Topic.name).length ≤
      Bus.maxSubscriptions from room)
  rw [startDevices, new, if_neg Bool.false_ne_true]
  simp only [subscribed]
  rfl

theorem startPushInfos_idle (new : f.pushInfos.started = false) (idle : f.bus.Idle)
    (room : f.bus.count < Bus.maxSubscriptions) :
    f.startPushInfos =
      (({ f with
        bus := f.bus.joined "push-info-store" Topic.tokenUpdate.name
        pushInfos := ⟨true, some f.bus.nextId⟩ }, []), .ok ()) := by
  rw [startPushInfos, new, if_neg Bool.false_ne_true, Bus.subscribe_idle idle room]
  rfl

theorem startQueues_idle (new : f.queues.started = false) (idle : f.bus.Idle)
    (room : f.bus.count < Bus.maxSubscriptions) :
    f.startQueues =
      (({ f with
        bus := f.bus.joined "command-queue" Topic.command.name
        queues := ⟨true, some f.bus.nextId⟩ }, []), .ok ()) := by
  rw [startQueues, new, if_neg Bool.false_ne_true, Bus.subscribe_idle idle room]
  rfl

theorem startAudit_idle (idle : f.bus.Idle) (room : f.bus.count + 2 ≤ Bus.maxSubscriptions) :
    f.startAudit =
      (({ f with
        bus := [Topic.command.name, Topic.connect.name].foldl (·.joined "audit" ·) f.bus
        audits := f.audits ++ [(f.bus.nextId, .commands), (f.bus.nextId + 1, .connects)] }, []),
      .ok ()) := by
  have subscribed := Bus.subscribeAll_idle idle "audit"
    (show f.bus.count + ([Topic.command, .connect].map Topic.name).length ≤ Bus.maxSubscriptions
      from room)
  simp only [startAudit, subscribed]
  rfl

/-! ### All consumers -/

variable (store : Store) (config : BusConfig) (waker : Waker) (delay : Nat)

/-- A fleet whose consumers have been started and have done nothing yet. -/
def started : Fleet where
  waker
  delay
  store
  bus :=
    let row := (⟨·, ·, Topic.name ·, [], true, 0, 0⟩ : Nat → String → Topic → Subscriber)
    { Bus.new config with
      table := [row 0 "device-store" .authenticate, row 1 "device-store" .tokenUpdate,
        row 2 "device-store" .checkOut, row 3 "push-info-store" .tokenUpdate,
        row 4 "command-queue" .command, row 5 "audit" .command, row 6 "audit" .connect]
      count := 7
      nextId := 7 }
  devices := ⟨true, some (.ofIds [0, 1, 2])⟩
  pushInfos := ⟨true, some 3⟩
  queues := ⟨true, some 4⟩
  audits := [(5, .commands), (6, .connects)]
  audit := .empty
  wakes := []

theorem startAll_new :
    (new store config waker delay).startAll = ((started store config waker delay, []), .ok ()) := by
  have room {n : Nat} (few : n ≤ 7) : n ≤ Bus.maxSubscriptions := Nat.le_trans few (by decide)
  rw [startAll, startDevices_idle rfl ⟨rfl, rfl, rfl⟩ (room (show 0 + 3 ≤ 7 by decide))]
  simp only
  rw [startPushInfos_idle rfl ⟨rfl, rfl, rfl⟩ (room (show 4 ≤ 7 by decide))]
  simp only
  rw [startQueues_idle rfl ⟨rfl, rfl, rfl⟩ (room (show 5 ≤ 7 by decide))]
  simp only
  rw [startAudit_idle ⟨rfl, rfl, rfl⟩ (room (show 5 + 2 ≤ 7 by decide))]
  rfl

/-- The bus of the started fleet has come about by requests and turns of its dispatcher. -/
theorem leads_started (kept : List Nat) :
    Bus.Leads kept (.new config) (started store config waker delay).bus := by
  let subs : List (String × Topic) := [("device-store", .authenticate), ("device-store", .tokenUpdate),
    ("device-store", .checkOut), ("push-info-store", .tokenUpdate), ("command-queue", .command),
    ("audit", .command), ("audit", .connect)]
  have idle : (Bus.new config).Idle := ⟨rfl, rfl, rfl⟩
  exact Bus.leads_joined idle (show 0 + subs.length ≤ Bus.maxSubscriptions by decide)

theorem follows_started : (started store config waker delay).bus.Follows (deviceSubs ++ pushSubs) := by
  have each : ∀ p ∈ deviceSubs ++ pushSubs, p = (0, Topic.authenticate.name) ∨
      p = (1, Topic.tokenUpdate.name) ∨ p = (2, Topic.checkOut.name) ∨
        p = (3, Topic.tokenUpdate.name) := by
    simp [deviceSubs, pushSubs]
  intro p hp
  rcases each p hp with rfl | rfl | rfl | rfl <;> exact ⟨_, rfl, rfl, rfl⟩

end Fleet

end DeviceFleet
