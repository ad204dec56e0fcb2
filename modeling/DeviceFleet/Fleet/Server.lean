import DeviceFleet.Fleet.Basic
import DeviceFleet.Settings.Environment

/-! The whole system from its settings: all consumers are started, devices are woken
through the transport, and those that wait for commands of an earlier run are woken at
once. -/

namespace DeviceFleet.Fleet

/-- A fleet with the given settings on a store, with nothing started. -/
def ofSettings (s : Settings) (sender : Push.Sender) (store : Store) : Fleet :=
  new store s.busConfig (Push.wake sender s.pushTopic) s.delay

/-- Starts the fleet on an open store; the answer says how many devices were woken. -/
def boot (s : Settings) (sender : Push.Sender) (store : Store) : Reply Nat :=
  match (ofSettings s sender store).startAll with
  | (o, .error e) => (o, .error e)
  | ((f, ns), .ok ()) =>
    let ((f, ms), r) := f.reconcile
    ((f, ns ++ ms), r)

/-- Starts the fleet if the settings keep the rules. -/
def serve (s : Settings) (sender : Push.Sender) (store : Store) : Except Error (Reply Nat) := do
  s.validate
  .ok (boot s sender store)

end DeviceFleet.Fleet
