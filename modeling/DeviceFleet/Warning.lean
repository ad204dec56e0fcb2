import DeviceFleet.Error

/-! Warnings: what the fleet reports of requests and events that it passes over. Each
has a message and named fields. -/

namespace DeviceFleet

inductive Warning where
  /-- An event was published on a bus that has stopped. -/
  | busClosed (topic : String)
  /-- A subscriber's queue had no room; `dropped` counts its lost events. -/
  | queueFull (subscriber topic : String) (dropped : Nat)
  | checkinFailed (topic : String) (error : Error)
  | pushInfoFailed (error : Error)
  | enqueueFailed (error : Error)
  | wakeFailed (udid : String) (error : Error)
  | reconcileFailed (udid : String) (error : Error)
  | responseRejected (udid status commandUuid : String) (error : Error)
  /-- A device reported that it could not carry out a command. -/
  | commandFailed (udid commandUuid requestType status errorChain : String)
  | undecodable (topic : String) (error : Error)
  /-- An environment variable has a value that its setting does not take. -/
  | invalidOverride (name value : String)
  deriving DecidableEq, Repr

namespace Warning

def message : Warning → String
  | busClosed _ => "Event bus is closed, event discarded"
  | queueFull .. => "Subscriber queue full, event dropped"
  | checkinFailed .. => "Failed to apply check-in event"
  | pushInfoFailed _ => "Failed to store push info"
  | enqueueFailed _ => "Failed to enqueue command"
  | wakeFailed .. => "Failed to wake device"
  | reconcileFailed .. => "Failed to wake device during reconcile"
  | responseRejected .. => "Rejected connect response"
  | commandFailed .. => "Command failed on device"
  | undecodable .. => "Undecodable event"
  | invalidOverride .. => "Ignoring invalid override"

/-- The fields in the words of the record, without the message. -/
def fields : Warning → List (String × String)
  | busClosed topic => [("topic", topic)]
  | queueFull subscriber topic dropped =>
    [("subscriber", subscriber), ("topic", topic), ("dropped", toString dropped)]
  | checkinFailed topic error => [("topic", topic), ("error", error.message)]
  | pushInfoFailed error => [("error", error.message)]
  | enqueueFailed error => [("error", error.message)]
  | wakeFailed udid error => [("udid", udid), ("error", error.message)]
  | reconcileFailed udid error => [("udid", udid), ("error", error.message)]
  | responseRejected udid status commandUuid error =>
    [("udid", udid), ("status", status), ("command_uuid", commandUuid), ("error", error.message)]
  | commandFailed udid commandUuid requestType status errorChain =>
    [("udid", udid), ("command_uuid", commandUuid), ("request_type", requestType),
      ("status", status), ("error_chain", errorChain)]
  | undecodable topic error =>
    [("category", "audit"), ("topic", topic), ("error", error.message)]
  | invalidOverride name value => [("category", "config"), ("var", name), ("value", value)]

end Warning

end DeviceFleet
