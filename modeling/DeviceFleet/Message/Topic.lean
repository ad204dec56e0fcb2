import DeviceFleet.Schema.Codec

/-! The topics that events are published on, and the channels of a device. -/

namespace DeviceFleet

/-- What an event of the fleet is about. -/
inductive Topic where
  | authenticate
  | tokenUpdate
  | checkOut
  /-- A command was made. -/
  | command
  /-- An exchange with a device took place. -/
  | connect
  deriving DecidableEq, Repr

def Topic.name : Topic → String
  | authenticate => "mdm.Authenticate"
  | tokenUpdate => "mdm.TokenUpdate"
  | checkOut => "mdm.CheckOut"
  | command => "mdm.Command"
  | connect => "mdm.Connect"

/-- Whether a message is on the channel of a user of the device: it names one. -/
def namesUser (userId : Option String) : Bool := userId.any (· ≠ "")

end DeviceFleet
