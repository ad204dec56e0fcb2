import DeviceFleet.Message.Checkin
import DeviceFleet.Message.Connect
import DeviceFleet.Message.Command

/-! What is published on the bus: a check-in, an exchange or a new command, each with an
identifier and the time. -/

namespace DeviceFleet

structure CheckinEvent where
  id : String
  time : Instant
  message : Checkin
  deriving DecidableEq

structure ConnectEvent where
  id : String
  time : Instant
  response : Response
  deriving DecidableEq

structure CommandEvent where
  id : String
  time : Instant
  udid : String
  command : Command
  deriving DecidableEq

def CheckinEvent.schema : Schema CheckinEvent :=
  .record
    (.required "id" .text <| .required "time" .time <| .required "message" Checkin.schema .done)
    (fun (id, time, message, ()) => { id, time, message }) (fun e => (e.id, e.time, e.message, ()))

def ConnectEvent.schema : Schema ConnectEvent :=
  .record
    (.required "id" .text <| .required "time" .time <| .required "response" Response.schema .done)
    (fun (id, time, response, ()) => { id, time, response })
    (fun e => (e.id, e.time, e.response, ()))

def CommandEvent.schema : Schema CommandEvent :=
  .record
    (.required "id" .text <| .required "time" .time <| .required "udid" .text <|
      .required "command" Command.schema .done)
    (fun (id, time, udid, command, ()) => { id, time, udid, command })
    (fun e => (e.id, e.time, e.udid, e.command, ()))

end DeviceFleet
