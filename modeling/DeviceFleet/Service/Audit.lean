import DeviceFleet.Bus.Basic
import DeviceFleet.Message.Event

/-! The audit: an observer that counts new commands and exchanges, and the events of
their topics that it cannot read. -/

namespace DeviceFleet

structure Audit where
  commands : Nat
  connects : Nat
  undecodable : Nat
  deriving DecidableEq, Repr

namespace Audit

def empty : Audit := ⟨0, 0, 0⟩

/-- What the audit looks for on a topic. -/
inductive Subject where
  | commands
  | connects
  deriving DecidableEq, Repr

def reject (a : Audit) (e : Event) (error : Error) : Audit × List Warning :=
  ({ a with undecodable := a.undecodable + 1 }, [.undecodable e.topic error])

def onCommand (a : Audit) (e : Event) : Audit × List Warning :=
  match CommandEvent.schema.decode e.payload with
  | .ok _ => ({ a with commands := a.commands + 1 }, [])
  | .error error => a.reject e error

def onConnect (a : Audit) (e : Event) : Audit × List Warning :=
  match ConnectEvent.schema.decode e.payload with
  | .ok _ => ({ a with connects := a.connects + 1 }, [])
  | .error error => a.reject e error

def count (a : Audit) (e : Event) : Subject → Audit × List Warning
  | .commands => a.onCommand e
  | .connects => a.onConnect e

end Audit

end DeviceFleet
