import DeviceFleet.Fleet.Basic

/-! What the notices of some work tell: the tries to wake a device and the warnings, each in their
order. -/

namespace DeviceFleet

def Push.Attempt.failure? (a : Attempt) : Option Error :=
  match a.outcome with
  | .ok _ => none
  | .error e => some e

namespace Fleet

def tries (ns : List Notice) : List (String × Push.Attempt) :=
  ns.filterMap fun
    | .warning _ => none
    | .wake udid a => some (udid, a)

def warned (ns : List Notice) : List Warning :=
  ns.filterMap fun
    | .warning w => some w
    | .wake _ _ => none

@[simp] theorem warned_append (ns ms : List Notice) : warned (ns ++ ms) = warned ns ++ warned ms :=
  List.filterMap_append

@[simp] theorem warned_warnings (ws : List Warning) : warned (warnings ws) = ws :=
  List.filterMap_map.trans List.filterMap_some

@[simp] theorem tries_flatMap {α : Type} (as : List α) (notices : α → List Notice) :
    tries (as.flatMap notices) = as.flatMap fun a => tries (notices a) :=
  List.filterMap_flatMap

@[simp] theorem warned_flatMap {α : Type} (as : List α) (notices : α → List Notice) :
    warned (as.flatMap notices) = as.flatMap fun a => warned (notices a) :=
  List.filterMap_flatMap

@[simp] theorem tries_wakeNotices (udid : String) (a : Push.Attempt) (failed : Error → Warning) :
    tries (wakeNotices udid a failed) = [(udid, a)] := by
  simp only [wakeNotices]
  cases a.outcome <;> rfl

@[simp] theorem warned_wakeNotices (udid : String) (a : Push.Attempt) (failed : Error → Warning) :
    warned (wakeNotices udid a failed) = (a.failure?.map failed).toList := by
  simp only [wakeNotices, Push.Attempt.failure?]
  cases a.outcome <;> rfl

end Fleet

end DeviceFleet
