import DeviceFleet.Store.Basic

/-! The store as a file: one JSON object with a member for each table, in which each
record is a string with its stored text. -/

namespace DeviceFleet

namespace Table

variable {α : Type}

/-- The table with the given entries, a later one in place of an earlier. -/
def ofList (entries : List (String × α)) : Table α :=
  entries.foldl (fun t e => t.insert e.1 e.2) ∅

end Table

namespace Store

/-- A table of stored texts; one that is no text has no place in a file. -/
def tableJson (t : Table Bytes) : Json :=
  .object (t.entries.map fun e => (e.1, match Text.decode? e.2 with
    | some text => .string text
    | none => .null))

def serialsJson (t : Table String) : Json := .object (t.entries.map fun e => (e.1, .string e.2))

def toFile (s : Store) : Bytes :=
  Json.print (.object [("devices", tableJson s.devices), ("serials", serialsJson s.serials),
    ("push_info", tableJson s.pushInfos), ("queues", tableJson s.queues)])

/-- The texts of a table of the file; a missing one is empty. -/
def texts? (name : String) (members : Json.Members) : Option (List (String × String)) :=
  match Json.get? name members with
  | none => some []
  | some (.object entries) => entries.mapM fun e => match e.2 with
    | .string text => some (e.1, text)
    | _ => none
  | some _ => none

def tableOf (entries : List (String × String)) : Table Bytes :=
  .ofList (entries.map fun e => (e.1, Text.encode e.2))

def ofFile? (content : Bytes) : Option Store :=
  match Json.read? content with
  | some (.object members) => do
    let devices ← texts? "devices" members
    let serials ← texts? "serials" members
    let pushInfos ← texts? "push_info" members
    let queues ← texts? "queues" members
    some ⟨tableOf devices, .ofList serials, tableOf pushInfos, tableOf queues⟩
  | _ => none

def notStore (path : String) : StoreError := ⟨.storage, path ++ " is no store"⟩

/-- The store with the given content of the file under a path; a new one is empty. -/
def ofSource (path : String) : Option Bytes → Except StoreError Store
  | none => .ok .empty
  | some content => match ofFile? content with
    | some s => .ok s
    | none => .error (notStore path)

end Store

end DeviceFleet
