import DeviceFleet.Message.Command
import DeviceFleet.Proofs.Schema.Json

/-! A command is read back from the body in which devices get it. The body holds the members of
the command's kind beside `RequestType`, without those that are `null`, and all members are in
the order of their names. Other bodies are read as well; what they are read as has a body of its
own, which is read as the same command. -/

namespace DeviceFleet

open Fields (lawful_done lawful_default lawful_octets lawful_text lawful_optional shallow_done
  shallow_field)
open Schema (keyed_record lawful_list solid_list solid_text solid_flag lawful_int64 solid_int64
  lawful_flag shallow_record shallow_text shallow_spelled shallow_flag shallow_int64
  shallow_option shallow_list)

/-! ### The kinds -/

theorem DeviceInformation.keyed : schema.Keyed ["Queries"] :=
  keyed_record (lawful_default (lawful_list Schema.lawful_text) (solid_list _) lawful_done)
    (by decide) fun _ => rfl

theorem InstallProfile.keyed : schema.Keyed ["Payload"] :=
  keyed_record (lawful_octets lawful_done) (by decide) fun _ => rfl

theorem RemoveProfile.keyed : schema.Keyed ["Identifier"] :=
  keyed_record (lawful_text lawful_done) (by decide) fun _ => rfl

theorem InstallApplication.keyed :
    schema.Keyed ["ManifestURL", "iTunesStoreID", "Identifier", "ManagementFlags", "NotManaged",
      "ChangeManagementState"] :=
  keyed_record
    (lawful_optional Schema.lawful_text solid_text <| lawful_optional lawful_int64 solid_int64 <|
      lawful_optional Schema.lawful_text solid_text <| lawful_optional lawful_int64 solid_int64 <|
      lawful_optional Schema.lawful_flag solid_flag <|
      lawful_optional Schema.lawful_text solid_text lawful_done)
    (by decide) fun _ => rfl

theorem InstalledApplicationList.keyed : schema.Keyed ["Identifiers", "ManagedAppsOnly"] :=
  keyed_record
    (lawful_default (lawful_list Schema.lawful_text) (solid_list _) <|
      lawful_optional Schema.lawful_flag solid_flag lawful_done)
    (by decide) fun _ => rfl

theorem DeviceLock.keyed : schema.Keyed ["PIN", "Message", "PhoneNumber"] :=
  keyed_record
    (lawful_optional Schema.lawful_text solid_text <|
      lawful_optional Schema.lawful_text solid_text <|
      lawful_optional Schema.lawful_text solid_text lawful_done)
    (by decide) fun _ => rfl

theorem EraseDevice.keyed : schema.Keyed ["PIN"] :=
  keyed_record (lawful_optional Schema.lawful_text solid_text lawful_done) (by decide) fun _ => rfl

theorem DeviceInformation.shallow (depth : Nat) : schema.Shallow (depth + 2) :=
  shallow_record (shallow_field (shallow_list (shallow_text depth)) (shallow_done _))

theorem InstallProfile.shallow (depth : Nat) : schema.Shallow (depth + 2) :=
  shallow_record (shallow_field (shallow_spelled _ _ _) (shallow_done _))

theorem RemoveProfile.shallow (depth : Nat) : schema.Shallow (depth + 2) :=
  shallow_record (shallow_field (shallow_text _) (shallow_done _))

theorem InstallApplication.shallow (depth : Nat) : schema.Shallow (depth + 2) :=
  shallow_record
    (shallow_field (shallow_option (shallow_text _)) <|
      shallow_field (shallow_option (shallow_int64 _)) <|
      shallow_field (shallow_option (shallow_text _)) <|
      shallow_field (shallow_option (shallow_int64 _)) <|
      shallow_field (shallow_option (shallow_flag _)) <|
      shallow_field (shallow_option (shallow_text _)) (shallow_done _))

theorem InstalledApplicationList.shallow (depth : Nat) : schema.Shallow (depth + 2) :=
  shallow_record
    (shallow_field (shallow_list (shallow_text depth)) <|
      shallow_field (shallow_option (shallow_flag _)) (shallow_done _))

theorem DeviceLock.shallow (depth : Nat) : schema.Shallow (depth + 2) :=
  shallow_record
    (shallow_field (shallow_option (shallow_text _)) <|
      shallow_field (shallow_option (shallow_text _)) <|
      shallow_field (shallow_option (shallow_text _)) (shallow_done _))

theorem EraseDevice.shallow (depth : Nat) : schema.Shallow (depth + 2) :=
  shallow_record (shallow_field (shallow_option (shallow_text _)) (shallow_done _))

/-! ### Their fields in a body -/

namespace Payload

/-- How a payload stands in a body: a kind without fields is known by its name, and another is
made from the object that its schema writes. -/
inductive Stands (p : Payload) : Prop where
  | bare (fields : p.fields = []) (made : ∀ v, ofFields p.requestType v = .ok p)
  | keyed {α : Type} {s : Schema α} {names : List String} {make : α → Payload} (c : α)
      (h : s.Keyed names) (fresh : "RequestType" ∉ names) (shallow : ∀ depth, s.Shallow (depth + 2))
      (fields : p.fields = (s.write c).members)
      (made : ∀ v, ofFields p.requestType v = make <$> s.ofJson v) (same : make c = p)

theorem stands (p : Payload) : p.Stands := by
  cases p with
  | deviceInformation c =>
    exact .keyed c DeviceInformation.keyed (by decide) DeviceInformation.shallow rfl (fun _ => rfl) rfl
  | installProfile c =>
    exact .keyed c InstallProfile.keyed (by decide) InstallProfile.shallow rfl (fun _ => rfl) rfl
  | removeProfile c =>
    exact .keyed c RemoveProfile.keyed (by decide) RemoveProfile.shallow rfl (fun _ => rfl) rfl
  | profileList => exact .bare rfl fun _ => rfl
  | installApplication c =>
    exact .keyed c InstallApplication.keyed (by decide) InstallApplication.shallow rfl (fun _ => rfl) rfl
  | installedApplicationList c =>
    exact .keyed c InstalledApplicationList.keyed (by decide) InstalledApplicationList.shallow rfl
      (fun _ => rfl) rfl
  | securityInfo => exact .bare rfl fun _ => rfl
  | deviceLock c =>
    exact .keyed c DeviceLock.keyed (by decide) DeviceLock.shallow rfl (fun _ => rfl) rfl
  | eraseDevice c =>
    exact .keyed c EraseDevice.keyed (by decide) EraseDevice.shallow rfl (fun _ => rfl) rfl
  | restartDevice => exact .bare rfl fun _ => rfl
  | shutDownDevice => exact .bare rfl fun _ => rfl

def members (p : Payload) : Json.Members :=
  ("RequestType", .string p.requestType) :: Json.dropNulls p.fields

/-- Reading passes over `RequestType` and does not mind the order of the others. -/
theorem ofJson_resorted {α : Type} {s : Schema α} {names : List String} (h : s.Keyed names)
    (fresh : "RequestType" ∉ names) (kind : Json) (a : α) :
    s.ofJson (.object (Json.without "RequestType"
      (Json.resorted (("RequestType", kind) :: Json.dropNulls (s.write a).members)))) = .ok a := by
  have there := h.lawful.reads_resorted (h.beside a "RequestType" kind fresh)
  have alone := h.stable _ (Json.without "RequestType" _) a there fun n hn =>
    Json.under_without (fun (same : n = "RequestType") => fresh (same ▸ hn)) _
  rw [Schema.ofJson, alone]

theorem ofFields_members (p : Payload) :
    ofFields p.requestType (.object (Json.without "RequestType" (Json.resorted p.members))) =
      .ok p := by
  cases p.stands with
  | bare _ made => exact made _
  | keyed c h fresh _ fields made same =>
    rw [made, members, fields, ofJson_resorted h fresh, ← same]
    rfl

theorem get?_requestType (p : Payload) :
    Json.get? "RequestType" p.members = some (.string p.requestType) := by
  have fresh : Json.under "RequestType" p.fields = [] := by
    cases p.stands with
    | bare fields _ => rw [fields, Json.under, List.filter_nil]
    | keyed c h fresh _ fields _ _ =>
      rw [fields]
      apply Json.under_eq_nil
      rw [h.names_write]
      exact fresh
  have others := Json.under_dropNulls "RequestType" p.fields
  have alone : Json.under "RequestType" p.members = [("RequestType", .string p.requestType)] := by
    rw [fresh] at others
    rw [Json.under, members, List.filter_cons_of_pos (by simp)]
    exact congrArg _ others
  exact Json.get?_of_under alone

theorem exact_fields (p : Payload) : Json.ExactMembers p.fields := by
  cases p.stands with
  | bare fields _ =>
    rw [fields]
    trivial
  | keyed c h _ _ fields _ _ =>
    have exactly := h.lawful.exactly c
    rw [h.object c] at exactly
    rw [fields]
    exact exactly

theorem shallow_fields (p : Payload) (depth : Nat) :
    Json.readableMembers (depth + 1) p.fields = true := by
  cases p.stands with
  | bare fields _ =>
    rw [fields]
    rfl
  | keyed c h _ shallow fields _ _ =>
    rw [fields]
    exact h.shallow_members (shallow depth) c

end Payload

/-! ### Whole bodies -/

namespace Command

def members (c : Command) : Json.Members :=
  [("CommandUUID", .string c.uuid), ("Command", .object c.payload.members)]

theorem read?_toWire (c : Command) : Json.read? c.toWire = some (.object (Json.resorted c.members)) := by
  refine Json.read?_wire ?_ ?_
  · exact ⟨trivial, ⟨trivial, Json.exact_dropNulls c.payload.exact_fields⟩, trivial⟩
  · have fields := Json.readable_dropNulls (c.payload.shallow_fields 124)
    show (true && ((true && Json.readableMembers 125 (Json.dropNulls c.payload.fields)) && true)) =
      true
    rw [fields]
    rfl

theorem get?_uuid (c : Command) :
    Json.get? "CommandUUID" (Json.resorted c.members) = some (.string c.uuid) := by
  rw [Json.get?_resorted]
  rfl

/-- Two commands with one body have one identifier. -/
theorem uuid_of_toWire {c d : Command} (same : c.toWire = d.toWire) : c.uuid = d.uuid := by
  have read := c.read?_toWire
  rw [same, d.read?_toWire, Option.some.injEq, Json.object.injEq] at read
  have uuid := c.get?_uuid
  rw [← read, d.get?_uuid] at uuid
  simpa using uuid.symm

/-- A command with an identifier is read back from its body. -/
theorem decode_toWire {c : Command} (h : c.uuid ≠ "") : decode c.toWire = .ok c := by
  have uuid := c.get?_uuid
  have command : Json.get? "Command" (Json.resorted c.members) =
      some (.object (Json.resorted c.payload.members)) := by
    rw [Json.get?_resorted, ← Json.sorted_sorted]
    rfl
  have kind : Json.get? "RequestType" (Json.resorted c.payload.members) =
      some (.string c.payload.requestType) := by
    rw [Json.get?_resorted, Payload.get?_requestType]
    rfl
  simp only [decode, read?_toWire, ofMembers, uuid, if_neg h, command, kind,
    Payload.ofFields_members]
  rfl

end Command

/-! ### How a body is made -/

/-- What the fields of the kind are written as; a kind without fields has nothing to write. -/
def Payload.written? : Payload → Option Json
  | deviceInformation c => some (DeviceInformation.schema.write c)
  | installProfile c => some (InstallProfile.schema.write c)
  | removeProfile c => some (RemoveProfile.schema.write c)
  | installApplication c => some (InstallApplication.schema.write c)
  | installedApplicationList c => some (InstalledApplicationList.schema.write c)
  | deviceLock c => some (DeviceLock.schema.write c)
  | eraseDevice c => some (EraseDevice.schema.write c)
  | profileList | securityInfo | restartDevice | shutDownDevice => none

def Payload.notObject (p : Payload) : Error :=
  .internal (p.requestType ++ " fields did not encode to an object")

/-- The members of the kind in a body. They can be made only if its fields are written as an
object. -/
def Payload.wireFields (p : Payload) : Except Error Json.Members :=
  match p.written? with
  | none => .ok []
  | some (.object ms) => .ok (Json.dropNulls ms)
  | some _ => .error p.notObject

def Command.body (c : Command) : Except Error Bytes := do
  let fields ← c.payload.wireFields
  let command := Json.object (("RequestType", .string c.requestType) :: fields)
  .ok (Json.wire [("CommandUUID", .string c.uuid), ("Command", command)])

/-- The fields of every kind are written as an object. -/
theorem Payload.wireFields_eq (p : Payload) : p.wireFields = .ok (Json.dropNulls p.fields) := by
  cases p <;> rfl

theorem Command.body_eq (c : Command) : c.body = .ok c.toWire := by
  rw [body, Payload.wireFields_eq]
  rfl

/-! ### Bodies that are accepted -/

/-- A payload is of the kind by whose name it was read. -/
theorem Payload.requestType_of_ofFields {kind : String} {v : Json} {p : Payload}
    (h : ofFields kind v = .ok p) : p.requestType = kind := by
  rw [ofFields.eq_def] at h
  split at h
  case h_1 | h_2 | h_3 | h_5 | h_6 | h_8 | h_9 =>
    -- What was read by a schema is of the kind that its values make.
    obtain ⟨a, -, rfl⟩ := Schema.read?_of_map_ofJson h
    rfl
  case h_4 | h_7 | h_10 | h_11 =>
    cases h
    rfl
  case h_12 => cases h

namespace Command

/-- An accepted body is an object that names the command, and in which the object of the command
names its kind. -/
theorem decode_ok {bs : Bytes} {c : Command} (h : decode bs = .ok c) :
    c.uuid ≠ "" ∧ ∃ body command, Json.read? bs = some (.object body) ∧
      Json.get? "CommandUUID" body = some (.string c.uuid) ∧
      Json.get? "Command" body = some (.object command) ∧
      Json.get? "RequestType" command = some (.string c.requestType) := by
  rw [decode] at h
  split at h
  · cases h
  · rename_i body read
    rw [ofMembers] at h
    split at h
    · rename_i uuid found
      split at h
      · cases h
      · rename_i named
        split at h
        · rename_i command inside
          split at h
          · rename_i kind tagged
            cases fields : Payload.ofFields kind (.object (Json.without "RequestType" command)) with
            | error e =>
              rw [fields] at h
              cases h
            | ok p =>
              rw [fields] at h
              cases h
              rw [← Payload.requestType_of_ofFields fields] at tagged
              exact ⟨named, body, command, read, found, inside, tagged⟩
          · cases h
        · cases h
    · cases h
  · cases h

/-- Every command with an identifier has a body, and is read back from it. Whatever body is
accepted, its command has an identifier and is of the kind that the body names; its own body is
read as the same command, and so written as it was. -/
theorem decode_normal :
    (∀ c : Command, c.uuid ≠ "" → c.body = .ok c.toWire ∧ decode c.toWire = .ok c) ∧
      ∀ (bs : Bytes) (c : Command), decode bs = .ok c → c.uuid ≠ "" ∧
        (∃ body command, Json.read? bs = some (.object body) ∧
          Json.get? "Command" body = some (.object command) ∧
          Json.get? "RequestType" command = some (.string c.requestType)) ∧
        decode c.toWire = .ok c ∧ (decode c.toWire).map toWire = .ok c.toWire := by
  refine ⟨fun c named => ⟨c.body_eq, decode_toWire named⟩, fun bs c accepted => ?_⟩
  obtain ⟨named, body, command, read, -, inside, kind⟩ := decode_ok accepted
  refine ⟨named, ⟨body, command, read, inside, kind⟩, decode_toWire named, ?_⟩
  rw [decode_toWire named]
  rfl

set_option maxRecDepth 4096 in
/-- A command with and without its optional fields, and a body on several lines in an order of its own,
with a member that is not known and one that is given twice. -/
theorem decode_normal_mixed :
    let c : Command :=
      ⟨"c-1", .installApplication ⟨some "a\"\\\n", some (-1), none, none, some false, none⟩⟩
    let d : Command := ⟨"c-2", .eraseDevice ⟨some "12"⟩⟩
    let bs := Json.pretty (.object [
      ("Command", .object [("PIN", .null), ("RequestType", .string "EraseDevice"), ("PIN", .string "12")]),
      ("Origin", .array [.int 1]), ("CommandUUID", .string "c-2")])
    (c.uuid ≠ "" ∧ decode c.toWire = .ok c) ∧ decode bs = .ok d ∧ bs ≠ d.toWire ∧
      decode d.toWire = .ok d := by
  intro c d bs
  obtain ⟨written, normal⟩ := decode_normal
  have named : c.uuid ≠ "" := by decide
  have accepted : decode bs = .ok d := rfl
  have other : bs ≠ d.toWire := by decide +kernel
  exact ⟨⟨named, (written c named).2⟩, accepted, other, (normal bs d accepted).2.2.1⟩

end Command

end DeviceFleet
