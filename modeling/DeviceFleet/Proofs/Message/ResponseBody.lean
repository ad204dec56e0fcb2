import DeviceFleet.Proofs.Message.Connect
import DeviceFleet.Proofs.Schema.Json

/-! A response is read back from its body. Every response has one, whether it is complete or not, and
what is read from it is refused just for what is missing in the response. Other bodies are read as
well; the status of what they are read as is the one that they name, although it is looked up twice. -/

namespace DeviceFleet

open Fields (lawful_done lawful_default lawful_text lawful_optional lawful_required
  lawful_required_text shallow_done shallow_field)
open Schema (keyed_record lawful_record lawful_list solid_list solid_text lawful_int64 solid_int64
  shallow_record shallow_text shallow_int64 shallow_option shallow_list)

/-- A value is read back from its members without those that are `null`. -/
theorem Schema.Keyed.reads_dropNulls {α : Type} {s : Schema α} {names : List String}
    (h : s.Keyed names) (tag : String) (fresh : tag ∉ names) (a : α) :
    s.read? (.object (Json.dropNulls (s.write a).members)) = some a := by
  refine h.stable _ _ a (h.beside a tag .null fresh) fun n known => ?_
  have differs : tag ≠ n := fun same => fresh (same ▸ known)
  rw [Json.under, Json.under, List.filter_cons_of_neg (by simpa using differs)]

/-! ### The schema of responses -/

namespace Status

theorem write_eq (st : Status) : schema.write st = .string st.name := by
  cases st <;> rfl

theorem ofName_name (st : Status) : ofName st.name = .ok st := by
  cases st <;> rfl

theorem solid : schema.Solid := by
  intro st null
  rw [write_eq] at null
  cases null

theorem shallow (depth : Nat) : schema.Shallow depth := by
  intro st
  rw [write_eq]
  rfl

theorem name_of_read? {name : String} {st : Status} (h : schema.read? (.string name) = some st) :
    st.name = name := by
  obtain ⟨c, listed, read⟩ := Option.bind_eq_some_iff.1 h
  have named : c.name = name := by simpa using List.find?_some listed
  obtain ⟨st', -, rfl⟩ := List.mem_map.1 (List.mem_of_find?_eq_some listed)
  cases read
  exact named

/-- The content that a status may have is `null`. -/
theorem content_null {name : String} {v : Json} {st : Status}
    (h : schema.read? (.object [(name, v)]) = some st) : v = .null := by
  obtain ⟨c, listed, read⟩ := Option.bind_eq_some_iff.1 h
  obtain ⟨st', -, rfl⟩ := List.mem_map.1 (List.mem_of_find?_eq_some listed)
  cases v with
  | null => rfl
  | _ => cases read

theorem lawful : schema.Lawful where
  reads st := by cases st <;> rfl
  exactly st := by
    rw [write_eq]
    trivial
  stable v st h := by
    match v, h with
    | .string _, h => exact h
    | .object [(name, v)], h =>
      cases content_null h
      exact h

end Status

theorem ErrorItem.lawful : schema.Lawful :=
  lawful_record (lawful_default lawful_int64 solid_int64 <| lawful_text <| lawful_text lawful_done)
    (by decide) fun _ => rfl

theorem ErrorItem.shallow (depth : Nat) : schema.Shallow (depth + 1) :=
  shallow_record
    (shallow_field (shallow_int64 _) <| shallow_field (shallow_text _) <|
      shallow_field (shallow_text _) (shallow_done _))

namespace Response

theorem keyed : schema.Keyed ["UDID", "UserID", "Status", "CommandUUID", "RequestType", "ErrorChain"] :=
  keyed_record
    (lawful_required_text <| lawful_optional Schema.lawful_text solid_text <|
      lawful_required Status.lawful Status.solid <| lawful_optional Schema.lawful_text solid_text <|
      lawful_optional Schema.lawful_text solid_text <|
      lawful_default (lawful_list ErrorItem.lawful) (solid_list _) lawful_done)
    (by decide) fun _ => rfl

theorem shallow (depth : Nat) : schema.Shallow (depth + 3) :=
  shallow_record
    (shallow_field (shallow_text _) <| shallow_field (shallow_option (shallow_text _)) <|
      shallow_field (Status.shallow _) <| shallow_field (shallow_option (shallow_text _)) <|
      shallow_field (shallow_option (shallow_text _)) <|
      shallow_field (shallow_list (ErrorItem.shallow depth)) (shallow_done _))

/-! ### Whole bodies -/

def members (r : Response) : Json.Members := (schema.write r).members

theorem read?_toWire (r : Response) :
    Json.read? r.toWire = some (.object (Json.resorted (Json.dropNulls r.members))) :=
  Json.read?_wire (keyed.lawful.exactly r) (shallow 124 r)

theorem get?_status (r : Response) :
    Json.get? "Status" (Json.resorted (Json.dropNulls r.members)) = some (.string r.status.name) := by
  have alone : Json.under "Status" r.members = [("Status", .string r.status.name)] := by
    rw [← Status.write_eq]
    rfl
  have alone' : Json.under "Status" (Json.dropNulls r.members) = [("Status", .string r.status.name)] := by
    rw [Json.under_dropNulls, alone]
    rfl
  rw [Json.get?_resorted, Json.get?_of_under alone']
  rfl

theorem ofJson_resorted (r : Response) :
    schema.ofJson (.object (Json.resorted (Json.dropNulls r.members))) = .ok r := by
  have resorted := keyed.lawful.reads_resorted (keyed.reads_dropNulls "" (by decide) r)
  rw [Schema.ofJson, members, resorted]

/-- What is read from the body of a response is the response, and it is refused for what is missing
in it. -/
theorem decode_toWire (r : Response) : decode r.toWire = r.validate.map fun _ => r := by
  simp only [decode, read?_toWire, Json.members, get?_status, Status.ofName_name, ofJson_resorted,
    bind, Except.bind]
  cases r.validate <;> rfl

/-! ### How a body is made -/

def notObject : Error := .internal "connect response did not encode to an object"

/-- The body of a response, if it can be made: the response has to be written as an object. -/
def encoded (r : Response) : Except Error Bytes :=
  match schema.write r with
  | .object ms => .ok (Json.wire ms)
  | _ => .error notObject

theorem encoded_eq (r : Response) : r.encoded = .ok r.toWire := rfl

/-! ### Bodies that are accepted -/

/-- The status of a response stands alone under its name. -/
theorem under_status {ms : Json.Members} {r : Response} (h : schema.read? (.object ms) = some r) :
    ∃ m, Json.under "Status" ms = [m] ∧ Status.schema.read? m.2 = some r.status := by
  obtain ⟨x, fields, rfl⟩ := Option.map_eq_some_iff.1 h
  -- The status is the third of the fields.
  obtain ⟨-, fields⟩ := Fields.read?_field.1 fields
  obtain ⟨-, fields⟩ := Fields.read?_field.1 fields
  obtain ⟨status, -⟩ := Fields.read?_field.1 fields
  rcases Fields.under_of_value? status with none | ⟨m, one⟩
  · rw [Fields.value?_nil none] at status
    cases status
  · exact ⟨m, one, Fields.value?_single one ▸ status⟩

/-- An accepted body is an object that names the status of the response. -/
theorem named_of_decode {bs : Bytes} {r : Response} (h : decode bs = .ok r) :
    r.validate = .ok () ∧ ∃ body, Json.read? bs = some (.object body) ∧
      Json.get? "Status" body = some (.string r.status.name) := by
  obtain ⟨name, v, read, tagged, fields, valid⟩ := decode_ok h
  cases v with
  | object body =>
    obtain ⟨m, one, status⟩ := under_status fields
    have same : m.2 = .string name := Option.some.inj ((Json.get?_of_under one).symm.trans tagged)
    rw [same] at status
    rw [← Status.name_of_read? status] at tagged
    exact ⟨valid, body, read, tagged⟩
  | _ => cases tagged

/-- Every response has a body. It is read back as the response if nothing is missing in this, and is
otherwise refused for just what is missing. Whatever body is accepted, nothing is missing in its
response, whose status is the one that the body names, and it is read back from a body of its own. -/
theorem responses_read_back :
    (∀ r : Response, r.encoded = .ok r.toWire ∧
      (r.validate = .ok () → decode r.toWire = .ok r) ∧
      ∀ e, r.validate = .error e → decode r.toWire = .error e) ∧
    ∀ (bs : Bytes) (r : Response), decode bs = .ok r → r.validate = .ok () ∧
      (∃ body name, Json.read? bs = some (.object body) ∧
        Json.get? "Status" body = some (.string name) ∧ Status.ofName name = .ok r.status) ∧
      r.encoded = .ok r.toWire ∧ decode r.toWire = .ok r := by
  have complete {r : Response} (valid : r.validate = .ok ()) : decode r.toWire = .ok r := by
    rw [decode_toWire, valid]
    rfl
  refine ⟨fun r => ⟨r.encoded_eq, complete, fun e missing => ?_⟩, fun bs r accepted => ?_⟩
  · rw [decode_toWire, missing]
    rfl
  · obtain ⟨valid, body, read, status⟩ := named_of_decode accepted
    exact ⟨valid, ⟨body, r.status.name, read, status, r.status.ofName_name⟩, r.encoded_eq,
      complete valid⟩

set_option maxRecDepth 4096 in
/-- An error with two reasons, one with a number below zero; a report that does not name its command;
and a body in an order of its own, in which the status is given twice. -/
theorem responses_read_back_chain :
    let r : Response := ⟨"D", some "", .error, some "c-1", none,
      [⟨-4001, "MCProfileErrorDomain", "défaut"⟩, ⟨0, "", ""⟩]⟩
    let incomplete : Response := ⟨"D", none, .notNow, some "", none, []⟩
    let bs := Json.pretty (.object [("Status", .string "Done"), ("UDID", .string "D"),
      ("Status", .string "Idle"), ("CommandUUID", .null)])
    let idle : Response := ⟨"D", none, .idle, none, none, []⟩
    (r.validate = .ok () ∧ decode r.toWire = .ok r) ∧
      (incomplete.validate = .error (Response.missingCommand .notNow) ∧
        decode incomplete.toWire = .error (Response.missingCommand .notNow)) ∧
      decode bs = .ok idle ∧ bs ≠ idle.toWire ∧ decode idle.toWire = .ok idle := by
  intro r incomplete bs idle
  obtain ⟨written, accepted⟩ := responses_read_back
  have valid : r.validate = .ok () := rfl
  have missing : incomplete.validate = .error (Response.missingCommand .notNow) := rfl
  have read : decode bs = .ok idle := rfl
  have other : bs ≠ idle.toWire := by decide +kernel
  exact ⟨⟨valid, (written r).2.1 valid⟩, ⟨missing, (written incomplete).2.2 _ missing⟩, read, other,
    (accepted bs idle read).2.2.2⟩

end Response

end DeviceFleet
