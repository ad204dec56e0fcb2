import DeviceFleet.Proofs.Message.Checkin
import DeviceFleet.Proofs.Schema.Json

/-! A check-in is read back from its body. The body holds the fields of the check-in's kind beside
`MessageType`, without a `UserID` that is missing, all members in the order of their names. Other
bodies are read as well; what they are read as is of the kind that they name, and is read back from a
body of its own. A check-in that names no device has a body too, which is refused. -/

namespace DeviceFleet

open Fields (lawful_done lawful_text lawful_octets lawful_flag lawful_optional shallow_done shallow_field)
open Schema (keyed_record solid_text shallow_record shallow_text shallow_spelled shallow_flag
  shallow_option)

/-! ### The kinds -/

theorem Authenticate.keyed :
    schema.Keyed ["UDID", "Topic", "SerialNumber", "OSVersion", "BuildVersion", "ProductName", "Model",
      "DeviceName", "IMEI", "MEID"] :=
  keyed_record
    (lawful_text <| lawful_text <| lawful_text <| lawful_text <| lawful_text <| lawful_text <|
      lawful_text <| lawful_text <| lawful_text <| lawful_text lawful_done)
    (by decide) fun _ => rfl

theorem TokenUpdate.keyed :
    schema.Keyed ["UDID", "UserID", "Topic", "Token", "PushMagic", "UnlockToken",
      "AwaitingConfiguration"] :=
  keyed_record
    (lawful_text <| lawful_optional Schema.lawful_text solid_text <| lawful_text <| lawful_octets <|
      lawful_text <| lawful_octets <| lawful_flag lawful_done)
    (by decide) fun _ => rfl

theorem CheckOut.keyed : schema.Keyed ["UDID", "Topic"] :=
  keyed_record (lawful_text <| lawful_text lawful_done) (by decide) fun _ => rfl

theorem Authenticate.shallow (depth : Nat) : schema.Shallow (depth + 1) :=
  shallow_record
    (shallow_field (shallow_text _) <| shallow_field (shallow_text _) <|
      shallow_field (shallow_text _) <| shallow_field (shallow_text _) <|
      shallow_field (shallow_text _) <| shallow_field (shallow_text _) <|
      shallow_field (shallow_text _) <| shallow_field (shallow_text _) <|
      shallow_field (shallow_text _) <| shallow_field (shallow_text _) (shallow_done _))

theorem TokenUpdate.shallow (depth : Nat) : schema.Shallow (depth + 1) :=
  shallow_record
    (shallow_field (shallow_text _) <| shallow_field (shallow_option (shallow_text _)) <|
      shallow_field (shallow_text _) <| shallow_field (shallow_spelled _ _ _) <|
      shallow_field (shallow_text _) <| shallow_field (shallow_spelled _ _ _) <|
      shallow_field (shallow_flag _) (shallow_done _))

theorem CheckOut.shallow (depth : Nat) : schema.Shallow (depth + 1) :=
  shallow_record (shallow_field (shallow_text _) <| shallow_field (shallow_text _) (shallow_done _))

namespace Checkin

/-- How a check-in stands in its body: as the object that the schema of its kind writes, which has no
`MessageType` of its own. -/
inductive Stands (m : Checkin) : Prop where
  | keyed {α : Type} {s : Schema α} {names : List String} {make : α → Checkin} (c : α)
      (h : s.Keyed names) (fresh : "MessageType" ∉ names) (shallow : ∀ depth, s.Shallow (depth + 1))
      (body : m.body = s.write c) (made : ∀ v, ofFields m.messageType v = make <$> s.ofJson v)
      (same : make c = m)

theorem stands (m : Checkin) : m.Stands := by
  cases m with
  | authenticate c =>
    exact .keyed c Authenticate.keyed (by decide) Authenticate.shallow rfl (fun _ => rfl) rfl
  | tokenUpdate c =>
    exact .keyed c TokenUpdate.keyed (by decide) TokenUpdate.shallow rfl (fun _ => rfl) rfl
  | checkOut c => exact .keyed c CheckOut.keyed (by decide) CheckOut.shallow rfl (fun _ => rfl) rfl

/-! ### Whole bodies -/

def members (m : Checkin) : Json.Members :=
  ("MessageType", .string m.messageType) :: m.body.members

/-- The kind is not left out of the body. -/
theorem dropNulls_members (m : Checkin) : Json.dropNulls m.members =
    ("MessageType", .string m.messageType) :: Json.dropNulls m.body.members :=
  List.filter_cons_of_pos rfl

theorem read?_toWire (m : Checkin) :
    Json.read? m.toWire = some (.object (Json.resorted (Json.dropNulls m.members))) := by
  obtain ⟨c, h, -, shallow, body, -, -⟩ := m.stands
  have exactly := h.lawful.exactly c
  rw [h.object c] at exactly
  have fields : Json.readableMembers 126 m.body.members = true := by
    rw [body]
    exact h.shallow_members (shallow 126) c
  refine Json.read?_wire ⟨trivial, ?_⟩ ?_
  · rw [body]
    exact exactly
  · show (true && Json.readableMembers 126 m.body.members) = true
    rw [fields]
    rfl

theorem get?_messageType (m : Checkin) :
    Json.get? "MessageType" (Json.resorted (Json.dropNulls m.members)) =
      some (.string m.messageType) := by
  obtain ⟨c, h, fresh, -, body, -, -⟩ := m.stands
  have others : Json.under "MessageType" m.body.members = [] := by
    apply Json.under_eq_nil
    rw [body, h.names_write]
    exact fresh
  have alone : Json.under "MessageType" (Json.dropNulls m.members) =
      [("MessageType", .string m.messageType)] := by
    rw [Json.under_dropNulls, members, Json.under, List.filter_cons_of_pos (by simp)]
    exact congrArg (fun ms => Json.dropNulls (_ :: ms)) others
  rw [Json.get?_resorted, Json.get?_of_under alone]
  rfl

/-- The fields of the kind are read from the members; `MessageType` is passed over. -/
theorem ofFields_members (m : Checkin) :
    ofFields m.messageType (.object (Json.resorted (Json.dropNulls m.members))) = .ok m := by
  obtain ⟨c, h, fresh, -, body, made, same⟩ := m.stands
  have read := h.lawful.reads_resorted (h.beside c "MessageType" (.string m.messageType) fresh)
  rw [made, Schema.ofJson, dropNulls_members, body, read, ← same]
  rfl

/-- What is read from the body of a check-in is the check-in, unless it names no device. -/
theorem decode_toWire (m : Checkin) :
    decode m.toWire = if m.udid = "" then .error m.emptyUdid else .ok m := by
  simp only [decode, read?_toWire, Json.members, get?_messageType, ofFields_members, bind, Except.bind]

/-! ### How a body is made -/

def notObject : Error := .internal "check-in did not encode to an object"

/-- The body of a check-in, if it can be made: its fields have to be written as an object. -/
def encoded (m : Checkin) : Except Error Bytes :=
  match m.body with
  | .object ms => .ok (Json.wire (("MessageType", .string m.messageType) :: ms))
  | _ => .error notObject

theorem encoded_eq (m : Checkin) : m.encoded = .ok m.toWire := by
  cases m <;> rfl

/-! ### Bodies that are accepted -/

/-- A check-in is of the kind by whose name it was read. -/
theorem messageType_of_ofFields {kind : String} {v : Json} {m : Checkin} (h : ofFields kind v = .ok m) :
    m.messageType = kind := by
  rw [ofFields.eq_def] at h
  split at h
  case h_1 | h_2 | h_3 =>
    obtain ⟨a, -, rfl⟩ := Schema.read?_of_map_ofJson h
    rfl
  case h_4 | h_5 => cases h

/-- An accepted body is an object that names the kind of the check-in. -/
theorem named_of_decode {bs : Bytes} {m : Checkin} (h : decode bs = .ok m) :
    m.udid ≠ "" ∧ ∃ body, Json.read? bs = some (.object body) ∧
      Json.get? "MessageType" body = some (.string m.messageType) := by
  obtain ⟨kind, v, read, tagged, fields, named⟩ := decode_ok h
  obtain rfl := messageType_of_ofFields fields
  cases v with
  | object body => exact ⟨named, body, read, tagged⟩
  | _ => cases tagged

/-- Every check-in that names a device has a body and is read back from it. Whatever body is accepted,
its check-in names a device and is of the kind that the body names, and is read back from a body of its
own. The body of a check-in that names no device is refused as invalid. -/
theorem checkins_read_back :
    (∀ m : Checkin, m.udid ≠ "" → m.encoded = .ok m.toWire ∧ decode m.toWire = .ok m) ∧
      (∀ (bs : Bytes) (m : Checkin), decode bs = .ok m → m.udid ≠ "" ∧
        (∃ body, Json.read? bs = some (.object body) ∧
          Json.get? "MessageType" body = some (.string m.messageType)) ∧
        m.encoded = .ok m.toWire ∧ decode m.toWire = .ok m) ∧
      ∀ m : Checkin, m.udid = "" → m.encoded = .ok m.toWire ∧
        decode m.toWire = .error m.emptyUdid ∧ m.emptyUdid.kind = .validation := by
  refine ⟨fun m named => ?_, fun bs m accepted => ?_, fun m unnamed => ?_⟩
  · exact ⟨m.encoded_eq, by rw [decode_toWire, if_neg named]⟩
  · obtain ⟨named, body⟩ := named_of_decode accepted
    exact ⟨named, body, m.encoded_eq, by rw [decode_toWire, if_neg named]⟩
  · exact ⟨m.encoded_eq, by rw [decode_toWire, if_pos unnamed], rfl⟩

set_option maxRecDepth 4096 in
/-- Push credentials for a user without a name, with octets that are no text; a body on several lines
in an order of its own, with a member that is not known and one that is given twice; and a notice that
names no device. -/
theorem checkins_read_back_mixed :
    let m : Checkin := .tokenUpdate ⟨"D", some "", "tëst\"\\\n", [255, 0, 16], "", [], true⟩
    let n : Checkin := .checkOut ⟨"D", ""⟩
    let bs := Json.pretty (.object [("UDID", .string "E"), ("Origin", .array [.int 1]),
      ("MessageType", .string "CheckOut"), ("UDID", .string "D")])
    let unnamed : Checkin := .checkOut ⟨"", "t"⟩
    (m.udid ≠ "" ∧ decode m.toWire = .ok m) ∧
      (decode bs = .ok n ∧ bs ≠ n.toWire ∧ decode n.toWire = .ok n) ∧
      unnamed.udid = "" ∧
        decode unnamed.toWire = .error (.validation "CheckOut check-in has an empty UDID") := by
  intro m n bs unnamed
  obtain ⟨written, accepted, refused⟩ := checkins_read_back
  have named : m.udid ≠ "" := by decide
  have read : decode bs = .ok n := rfl
  have other : bs ≠ n.toWire := by decide +kernel
  exact ⟨⟨named, (written m named).2⟩, ⟨read, other, (accepted bs n read).2.2.2⟩, rfl,
    (refused unnamed rfl).2.1⟩

end Checkin

end DeviceFleet
