import DeviceFleet.Message.Event
import DeviceFleet.Proofs.Schema.Octets

/-! The envelope of a check-in that was read from a body: nothing of the message is lost in it. -/

namespace DeviceFleet

theorem Authenticate.carries_schema : schema.Carries :=
  Schema.carries_record (fun _ => rfl) <|
    Fields.carries_text <| Fields.carries_text <| Fields.carries_text <| Fields.carries_text <|
    Fields.carries_text <| Fields.carries_text <| Fields.carries_text <| Fields.carries_text <|
    Fields.carries_text <| Fields.carries_text Fields.carries_done

theorem TokenUpdate.carries_schema : schema.Carries :=
  Schema.carries_record (fun _ => rfl) <|
    Fields.carries_text <| Fields.carries_optional Schema.carries_text <| Fields.carries_text <|
    Fields.carries_octets <| Fields.carries_text <| Fields.carries_octets <|
    Fields.carries_flag Fields.carries_done

theorem CheckOut.carries_schema : schema.Carries :=
  Schema.carries_record (fun _ => rfl) <| Fields.carries_text <| Fields.carries_text Fields.carries_done

namespace Checkin

/-- Each kind of message is taken back as its alternative. -/
theorem takesBack_ofFields {kind : String} {v : Json} {m : Checkin} (sized : v.Sized)
    (h : ofFields kind v = .ok m) : schema.TakesBack m := by
  rw [ofFields.eq_def] at h
  split at h
  · obtain ⟨a, read, rfl⟩ := Schema.read?_of_map_ofJson h
    exact Schema.takesBack_alternatives [] (by decide) rfl (List.forall_mem_nil _)
      (Authenticate.carries_schema v a sized read)
  · obtain ⟨a, read, rfl⟩ := Schema.read?_of_map_ofJson h
    refine Schema.takesBack_alternatives [_] (by decide) rfl ?_
      (TokenUpdate.carries_schema v a sized read)
    exact List.forall_mem_singleton.2 rfl
  · obtain ⟨a, read, rfl⟩ := Schema.read?_of_map_ofJson h
    refine Schema.takesBack_alternatives [_, _] (by decide) rfl ?_
      (CheckOut.carries_schema v a sized read)
    exact List.forall_mem_cons.2 ⟨rfl, List.forall_mem_singleton.2 rfl⟩
  · cases h
  · cases h

/-- A body that is accepted holds the fields of the kind of message that it names, and names a
device. -/
theorem decode_ok {body : Bytes} {m : Checkin} (h : decode body = .ok m) :
    ∃ kind v, Json.read? body = some v ∧ Json.get? "MessageType" v.members = some (.string kind) ∧
      ofFields kind v = .ok m ∧ m.udid ≠ "" := by
  rw [decode] at h
  split at h
  · cases h
  · rename_i v found
    split at h
    · rename_i kind tagged
      cases fields : ofFields kind v with
      | error e =>
        rw [fields] at h
        cases h
      | ok m' =>
        rw [fields] at h
        replace h : (if m'.udid = "" then .error m'.emptyUdid else .ok m') =
          (.ok m : Except Error Checkin) := h
        split at h
        · cases h
        · rename_i named
          cases h
          exact ⟨kind, v, found, tagged, fields, named⟩
    · cases h

/-- The message of an accepted body is taken back from an envelope. -/
theorem takesBack_of_decode {body : Bytes} {m : Checkin} (fits : Words.Fits body)
    (h : decode body = .ok m) : schema.TakesBack m := by
  obtain ⟨kind, v, found, -, fields, -⟩ := decode_ok h
  exact takesBack_ofFields (Json.sized_of_read? fits found) fields

end Checkin

/-- An envelope holds the message that was put into it. -/
theorem CheckinEvent.decode_encode {id : String} (fits : Words.Fits (Text.encode id)) (time : Instant)
    {m : Checkin} (h : Checkin.schema.TakesBack m) :
    schema.decode (schema.encode ⟨id, time, m⟩) = .ok ⟨id, time, m⟩ :=
  Schema.decode_encode <| Schema.takesBack_record rfl <|
    Fields.takesBack_field (Schema.takesBack_text fits) <|
    Fields.takesBack_field (Schema.takesBack_time time) <| Fields.takesBack_field h Fields.takesBack_done

end DeviceFleet
