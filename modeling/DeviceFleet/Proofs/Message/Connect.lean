import DeviceFleet.Proofs.Message.Checkin
import DeviceFleet.Proofs.Schema.Canonical

/-! The envelope of a response that was read from a body: nothing of the response is lost in it, its
chain of errors included. -/

namespace DeviceFleet

open Schema (carries_record carries_text carries_int64 carries_list takesBack_int64 takesBack_list)

theorem Status.faithful : schema.Faithful := by
  refine Schema.faithful_alternatives name (by decide) ?_ ?_ ?_ (by decide)
  · intro c hc
    obtain ⟨x, -, rfl⟩ := List.mem_map.1 hc
    exact Alternative.faithful_bare x.name x
  · intro x
    exact ⟨.bare x.name x, List.mem_map_of_mem (by cases x <;> decide), by simp [Alternative.bare]⟩
  · intro c hc x has
    obtain ⟨y, -, rfl⟩ := List.mem_map.1 hc
    by_cases same : x = y
    · rw [same]
      rfl
    · simp [Alternative.bare, same] at has

theorem Status.takesBack (st : Status) : schema.TakesBack st := by
  refine faithful.restores st ?_
  cases st <;> decide

theorem ErrorItem.carries_schema : schema.Carries := by
  have zero (n : Int64) (_ : some 0 = some n) : Schema.int64.TakesBack n := takesBack_int64 n
  exact carries_record (fun _ => rfl) <|
    Fields.carries_field carries_int64 zero <| Fields.carries_text <|
    Fields.carries_text Fields.carries_done

namespace Response

theorem carries_schema : schema.Carries := by
  have status : Status.schema.Carries := fun _ st _ _ => st.takesBack
  have none (chain : List ErrorItem) (same : some [] = some chain) :
      ErrorItem.schema.list.TakesBack chain := by
    cases same
    exact takesBack_list (by decide) (List.forall_mem_nil _)
  exact carries_record (fun _ => rfl) <|
    Fields.carries_field carries_text nofun <| Fields.carries_optional carries_text <|
    Fields.carries_field status nofun <| Fields.carries_optional carries_text <|
    Fields.carries_optional carries_text <|
    Fields.carries_field (carries_list ErrorItem.carries_schema) none Fields.carries_done

theorem kind_of_validate {r : Response} {e : Error} (h : r.validate = .error e) :
    e.kind = .validation := by
  rw [validate] at h
  split at h
  · cases h
    rfl
  · split at h
    · cases h
      rfl
    · cases h

/-- A body that is accepted names a status and holds the fields of a response, which are complete. -/
theorem decode_ok {body : Bytes} {r : Response} (h : decode body = .ok r) :
    ∃ name v, Json.read? body = some v ∧ Json.get? "Status" v.members = some (.string name) ∧
      schema.read? v = some r ∧ r.validate = .ok () := by
  rw [decode] at h
  split at h
  · cases h
  · rename_i v found
    split at h
    · rename_i name tagged
      simp only [bind, Except.bind] at h
      split at h
      · cases h
      · split at h
        · cases h
        · rename_i fields
          split at h
          · cases h
          · rename_i valid
            cases h
            exact ⟨name, v, found, tagged, Schema.read?_of_ofJson fields, valid⟩
    · cases h

/-- The response of an accepted body is taken back from an envelope. -/
theorem takesBack_of_decode {body : Bytes} {r : Response} (fits : Words.Fits body)
    (h : decode body = .ok r) : schema.TakesBack r := by
  obtain ⟨-, v, found, -, fields, -⟩ := decode_ok h
  exact carries_schema v r (Json.sized_of_read? fits found) fields

end Response

/-- An envelope holds the response that was put into it. -/
theorem ConnectEvent.decode_encode {id : String} (fits : Words.Fits (Text.encode id)) (time : Instant)
    {r : Response} (h : Response.schema.TakesBack r) :
    schema.decode (schema.encode ⟨id, time, r⟩) = .ok ⟨id, time, r⟩ :=
  Schema.decode_encode <| Schema.takesBack_record rfl <|
    Fields.takesBack_field (Schema.takesBack_text fits) <|
    Fields.takesBack_field (Schema.takesBack_time time) <| Fields.takesBack_field h Fields.takesBack_done

end DeviceFleet
