import DeviceFleet.Message.Event
import DeviceFleet.Proofs.Schema.Canonical

/-! The envelope of a new command. Each kind of payload is taken back from its octets, and from no
others, so nothing of a command is lost on the bus. -/

namespace DeviceFleet

open DeviceFleet.Alternative (faithful_bare faithful_holding)
open Fields (faithful_done faithful_field restores_done restores_field)
open Schema (faithful_record faithful_text faithful_octets faithful_flag faithful_int64
  faithful_option faithful_list restores_record restores_text restores_time)

theorem Schema.put_text_ne_nil (t : String) : text.put t ≠ [] := by
  intro none
  cases none

theorem DeviceInformation.faithful : schema.Faithful :=
  faithful_record (fun _ => rfl) (fun _ => rfl) <|
    faithful_field (faithful_list faithful_text Schema.put_text_ne_nil) faithful_done

theorem InstallProfile.faithful : schema.Faithful :=
  faithful_record (fun _ => rfl) (fun _ => rfl) <| faithful_field faithful_octets faithful_done

theorem RemoveProfile.faithful : schema.Faithful :=
  faithful_record (fun _ => rfl) (fun _ => rfl) <| faithful_field faithful_text faithful_done

theorem InstallApplication.faithful : schema.Faithful :=
  faithful_record (fun _ => rfl) (fun _ => rfl) <|
    faithful_field (faithful_option faithful_text) <|
    faithful_field (faithful_option faithful_int64) <|
    faithful_field (faithful_option faithful_text) <|
    faithful_field (faithful_option faithful_int64) <|
    faithful_field (faithful_option faithful_flag) <|
    faithful_field (faithful_option faithful_text) faithful_done

theorem InstalledApplicationList.faithful : schema.Faithful :=
  faithful_record (fun _ => rfl) (fun _ => rfl) <|
    faithful_field (faithful_list faithful_text Schema.put_text_ne_nil) <|
    faithful_field (faithful_option faithful_flag) faithful_done

theorem DeviceLock.faithful : schema.Faithful :=
  faithful_record (fun _ => rfl) (fun _ => rfl) <|
    faithful_field (faithful_option faithful_text) <|
    faithful_field (faithful_option faithful_text) <|
    faithful_field (faithful_option faithful_text) faithful_done

theorem EraseDevice.faithful : schema.Faithful :=
  faithful_record (fun _ => rfl) (fun _ => rfl) <|
    faithful_field (faithful_option faithful_text) faithful_done

namespace Payload

theorem covered (p : Payload) : ∃ c ∈ alternatives, (c.put p).isSome := by
  cases p <;> simp [alternatives, Alternative.holding, Alternative.bare]

/-- Every payload is in the alternative of its kind only. -/
theorem requestType_of_put {c : Alternative Payload} (hc : c ∈ alternatives) (p : Payload)
    (h : (c.put p).isSome) : p.requestType = c.name := by
  simp only [alternatives, List.mem_cons, List.not_mem_nil, or_false] at hc
  rcases hc with rfl | rfl | rfl | rfl | rfl | rfl | rfl | rfl | rfl | rfl | rfl
  all_goals
    cases p <;> first | rfl | cases h

theorem faithful : schema.Faithful := by
  refine Schema.faithful_alternatives requestType (by decide) ?_ covered
    (fun c hc => requestType_of_put hc) (by decide)
  simp only [alternatives, List.forall_mem_cons]
  refine ⟨faithful_holding DeviceInformation.faithful (fun _ => rfl) ?_,
    faithful_holding InstallProfile.faithful (fun _ => rfl) ?_,
    faithful_holding RemoveProfile.faithful (fun _ => rfl) ?_,
    faithful_bare _ _,
    faithful_holding InstallApplication.faithful (fun _ => rfl) ?_,
    faithful_holding InstalledApplicationList.faithful (fun _ => rfl) ?_,
    faithful_bare _ _,
    faithful_holding DeviceLock.faithful (fun _ => rfl) ?_,
    faithful_holding EraseDevice.faithful (fun _ => rfl) ?_,
    faithful_bare _ _, faithful_bare _ _, List.forall_mem_nil _⟩
  -- The content of an alternative is found in the payloads of its own kind only.
  all_goals
    intro p c content
    cases p <;> cases content
    rfl

end Payload

theorem Command.faithful : schema.Faithful :=
  faithful_record (fun _ => rfl) (fun _ => rfl) <|
    faithful_field faithful_text <| faithful_field Payload.faithful faithful_done

theorem CommandEvent.restores : schema.Restores :=
  restores_record (fun _ => rfl) <|
    restores_field restores_text <| restores_field restores_time <| restores_field restores_text <|
    restores_field Command.faithful.restores restores_done

/-- An envelope holds the command that was put into it. -/
theorem CommandEvent.decode_encode {e : CommandEvent} (fits : Words.Fits (schema.encode e)) :
    schema.decode (schema.encode e) = .ok e :=
  Schema.decode_encode (CommandEvent.restores e fits)

end DeviceFleet
