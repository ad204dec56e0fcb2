import DeviceFleet.Proofs.Message.CommandEvent
import DeviceFleet.Proofs.Message.Connect

/-! Envelopes of all kinds, in both directions. What is put into an envelope is read from it again,
whatever comes after it. And what is read as an event is its envelope, with anything after it: nothing
but the text of its time can be spelled otherwise. -/

namespace DeviceFleet

open DeviceFleet.Alternative (faithful_holding)
open Fields (faithful_done faithful_field restores_done restores_field)
open Schema (faithful_record faithful_text faithful_octets faithful_flag faithful_int64
  faithful_option faithful_list restores_record restores_text restores_time)

/-! ### Check-ins -/

theorem Authenticate.faithful : schema.Faithful :=
  faithful_record (fun _ => rfl) (fun _ => rfl) <|
    faithful_field faithful_text <| faithful_field faithful_text <| faithful_field faithful_text <|
    faithful_field faithful_text <| faithful_field faithful_text <| faithful_field faithful_text <|
    faithful_field faithful_text <| faithful_field faithful_text <| faithful_field faithful_text <|
    faithful_field faithful_text faithful_done

theorem TokenUpdate.faithful : schema.Faithful :=
  faithful_record (fun _ => rfl) (fun _ => rfl) <|
    faithful_field faithful_text <| faithful_field (faithful_option faithful_text) <|
    faithful_field faithful_text <| faithful_field faithful_octets <| faithful_field faithful_text <|
    faithful_field faithful_octets <| faithful_field faithful_flag faithful_done

theorem CheckOut.faithful : schema.Faithful :=
  faithful_record (fun _ => rfl) (fun _ => rfl) <|
    faithful_field faithful_text <| faithful_field faithful_text faithful_done

theorem Checkin.faithful : schema.Faithful := by
  refine Schema.faithful_alternatives messageType (by decide) ?_ (fun m => ?_) ?_ (by decide)
  · simp only [List.forall_mem_cons]
    refine ⟨faithful_holding Authenticate.faithful (fun _ => rfl) ?_,
      faithful_holding TokenUpdate.faithful (fun _ => rfl) ?_,
      faithful_holding CheckOut.faithful (fun _ => rfl) ?_, List.forall_mem_nil _⟩
    all_goals
      intro m c content
      cases m <;> cases content
      rfl
  · cases m <;> simp [Alternative.holding]
  · intro c hc m has
    simp only [List.mem_cons, List.not_mem_nil, or_false] at hc
    rcases hc with rfl | rfl | rfl
    all_goals
      cases m <;> first | rfl | cases has

/-! ### Responses -/

theorem ErrorItem.faithful : schema.Faithful :=
  faithful_record (fun _ => rfl) (fun _ => rfl) <|
    faithful_field faithful_int64 <| faithful_field faithful_text <|
    faithful_field faithful_text faithful_done

theorem ErrorItem.put_ne_nil (e : ErrorItem) : schema.put e ≠ [] := by
  intro none
  cases none

theorem Response.faithful : schema.Faithful :=
  faithful_record (fun _ => rfl) (fun _ => rfl) <|
    faithful_field faithful_text <| faithful_field (faithful_option faithful_text) <|
    faithful_field Status.faithful <| faithful_field (faithful_option faithful_text) <|
    faithful_field (faithful_option faithful_text) <|
    faithful_field (faithful_list ErrorItem.faithful ErrorItem.put_ne_nil) faithful_done

/-! ### Reading what was written -/

/-- Whatever comes after the envelope of a value, the value is read from it, so that it is written as
the same envelope again. The number of octets of an envelope fits a word, as that of all octets at
hand does. -/
def Schema.ReadsBack {α : Type} (s : Schema α) : Prop :=
  ∀ (a : α) (more : Bytes), Words.Fits (s.encode a) → s.decode (s.encode a ++ more) = .ok a ∧
    (s.decode (s.encode a)).map s.encode = .ok (s.encode a)

theorem Schema.Restores.readsBack {α : Type} {s : Schema α} (h : s.Restores) : s.ReadsBack := by
  intro a more fits
  have back := h a fits
  refine ⟨decode_append back more, ?_⟩
  rw [decode_encode back]
  rfl

theorem CheckinEvent.restores : schema.Restores :=
  restores_record (fun _ => rfl) <|
    restores_field restores_text <| restores_field restores_time <|
    restores_field Checkin.faithful.restores restores_done

theorem ConnectEvent.restores : schema.Restores :=
  restores_record (fun _ => rfl) <|
    restores_field restores_text <| restores_field restores_time <|
    restores_field Response.faithful.restores restores_done

theorem CommandRequest.restores : schema.Restores :=
  restores_record (fun _ => rfl) <|
    restores_field restores_text <| restores_field Payload.faithful.restores restores_done

/-- Envelopes of check-ins, of exchanges, of new commands and of wishes for commands are read back,
with anything after them. -/
theorem envelopes_read_back :
    CheckinEvent.schema.ReadsBack ∧ ConnectEvent.schema.ReadsBack ∧ CommandEvent.schema.ReadsBack ∧
      CommandRequest.schema.ReadsBack :=
  ⟨CheckinEvent.restores.readsBack, ConnectEvent.restores.readsBack, CommandEvent.restores.readsBack,
    CommandRequest.restores.readsBack⟩

set_option maxRecDepth 4096 in
/-- An exchange with a reason that is not in ASCII, and a command with a number below zero, each with
something after it. -/
theorem envelopes_read_back_chain :
    let e : ConnectEvent := ⟨"e-1", .ofMillis 1,
      ⟨"D", none, .error, some "c-1", none, [⟨-4001, "MCProfileErrorDomain", "défaut"⟩]⟩⟩
    let r : CommandRequest := ⟨"D", .installApplication ⟨none, some (-1), some "", none, some false, none⟩⟩
    (Words.Fits (ConnectEvent.schema.encode e) ∧
        ConnectEvent.schema.decode (ConnectEvent.schema.encode e ++ [7]) = .ok e) ∧
      Words.Fits (CommandRequest.schema.encode r) ∧
        CommandRequest.schema.decode (CommandRequest.schema.encode r ++ [0, 1]) = .ok r := by
  intro e r
  obtain ⟨-, exchanges, -, requests⟩ := envelopes_read_back
  have fits : Words.Fits (ConnectEvent.schema.encode e) := by decide
  have fits' : Words.Fits (CommandRequest.schema.encode r) := by decide
  exact ⟨⟨fits, (exchanges e [7] fits).1⟩, fits', (requests r [0, 1] fits').1⟩

/-! ### Reading nothing else -/

/-- What is read as a value is its envelope, with anything after it, in which at most the text of its
time is spelled otherwise: `timed a t` is the envelope of `a` with the text `t` for its time. So two
strings of octets that are read as one value differ in that text and in what comes after it only. -/
structure Schema.ReadsOnly {α : Type} (s : Schema α) (time : α → Instant) (timed : α → String → Bytes) :
    Prop where
  usual : ∀ a, timed a (time a).text = s.encode a
  only : ∀ bs a, s.decode bs = .ok a → ∃ t more, Instant.ofText? t = some (time a) ∧
    bs = timed a t ++ more ∧ ∀ more', s.decode (timed a t ++ more') = .ok a
  alike : ∀ bs bs' a, s.decode bs = .ok a → s.decode bs' = .ok a → ∃ t t' more more',
    Instant.ofText? t = some (time a) ∧ Instant.ofText? t' = some (time a) ∧
      bs = timed a t ++ more ∧ bs' = timed a t' ++ more'

section Stamped

variable {α β : Type} {f : Fields β} {make : String × Instant × β → α}
  {chain : α → String × Instant × β}

/-- A record that begins with an identifier and a time. -/
abbrev Schema.stamped (f : Fields β) (make : String × Instant × β → α)
    (chain : α → String × Instant × β) : Schema α :=
  record (.required "id" .text <| .required "time" .time f) make chain

/-- Such a record is taken from an identifier, some text for the time and the other fields, and would
be whatever came after them. -/
theorem Schema.take?_stamped (h : f.Faithful) {bs rest : Bytes} {a : α}
    (taken : (stamped f make chain).take? bs = some (a, rest)) :
    ∃ x t, make x = a ∧ Instant.ofText? t = some x.2.1 ∧
      bs = text.put x.1 ++ (text.put t ++ f.put x.2.2) ++ rest ∧
      ∀ more, (stamped f make chain).take? (text.put x.1 ++ (text.put t ++ f.put x.2.2) ++ more) =
        some (a, more) := by
  obtain ⟨⟨x, behind⟩, found, same⟩ := Option.map_eq_some_iff.1 taken
  cases same
  obtain ⟨behindId, id, found⟩ := Fields.take?_field found
  obtain ⟨behindTime, time, others⟩ := Fields.take?_field found
  obtain ⟨idBack, idFront⟩ := faithful_text.canonical bs x.1 behindId id
  obtain ⟨t, stands, timeBack, timeFront⟩ := text_of_take?_spelled time
  obtain ⟨othersBack, othersFront⟩ := h.canonical behindTime x.2.2 rest others
  refine ⟨x, t, rfl, stands, ?_, fun more => ?_⟩
  · rw [idFront, timeFront, othersFront, List.append_assoc, List.append_assoc]
  · have timeAgain : Schema.time.take? (text.put t ++ (f.put x.2.2 ++ more)) =
        some (x.2.1, f.put x.2.2 ++ more) := take?_spelled stands timeBack _
    simp only [record, Fields.required, Fields.field, List.append_assoc, idBack _, timeAgain,
      othersBack more, Option.bind_eq_bind, Option.bind_some, Option.map_some]

theorem Schema.readsOnly_stamped (h : f.Faithful) (inverse : ∀ x, chain (make x) = x)
    {time : α → Instant} {timed : α → String → Bytes} (times : ∀ a, time a = (chain a).2.1)
    (octets : ∀ a t, timed a t = text.put (chain a).1 ++ (text.put t ++ f.put (chain a).2.2)) :
    (stamped f make chain).ReadsOnly time timed := by
  have only : ∀ bs a, (stamped f make chain).decode bs = .ok a → ∃ t more,
      Instant.ofText? t = some (time a) ∧ bs = timed a t ++ more ∧
        ∀ more', (stamped f make chain).decode (timed a t ++ more') = .ok a := by
    intro bs a read
    obtain ⟨rest, taken⟩ := take?_of_decode read
    obtain ⟨x, t, rfl, stands, whole, again⟩ := take?_stamped h taken
    refine ⟨t, rest, ?_⟩
    rw [times, octets, inverse]
    exact ⟨stands, whole, decode_append again⟩
  refine ⟨fun a => ?_, only, fun bs bs' a read read' => ?_⟩
  · rw [octets, times]
    rfl
  · obtain ⟨t, more, stands, whole, -⟩ := only bs a read
    obtain ⟨t', more', stands', whole', -⟩ := only bs' a read'
    exact ⟨t, t', more, more', stands, stands', whole, whole'⟩

end Stamped

/-- The envelope of a check-in with a text for its time. -/
def CheckinEvent.timed (e : CheckinEvent) (t : String) : Bytes :=
  Schema.text.put e.id ++ Schema.text.put t ++ Checkin.schema.put e.message

def ConnectEvent.timed (e : ConnectEvent) (t : String) : Bytes :=
  Schema.text.put e.id ++ Schema.text.put t ++ Response.schema.put e.response

def CommandEvent.timed (e : CommandEvent) (t : String) : Bytes :=
  Schema.text.put e.id ++ Schema.text.put t ++ Schema.text.put e.udid ++ Command.schema.put e.command

/-- Events are read from their envelopes and from nothing else, apart from how the time is spelled and
from what comes after. -/
theorem events_read_only :
    CheckinEvent.schema.ReadsOnly (·.time) CheckinEvent.timed ∧
      ConnectEvent.schema.ReadsOnly (·.time) ConnectEvent.timed ∧
      CommandEvent.schema.ReadsOnly (·.time) CommandEvent.timed := by
  refine ⟨Schema.readsOnly_stamped (faithful_field Checkin.faithful faithful_done) (fun _ => rfl)
      (fun _ => rfl) fun e t => ?_,
    Schema.readsOnly_stamped (faithful_field Response.faithful faithful_done) (fun _ => rfl)
      (fun _ => rfl) fun e t => ?_,
    Schema.readsOnly_stamped (faithful_field faithful_text <| faithful_field Command.faithful
      faithful_done) (fun _ => rfl) (fun _ => rfl) fun e t => ?_⟩
  · show CheckinEvent.timed e t = _ ++ (_ ++ (Checkin.schema.put e.message ++ []))
    rw [List.append_nil, ← List.append_assoc]
    rfl
  · show ConnectEvent.timed e t = _ ++ (_ ++ (Response.schema.put e.response ++ []))
    rw [List.append_nil, ← List.append_assoc]
    rfl
  · show CommandEvent.timed e t = _ ++ (_ ++ (_ ++ (Command.schema.put e.command ++ [])))
    rw [List.append_nil, ← List.append_assoc, ← List.append_assoc]
    rfl

set_option maxRecDepth 4096 in
/-- A check-in whose time was spelled with an offset, and octets after it. -/
theorem events_read_only_offset :
    let e : CheckinEvent := ⟨"e-1", .ofMillis 1500, .checkOut ⟨"D", "défaut"⟩⟩
    let bs := e.timed "1970-01-01t02:00:01.50+02:00" ++ [7]
    CheckinEvent.schema.decode bs = .ok e ∧ bs ≠ CheckinEvent.schema.encode e ++ [7] ∧
      ∃ t more, Instant.ofText? t = some e.time ∧ bs = e.timed t ++ more ∧
        ∀ more', CheckinEvent.schema.decode (e.timed t ++ more') = .ok e := by
  intro e bs
  have found : CheckinEvent.schema.decode? bs = some e := by decide +kernel
  have read : CheckinEvent.schema.decode bs = .ok e := by rw [Schema.decode, found]
  have other : bs ≠ CheckinEvent.schema.encode e ++ [7] := by decide +kernel
  exact ⟨read, other, events_read_only.1.only bs e read⟩

end DeviceFleet
