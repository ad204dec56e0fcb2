import DeviceFleet.Proofs.Message.Envelopes

/-! Envelopes that are cut off. What a reader takes from the front of octets does not change when more
octets come after them, so it needs nothing beyond the value that it takes. A whole envelope is its
value and nothing else. So from an envelope that ends early no event is read, neither its own nor a
shorter one. -/

namespace DeviceFleet

/-! ### Octets that come later -/

namespace Schema

variable {α : Type} {s : Schema α}

/-- What is taken from the front is taken whatever comes later, which stays behind it. -/
def Steady (s : Schema α) : Prop :=
  ∀ bs a rest, s.take? bs = some (a, rest) → ∀ more, s.take? (bs ++ more) = some (a, rest ++ more)

theorem Faithful.steady (h : s.Faithful) : s.Steady := by
  intro bs a rest taken more
  obtain ⟨back, whole⟩ := h.canonical bs a rest taken
  rw [whole, List.append_assoc, back]

/-- This holds of values that can be spelled in many ways too. -/
theorem steady_spelled (spell : α → String) (parse? : String → Option α) :
    (spelled spell parse?).Steady := by
  intro bs a rest taken more
  obtain ⟨t, stands, back, whole⟩ := text_of_take?_spelled taken
  rw [whole, List.append_assoc, take?_spelled stands back]

theorem steady_time : time.Steady := steady_spelled _ _

end Schema

namespace Fields

variable {α β : Type}

def Steady (f : Fields α) : Prop :=
  ∀ bs a rest, f.take? bs = some (a, rest) → ∀ more, f.take? (bs ++ more) = some (a, rest ++ more)

theorem steady_done : done.Steady := by
  intro bs a rest taken more
  cases taken
  rfl

theorem steady_field {name : String} {s : Schema α} {absent : Option α} {f : Fields β} (hs : s.Steady)
    (hf : f.Steady) : (field name s absent f).Steady := by
  intro bs x rest taken more
  obtain ⟨behind, first, others⟩ := take?_field taken
  simp only [field, hs bs x.1 behind first more, hf behind x.2 rest others more, Option.bind_eq_bind,
    Option.bind_some]

end Fields

namespace Schema

variable {α β : Type} {s : Schema α}

theorem steady_record {f : Fields β} {make : β → α} {chain : α → β} (h : f.Steady) :
    (record f make chain).Steady := by
  intro bs a rest taken more
  obtain ⟨⟨b, behind⟩, found, same⟩ := Option.map_eq_some_iff.1 taken
  cases same
  simp only [record, h bs b rest found more, Option.map_some]

/-! ### Octets that are missing -/

/-- Octets that end before the value does hold no value at their front: it would stand at the front
of the whole too, where there is nothing but the value itself. -/
theorem take?_cut (steady : s.Steady) {a : α} (back : s.TakesBack a) {cut rest : Bytes}
    (whole : s.put a = cut ++ rest) (short : rest ≠ []) : s.take? cut = none := by
  rw [Option.eq_none_iff_forall_ne_some]
  intro (b, behind) taken
  have longer := steady cut b behind taken rest
  have own := back []
  rw [List.append_nil, whole, longer] at own
  have nothing : behind ++ rest = [] := (Prod.mk.inj (Option.some.inj own)).2
  exact short (List.append_eq_nil_iff.1 nothing).2

/-- Whatever is cut off from the end of an envelope, the rest is refused as octets that are no value.
The number of octets of an envelope fits a word, as that of all octets at hand does. -/
def RefusesCuts (s : Schema α) : Prop :=
  ∀ (a : α) (cut : Bytes), Words.Fits (s.encode a) → cut <+: s.encode a → cut ≠ s.encode a →
    ∃ e, s.decode cut = .error e ∧ e.kind = .serialization

theorem Restores.refusesCuts (h : s.Restores) (steady : s.Steady) : s.RefusesCuts := by
  intro a cut fits ⟨rest, whole⟩ other
  have short : rest ≠ [] := by
    rintro rfl
    exact other ((List.append_nil cut).symm.trans whole)
  refine ⟨.unreadable, ?_, rfl⟩
  rw [decode, decode?, take?_cut steady (h a fits) whole.symm short]
  rfl

end Schema

/-! ### Events -/

theorem CheckinEvent.steady : schema.Steady :=
  Schema.steady_record <| Fields.steady_field Schema.faithful_text.steady <|
    Fields.steady_field Schema.steady_time <| Fields.steady_field Checkin.faithful.steady Fields.steady_done

theorem ConnectEvent.steady : schema.Steady :=
  Schema.steady_record <| Fields.steady_field Schema.faithful_text.steady <|
    Fields.steady_field Schema.steady_time <| Fields.steady_field Response.faithful.steady Fields.steady_done

theorem CommandEvent.steady : schema.Steady :=
  Schema.steady_record <| Fields.steady_field Schema.faithful_text.steady <|
    Fields.steady_field Schema.steady_time <| Fields.steady_field Schema.faithful_text.steady <|
    Fields.steady_field Command.faithful.steady Fields.steady_done

/-- No event is read from a part of the envelope of a check-in, of an exchange or of a new command that
ends early. -/
theorem events_refuse_cuts :
    CheckinEvent.schema.RefusesCuts ∧ ConnectEvent.schema.RefusesCuts ∧
      CommandEvent.schema.RefusesCuts :=
  ⟨CheckinEvent.restores.refusesCuts CheckinEvent.steady,
    ConnectEvent.restores.refusesCuts ConnectEvent.steady,
    CommandEvent.restores.refusesCuts CommandEvent.steady⟩

set_option maxRecDepth 4096 in
/-- Push credentials of which the last octet is missing, and an exchange that ends in the text of its
second reason. -/
theorem events_refuse_cuts_last :
    let e : CheckinEvent := ⟨"e-1", .ofMillis 1, .tokenUpdate ⟨"D", some "", "t", [255, 0], "m", [], true⟩⟩
    let x : ConnectEvent := ⟨"e-2", .ofMillis 1500,
      ⟨"D", none, .error, some "c-1", none, [⟨-4001, "", "défaut"⟩, ⟨0, "MCProfileErrorDomain", ""⟩]⟩⟩
    let cut := (CheckinEvent.schema.encode e).dropLast
    let cut' := (ConnectEvent.schema.encode x).take 140
    (Words.Fits (CheckinEvent.schema.encode e) ∧ cut <+: CheckinEvent.schema.encode e ∧
      cut ≠ CheckinEvent.schema.encode e ∧
        ∃ error, CheckinEvent.schema.decode cut = .error error ∧ error.kind = .serialization) ∧
    Words.Fits (ConnectEvent.schema.encode x) ∧ cut' <+: ConnectEvent.schema.encode x ∧
      cut' ≠ ConnectEvent.schema.encode x ∧
        ∃ error, ConnectEvent.schema.decode cut' = .error error ∧ error.kind = .serialization := by
  intro e x cut cut'
  obtain ⟨checkins, exchanges, -⟩ := events_refuse_cuts
  have fits : Words.Fits (CheckinEvent.schema.encode e) := by decide
  have fits' : Words.Fits (ConnectEvent.schema.encode x) := by decide
  have part : cut <+: CheckinEvent.schema.encode e := List.dropLast_prefix _
  have part' : cut' <+: ConnectEvent.schema.encode x := List.take_prefix _ _
  have short : cut ≠ CheckinEvent.schema.encode e := by decide
  have short' : cut' ≠ ConnectEvent.schema.encode x := by decide
  exact ⟨⟨fits, part, short, checkins e cut fits part short⟩, fits', part', short',
    exchanges x cut' fits' part' short'⟩

end DeviceFleet
