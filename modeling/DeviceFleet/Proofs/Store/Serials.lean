import DeviceFleet.Proofs.Store.Registry
import DeviceFleet.Proofs.Text.Order

/-! The index of serial numbers. Devices may share a serial number, go to another one or give theirs
up, and the index holds one device for each. Whatever was done, a serial number in it leads to a device
that has this serial number now. The records stand under the UDIDs of their devices, in the order of
the octets of these. -/

namespace DeviceFleet

theorem Table.names_map {α β : Type} (f : α → β) (t : Table α) : (t.map f).names = t.names :=
  List.map_map

namespace Registry

variable {r r' : Registry}

/-- Where the device does not change whether it has a serial number, the number leads where it did. One that
it comes to leads to it, and one that it gives up leads nowhere. -/
theorem reindex_eq (serials : String → Option String) (old new udid serial : String) :
    reindex serials old new udid serial =
      if serial = "" ∨ (old = serial ↔ new = serial) then serials serial
      else if new = serial then some udid else none := by
  rw [reindex]
  grind

def serialOf (d? : Option Device) : String := d?.elim "" (·.serialNumber)

/-- A registry after one device was put under its UDID, in place of an earlier one if there was one. -/
structure Puts (r r' : Registry) (udid : String) (new : Device) : Prop where
  named : r.devices.find? udid = none → udid ≠ ""
  own : new.udid = udid
  devices : r'.devices = r.devices.insert udid new
  serials : r'.serials = reindex r.serials (serialOf (r.devices.find? udid)) new.serialNumber udid

/-- An operation leaves devices and index alone, or it puts one device. -/
theorem perform_puts (r : Registry) (o : Operation) :
    ((r.perform o).1.devices = r.devices ∧ (r.perform o).1.serials = r.serials) ∨
      ∃ udid new, Puts r (r.perform o).1 udid new := by
  cases o with
  | insertDevice d =>
    simp only [perform]
    by_cases unnamed : d.udid = ""
    · rw [if_pos unnamed]
      exact .inl ⟨rfl, rfl⟩
    · rw [if_neg unnamed]
      by_cases known : r.devices.contains d.udid = true
      · rw [if_pos known]
        exact .inl ⟨rfl, rfl⟩
      · rw [if_neg known]
        have absent : r.devices.find? d.udid = none := by simpa [Table.contains] using known
        exact .inr ⟨d.udid, d, fun _ => unnamed, rfl, rfl, by rw [absent]; rfl⟩
  | updateDevice udid f =>
    simp only [perform]
    cases found : r.devices.find? udid with
    | none => exact .inl ⟨rfl, rfl⟩
    | some old => exact .inr ⟨udid, { f old with udid }, by simp [found], rfl, rfl, by rw [found]; rfl⟩
  | putPushInfo p =>
    simp only [perform]
    split <;> exact .inl ⟨rfl, rfl⟩
  | updateQueue udid report f =>
    simp only [perform]
    split
    · exact .inl ⟨rfl, rfl⟩
    · split
      · exact .inl ⟨rfl, rfl⟩
      · rw [putQueue]
        split <;> exact .inl ⟨rfl, rfl⟩
  | clearQueue udid =>
    simp only [perform]
    split
    · exact .inl ⟨rfl, rfl⟩
    · rw [putQueue]
      split <;> exact .inl ⟨rfl, rfl⟩

/-! ### What is kept -/

/-- Devices stand under their UDIDs, and the index leads to devices that have the serial number. -/
structure Indexed (r : Registry) : Prop where
  keyed : ∀ udid d, r.devices.find? udid = some d → udid ≠ "" ∧ d.udid = udid
  leads : ∀ serial udid, r.serials serial = some udid →
    serial ≠ "" ∧ ∃ d, r.devices.find? udid = some d ∧ d.serialNumber = serial

theorem indexed_empty : empty.Indexed where
  keyed udid d found := by cases found
  leads serial udid found := by cases found

theorem Puts.indexed {udid : String} {new : Device} (p : Puts r r' udid new) (h : r.Indexed) :
    r'.Indexed := by
  have device (v : String) : r'.devices.find? v = if v = udid then some new else r.devices.find? v := by
    rw [p.devices, Table.find?_insert]
  constructor
  · intro v d found
    rw [device] at found
    split at found
    · rename_i same
      cases found
      refine ⟨?_, same ▸ p.own⟩
      cases before : r.devices.find? udid with
      | none => exact same ▸ p.named before
      | some old => exact same ▸ (h.keyed udid old before).1
    · exact h.keyed v d found
  · intro serial v found
    rw [p.serials, reindex_eq] at found
    split at found
    · rename_i untouched
      obtain ⟨given, d, known, numbered⟩ := h.leads serial v found
      refine ⟨given, ?_⟩
      by_cases same : v = udid
      · subst same
        have stays := (untouched.resolve_left given).1 (by rw [known]; exact numbered)
        exact ⟨new, (device v).trans (if_pos rfl), stays⟩
      · exact ⟨d, (device v).trans ((if_neg same).trans known), numbered⟩
    · rename_i touched
      split at found
      · rename_i came
        cases found
        exact ⟨fun empty => touched (.inl empty), new, (device udid).trans (if_pos rfl), came⟩
      · cases found

theorem indexed_perform (h : r.Indexed) (o : Operation) : (r.perform o).1.Indexed := by
  rcases r.perform_puts o with ⟨devices, serials⟩ | ⟨udid, new, p⟩
  · exact ⟨fun udid d => devices ▸ h.keyed udid d, fun serial udid => serials ▸ devices ▸ h.leads serial udid⟩
  · exact p.indexed h

theorem indexed_run (h : r.Indexed) (os : List Operation) : (r.run os).Indexed := by
  induction os generalizing r with
  | nil => exact h
  | cons o os ih => exact ih (indexed_perform h o)

theorem Indexed.udid_of_mem {r : Registry} (h : r.Indexed) {e : String × Device}
    (member : e ∈ r.devices.entries) : e.1 ≠ "" ∧ e.2.udid = e.1 :=
  h.keyed e.1 e.2 (Named.find?_of_mem r.devices.ascending member)

theorem Indexed.udids_values {r : Registry} (h : r.Indexed) :
    r.devices.values.map (·.udid) = r.devices.names := by
  rw [Table.values, Table.names, List.map_map]
  exact List.map_congr_left fun e member => (h.udid_of_mem member).2

theorem Indexed.mem_values {r : Registry} (h : r.Indexed) {d : Device} :
    d ∈ r.devices.values ↔ r.devices.find? d.udid = some d := by
  constructor
  · intro member
    obtain ⟨e, listed, rfl⟩ := List.mem_map.1 member
    rw [(h.udid_of_mem listed).2]
    exact Named.find?_of_mem r.devices.ascending listed
  · intro found
    exact List.mem_map.2 ⟨(d.udid, d), Named.mem_of_find? found, rfl⟩

/-- What the index leads to from a serial number is a device that has it. -/
theorem Indexed.of_bySerial {r : Registry} (h : r.Indexed) {serial : String} {d : Device}
    (found : r.deviceBySerial? serial = some d) :
    r.serials serial = some d.udid ∧ r.devices.find? d.udid = some d ∧ d.serialNumber = serial := by
  obtain ⟨udid, listed, known⟩ := Option.bind_eq_some_iff.1 found
  obtain ⟨-, d', known', numbered⟩ := h.leads serial udid listed
  cases known.symm.trans known'
  have own : d.udid = udid := (h.keyed udid d known).2
  exact ⟨own ▸ listed, own ▸ known, numbered⟩

end Registry

/-! ### The store -/

namespace Store

/-- How the device records of a store and its index of serial numbers are kept. -/
structure Indexed (s : Store) : Prop where
  /-- Every record is read as a device whose UDID it stands under. -/
  keyed : ∀ e ∈ s.devices.entries, e.1 ≠ "" ∧ ∃ d, load Device.schema e.2 = .ok d ∧ d.udid = e.1
  /-- The devices are listed in the order of the octets of their UDIDs, each once. -/
  listed : ∃ ds, s.deviceList = .ok ds ∧ ds.map (·.udid) = s.devices.names ∧
    ds.Pairwise (fun a b => Text.encode a.udid < Text.encode b.udid) ∧
    ∀ d, d ∈ ds ↔ s.device? d.udid = .ok (some d)
  /-- Every serial number in the index leads to a device that has it. -/
  leads : ∀ e ∈ s.serials.entries, e.1 ≠ "" ∧
    ∃ d, s.device? e.2 = .ok (some d) ∧ d.serialNumber = e.1
  /-- A device that is found by a serial number has it. -/
  found : ∀ serial d, s.deviceBySerial? serial = .ok (some d) → d.serialNumber = serial
  /-- No device is found by two serial numbers. -/
  single : ∀ serial serial' d d', s.deviceBySerial? serial = .ok (some d) →
    s.deviceBySerial? serial' = .ok (some d') → d.udid = d'.udid → serial = serial'

theorem Holds.indexed {s : Store} {r : Registry} (holds : s.Holds r) (h : r.Indexed) : s.Indexed := by
  have bySerial {serial : String} {d : Device} (found : s.deviceBySerial? serial = .ok (some d)) :
      r.deviceBySerial? serial = some d := by
    rw [holds.deviceBySerial?] at found
    exact Except.ok.inj found
  have device (udid : String) (d : Device) :
      s.device? udid = .ok (some d) ↔ r.devices.find? udid = some d := by
    rw [holds.device?]
    exact ⟨Except.ok.inj, congrArg Except.ok⟩
  refine ⟨?_, ⟨r.devices.values, holds.deviceList, ?_, ?_, ?_⟩, ?_, ?_, ?_⟩
  · intro e member
    rw [holds.devices] at member
    obtain ⟨e, known, rfl⟩ := List.mem_map.1 member
    obtain ⟨named, own⟩ := h.udid_of_mem known
    exact ⟨named, e.2, load_store Device.lawful e.2, own⟩
  · rw [holds.devices, Table.names_map]
    exact h.udids_values
  · have names : (r.devices.values.map (·.udid)).Pairwise (· < ·) := by
      rw [h.udids_values]
      exact List.pairwise_map.2 r.devices.ascending
    exact (List.pairwise_map.1 names).imp Text.encode_lt_iff.2
  · intro d
    rw [device]
    exact h.mem_values
  · intro e member
    have led : s.serials.find? e.1 = some e.2 := Named.find?_of_mem s.serials.ascending member
    rw [holds.serials] at led
    obtain ⟨given, d, known, numbered⟩ := h.leads e.1 e.2 led
    exact ⟨given, d, (device e.2 d).2 known, numbered⟩
  · intro serial d found
    exact (h.of_bySerial (bySerial found)).2.2
  · intro serial serial' d d' found found' same
    obtain ⟨-, known, numbered⟩ := h.of_bySerial (bySerial found)
    obtain ⟨-, known', numbered'⟩ := h.of_bySerial (bySerial found')
    rw [same, known'] at known
    cases known
    exact numbered.symm.trans numbered'

/-- After any operations on an empty store its devices and their index are in order, though devices
share serial numbers and go from one to another. -/
theorem index_sound (os : List Operation) : (empty.run os).Indexed :=
  (holds_empty.run os).indexed (Registry.indexed_run Registry.indexed_empty os)

end Store

end DeviceFleet
