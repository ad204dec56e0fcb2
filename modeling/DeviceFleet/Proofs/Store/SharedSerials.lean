import Mathlib.Data.List.Induction
import DeviceFleet.Proofs.Store.Serials

/-! Which devices are found by their serial numbers. The index has room for one device under a serial
number. When a device gives its serial number up, the index forgets the number, though another device
may have it too; that one is then not found until some device comes to the number again. This is the
only way in which a device is not found by the serial number it has. -/

namespace DeviceFleet

namespace Store

def Carries (s : Store) (udid serial : String) : Prop :=
  ∃ d, s.device? udid = .ok (some d) ∧ d.serialNumber = serial

/-- The operation brings a device to the serial number. -/
def Gives (s : Store) (o : Operation) (serial : String) : Prop :=
  ∃ udid, ¬ s.Carries udid serial ∧ (s.perform o).1.Carries udid serial

/-- The operation takes the serial number from one of two devices that have it. -/
def Parts (s : Store) (o : Operation) (serial : String) : Prop :=
  ∃ udid other, udid ≠ other ∧ s.Carries other serial ∧
    s.Carries udid serial ∧ ¬ (s.perform o).1.Carries udid serial

/-- Among the operations on an empty store there is one that took the serial number from one of two
devices that had it, and none after it brought a device to the number. -/
def Forgotten (os : List Operation) (serial : String) : Prop :=
  ∃ before o after, os = before ++ o :: after ∧ (empty.run before).Parts o serial ∧
    ∀ first p last, after = first ++ p :: last →
      ¬ (empty.run (before ++ o :: first)).Gives p serial

theorem forgotten_concat (os : List Operation) (o : Operation) (serial : String) :
    Forgotten (os ++ [o]) serial ↔ (empty.run os).Parts o serial ∨
      Forgotten os serial ∧ ¬ (empty.run os).Gives o serial := by
  constructor
  · rintro ⟨before, p, after, split, parts, since⟩
    -- The number was forgotten by the last operation, or by one before it.
    rcases List.eq_nil_or_concat after with rfl | ⟨init, q, rfl⟩
    · obtain ⟨rfl, last⟩ := List.append_inj' split rfl
      cases last
      exact .inl parts
    · rw [List.concat_eq_append, ← List.cons_append, ← List.append_assoc] at split
      obtain ⟨rfl, last⟩ := List.append_inj' split rfl
      cases last
      refine .inr ⟨⟨before, p, init, rfl, parts, fun first r last eq => ?_⟩, ?_⟩
      · exact since first r (last ++ [o]) (by simp [eq])
      · exact since init o [] (by simp)
  · rintro (parts | ⟨⟨before, p, after, rfl, parts, since⟩, quiet⟩)
    · exact ⟨os, o, [], rfl, parts, fun first p last eq => by simp at eq⟩
    · refine ⟨before, p, after ++ [o], by simp, parts, fun first q last eq => ?_⟩
      rcases List.eq_nil_or_concat last with rfl | ⟨init, r, rfl⟩
      · obtain ⟨rfl, same⟩ := List.append_inj' eq rfl
        cases same
        exact quiet
      · rw [List.concat_eq_append, ← List.cons_append, ← List.append_assoc] at eq
        obtain ⟨rfl, -⟩ := List.append_inj' eq rfl
        exact since first q init rfl

end Store

namespace Registry

variable {r r' : Registry} {serial : String}

def Carries (r : Registry) (udid serial : String) : Prop :=
  ∃ d, r.devices.find? udid = some d ∧ d.serialNumber = serial

theorem carries_of_holds {s : Store} (holds : s.Holds r) (udid serial : String) :
    s.Carries udid serial ↔ r.Carries udid serial := by
  simp only [Store.Carries, Carries, holds.device?, Except.ok.injEq]

theorem carries_iff (given : serial ≠ "") (udid : String) :
    r.Carries udid serial ↔ serialOf (r.devices.find? udid) = serial := by
  rw [Carries]
  cases r.devices.find? udid with
  | none => simp [serialOf, given.symm]
  | some d => simp [serialOf]

/-- What an operation does to the devices with a serial number and to the index under it. -/
inductive Reindexes (r r' : Registry) (serial : String) : Prop
  | stays (carried : ∀ v, r'.Carries v serial ↔ r.Carries v serial)
      (index : r'.serials serial = r.serials serial)
  | comes (udid : String) (others : ∀ v, v ≠ udid → (r'.Carries v serial ↔ r.Carries v serial))
      (before : ¬ r.Carries udid serial) (now : r'.Carries udid serial)
      (index : r'.serials serial = some udid)
  | leaves (udid : String) (others : ∀ v, v ≠ udid → (r'.Carries v serial ↔ r.Carries v serial))
      (before : r.Carries udid serial) (now : ¬ r'.Carries udid serial)
      (index : r'.serials serial = none)

theorem Puts.reindexes {udid : String} {new : Device} (p : Puts r r' udid new) (given : serial ≠ "") :
    Reindexes r r' serial := by
  have others (v : String) (other : v ≠ udid) : r'.Carries v serial ↔ r.Carries v serial := by
    rw [Carries, Carries, p.devices, Table.find?_insert, if_neg other]
  have now : r'.Carries udid serial ↔ new.serialNumber = serial := by
    rw [carries_iff given, p.devices, Table.find?_insert, if_pos rfl]
    rfl
  have before := carries_iff (r := r) given udid
  have stays (same : r'.Carries udid serial ↔ r.Carries udid serial) (v : String) :
      r'.Carries v serial ↔ r.Carries v serial := by
    by_cases here : v = udid
    · exact here ▸ same
    · exact others v here
  have index := reindex_eq r.serials (serialOf (r.devices.find? udid)) new.serialNumber udid serial
  rw [← p.serials] at index
  by_cases same : serialOf (r.devices.find? udid) = serial ↔ new.serialNumber = serial
  · rw [if_pos (.inr same)] at index
    exact .stays (stays (now.trans (same.symm.trans before.symm))) index
  · rw [if_neg (not_or.2 ⟨given, same⟩)] at index
    by_cases has : new.serialNumber = serial
    · rw [if_pos has] at index
      exact .comes udid others (fun had => same (iff_of_true (before.1 had) has)) (now.2 has) index
    · rw [if_neg has] at index
      have had : serialOf (r.devices.find? udid) = serial := by
        by_contra no
        exact same (iff_of_false no has)
      exact .leaves udid others (before.2 had) (fun h => has (now.1 h)) index

theorem perform_reindexes (r : Registry) (o : Operation) (given : serial ≠ "") :
    Reindexes r (r.perform o).1 serial := by
  rcases r.perform_puts o with ⟨devices, serials⟩ | ⟨udid, new, p⟩
  · exact .stays (fun v => by rw [Carries, Carries, devices]) (by rw [serials])
  · exact p.reindexes given

/-- A serial number of a device is missing from the index just if it was forgotten. -/
theorem missing_iff (given : serial ≠ "") (os : List Operation) {udid : String}
    (carried : (empty.run os).Carries udid serial) :
    (empty.run os).serials serial = none ↔ Store.Forgotten os serial := by
  induction os using List.reverseRecOn generalizing udid with
  | nil =>
    obtain ⟨d, found, -⟩ := carried
    cases found
  | append_singleton os o ih =>
    have before (v : String) := carries_of_holds (Store.holds_empty.run os) v serial
    have after (v : String) := carries_of_holds ((Store.holds_empty.run os).perform o).1 v serial
    have last : empty.run (os ++ [o]) = ((empty.run os).perform o).1 := by
      rw [run, run, List.foldl_concat]
    rw [last] at carried
    rw [last, Store.forgotten_concat, Store.Parts, Store.Gives]
    simp only [before, after]
    -- Only where the last operation leaves the number alone do the earlier ones decide.
    cases (empty.run os).perform_reindexes o given with
    | stays same index =>
      simp only [same, and_not_self, exists_false, and_false, false_or, not_and_self, not_false_eq_true,
        and_true, index]
      exact ih ((same udid).1 carried)
    | comes v others before now index =>
      refine iff_of_false (by simp [index]) ?_
      rintro (⟨w, other, -, -, had, gone⟩ | ⟨-, quiet⟩)
      · by_cases here : w = v
        · exact before (here ▸ had)
        · exact gone ((others w here).2 had)
      · exact quiet ⟨v, before, now⟩
    | leaves v others before now index =>
      have other : udid ≠ v := fun same => now (same ▸ carried)
      exact iff_of_true index (.inl ⟨v, udid, other.symm, (others udid other).1 carried, before, now⟩)

end Registry

namespace Store

/-- After any operations on an empty store, a device that has a serial number is found by it, or
another one that has it is, unless the number was forgotten: some device gave it up while another one
had it, and none came to it since. Then nothing is found. -/
theorem found_unless_forgotten (os : List Operation) {udid : String} {d : Device}
    (known : (empty.run os).device? udid = .ok (some d)) (given : d.serialNumber ≠ "") :
    (¬ Forgotten os d.serialNumber ↔
      ∃ d', (empty.run os).deviceBySerial? d.serialNumber = .ok (some d') ∧
        d'.serialNumber = d.serialNumber) ∧
    (Forgotten os d.serialNumber ↔ (empty.run os).deviceBySerial? d.serialNumber = .ok none) := by
  have holds := holds_empty.run os
  have carried := (Registry.carries_of_holds holds udid d.serialNumber).1 ⟨d, known, rfl⟩
  rw [← Registry.missing_iff given os carried, holds.deviceBySerial?, Registry.deviceBySerial?]
  cases led : (Registry.empty.run os).serials d.serialNumber with
  | none => simp
  | some v =>
    obtain ⟨-, d', found, numbered⟩ :=
      (Registry.indexed_run Registry.indexed_empty os).leads d.serialNumber v led
    simp [found, numbered]

/-- Two devices have a serial number; one of them gives it up and comes to it again. -/
theorem found_unless_forgotten_returned :
    let device (udid : String) : Device :=
      .ofAuthenticate ⟨udid, "", "S-1", "", "", "", "", "", "", ""⟩ udid (.ofNanos 0)
    let os : List Operation := [.insertDevice (device "A"), .insertDevice (device "B"),
      .updateDevice "B" ({ · with serialNumber := "S-2" }),
      .updateDevice "B" ({ · with serialNumber := "S-1" })]
    (empty.run os).device? "A" = .ok (some (device "A")) ∧ (device "A").serialNumber ≠ "" ∧
      ¬ Forgotten os "S-1" ∧ (empty.run os).deviceBySerial? "S-1" = .ok (some (device "B")) := by
  intro device os
  have known : (empty.run os).device? "A" = .ok (some (device "A")) := by
    rw [(holds_empty.run os).device?]
    exact congrArg Except.ok (by decide)
  have found : (empty.run os).deviceBySerial? "S-1" = .ok (some (device "B")) := by
    rw [(holds_empty.run os).deviceBySerial?]
    exact congrArg Except.ok (by decide)
  have given : (device "A").serialNumber ≠ "" := by decide
  exact ⟨known, given, (found_unless_forgotten os known given).1.2 ⟨_, found, rfl⟩, found⟩

/-- Two devices have a serial number; one of them gives it up, and the other is not found by it. -/
theorem unfound_shared :
    let device (udid : String) : Device :=
      .ofAuthenticate ⟨udid, "", "S-1", "", "", "", "", "", "", ""⟩ udid (.ofNanos 0)
    let os : List Operation := [.insertDevice (device "A"), .insertDevice (device "B"),
      .updateDevice "B" ({ · with serialNumber := "S-2" })]
    (empty.run os).device? "A" = .ok (some (device "A")) ∧ (device "A").serialNumber = "S-1" ∧
      (empty.run os).deviceBySerial? "S-1" = .ok none := by
  intro device os
  rw [(holds_empty.run os).device?, (holds_empty.run os).deviceBySerial?]
  exact ⟨congrArg Except.ok (by decide), rfl, congrArg Except.ok (by decide)⟩

end Store

end DeviceFleet
