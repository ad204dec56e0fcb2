import Mathlib.Data.List.Induction
import DeviceFleet.Proofs.Service.Enrolment
import DeviceFleet.Proofs.Store.Registry

/-! The record of a device in terms of the check-ins that were applied. A device has a record from its
first enrolment on. What it said of itself then stays; its push credentials are those of its last
registration since; and it is in the fleet just if it registered after it last left. -/

namespace DeviceFleet

namespace Registry

variable (r : Registry) {udid : String}

/-- A device is found after its insertion, unless another one was there. -/
theorem find?_insertDevice (named : udid ≠ "") (d : Device) :
    (r.perform (.insertDevice d)).1.devices.find? udid =
      (r.devices.find? udid).or (if d.udid = udid then some d else none) := by
  rw [perform]
  by_cases same : d.udid = udid
  · rw [if_neg (same ▸ named), if_pos same, Table.contains, same]
    cases found : r.devices.find? udid with
    | some old =>
      simp only [Option.isSome_some, if_true, found]
      rfl
    | none => simp
  · rw [if_neg same, Option.or_none]
    split
    · rfl
    · split
      · rfl
      · simp only [Table.find?_insert, if_neg (Ne.symm same)]

theorem find?_updateDevice (v : String) (f : Device → Device) :
    (r.perform (.updateDevice v f)).1.devices.find? udid =
      if v = udid then (r.devices.find? udid).map fun d => { f d with udid } else r.devices.find? udid := by
  rw [perform]
  by_cases same : v = udid
  · rw [if_pos same, same]
    cases found : r.devices.find? udid with
    | none => exact found
    | some old => simp
  · rw [if_neg same]
    split
    · rfl
    · simp only [Table.find?_insert, if_neg (Ne.symm same)]

end Registry

namespace Enrolment

/-! ### Check-ins as operations -/

def operation? (m : Checkin) (stamp : Stamp) : Option Operation :=
  match m with
  | .authenticate m => some (.insertDevice (.ofAuthenticate m stamp.id stamp.now))
  | .tokenUpdate m =>
    if m.isUserScoped then none else some (.updateDevice m.udid (·.register m stamp.now))
  | .checkOut m => some (.updateDevice m.udid (·.leave stamp.now))

theorem applied_eq (s : Store) (m : Checkin) (stamp : Stamp) :
    applied s m stamp.id stamp.now = (operation? m stamp).elim s fun o => (s.perform o).1 := by
  have committed {ρ : Type} (x : Except StoreError (Store × ρ)) :
      (Store.reported (x.map (·.1))).toOption.getD s = (s.commit x).1 := by
    cases x <;> rfl
  cases m with
  | authenticate m => exact committed _
  | tokenUpdate m =>
    rw [applied, apply, operation?]
    split
    · rfl
    · exact committed _
  | checkOut m => exact committed _

theorem holds_applyAll {s : Store} {r : Registry} (holds : s.Holds r) (ms : List (Checkin × Stamp)) :
    (applyAll s ms).Holds (r.run (ms.filterMap fun x => operation? x.1 x.2)) := by
  induction ms generalizing s r with
  | nil => exact holds
  | cons x ms ih =>
    show (applyAll (applied s x.1 x.2.id x.2.now) ms).Holds _
    rw [applied_eq, List.filterMap_cons]
    cases operation? x.1 x.2 with
    | none => exact ih holds
    | some o => exact ih (holds.perform o).1

/-! ### One device -/

def enrols (udid : String) : Checkin → Bool
  | .authenticate m => m.udid = udid
  | _ => false

/-- The registration that a check-in is for the device; one on the channel of a user is none. -/
def registers? (udid : String) : Checkin → Option TokenUpdate
  | .tokenUpdate m => if m.udid = udid ∧ m.isUserScoped = false then some m else none
  | _ => none

/-- Whether the device is in the fleet after a check-in, if that says so: it is after a registration,
and is not after it left. -/
def attends? (udid : String) : Checkin → Option Bool
  | .checkOut m => if m.udid = udid then some false else none
  | m => (registers? udid m).map fun _ => true

/-- The last text that is not empty. -/
def lastGiven (ts : List String) : String := (ts.filter (· ≠ "")).getLast?.getD ""

/-- The record of a device that enrolled, after the check-ins that followed. -/
def standing (m : Authenticate) (stamp : Stamp) (after : List (Checkin × Stamp)) : Device :=
  let registrations := after.filterMap fun x => registers? m.udid x.1
  let last := registrations.getLast?
  { uuid := stamp.id
    udid := m.udid
    serialNumber := m.serialNumber
    osVersion := m.osVersion
    buildVersion := m.buildVersion
    productName := m.productName
    model := m.model
    deviceName := m.deviceName
    imei := m.imei
    meid := m.meid
    topic := lastGiven (m.topic :: registrations.map (·.topic))
    pushToken := last.elim [] (·.token)
    pushMagic := last.elim "" (·.pushMagic)
    unlockToken := last.elim [] (·.unlockToken)
    enrolled := (after.filterMap fun x => attends? m.udid x.1).getLast?.getD false
    awaitingConfiguration := last.elim false (·.awaitingConfiguration)
    createdAt := stamp.now
    lastSeen := ((after.filter fun x => (attends? m.udid x.1).isSome).getLast?.map (·.2.now)).getD
      stamp.now }

theorem lastGiven_concat (ts : List String) (t : String) :
    lastGiven (ts ++ [t]) = if t = "" then lastGiven ts else t := by
  rw [lastGiven, List.filter_append]
  by_cases empty : t = ""
  · rw [if_pos empty, List.filter_cons_of_neg (by simpa using empty), List.filter_nil, List.append_nil,
      lastGiven]
  · rw [if_neg empty, List.filter_cons_of_pos (by simpa using empty), List.filter_nil,
      List.getLast?_concat, Option.getD_some]

def followed (udid : String) (d? : Option Device) : Checkin × Stamp → Option Device
  | (.authenticate m, stamp) =>
    d?.or (if m.udid = udid then some (.ofAuthenticate m stamp.id stamp.now) else none)
  | (.tokenUpdate m, stamp) =>
    if m.udid = udid ∧ m.isUserScoped = false then
      d?.map fun d => { d.register m stamp.now with udid }
    else d?
  | (.checkOut m, stamp) =>
    if m.udid = udid then d?.map fun d => { d.leave stamp.now with udid } else d?

theorem find?_operation {udid : String} (named : udid ≠ "") (r : Registry) (x : Checkin × Stamp) :
    ((operation? x.1 x.2).elim r fun o => (r.perform o).1).devices.find? udid =
      followed udid (r.devices.find? udid) x := by
  obtain ⟨m, stamp⟩ := x
  cases m with
  | authenticate m => exact r.find?_insertDevice named _
  | tokenUpdate m =>
    rw [operation?, followed]
    by_cases user : m.isUserScoped = true
    · rw [if_pos user, if_neg fun h => Bool.eq_false_iff.1 h.2 user]
      rfl
    · have device : m.isUserScoped = false := Bool.eq_false_iff.2 user
      simp only [device, Bool.false_eq_true, if_false, and_true, Option.elim_some]
      exact r.find?_updateDevice m.udid _
  | checkOut m => exact r.find?_updateDevice m.udid _

/-- The record of a device follows the check-ins one by one. -/
theorem find?_run {udid : String} (named : udid ≠ "") (r : Registry) (ms : List (Checkin × Stamp)) :
    (r.run (ms.filterMap fun x => operation? x.1 x.2)).devices.find? udid =
      ms.foldl (followed udid) (r.devices.find? udid) := by
  induction ms generalizing r with
  | nil => rfl
  | cons x ms ih =>
    rw [List.foldl_cons, ← find?_operation named r x, List.filterMap_cons]
    cases operation? x.1 x.2 with
    | none => exact ih r
    | some o => exact ih (r.perform o).1

theorem device?_applyAll {udid : String} (named : udid ≠ "") (ms : List (Checkin × Stamp)) :
    (applyAll .empty ms).device? udid = .ok (ms.foldl (followed udid) none) := by
  rw [(holds_applyAll Store.holds_empty ms).device?, find?_run named]
  rfl

/-! ### The closed form -/

theorem standing_nil (m : Authenticate) (stamp : Stamp) :
    standing m stamp [] = .ofAuthenticate m stamp.id stamp.now := by
  have topic : lastGiven [m.topic] = m.topic := by
    rw [← List.nil_append [m.topic], lastGiven_concat]
    split
    · rename_i empty
      rw [empty]
      rfl
    · rfl
  simp only [standing, List.filterMap_nil, List.map_nil, topic]
  rfl

/-- The closed form follows a check-in as the record does. -/
theorem followed_standing (m : Authenticate) (stamp : Stamp) (after : List (Checkin × Stamp))
    (x : Checkin × Stamp) :
    followed m.udid (some (standing m stamp after)) x = some (standing m stamp (after ++ [x])) := by
  obtain ⟨c, s⟩ := x
  cases c with
  | authenticate a => simp [followed, standing, registers?, attends?]
  | tokenUpdate u =>
    by_cases own : u.udid = m.udid ∧ u.isUserScoped = false
    · have topic := lastGiven_concat
        (m.topic :: (after.filterMap fun x => registers? m.udid x.1).map (·.topic)) u.topic
      simpa [followed, standing, registers?, attends?, own, Device.register] using topic.symm
    · simp [followed, standing, registers?, attends?, own]
  | checkOut c =>
    by_cases own : c.udid = m.udid
    · simp [followed, standing, registers?, attends?, own, Device.leave]
    · simp [followed, standing, registers?, attends?, own]

theorem foldl_followed (m : Authenticate) (stamp : Stamp) (after : List (Checkin × Stamp)) :
    after.foldl (followed m.udid) (some (.ofAuthenticate m stamp.id stamp.now)) =
      some (standing m stamp after) := by
  induction after using List.reverseRecOn with
  | nil => rw [standing_nil, List.foldl_nil]
  | append_singleton after x ih => rw [List.foldl_concat, ih, followed_standing]

/-- A device that did not enrol has no record, whatever else it sends. -/
theorem foldl_followed_none {udid : String} {ms : List (Checkin × Stamp)}
    (h : ∀ x ∈ ms, enrols udid x.1 = false) : ms.foldl (followed udid) none = none := by
  induction ms with
  | nil => rfl
  | cons x ms ih =>
    obtain ⟨first, others⟩ := List.forall_mem_cons.1 h
    have still : followed udid none x = none := by
      obtain ⟨c, s⟩ := x
      cases c with
      | authenticate m => simpa [followed, enrols] using first
      | tokenUpdate m => simp [followed]
      | checkOut m => simp [followed]
    rw [List.foldl_cons, still]
    exact ih others

theorem exists_first {udid : String} {ms : List (Checkin × Stamp)}
    (h : ∃ x ∈ ms, enrols udid x.1 = true) :
    ∃ before m stamp after, ms = before ++ (.authenticate m, stamp) :: after ∧ m.udid = udid ∧
      ∀ x ∈ before, enrols udid x.1 = false := by
  cases found : ms.find? fun x => enrols udid x.1 with
  | none =>
    obtain ⟨x, hx, enrolled⟩ := h
    exact absurd enrolled (List.find?_eq_none.1 found x hx)
  | some x =>
    obtain ⟨enrolled, before, after, split, first⟩ := List.find?_eq_some_iff_append.1 found
    obtain ⟨c, stamp⟩ := x
    cases c with
    | authenticate m =>
      refine ⟨before, m, stamp, after, split, of_decide_eq_true enrolled, fun x hx => ?_⟩
      simpa using first x hx
    | tokenUpdate m => cases enrolled
    | checkOut m => cases enrolled

/-- After any check-ins, those that failed passed over: a device has a record just if it enrolled among
them. The record is then the one that its first enrolment and the check-ins after that give: who it is
and when it came from the first enrolment; its push credentials from its last registration since, those
on the channel of a user left out; its topic the last one that the enrolment or these registrations
give; and it is in the fleet if it registered after it last left. -/
theorem device_of_history {udid : String} (named : udid ≠ "") (ms : List (Checkin × Stamp)) :
    ((∃ d, (applyAll .empty ms).device? udid = .ok (some d)) ↔ ∃ x ∈ ms, enrols udid x.1 = true) ∧
    ((∀ x ∈ ms, enrols udid x.1 = false) → (applyAll .empty ms).device? udid = .ok none) ∧
    ∀ before m stamp after, ms = before ++ (.authenticate m, stamp) :: after → m.udid = udid →
      (∀ x ∈ before, enrols udid x.1 = false) →
      (applyAll .empty ms).device? udid = .ok (some (standing m stamp after)) := by
  have absent (h : ∀ x ∈ ms, enrols udid x.1 = false) : (applyAll .empty ms).device? udid = .ok none := by
    rw [device?_applyAll named, foldl_followed_none h]
  have present (before m stamp after) (split : ms = before ++ (.authenticate m, stamp) :: after)
      (own : m.udid = udid) (first : ∀ x ∈ before, enrols udid x.1 = false) :
      (applyAll .empty ms).device? udid = .ok (some (standing m stamp after)) := by
    subst own
    rw [device?_applyAll named, split, List.foldl_append, foldl_followed_none first, List.foldl_cons,
      followed, if_pos rfl, Option.none_or, foldl_followed]
  refine ⟨⟨fun ⟨d, found⟩ => ?_, fun ⟨x, hx, enrolled⟩ => ?_⟩, absent, present⟩
  · by_contra none
    have no : ∀ x ∈ ms, enrols udid x.1 = false := fun x hx =>
      Bool.eq_false_iff.2 fun enrolled => none ⟨x, hx, enrolled⟩
    rw [absent no] at found
    cases found
  · obtain ⟨before, m, stamp, after, split, own, first⟩ := exists_first ⟨x, hx, enrolled⟩
    exact ⟨_, present before m stamp after split own first⟩

/-- A device registers too early, enrols, registers, and so does a user of it; it leaves, enrols with
another serial number and registers again without a topic. -/
theorem device_of_history_returned :
    let m : Authenticate := ⟨"D", "", "S-1", "17.4", "21E219", "iPhone15,2", "iPhone", "Phone", "", ""⟩
    let stamp : Stamp := ⟨"d-1", .ofMillis 2⟩
    let before : List (Checkin × Stamp) :=
      [(.tokenUpdate ⟨"D", none, "early", [1], "M", [], true⟩, ⟨"", .ofMillis 1⟩)]
    let after : List (Checkin × Stamp) :=
      [(.tokenUpdate ⟨"D", none, "push", [2], "M2", [3], true⟩, ⟨"", .ofMillis 3⟩),
        (.tokenUpdate ⟨"D", some "U", "user", [4], "M4", [], true⟩, ⟨"", .ofMillis 4⟩),
        (.checkOut ⟨"D", "other"⟩, ⟨"", .ofMillis 5⟩),
        (.authenticate { m with serialNumber := "S-2", topic := "again" }, ⟨"d-2", .ofMillis 6⟩),
        (.tokenUpdate ⟨"D", some "", "", [7], "M7", [], false⟩, ⟨"", .ofMillis 7⟩)]
    "D" ≠ "" ∧
      (applyAll .empty (before ++ (.authenticate m, stamp) :: after)).device? "D" = .ok (some
        { uuid := "d-1", udid := "D", serialNumber := "S-1", osVersion := "17.4"
          buildVersion := "21E219", productName := "iPhone15,2", model := "iPhone"
          deviceName := "Phone", imei := "", meid := "", topic := "push", pushToken := [7]
          pushMagic := "M7", unlockToken := [], enrolled := true, awaitingConfiguration := false
          createdAt := .ofMillis 2, lastSeen := .ofMillis 7 }) := by
  intro m stamp before after
  have named : "D" ≠ "" := by decide
  obtain ⟨-, -, present⟩ := device_of_history named (before ++ (.authenticate m, stamp) :: after)
  exact ⟨named, present before m stamp after rfl rfl (by decide)⟩

end Enrolment

end DeviceFleet
