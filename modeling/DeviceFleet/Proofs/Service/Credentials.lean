import DeviceFleet.Proofs.Service.DeviceHistory
import DeviceFleet.Proofs.Store.Serials
import DeviceFleet.Service.Push

/-! The push credentials of a device stand in two places: in its record and beside it, where waking
looks for them. Two consumers bring the same check-ins there by rules of their own. From the time at
which a device is in the fleet, token and magic are the same in both places. The topic is not: the
record keeps the last one that was given, and the credentials have that of the last registration, which
may give none. -/

namespace DeviceFleet.Enrolment

/-- A check-in, with what its two consumers use for it. -/
structure Entry where
  checkin : Checkin
  /-- For the device record. -/
  stamp : Stamp
  /-- For the push credentials. -/
  now : Instant

/-- The store after both consumers have taken a check-in; what fails leaves it as it was. -/
def entered (s : Store) (e : Entry) : Store :=
  let t := applied s e.checkin e.stamp.id e.stamp.now
  match tokenUpdate? e.checkin with
  | some m => kept t m e.now
  | none => t

def enterAll (s : Store) (es : List Entry) : Store := es.foldl entered s

variable {udid : String}

/-! ### The two places -/

theorem sameDevices_enterAll {s t : Store} (h : SameDevices s t) (es : List Entry) :
    SameDevices (enterAll s es) (applyAll t (es.map fun e => (e.checkin, e.stamp))) := by
  induction es generalizing s t with
  | nil => exact h
  | cons e es ih =>
    refine ih (SameDevices.trans ?_ (h.applied e.checkin e.stamp.id e.stamp.now))
    rw [entered]
    split
    · exact (kept_frame _ _ e.now).1
    · exact ⟨rfl, rfl⟩

def recordOf (udid : String) (es : List Entry) : Option Device :=
  es.foldl (fun d? e => followed udid d? (e.checkin, e.stamp)) none

theorem recordOf_concat (udid : String) (es : List Entry) (e : Entry) :
    recordOf udid (es ++ [e]) = followed udid (recordOf udid es) (e.checkin, e.stamp) := by
  rw [recordOf, List.foldl_concat]
  rfl

theorem device?_enterAll (named : udid ≠ "") (es : List Entry) :
    (enterAll .empty es).device? udid = .ok (recordOf udid es) := by
  have same := sameDevices_enterAll (s := .empty) ⟨rfl, rfl⟩ es
  rw [Store.device?, same.devices, ← Store.device?, device?_applyAll named, List.foldl_map]
  rfl

theorem named_of_device? {es : List Entry} {d : Device}
    (found : (enterAll .empty es).device? udid = .ok (some d)) : udid ≠ "" := by
  have same := sameDevices_enterAll (s := .empty) ⟨rfl, rfl⟩ es
  have holds := holds_applyAll Store.holds_empty (es.map fun e => (e.checkin, e.stamp))
  rw [Store.device?, same.devices, ← Store.device?, holds.device?] at found
  exact ((Registry.indexed_run Registry.indexed_empty _).keyed udid d (Except.ok.inj found)).1

/-- The registrations of a device, each with the time at which its credentials were kept. -/
def registrations (udid : String) (es : List Entry) : List (TokenUpdate × Instant) :=
  es.filterMap fun e => (registers? udid e.checkin).map (·, e.now)

/-- The push credentials of a device after check-ins: those of its last registration. -/
def credentialsOf (udid : String) (es : List Entry) : Option PushInfo :=
  (registrations udid es).getLast?.map fun x => .ofTokenUpdate x.1 x.2

theorem credentialsOf_concat (udid : String) (es : List Entry) (e : Entry) :
    credentialsOf udid (es ++ [e]) =
      match registers? udid e.checkin with
      | some m => some (.ofTokenUpdate m e.now)
      | none => credentialsOf udid es := by
  rw [credentialsOf, registrations, List.filterMap_append]
  cases own : registers? udid e.checkin with
  | none => simp [own, credentialsOf, registrations]
  | some m => simp [own]

theorem pushInfo?_kept (named : udid ≠ "") (s : Store) (m : TokenUpdate) (now : Instant) :
    (kept s m now).pushInfo? udid =
      if m.udid = udid ∧ m.isUserScoped = false then .ok (some (.ofTokenUpdate m now))
      else s.pushInfo? udid := by
  rw [kept, keepToken]
  by_cases user : m.isUserScoped = true
  · rw [if_pos user, if_neg fun h => Bool.eq_false_iff.1 h.2 user]
    rfl
  · rw [if_neg user, Store.putPushInfo]
    by_cases unnamed : m.udid = ""
    · rw [if_pos (show (PushInfo.ofTokenUpdate m now).udid = "" from unnamed),
        if_neg fun h => named (h.1.symm.trans unnamed)]
      rfl
    · rw [if_neg (show (PushInfo.ofTokenUpdate m now).udid ≠ "" from unnamed)]
      show Store.lookup _ (s.pushInfos.insert m.udid _) udid = _
      rw [Store.lookup, Table.find?_insert]
      by_cases own : m.udid = udid
      · rw [if_pos own.symm, if_pos ⟨own, Bool.eq_false_iff.2 user⟩]
        simp only [Store.load_store PushInfo.lawful]
        rfl
      · rw [if_neg (Ne.symm own), if_neg fun h => own h.1]
        rfl

theorem pushInfo?_entered (named : udid ≠ "") (s : Store) (e : Entry) :
    (entered s e).pushInfo? udid =
      match registers? udid e.checkin with
      | some m => .ok (some (.ofTokenUpdate m e.now))
      | none => s.pushInfo? udid := by
  obtain ⟨c, stamp, now⟩ := e
  have frame : (applied s c stamp.id stamp.now).pushInfo? udid = s.pushInfo? udid := by
    rw [Store.pushInfo?, (applied_frame s c stamp.id stamp.now).1]
    rfl
  cases c with
  | authenticate m => exact frame
  | tokenUpdate m =>
    show (kept _ m now).pushInfo? udid = _
    rw [pushInfo?_kept named, frame, registers?]
    split <;> rfl
  | checkOut m => exact frame

theorem pushInfo?_enterAll (named : udid ≠ "") (es : List Entry) :
    (enterAll .empty es).pushInfo? udid = .ok (credentialsOf udid es) := by
  induction es using List.reverseRecOn with
  | nil => rfl
  | append_singleton es e ih =>
    rw [enterAll, List.foldl_concat, ← enterAll, pushInfo?_entered named, ih, credentialsOf_concat]
    split <;> rfl

/-! ### Agreement -/

/-- The record and the push credentials of a device hold the same token and magic, and the same topic
unless the credentials have none. -/
structure Agree (d : Device) (p : PushInfo) : Prop where
  token : p.token = d.pushToken
  pushMagic : p.pushMagic = d.pushMagic
  topic : p.topic ≠ "" → p.topic = d.topic

theorem agree_register (udid : String) (d : Device) (m : TokenUpdate) (now time : Instant) :
    Agree { d.register m now with udid } (.ofTokenUpdate m time) where
  token := rfl
  pushMagic := rfl
  topic given := (if_neg given).symm

/-- A device that is in the fleet after a check-in has just registered, or its record is as it was. -/
theorem enrolled_followed {d? : Option Device} {c : Checkin} {stamp : Stamp} {d : Device}
    (h : followed udid d? (c, stamp) = some d) (enrolled : d.enrolled = true) :
    (∃ (m : TokenUpdate) (old : Device),
        registers? udid c = some m ∧ d = { old.register m stamp.now with udid }) ∨
      registers? udid c = none ∧ d? = some d := by
  cases c with
  | authenticate m =>
    refine .inr ⟨rfl, ?_⟩
    rw [followed] at h
    rcases Option.or_eq_some_iff.1 h with there | ⟨-, first⟩
    · exact there
    · split at first
      · cases first
        cases enrolled
      · cases first
  | tokenUpdate m =>
    rw [followed] at h
    by_cases own : m.udid = udid ∧ m.isUserScoped = false
    · rw [if_pos own] at h
      obtain ⟨old, -, rfl⟩ := Option.map_eq_some_iff.1 h
      exact .inl ⟨m, old, if_pos own, rfl⟩
    · rw [if_neg own] at h
      exact .inr ⟨if_neg own, h⟩
  | checkOut m =>
    refine .inr ⟨rfl, ?_⟩
    rw [followed] at h
    split at h
    · obtain ⟨old, -, rfl⟩ := Option.map_eq_some_iff.1 h
      cases enrolled
    · exact h

/-- Record and push credentials agree after a check-in if they did before it. -/
theorem agree_concat {es : List Entry} {d : Device} {p : PushInfo} (record : recordOf udid es = some d)
    (credentials : credentialsOf udid es = some p) (h : Agree d p) (e : Entry) :
    ∃ d' p', recordOf udid (es ++ [e]) = some d' ∧ credentialsOf udid (es ++ [e]) = some p' ∧
      Agree d' p' := by
  rw [recordOf_concat, credentialsOf_concat, record, credentials]
  obtain ⟨c, stamp, now⟩ := e
  cases c with
  | authenticate m => exact ⟨d, p, rfl, rfl, h⟩
  | tokenUpdate m =>
    by_cases own : m.udid = udid ∧ m.isUserScoped = false
    · simp only [followed, registers?, if_pos own]
      exact ⟨_, _, rfl, rfl, agree_register udid d m stamp.now now⟩
    · simp only [followed, registers?, if_neg own]
      exact ⟨d, p, rfl, rfl, h⟩
  | checkOut m =>
    by_cases own : m.udid = udid
    · simp only [followed, registers?, if_pos own]
      exact ⟨_, p, rfl, rfl, h.token, h.pushMagic, h.topic⟩
    · simp only [followed, registers?, if_neg own]
      exact ⟨d, p, rfl, rfl, h⟩

theorem agree_append {es : List Entry} {d : Device} {p : PushInfo} (record : recordOf udid es = some d)
    (credentials : credentialsOf udid es = some p) (h : Agree d p) (after : List Entry) :
    ∃ d' p', recordOf udid (es ++ after) = some d' ∧ credentialsOf udid (es ++ after) = some p' ∧
      Agree d' p' := by
  induction after using List.reverseRecOn with
  | nil => exact ⟨d, p, by rwa [List.append_nil], by rwa [List.append_nil], h⟩
  | append_singleton after e ih =>
    obtain ⟨d', p', record', credentials', h'⟩ := ih
    rw [← List.append_assoc]
    exact agree_concat record' credentials' h' e

/-- The record and the push credentials of a device in the fleet agree. -/
theorem agree_of_enrolled {es : List Entry} {d : Device} (record : recordOf udid es = some d)
    (enrolled : d.enrolled = true) : ∃ p, credentialsOf udid es = some p ∧ Agree d p := by
  induction es using List.reverseRecOn with
  | nil => cases record
  | append_singleton es e ih =>
    rw [recordOf_concat] at record
    rw [credentialsOf_concat]
    -- A device enters the fleet by a registration, which writes both places; nothing else that leaves
    -- it there writes either.
    rcases enrolled_followed record enrolled with ⟨m, old, own, rfl⟩ | ⟨other, before⟩
    · rw [own]
      exact ⟨_, rfl, agree_register udid old m e.stamp.now e.now⟩
    · rw [other]
      exact ih before

/-- Once a device has been in the fleet, it has push credentials, and these hold the token and the magic
of its record, whatever check-ins follow: it may leave or enrol again, users of it or other devices may
register. -/
theorem credentials_agree {before : List Entry} {d : Device}
    (found : (enterAll .empty before).device? udid = .ok (some d)) (enrolled : d.enrolled = true)
    (after : List Entry) :
    ∃ d' p, (enterAll .empty (before ++ after)).device? udid = .ok (some d') ∧
      (enterAll .empty (before ++ after)).pushInfo? udid = .ok (some p) ∧
      p.token = d'.pushToken ∧ p.pushMagic = d'.pushMagic := by
  have named := named_of_device? found
  rw [device?_enterAll named] at found
  have record : recordOf udid before = some d := Except.ok.inj found
  obtain ⟨p, credentials, agree⟩ := agree_of_enrolled record enrolled
  obtain ⟨d', p', record', credentials', agree'⟩ := agree_append record credentials agree after
  rw [device?_enterAll named, pushInfo?_enterAll named, record', credentials']
  exact ⟨d', p', rfl, rfl, agree'.token, agree'.pushMagic⟩

/-- A device registers too early, enrols and registers; then it leaves, enrols again, and a user of it
and another device register. -/
theorem credentials_agree_left :
    let t := Instant.ofNanos 0
    let entry (c : Checkin) : Entry := ⟨c, ⟨"d-1", t⟩, t⟩
    let m : Authenticate := ⟨"D", "", "S-1", "", "", "", "", "", "", ""⟩
    let before := [entry (.tokenUpdate ⟨"D", none, "", [1], "early", [], false⟩),
      entry (.authenticate m), entry (.tokenUpdate ⟨"D", none, "push", [2], "M", [], false⟩)]
    let after := [entry (.checkOut ⟨"D", ""⟩), entry (.authenticate m),
      entry (.tokenUpdate ⟨"D", some "U", "", [3], "user", [], false⟩),
      entry (.tokenUpdate ⟨"E", none, "", [4], "other", [], false⟩)]
    (∃ d, (enterAll .empty before).device? "D" = .ok (some d) ∧ d.enrolled = true) ∧
      ∃ d p, (enterAll .empty (before ++ after)).device? "D" = .ok (some d) ∧
        (enterAll .empty (before ++ after)).pushInfo? "D" = .ok (some p) ∧
        p.token = d.pushToken ∧ p.pushMagic = d.pushMagic := by
  intro t entry m before after
  have found : (enterAll .empty before).device? "D" = .ok (recordOf "D" before) :=
    device?_enterAll (by decide) before
  exact ⟨⟨_, found, rfl⟩, credentials_agree found rfl after⟩

/-! ### Topics -/

theorem wake_of_found {s : Store} {p : PushInfo} (found : s.pushInfo? udid = .ok (some p))
    (valid : Push.validateToken p.token = .ok ()) (sender : Push.Sender) (defaultTopic : String) :
    ∃ push, Push.wake sender defaultTopic s udid = ⟨some push, sender push⟩ ∧
      push = ⟨Hex.text p.token, if p.topic = "" then defaultTopic else p.topic,
        Push.wakePayload p.pushMagic⟩ := by
  refine ⟨_, ?_, rfl⟩
  have message : pushInfo s udid >>= Push.ofInfo defaultTopic =
      .ok ⟨Hex.text p.token, if p.topic = "" then defaultTopic else p.topic,
        Push.wakePayload p.pushMagic⟩ := by
    rw [pushInfo, found]
    show Push.ofInfo defaultTopic p = _
    rw [Push.ofInfo, valid]
    rfl
  rw [Push.wake, message]

/-- A device in the fleet with a token that can be sent to is woken with the token and the magic of its
record. The topic is the one of its record if its last registration gave one, and else the default. So
it is the topic of the record, or the default for a record without one, just if the last registration
gave a topic, no check-in before it did, or the default is that topic. -/
theorem woken_on_last_topic {es : List Entry} {d : Device}
    (found : (enterAll .empty es).device? udid = .ok (some d)) (enrolled : d.enrolled = true)
    (valid : Push.validateToken d.pushToken = .ok ()) (sender : Push.Sender) (defaultTopic : String) :
    ∃ m now push, (registrations udid es).getLast? = some (m, now) ∧
      Push.wake sender defaultTopic (enterAll .empty es) udid = ⟨some push, sender push⟩ ∧
      push.token = Hex.text d.pushToken ∧ push.payload = Push.wakePayload d.pushMagic ∧
      push.topic = (if m.topic = "" then defaultTopic else d.topic) ∧
      (push.topic = (if d.topic = "" then defaultTopic else d.topic) ↔
        m.topic ≠ "" ∨ d.topic = "" ∨ d.topic = defaultTopic) := by
  have named := named_of_device? found
  rw [device?_enterAll named] at found
  obtain ⟨p, credentials, agree⟩ := agree_of_enrolled (Except.ok.inj found) enrolled
  obtain ⟨⟨m, now⟩, last, rfl⟩ := Option.map_eq_some_iff.1 credentials
  have kept := pushInfo?_enterAll named es
  rw [credentials] at kept
  rw [← agree.token] at valid
  obtain ⟨push, sent, message⟩ := wake_of_found kept valid sender defaultTopic
  have topic : push.topic = if m.topic = "" then defaultTopic else d.topic := by
    rw [message]
    show (if m.topic = "" then defaultTopic else m.topic) = _
    split
    · rfl
    · exact agree.topic ‹_›
  refine ⟨m, now, push, last, sent, ?_, ?_, topic, ?_⟩
  · rw [message, agree.token]
  · rw [message, agree.pushMagic]
  · rw [topic]
    by_cases given : m.topic = ""
    · rw [if_pos given]
      by_cases empty : d.topic = ""
      · simp [empty]
      · simp [given, empty, eq_comm]
    · have same : m.topic = d.topic := agree.topic given
      rw [if_neg given, if_neg (same ▸ given)]
      simp [given]

/-- A device that enrols without a topic and registers on one is woken on that. -/
theorem woken_on_last_topic_given :
    let t := Instant.ofNanos 0
    let entry (c : Checkin) : Entry := ⟨c, ⟨"d-1", t⟩, t⟩
    let sender : Push.Sender := fun push => .ok push.token
    let es := [entry (.authenticate ⟨"D", "", "", "", "", "", "", "", "", ""⟩),
      entry (.tokenUpdate ⟨"D", none, "push", [1], "M", [], false⟩)]
    ∃ d, (enterAll .empty es).device? "D" = .ok (some d) ∧ d.enrolled = true ∧
      Push.validateToken d.pushToken = .ok () ∧
      ∃ push, (Push.wake sender "default" (enterAll .empty es) "D").sent = some push ∧
        push.topic = d.topic ∧ push.topic = "push" := by
  intro t entry sender es
  have found : (enterAll .empty es).device? "D" = .ok (recordOf "D" es) :=
    device?_enterAll (by decide) es
  obtain ⟨m, now, push, last, sent, -, -, topic, -⟩ :=
    woken_on_last_topic found rfl rfl sender "default"
  cases last
  exact ⟨_, found, rfl, rfl, push, by rw [sent], topic, topic⟩

/-- A device enrols and registers on a topic, and then registers without one: the topic stays in its
record, but the device is woken on the default topic. -/
theorem topic_of_record_unused :
    let t := Instant.ofNanos 0
    let entry (c : Checkin) : Entry := ⟨c, ⟨"d-1", t⟩, t⟩
    let sender : Push.Sender := fun push => .ok push.token
    let es := [entry (.authenticate ⟨"D", "push", "", "", "", "", "", "", "", ""⟩),
      entry (.tokenUpdate ⟨"D", none, "push", [1], "M", [], false⟩),
      entry (.tokenUpdate ⟨"D", none, "", [2], "M2", [], false⟩)]
    ∃ d, (enterAll .empty es).device? "D" = .ok (some d) ∧ d.enrolled = true ∧
      Push.validateToken d.pushToken = .ok () ∧ d.topic = "push" ∧
      ∃ push, (Push.wake sender "default" (enterAll .empty es) "D").sent = some push ∧
        push.topic = "default" := by
  intro t entry sender es
  have found : (enterAll .empty es).device? "D" = .ok (recordOf "D" es) :=
    device?_enterAll (by decide) es
  have kept : (enterAll .empty es).pushInfo? "D" = .ok (credentialsOf "D" es) :=
    pushInfo?_enterAll (by decide) es
  obtain ⟨push, sent, message⟩ := wake_of_found kept rfl sender "default"
  exact ⟨_, found, rfl, rfl, rfl, push, by rw [sent], by rw [message]; rfl⟩

end DeviceFleet.Enrolment
