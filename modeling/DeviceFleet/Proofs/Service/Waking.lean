import DeviceFleet.Proofs.Json.Unicode
import DeviceFleet.Proofs.Service.Credentials
import DeviceFleet.Proofs.Text.Hex

/-! Waking a device calls the transport once or not at all: once if credentials are stored for the device
and their token is one that can be sent to. The message then says the token and the magic without a
loss, whatever octets and characters these have. -/

namespace DeviceFleet.Push

/-- Wakes a device through a transport with a state of its own, such as a record of all messages. -/
def wakeThrough {σ : Type} (transport : Push → StateM σ (Except Error String)) (defaultTopic : String)
    (s : Store) (udid : String) : StateM σ (Except Error String) :=
  match Enrolment.pushInfo s udid >>= ofInfo defaultTopic with
  | .error e => pure (.error e)
  | .ok p => transport p

/-- The message says the credentials: reading its token in hexadecimal gives the stored one, and its
payload is a text that writes an object with the stored magic as its only member. -/
structure Carries (push : Push) (defaultTopic : String) (p : PushInfo) : Prop where
  token : Hex.bytes? push.token = some p.token
  lower : ∀ c ∈ push.token.toList, c ∈ Hex.digits
  topic : push.topic = if p.topic = "" then defaultTopic else p.topic
  text : Text.IsUtf8 push.payload
  written : Json.parse? push.payload = some (.object [("mdm", .string p.pushMagic)])
  payload : Json.read? push.payload = some (.object [("mdm", .string p.pushMagic)])

/-- What waking a device has to come to, by what is stored for it. -/
def Answers (sender : Sender) (defaultTopic : String) (udid : String) (a : Attempt) :
    Except StoreError (Option PushInfo) → Prop
  | .error e => a = ⟨none, .error e.reported⟩
  | .ok none => a = ⟨none, .error (Enrolment.unknownPushInfo udid)⟩
  | .ok (some p) =>
    if 1 ≤ p.token.length ∧ p.token.length ≤ 100 then
      ∃ push, push.Carries defaultTopic p ∧ a = ⟨some push, sender push⟩
    else ∃ e, e.kind = .invalidToken ∧ a = ⟨none, .error e⟩

/-! ### Messages -/

theorem validateToken_of_size {token : Bytes} (size : 1 ≤ token.length ∧ token.length ≤ 100) :
    validateToken token = .ok () := by
  have given : token ≠ [] := List.ne_nil_of_length_pos size.1
  have short : ¬token.length > maxTokenLength := Nat.not_lt.2 size.2
  rw [validateToken, if_neg given, if_neg short]

theorem validateToken_error {token : Bytes} (size : ¬(1 ≤ token.length ∧ token.length ≤ 100)) :
    ∃ e, validateToken token = .error e ∧ e.kind = .invalidToken := by
  rw [validateToken]
  by_cases empty : token = []
  · exact ⟨_, if_pos empty, rfl⟩
  · have long : token.length > maxTokenLength := by
      have given := List.length_pos_of_ne_nil empty
      rw [maxTokenLength]
      omega
    rw [if_neg empty, if_pos long]
    exact ⟨_, rfl, rfl⟩

theorem carries (defaultTopic : String) (p : PushInfo) :
    Carries ⟨Hex.text p.token, if p.topic = "" then defaultTopic else p.topic,
      wakePayload p.pushMagic⟩ defaultTopic p := by
  have exact : Json.Exact (.object [("mdm", .string p.pushMagic)]) := ⟨trivial, trivial⟩
  have written : Json.parse? (wakePayload p.pushMagic) =
      some (.object [("mdm", .string p.pushMagic)]) := Json.parse?_print exact
  exact {
    token := Hex.bytes?_text p.token
    lower := fun c hc => Hex.mem_digits p.token (by rwa [Hex.text, String.toList_ofList] at hc)
    topic := rfl
    text := Json.isUtf8_print exact
    written
    payload := by
      rw [Json.read?, written]
      rfl }

/-- A message says only one token and one magic. -/
theorem Carries.unique {push push' : Push} {topic topic' : String} {p p' : PushInfo}
    (h : push.Carries topic p) (h' : push'.Carries topic' p') (tokens : push.token = push'.token)
    (payloads : push.payload = push'.payload) : p.token = p'.token ∧ p.pushMagic = p'.pushMagic := by
  have token := h.token
  have written := h.written
  rw [tokens, h'.token] at token
  rw [payloads, h'.written] at written
  exact ⟨(Option.some.inj token).symm, by simpa using written.symm⟩

/-! ### Waking -/

theorem answers_wake (sender : Sender) (defaultTopic : String) (s : Store) (udid : String) :
    Answers sender defaultTopic udid (wake sender defaultTopic s udid) (s.pushInfo? udid) := by
  have failed {e : Error}
      (h : Enrolment.found (Enrolment.unknownPushInfo udid) (s.pushInfo? udid) = .error e) :
      wake sender defaultTopic s udid = ⟨none, .error e⟩ := by
    rw [wake, Enrolment.pushInfo, h]
    rfl
  rcases found : s.pushInfo? udid with e | _ | p
  · exact failed (by rw [found]; rfl)
  · exact failed (by rw [found]; rfl)
  · rw [Answers]
    split
    · rename_i size
      obtain ⟨push, woken, message⟩ :=
        Enrolment.wake_of_found found (validateToken_of_size size) sender defaultTopic
      exact ⟨push, message ▸ carries defaultTopic p, woken⟩
    · rename_i size
      obtain ⟨e, invalid, kind⟩ := validateToken_error size
      refine ⟨e, kind, ?_⟩
      have message : Enrolment.pushInfo s udid >>= ofInfo defaultTopic = .error e := by
        rw [Enrolment.pushInfo, found]
        show ofInfo defaultTopic p = _
        rw [ofInfo, invalid]
        rfl
      rw [wake, message]

theorem sent_iff (sender : Sender) (defaultTopic : String) (s : Store) (udid : String) :
    (∃ push, (wake sender defaultTopic s udid).sent = some push) ↔
      ∃ p, s.pushInfo? udid = .ok (some p) ∧ 1 ≤ p.token.length ∧ p.token.length ≤ 100 := by
  have answers := answers_wake sender defaultTopic s udid
  generalize s.pushInfo? udid = stored at answers ⊢
  match stored with
  | .error e =>
    rw [show wake sender defaultTopic s udid = ⟨none, .error e.reported⟩ from answers]
    simp
  | .ok none =>
    rw [show wake sender defaultTopic s udid = ⟨none, .error _⟩ from answers]
    simp
  | .ok (some p) =>
    rw [Answers] at answers
    split at answers
    · rename_i size
      obtain ⟨push, -, woken⟩ := answers
      rw [woken]
      exact ⟨fun _ => ⟨p, rfl, size⟩, fun _ => ⟨push, rfl⟩⟩
    · rename_i size
      obtain ⟨e, -, refused⟩ := answers
      rw [refused]
      refine ⟨fun ⟨push, sent⟩ => (nomatch sent), fun ⟨q, same, fits⟩ => ?_⟩
      cases same
      exact absurd fits size

theorem carries_of_sent {sender : Sender} {defaultTopic : String} {s : Store} {udid : String} {push : Push}
    {p : PushInfo} (found : s.pushInfo? udid = .ok (some p))
    (sent : (wake sender defaultTopic s udid).sent = some push) : push.Carries defaultTopic p := by
  have answers := answers_wake sender defaultTopic s udid
  rw [found, Answers] at answers
  split at answers
  · obtain ⟨push, carries, woken⟩ := answers
    rw [woken] at sent
    cases sent
    exact carries
  · obtain ⟨e, -, refused⟩ := answers
    rw [refused] at sent
    cases sent

/-- A transport with a state does what its answers in that state say, and takes the message that is sent,
if one is. -/
theorem wakeThrough_run {σ : Type} (transport : Push → StateM σ (Except Error String))
    (defaultTopic : String) (s : Store) (udid : String) (st : σ) :
    (wakeThrough transport defaultTopic s udid).run st =
      let a := wake (fun push => ((transport push).run st).1) defaultTopic s udid
      (a.outcome, a.sent.elim st fun push => ((transport push).run st).2) := by
  rw [wakeThrough, wake]
  cases Enrolment.pushInfo s udid >>= ofInfo defaultTopic <;> rfl

/-- For every store, device, default topic and transport: a message is sent just if credentials with a
token of 1 to 100 octets are stored for the device. Then there is one message, it says these credentials,
and its answer is the answer. Without credentials the device is not known, and another token is invalid.
A record that cannot be read is reported as such; in a table of credentials there is none. A transport with
a state is called once or left as it is. The same token and payload are never sent for other
credentials. -/
theorem wake_faithful (sender : Sender) (defaultTopic : String) (s : Store) (udid : String) :
    Answers sender defaultTopic udid (wake sender defaultTopic s udid) (s.pushInfo? udid) ∧
    ((∃ push, (wake sender defaultTopic s udid).sent = some push) ↔
      ∃ p, s.pushInfo? udid = .ok (some p) ∧ 1 ≤ p.token.length ∧ p.token.length ≤ 100) ∧
    (∀ t : Table PushInfo, { s with pushInfos := t.map PushInfo.schema.store }.pushInfo? udid =
      .ok (t.find? udid)) ∧
    (∀ (σ : Type) (transport : Push → StateM σ (Except Error String)) (st : σ),
      (wakeThrough transport defaultTopic s udid).run st =
        let a := wake (fun push => ((transport push).run st).1) defaultTopic s udid
        (a.outcome, a.sent.elim st fun push => ((transport push).run st).2)) ∧
    ∀ (sender' : Sender) (defaultTopic' : String) (s' : Store) (udid' : String) (p p' : PushInfo)
      (push push' : Push), s.pushInfo? udid = .ok (some p) → s'.pushInfo? udid' = .ok (some p') →
      (wake sender defaultTopic s udid).sent = some push →
      (wake sender' defaultTopic' s' udid').sent = some push' →
      push.token = push'.token → push.payload = push'.payload →
      p.token = p'.token ∧ p.pushMagic = p'.pushMagic := by
  refine ⟨answers_wake sender defaultTopic s udid, sent_iff sender defaultTopic s udid,
    fun t => Store.lookup_map PushInfo.lawful t udid,
    fun _ transport st => wakeThrough_run transport defaultTopic s udid st, ?_⟩
  intro sender' defaultTopic' s' udid' p p' push push' found found' sent sent'
  exact (carries_of_sent found sent).unique (carries_of_sent found' sent')

end DeviceFleet.Push
