import DeviceFleet.Proofs.Bus.Line
import DeviceFleet.Proofs.Bus.Tally

/-! A subscription by itself. What it sees of a bus that does not wait for room is its own
registration, what is published, its receiver's questions and the receiver's end. What it gets is told
by these alone: on the bus it is at every time as it would be without one. -/

namespace DeviceFleet

/-! ### Without a bus -/

/-- What a subscription sees of a bus. -/
inductive Sight where
  /-- It is registered. -/
  | join (topic : String)
  /-- An event was published; if it is on the topic of the subscription, it is offered now. -/
  | publish (topic : String) (payload : Bytes)
  /-- The receiver asks for an event. -/
  | poll
  /-- The receiver goes away. -/
  | leave
  deriving DecidableEq, Repr

/-- A subscription without a bus. -/
structure Solo where
  /-- The number of events published. -/
  published : Nat
  /-- The topic, once it is registered. -/
  topic : Option String
  live : Bool
  queue : List Event
  delivered : Nat
  dropped : Nat
  /-- What the receiver got each time it asked. -/
  answers : List (Option Event)

namespace Solo

def start : Solo := ⟨0, none, true, [], 0, 0, []⟩

def offer (room : Nat) (o : Solo) (e : Event) : Solo :=
  if o.topic = some e.topic ∧ o.live = true then
    if o.queue.length < room then { o with queue := o.queue ++ [e], delivered := o.delivered + 1 }
    else { o with dropped := o.dropped + 1 }
  else o

def see (room : Nat) (o : Solo) : Sight → Solo
  | .join topic => ⟨o.published, some topic, true, [], 0, 0, o.answers⟩
  | .publish topic payload =>
    { o with published := o.published + 1 }.offer room ⟨topic, payload, o.published + 1⟩
  | .poll => { o with queue := o.queue.tail, answers := o.answers ++ [o.queue.head?] }
  | .leave => { o with live := false, queue := [] }

@[simp] theorem offer_topic (room : Nat) (o : Solo) (e : Event) : (o.offer room e).topic = o.topic := by
  unfold offer
  split_ifs <;> rfl

@[simp] theorem offer_live (room : Nat) (o : Solo) (e : Event) : (o.offer room e).live = o.live := by
  unfold offer
  split_ifs <;> rfl

@[simp] theorem offer_answers (room : Nat) (o : Solo) (e : Event) :
    (o.offer room e).answers = o.answers := by
  unfold offer
  split_ifs <;> rfl

/-- Without a receiver, or on another topic, nothing comes of it. -/
theorem offer_eq_self {room : Nat} {o : Solo} {e : Event} (h : o.topic ≠ some e.topic ∨ o.live = false) :
    o.offer room e = o := by
  refine if_neg fun both => ?_
  rcases h with other | gone
  · exact other both.1
  · rw [gone] at both
    exact absurd both.2 nofun

/-- Once it is registered, it stays so with its receiver until that goes away. -/
theorem stays_joined (room : Nat) {sights : List Sight} {o : Solo} (kept : .leave ∉ sights)
    (live : o.live = true) : (sights.foldl (see room) o).live = true ∧
      ((∃ topic, .join topic ∈ sights) ∨ o.topic ≠ none → (sights.foldl (see room) o).topic ≠ none) := by
  induction sights generalizing o with
  | nil => simpa using live
  | cons x sights ih =>
    rw [List.mem_cons, not_or] at kept
    obtain ⟨other, kept⟩ := kept
    rw [List.foldl_cons]
    cases x with
    | join topic =>
      obtain ⟨stays, joined⟩ := ih (o := o.see room (.join topic)) kept rfl
      exact ⟨stays, fun _ => joined (.inr (by simp [see]))⟩
    | publish topic payload =>
      obtain ⟨stays, joined⟩ := ih (o := o.see room (.publish topic payload)) kept (by simp [see, live])
      refine ⟨stays, fun before => joined ?_⟩
      simpa [see] using before
    | poll =>
      obtain ⟨stays, joined⟩ := ih (o := o.see room .poll) kept live
      refine ⟨stays, fun before => joined ?_⟩
      simpa [see] using before
    | leave => exact absurd rfl other

end Solo

def Subscriber.alone (s : Subscriber) (published : Nat) (answers : List (Option Event)) : Solo :=
  ⟨published, some s.topic, s.live, s.queue, s.delivered, s.dropped, answers⟩

/-- The subscription after an event was offered to it and not waited for. -/
def Subscriber.offered (s : Subscriber) (room : Nat) (e : Event) : Subscriber :=
  if s.live = false then s
  else if s.queue.length < room then { s with queue := s.queue ++ [e], delivered := s.delivered + 1 }
  else { s with dropped := s.dropped + 1 }

theorem Subscriber.live_offered (s : Subscriber) (room : Nat) (e : Event) :
    (s.offered room e).live = s.live := by
  unfold offered
  split_ifs <;> rfl

theorem Subscriber.alone_offered (s : Subscriber) (room n : Nat) (as : List (Option Event)) {e : Event}
    (topic : s.topic = e.topic) : (s.offered room e).alone n as = (s.alone n as).offer room e := by
  unfold offered Solo.offer alone
  cases live : s.live with
  | false => simp [live]
  | true =>
    simp only [topic, Bool.true_eq_false, and_self, if_true, if_false]
    split_ifs <;> rfl

/-! ### Steps of the dispatcher -/

namespace Bus

variable {b b' : Bus} {id : Nat} {o : Solo} {ws : List Warning}

/-- What a step of the dispatcher shows to a subscription. -/
def sights (b : Bus) (id : Nat) : List Sight :=
  match b.step, b.current, b.inbox with
  | none, _, _ => []
  | some _, some ⟨e, k :: _, _⟩, _ => if k = id then [.publish e.topic e.payload] else []
  | some _, some ⟨_, [], _⟩, _ => []
  | some _, none, .publish topic payload :: _ =>
    if id ∈ (b.row topic).map (·.id) then [] else [.publish topic payload]
  | some _, none, .subscribe k _ topic :: _ =>
    if k = id ∧ b.count < maxSubscriptions then [.join topic] else []
  | some _, none, _ => []

/-- The subscription is as it would be by itself. An event that is still to be offered to it is not
seen yet, and one that is not in the table gets no events. -/
structure Shows (b : Bus) (id : Nat) (o : Solo) : Prop where
  published : b.sequence = o.published + (b.offering id).length
  present : ∀ s, b.find? id = some s → o = s.alone o.published o.answers
  absent : b.find? id = none → o.topic = none ∨ o.live = false
  dead : o.topic = none ∨ o.live = false → o.queue = []

namespace Shows

theorem of_find? {s : Subscriber} (there : b.find? id = some s)
    (published : b.sequence = o.published + (b.offering id).length)
    (same : o = s.alone o.published o.answers) (dead : s.live = false → s.queue = []) :
    b.Shows id o where
  published := published
  present t found := by
    cases there.symm.trans found
    exact same
  absent missing := by cases there.symm.trans missing
  dead deaf := by
    rw [same] at deaf ⊢
    exact dead (deaf.resolve_left nofun)

theorem queue_of_dead (h : b.Shows id o) {s : Subscriber} (there : b.find? id = some s)
    (gone : s.live = false) : s.queue = [] := by
  have empty := h.dead (.inr (h.present s there ▸ gone))
  rw [h.present s there] at empty
  exact empty

theorem queue_eq (h : b.Shows id o) : o.queue = b.queueOf id := by
  cases there : b.find? id with
  | none =>
    rw [h.dead (h.absent there), queueOf, there]
    rfl
  | some s =>
    rw [h.present s there, queueOf_of_find? there]
    rfl

/-- The receiver would be answered as it is on the bus. -/
theorem head?_eq (h : b.Shows id o) : (b.take? id).map (·.1) = o.queue.head? := by
  rw [h.queue_eq]
  cases took : b.take? id with
  | none =>
    rw [take?_eq_none.1 took]
    rfl
  | some r =>
    rw [(queueOf_take took).1]
    rfl

theorem there (h : b.Shows id o) (topic : o.topic ≠ none) (live : o.live = true) :
    ∃ s, b.find? id = some s := by
  cases found : b.find? id with
  | some s => exact ⟨s, rfl⟩
  | none =>
    rcases h.absent found with unregistered | gone
    · exact absurd unregistered topic
    · rw [live] at gone
      cases gone

theorem hidden (h : b.Shows id o) (found : b'.find? id = b.find? id)
    (offer : b'.offering id = b.offering id) (sequence : b'.sequence = b.sequence) :
    b'.Shows id o where
  published := by rw [sequence, offer, h.published]
  present s there := h.present s (found ▸ there)
  absent missing := h.absent (found ▸ missing)
  dead := h.dead

theorem finish (h : b.Shows id o) (sound : b.Sound) {d : Dispatch} (busy : b.current = some d)
    (ended : d.remaining = []) : (b.finish d).Shows id o := by
  have before : b.offering id = [] := by
    rw [offering_busy busy, ended, if_neg List.not_mem_nil]
  have stays := find?_finish b d id
  by_cases closed : id ∈ d.closed
  · rw [if_pos closed] at stays
    refine ⟨?_, fun s there => ?_, fun _ => ?_, h.dead⟩
    · show b.sequence = _
      rw [h.published, before, offering_idle rfl]
    · rw [stays] at there
      cases there
    · cases there : b.find? id with
      | none => exact h.absent there
      | some s =>
        obtain ⟨topicAt, -, fits⟩ := sound.fits
        right
        rw [h.present s there]
        exact (fits s (mem_of_find? there)).gone d busy (id_of_find? there ▸ closed)
  · rw [if_neg closed] at stays
    exact h.hidden stays ((offering_idle rfl).trans before.symm) rfl

/-- An event that no row holds for the subscription passes it over. -/
theorem pass (h : b.Shows id o) (sound : b.Sound) (idle : b.current = none) (topic : String)
    (payload : Bytes) (other : id ∉ (b.row topic).map (·.id)) :
    (b.beginDispatch topic payload).Shows id (o.see b.config.room (.publish topic payload)) := by
  have deaf : o.topic ≠ some topic ∨ o.live = false := by
    cases there : b.find? id with
    | none => exact (h.absent there).imp_left fun none same => by rw [none] at same; cases same
    | some s =>
      left
      rw [h.present s there]
      intro same
      exact other ((mem_row sound there topic).2 (Option.some.inj same))
  have unseen : o.see b.config.room (.publish topic payload) = { o with published := o.published + 1 } :=
    Solo.offer_eq_self deaf
  have before := h.published
  rw [offering_idle idle] at before
  rw [unseen]
  refine ⟨?_, fun s there => ?_, h.absent, h.dead⟩
  · show b.sequence + 1 = _
    rw [offering, beginDispatch]
    simp only [if_neg other, List.length_nil] at before ⊢
    omega
  · rw [h.present s there]
    rfl

theorem start (h : b.Shows id o) (idle : b.current = none) (topic : String) (payload : Bytes)
    (own : id ∈ (b.row topic).map (·.id)) : (b.beginDispatch topic payload).Shows id o := by
  have before := h.published
  rw [offering_idle idle] at before
  refine ⟨?_, h.present, h.absent, h.dead⟩
  show b.sequence + 1 = _
  rw [offering, beginDispatch]
  simp only [if_pos own, List.length_nil, List.length_singleton] at before ⊢
  omega

theorem register (h : b.Shows id o) (missing : b.find? id = none)
    (room : b.count < maxSubscriptions) (name topic : String) :
    (b.register id name topic).Shows id (o.see b.config.room (.join topic)) := by
  have new : b.register id name topic =
      { b with table := b.table ++ [⟨id, name, topic, [], true, 0, 0⟩], count := b.count + 1 } :=
    if_pos room
  have there : (b.register id name topic).find? id = some ⟨id, name, topic, [], true, 0, 0⟩ := by
    rw [new, find?, List.find?_append, show b.table.find? _ = none from missing]
    simp
  refine of_find? there ?_ rfl fun _ => rfl
  rw [new]
  exact h.published

theorem poll_none (h : b.Shows id o) (room : Nat) (none : b.take? id = none) :
    b.Shows id (o.see room .poll) := by
  have empty : o.queue = [] := h.queue_eq.trans (take?_eq_none.1 none)
  have same : o.see room .poll = { o with answers := o.answers ++ [.none] } := by
    rw [Solo.see, empty]
    cases o
    cases empty
    rfl
  rw [same]
  refine ⟨h.published, fun s there => ?_, h.absent, h.dead⟩
  rw [h.present s there]
  rfl

theorem poll_some (h : b.Shows id o) (room : Nat) {e : Event} (took : b.take? id = some (e, b')) :
    b'.Shows id (o.see room .poll) := by
  obtain ⟨s, rest, there, queue, rfl⟩ := take?_eq took
  refine of_find? (find?_modify_self (by exact fun _ => rfl) there) h.published ?_ fun gone => ?_
  · rw [h.present s there]
    rfl
  · rw [h.queue_of_dead there gone]
    rfl

theorem close (h : b.Shows id o) (room : Nat) : (b.close id).Shows id (o.see room .leave) := by
  cases there : b.find? id with
  | none =>
    have missing : (b.close id).find? id = none := by
      rw [Bus.close, find?_modify b id id (by exact fun _ => rfl), if_pos rfl, there]
      rfl
    refine ⟨h.published, fun s found => ?_, fun _ => .inr rfl, fun _ => rfl⟩
    cases missing.symm.trans found
  | some s =>
    refine of_find? (find?_modify_self (by exact fun _ => rfl) there) h.published ?_ fun _ => rfl
    rw [h.present s there]
    rfl

end Shows

/-- An offer that nobody waits for changes only the one subscription, which gets the event if it
can. -/
theorem offer_cases {d : Dispatch} {k : Nat} {rest : List Nat} (unwaiting : b.config.waits = false)
    (h : b.offer d k rest = some (b', ws)) :
    (∃ found, b'.current = some ⟨d.event, rest, found⟩) ∧ b'.sequence = b.sequence ∧
      (∀ j, j ≠ k → b'.find? j = b.find? j) ∧
      b'.find? k = (b.find? k).map (·.offered b.config.room d.event) := by
  simp only [offer] at h
  cases there : b.find? k with
  | none =>
    rw [there] at h
    cases h
    exact ⟨⟨_, rfl⟩, rfl, fun _ _ => rfl, there⟩
  | some s =>
    have named := id_of_find? there
    rw [there] at h
    simp only [unwaiting] at h
    rw [Option.map_some, Subscriber.offered]
    split at h
    · rename_i gone
      cases h
      rw [if_pos (by simpa using gone)]
      exact ⟨⟨_, rfl⟩, rfl, fun _ _ => rfl, there⟩
    · rename_i live
      rw [if_neg (by simpa using live)]
      split at h
      · rename_i room
        cases h
        rw [if_pos (of_decide_eq_true room)]
        exact ⟨⟨_, rfl⟩, rfl, fun j other => find?_modify_other (by exact fun _ => rfl) other,
          find?_modify_self (by exact fun _ => rfl) there⟩
      · rename_i full
        cases h
        rw [if_neg fun room => full (decide_eq_true room)]
        refine ⟨⟨_, rfl⟩, rfl, fun j other => ?_, ?_⟩
        · exact find?_modify_other (by exact fun _ => rfl) (named ▸ other)
        · subst named
          exact find?_modify_self (by exact fun _ => rfl) there

theorem Shows.offer (h : b.Shows id o) (sound : b.Sound) (unwaiting : b.config.waits = false)
    {e : Event} {rest closed : List Nat} (busy : b.current = some ⟨e, id :: rest, closed⟩)
    (made : b.offer ⟨e, id :: rest, closed⟩ id rest = some (b', ws)) :
    b'.Shows id (o.see b.config.room (.publish e.topic e.payload)) := by
  obtain ⟨⟨found, next⟩, sequence, -, own⟩ := offer_cases unwaiting made
  have numbered := (sound.current _ busy).1
  have before := h.published
  rw [offering_first busy, List.length_singleton] at before
  -- The event is the one that the subscription itself would number so.
  have event : (⟨e.topic, e.payload, o.published + 1⟩ : Event) = e := by
    rw [← before, ← numbered]
  have after : b'.offering id = [] := offering_after sound busy next
  have published : b'.sequence = o.published + 1 + (b'.offering id).length := by
    rw [sequence, before, after, List.length_nil, Nat.add_zero]
  cases there : b.find? id with
  | none =>
    rw [there] at own
    have deaf := h.absent there
    have unseen : o.see b.config.room (.publish e.topic e.payload) =
        { o with published := o.published + 1 } :=
      Solo.offer_eq_self (deaf.imp_left fun none same => by rw [none] at same; cases same)
    rw [unseen]
    refine ⟨published, fun s found => ?_, fun _ => deaf, h.dead⟩
    cases own.symm.trans found
  | some s =>
    rw [there] at own
    obtain ⟨topicAt, -, fits⟩ := sound.fits
    have topic := ((fits s (mem_of_find? there)).due _ busy (id_of_find? there ▸ List.mem_cons_self)).1
    have seen : o.see b.config.room (.publish e.topic e.payload) =
        (s.offered b.config.room e).alone (o.published + 1) o.answers := by
      rw [s.alone_offered b.config.room _ _ topic, Solo.see, event]
      conv_lhs => rw [h.present s there]
      rfl
    rw [seen]
    refine Shows.of_find? own published rfl fun gone => ?_
    rw [s.live_offered] at gone
    show (s.offered b.config.room e).queue = []
    rw [show s.offered b.config.room e = s from if_pos gone]
    exact h.queue_of_dead there gone

/-- A dispatcher that does not wait makes every offer at once. -/
theorem expire_eq_none (unwaiting : b.config.waits = false) (h : b.step = none) : b.expire = none := by
  rw [expire]
  split
  · rfl
  · rename_i running
    split
    · rename_i e k rest closed busy
      rw [Bus.step, if_neg running, busy] at h
      simp only [offer, unwaiting, Bool.false_eq_true, if_false] at h
      split at h
      · cases h
      · split_ifs at h
    · rfl

/-- What a step shows is no question of the receiver. -/
theorem answers_sights (b : Bus) (id room : Nat) (o : Solo) :
    ((b.sights id).foldl (Solo.see room) o).answers = o.answers := by
  unfold sights
  split <;> first | rfl | (split_ifs <;> simp [Solo.see])

/-- A step of a dispatcher that does not wait does to a subscription what it shows to it. -/
theorem Shows.step (h : b.Shows id o) (sound : b.Sound) (unwaiting : b.config.waits = false)
    (stepped : b.step = some (b', ws)) :
    b'.Shows id ((b.sights id).foldl (Solo.see b.config.room) o) := by
  have made := stepped
  rw [Bus.step] at made
  split at made
  · cases made
  split at made
  · rename_i d busy
    obtain ⟨e, remaining, closed⟩ := d
    rw [sights, stepped, busy]
    cases remaining with
    | nil =>
      cases made
      exact h.finish sound busy rfl
    | cons k rest =>
      simp only at made ⊢
      split
      · rename_i same
        subst same
        exact h.offer sound unwaiting busy made
      · rename_i other
        obtain ⟨⟨found, next⟩, sequence, others, -⟩ := offer_cases unwaiting made
        exact h.hidden (others id (Ne.symm other)) (offering_other busy next (Ne.symm other)) sequence
  · rename_i idle
    have before : b.offering id = [] := offering_idle idle
    rw [sights, stepped, idle]
    cases first : b.inbox with
    | nil =>
      rw [first] at made
      cases made
    | cons r rest =>
      rw [first] at made
      cases made
      -- What else waits in the inbox is not seen.
      have taken : Shows { b with inbox := rest } id o := h.hidden rfl rfl rfl
      cases r with
      | publish topic payload =>
        simp only
        split
        · rename_i own
          exact (h.start idle topic payload own).hidden rfl rfl rfl
        · rename_i other
          exact (h.pass sound idle topic payload other).hidden rfl rfl rfl
      | subscribe k name topic =>
        simp only
        split
        · rename_i own
          obtain ⟨rfl, room⟩ := own
          exact taken.register (sound.find?_first first) room name topic
        · rename_i unjoined
          obtain ⟨-, -, current, sequence, -⟩ := register_frame { b with inbox := rest } k name topic
          refine h.hidden ?_ ((offering_idle (current.trans idle)).trans before.symm) sequence
          by_cases own : k = id
          · rw [handle, Bus.register, if_neg fun room => unjoined ⟨own, room⟩]
            rfl
          · exact find?_register_other name topic (Ne.symm own)
      | shutdown => exact taken.hidden rfl rfl rfl

end Bus

end DeviceFleet
