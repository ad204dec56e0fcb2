import DeviceFleet.Proofs.Bus.Tally
import DeviceFleet.Proofs.Runs

/-! The accounts of a bus over whole runs. Requests, turns of the dispatcher and receivers come in
any order; what each subscription got and still has waiting is told by the requests that the
dispatcher has taken, and nothing is lost for it but what was offered while its queue was full. -/

namespace DeviceFleet

namespace Bus

/-! ### Losses -/

variable {b b' : Bus} {id : Nat} {ws : List Warning}

theorem lostOf_of_find? {s : Subscriber} (h : b.find? id = some s) : b.lostOf id = s.dropped := by
  rw [lostOf, h]
  rfl

theorem lostOf_congr (h : b'.find? id = b.find? id) : b'.lostOf id = b.lostOf id := by
  rw [lostOf, lostOf, h]

theorem lostOf_modify (k : Nat) {f : Subscriber → Subscriber} (keeps : KeepsId f)
    (dropped : ∀ s, (f s).dropped = s.dropped) : (b.modify k f).lostOf id = b.lostOf id := by
  rw [lostOf, lostOf, find?_modify b k id keeps]
  split
  · rw [Option.map_map]
    exact congrArg (fun g => ((b.find? id).map g).getD 0) (funext dropped)
  · rfl

/-- The one kind of turn that loses an event for a subscription offers the event to it. -/
theorem offered_of_lost (turn : Turn b b') (more : b.lostOf id < b'.lostOf id) :
    ∃ e rest closed s, b.current = some ⟨e, id :: rest, closed⟩ ∧ b.find? id = some s := by
  cases turn with
  | @finish d busy ended =>
    have stays := find?_finish b d id
    split at stays
    · rw [show (b.finish d).lostOf id = 0 by rw [lostOf, stays]; rfl] at more
      cases more
    · exact absurd more (lostOf_congr stays ▸ Nat.lt_irrefl _)
  | skip => exact absurd more (Nat.lt_irrefl _)
  | @deliver e k rest closed s =>
    have same : (b.deliver k e).lostOf id = b.lostOf id :=
      lostOf_modify k (fun _ => rfl) fun _ => rfl
    exact absurd more (same ▸ Nat.lt_irrefl _)
  | @lose e k rest closed s busy there =>
    have named : s.id = k := id_of_find? there
    by_cases own : id = k
    · subst own
      exact ⟨e, rest, closed, s, busy, there⟩
    · have same : (b.drop s e).1.lostOf id = b.lostOf id :=
        lostOf_congr (find?_modify_other (by exact fun _ => rfl) (named ▸ own))
      exact absurd more (same ▸ Nat.lt_irrefl _)
  | @register k name topic rest idle next =>
    have same : ({ b with inbox := rest } : Bus).lostOf id = b.lostOf id := rfl
    rw [← same] at more
    by_cases own : id = k
    · subst own
      cases there : ({ b with inbox := rest } : Bus).find? id with
      | some s =>
        have stays := (find?_register id name topic there).trans there.symm
        exact absurd more (lostOf_congr stays ▸ Nat.lt_irrefl _)
      | none =>
        refine absurd more (Nat.not_lt_of_le ?_)
        rcases find?_register_new name topic there with new | refused
        · rw [lostOf_of_find? new]
          exact Nat.zero_le _
        · rw [lostOf, refused]
          exact Nat.zero_le _
    · exact absurd more (lostOf_congr (find?_register_other name topic own) ▸ Nat.lt_irrefl _)
  | start => exact absurd more (Nat.lt_irrefl _)
  | stop => exact absurd more (Nat.lt_irrefl _)

/-- A step loses an event only for a full queue. -/
theorem full_of_step (h : b.step = some (b', ws)) (more : b.lostOf id < b'.lostOf id) :
    ∃ e s, b.offering id = [e] ∧ b.find? id = some s ∧ b.hasRoom s = false := by
  obtain ⟨running, turn⟩ := turn_of_step h
  obtain ⟨e, rest, closed, s, busy, there⟩ := offered_of_lost turn more
  refine ⟨e, s, offering_first busy, there, ?_⟩
  rw [step, if_neg (Bool.eq_false_iff.1 running), busy] at h
  simp only [offer, there] at h
  cases room : b.hasRoom s with
  | false => rfl
  | true =>
    rw [room] at h
    split at h
    · cases h
      exact absurd more (Nat.lt_irrefl _)
    · cases h
      have same : (b.deliver id e).lostOf id = b.lostOf id :=
        lostOf_modify id (fun _ => rfl) fun _ => rfl
      exact absurd more (same ▸ Nat.lt_irrefl _)

/-- So does the end of a wait, since a dispatcher that waits has no room. -/
theorem full_of_expire (waits : b.step = none) (h : b.expire = some (b', ws))
    (more : b.lostOf id < b'.lostOf id) :
    ∃ e s, b.offering id = [e] ∧ b.find? id = some s ∧ b.hasRoom s = false := by
  obtain ⟨running, turn⟩ := turn_of_expire h
  obtain ⟨e, rest, closed, s, busy, there⟩ := offered_of_lost turn more
  refine ⟨e, s, offering_first busy, there, ?_⟩
  rw [step, if_neg (Bool.eq_false_iff.1 running), busy] at waits
  simp only [offer, there] at waits
  cases room : b.hasRoom s with
  | false => rfl
  | true =>
    rw [room] at waits
    split at waits <;> cases waits

/-- The request that the dispatcher takes when it is its turn. -/
def next (b : Bus) : List BusRequest :=
  match b.current with
  | none => b.inbox.take 1
  | some _ => []

theorem next_busy {d : Dispatch} (busy : b.current = some d) : b.next = [] := by
  rw [next, busy]

theorem next_idle {r : BusRequest} {rest : List BusRequest} (idle : b.current = none)
    (first : b.inbox = r :: rest) : b.next = [r] := by
  rw [next, idle, first]
  rfl

end Bus

structure Ledger where
  bus : Bus
  /-- The requests that were put into the inbox. -/
  asked : List BusRequest
  /-- Those of them that the dispatcher has taken. -/
  taken : List BusRequest
  /-- The events that receivers got, each with the subscription. -/
  got : List (Nat × Event)
  deriving DecidableEq, Repr

namespace Ledger

open BusRequest (due events publication? topic?)

inductive Act where
  /-- The dispatcher takes a request, or goes on with an event. -/
  | dispatch
  /-- The time of a dispatcher that waits for room is over. -/
  | expire
  | subscribe (name topic : String)
  | publish (topic : String) (payload : Bytes)
  /-- The dispatcher tells the state of the subscriptions. -/
  | stats
  | shutdown
  /-- A receiver takes an event from its queue. -/
  | receive (id : Nat)
  /-- A receiver goes away. -/
  | close (id : Nat)
  deriving DecidableEq, Repr

def turned (h : Ledger) (b : Bus) : Ledger := { h with bus := b, taken := h.taken ++ h.bus.next }

/-- A request is put into the inbox, unless the bus has stopped. -/
def ask (h : Ledger) (b : Bus) (r : BusRequest) : Ledger :=
  if h.bus.stopped then h else { h with bus := b, asked := h.asked ++ [r] }

/-- The state after an act, if that is possible. -/
def act (h : Ledger) : Act → Option Ledger
  | .dispatch => h.bus.step.map fun (b, _) => h.turned b
  | .expire => if h.bus.step.isSome then none else h.bus.expire.map fun (b, _) => h.turned b
  | .subscribe name topic =>
    some (h.ask (h.bus.request name topic).1 (.subscribe h.bus.nextId name topic))
  | .publish topic payload => some (h.ask (h.bus.publish topic payload).1 (.publish topic payload))
  | .stats => if h.bus.current.isSome then none else some h
  | .shutdown => some (h.ask h.bus.shutdown .shutdown)
  | .receive id => (h.bus.take? id).map fun (e, b) => { h with bus := b, got := h.got ++ [(id, e)] }
  | .close id => some { h with bus := h.bus.close id }

def start (config : BusConfig) : Ledger := ⟨.new config, [], [], []⟩

def received (h : Ledger) (id : Nat) : List Event :=
  (h.got.filter fun p => decide (p.1 = id)).map (·.2)

/-- The invariant of a run. -/
structure Books (config : BusConfig) (h : Ledger) : Prop where
  sound : h.bus.Sound
  config : h.bus.config = config
  early : h.taken <+: h.asked
  inbox : h.bus.stopped = false → h.asked = h.taken ++ h.bus.inbox ∧ .shutdown ∉ h.taken
  nodup : (h.asked.flatMap BusRequest.ids).Nodup
  below : ∀ id ∈ h.asked.flatMap BusRequest.ids, id < h.bus.nextId
  sequence : h.bus.sequence = (events 0 h.taken).length
  tally : ∀ id, h.bus.Tally h.taken (h.received id) id

variable {config : BusConfig} {h h' : Ledger}

theorem books_start (config : BusConfig) : Books config (start config) where
  sound := Bus.sound_new config
  config := rfl
  early := List.nil_prefix
  inbox _ := ⟨rfl, List.not_mem_nil⟩
  nodup := .nil
  below := nofun
  sequence := rfl
  tally _ := ⟨.refl _, Nat.zero_le _, nofun, nofun, nofun⟩

/-! ### Turns of the dispatcher -/

theorem Books.go_on (books : Books config h) {d : Dispatch} {b : Bus} (busy : h.bus.current = some d)
    (sound : b.Sound) (config' : b.config = h.bus.config) (inbox : b.inbox = h.bus.inbox)
    (stopped : b.stopped = h.bus.stopped) (nextId : b.nextId = h.bus.nextId)
    (sequence : b.sequence = h.bus.sequence)
    (tally : ∀ id, b.Tally h.taken (h.received id) id) : Books config (h.turned b) := by
  have same : h.turned b = { h with bus := b } := by
    rw [turned, Bus.next_busy busy, List.append_nil]
  rw [same]
  exact {
    sound := sound
    config := config'.trans books.config
    early := books.early
    inbox := fun running => inbox ▸ books.inbox (stopped ▸ running)
    nodup := books.nodup
    below := fun id hid => nextId ▸ books.below id hid
    sequence := sequence.trans books.sequence
    tally := tally }

theorem Books.take_request (books : Books config h) {r : BusRequest} {rest : List BusRequest} {b : Bus}
    (running : h.bus.stopped = false) (idle : h.bus.current = none) (first : h.bus.inbox = r :: rest)
    (sound : b.Sound) (config' : b.config = h.bus.config)
    (inbox : b.stopped = false → b.inbox = rest ∧ r ≠ .shutdown) (nextId : b.nextId = h.bus.nextId)
    (sequence : b.sequence = (events 0 (h.taken ++ [r])).length)
    (tally : ∀ id, b.Tally (h.taken ++ [r]) (h.received id) id) : Books config (h.turned b) := by
  obtain ⟨asked, unstopped⟩ := books.inbox running
  have all : h.asked = h.taken ++ [r] ++ rest := by
    rw [asked, first, List.append_assoc]
    rfl
  have same : h.turned b = { h with bus := b, taken := h.taken ++ [r] } := by
    rw [turned, Bus.next_idle idle first]
  rw [same]
  constructor
  · exact sound
  · exact config'.trans books.config
  · exact ⟨rest, all.symm⟩
  · intro still
    obtain ⟨left, other⟩ := inbox still
    refine ⟨left ▸ all, fun stop => ?_⟩
    rcases List.mem_append.1 stop with stop | stop
    · exact unstopped stop
    · exact other (List.mem_singleton.1 stop).symm
  · exact books.nodup
  · exact fun id hid => nextId ▸ books.below id hid
  · exact sequence
  · exact tally

/-- A subscription that still waits in the inbox was not asked for before. -/
theorem Books.fresh (books : Books config h) (running : h.bus.stopped = false) {id : Nat}
    {name topic : String} {rest : List BusRequest}
    (first : h.bus.inbox = .subscribe id name topic :: rest) : topic? id h.taken = none := by
  have nodup := books.nodup
  rw [(books.inbox running).1, first, List.flatMap_append, List.flatMap_cons] at nodup
  refine BusRequest.topic?_eq_none.2 fun earlier => ?_
  exact (List.nodup_append.1 nodup).2.2 id earlier id List.mem_cons_self rfl

theorem Books.turn (books : Books config h) (running : h.bus.stopped = false) {b : Bus}
    (turn : Bus.Turn h.bus b) : Books config (h.turned b) := by
  have sound := Bus.sound_turn books.sound turn
  have tally := books.tally
  cases turn with
  | finish busy ended =>
    exact books.go_on busy sound rfl rfl rfl rfl rfl fun id => (tally id).finish busy ended
  | skip busy gone =>
    refine books.go_on busy sound rfl rfl rfl rfl rfl fun id =>
      (tally id).skip books.sound busy fun s there => ?_
    rcases gone with ⟨missing, -⟩ | ⟨⟨t, there', dead⟩, -⟩
    · cases there.symm.trans missing
    · cases there.symm.trans there'
      exact dead
  | deliver busy there live room =>
    exact books.go_on busy sound rfl rfl rfl rfl rfl fun id =>
      (tally id).deliver books.sound busy there live room
  | lose busy there =>
    exact books.go_on busy sound rfl rfl rfl rfl rfl fun id =>
      (tally id).lose books.sound busy there
  | @register id name topic rest idle first =>
    have fresh := books.fresh running first
    have before (k : Nat) : ({ h.bus with inbox := rest } : Bus).Tally h.taken (h.received k) k :=
      (tally k).same rfl rfl rfl
    obtain ⟨config', inbox, -, sequence, nextId⟩ :=
      Bus.register_frame { h.bus with inbox := rest } id name topic
    refine books.take_request running idle first sound config' (fun _ => ⟨inbox, nofun⟩) nextId ?_
      fun k => (before k).register idle fresh
    rw [sequence, BusRequest.events_append_silent fun _ => rfl]
    exact books.sequence
  | @start topic payload rest idle first =>
    obtain ⟨-, unstopped⟩ := books.inbox running
    have before (k : Nat) : ({ h.bus with inbox := rest } : Bus).Tally h.taken (h.received k) k :=
      (tally k).same rfl rfl rfl
    refine books.take_request running idle first sound rfl (fun _ => ⟨rfl, nofun⟩) rfl ?_ fun k =>
      (before k).start (books.sound.fewer rfl ?_ rfl rfl rfl) idle unstopped books.sequence
    · rw [BusRequest.events_append unstopped, List.length_append, ← books.sequence]
      rfl
    · rw [first, List.flatMap_cons]
      exact List.sublist_append_right _ _
  | stop idle first =>
    refine books.take_request running idle first sound rfl nofun rfl ?_ fun k =>
      ((tally k).silent fun _ => rfl).same rfl rfl rfl
    rw [BusRequest.events_append_silent fun _ => rfl]
    exact books.sequence

/-! ### Requests and receivers -/

theorem Books.ask (books : Books config h) {b : Bus} {r : BusRequest} {n : Nat}
    (next : h.bus.stopped = false → b = { h.bus with inbox := h.bus.inbox ++ [r], nextId := n })
    (sound : h.bus.stopped = false → b.Sound) (le : h.bus.nextId ≤ n)
    (fresh : ∀ id ∈ r.ids, h.bus.nextId ≤ id ∧ id < n) : Books config (h.ask b r) := by
  rw [Ledger.ask]
  split
  · exact books
  · rename_i stopped
    have running := Bool.eq_false_iff.2 stopped
    obtain ⟨asked, unstopped⟩ := books.inbox running
    have sound := sound running
    obtain rfl := next running
    have single : (h.asked ++ [r]).flatMap BusRequest.ids = h.asked.flatMap BusRequest.ids ++ r.ids := by
      simp
    constructor
    · exact sound
    · exact books.config
    · exact books.early.trans (List.prefix_append _ _)
    · exact fun _ => ⟨by rw [asked, List.append_assoc], unstopped⟩
    · rw [single]
      refine List.nodup_append.2 ⟨books.nodup, by cases r <;> simp [BusRequest.ids], ?_⟩
      intro x hx y hy same
      have old := books.below x hx
      have new := (fresh y hy).1
      omega
    · intro id hid
      rw [single] at hid
      rcases List.mem_append.1 hid with hid | hid
      · exact Nat.lt_of_lt_of_le (books.below id hid) le
      · exact (fresh id hid).2
    · exact books.sequence
    · exact fun id => (books.tally id).same rfl rfl rfl

theorem received_receive (h : Ledger) (b : Bus) (id k : Nat) (e : Event) :
    received { h with bus := b, got := h.got ++ [(id, e)] } k =
      if k = id then h.received k ++ [e] else h.received k := by
  rw [received, List.filter_append, List.map_append]
  split
  · rename_i same
    simp [received, same]
  · rename_i other
    simp [received, Ne.symm other]

theorem Books.receive (books : Books config h) {id : Nat} {e : Event} {b : Bus}
    (took : h.bus.take? id = some (e, b)) :
    Books config { h with bus := b, got := h.got ++ [(id, e)] } := by
  have sound := Bus.sound_take books.sound took
  have tally := books.tally
  obtain ⟨s, rest, there, queue, rfl⟩ := Bus.take?_eq took
  refine { books with sound := sound, tally := fun k => ?_ }
  rw [received_receive]
  split
  · rename_i same
    exact same ▸ (tally id).take took
  · rename_i other
    exact (tally k).same (Bus.find?_modify_other (by exact fun _ => rfl) other) rfl rfl

theorem Books.close (books : Books config h) (id : Nat) :
    Books config { h with bus := h.bus.close id } := by
  have change : Bus.Change [] h.bus (h.bus.close id) := .close List.not_mem_nil
  refine { books with sound := Bus.sound_change books.sound change, tally := fun k => ?_ }
  by_cases own : k = id
  · exact own ▸ (books.tally id).close
  · exact (books.tally k).same (Bus.find?_modify_other (by exact fun _ => rfl) own) rfl rfl

theorem books_act (books : Books config h) {a : Act} (made : h.act a = some h') : Books config h' := by
  cases a with
  | dispatch =>
    obtain ⟨⟨b, ws⟩, stepped, rfl⟩ := Option.map_eq_some_iff.1 made
    obtain ⟨running, turn⟩ := Bus.turn_of_step stepped
    exact books.turn running turn
  | expire =>
    rw [act] at made
    split at made
    · cases made
    · obtain ⟨⟨b, ws⟩, expired, rfl⟩ := Option.map_eq_some_iff.1 made
      obtain ⟨running, turn⟩ := Bus.turn_of_expire expired
      exact books.turn running turn
  | subscribe name topic =>
    cases made
    refine books.ask (fun _ => rfl) (fun running => ?_) (Nat.le_succ _) fun id hid => ?_
    · have change : Bus.Change [] h.bus (h.bus.request name topic).1 := .request running name topic
      exact Bus.sound_change books.sound change
    · rw [List.mem_singleton.1 hid]
      exact ⟨Nat.le_refl _, Nat.lt_succ_self _⟩
  | publish topic payload =>
    cases made
    have change : Bus.Change [] h.bus (h.bus.publish topic payload).1 := .publish topic payload
    refine books.ask (fun running => ?_) (fun _ => Bus.sound_change books.sound change) (Nat.le_refl _)
      (List.forall_mem_nil _)
    rw [Bus.publish, if_neg (Bool.eq_false_iff.1 running)]
  | stats =>
    rw [act] at made
    split at made
    · cases made
    · cases made
      exact books
  | shutdown =>
    cases made
    have change : Bus.Change [] h.bus h.bus.shutdown := .shutdown
    refine books.ask (fun running => ?_) (fun _ => Bus.sound_change books.sound change) (Nat.le_refl _)
      (List.forall_mem_nil _)
    rw [Bus.shutdown, if_neg (Bool.eq_false_iff.1 running)]
  | receive id =>
    obtain ⟨⟨e, b⟩, took, rfl⟩ := Option.map_eq_some_iff.1 made
    exact books.receive took
  | close id =>
    cases made
    exact books.close id

theorem books_run {acts : List Act} (books : Books config h) (made : acts.foldlM act h = some h') :
    Books config h' :=
  Runs.keeps made books fun _ _ _ _ first books => books_act books first

/-! ### The accounts -/

/-- Nothing is lost, and a subscription stays unless its receiver goes away. -/
structure Quiet (a : Act) (b b' : Bus) : Prop where
  lost : ∀ id, b'.lostOf id = b.lostOf id
  stays : ∀ id, a ≠ .close id → Bus.Stays b b' id

theorem quiet_of_eq {a : Act} {b b' : Bus} (same : ∀ id, b'.find? id = b.find? id) : Quiet a b b' :=
  ⟨fun id => Bus.lostOf_congr (same id), fun id _ => Bus.stays_of_eq (same id)⟩

theorem quiet_ask {a : Act} {b : Bus} {r : BusRequest} (same : ∀ id, b.find? id = h.bus.find? id) :
    Quiet a h.bus (h.ask b r).bus := by
  rw [ask]
  split
  · exact quiet_of_eq fun _ => rfl
  · exact quiet_of_eq same

/-- Only the dispatcher loses events. -/
theorem act_cases {a : Act} (made : h.act a = some h') :
    (∃ ws, h.bus.step = some (h'.bus, ws)) ∨
      (h.bus.step = none ∧ ∃ ws, h.bus.expire = some (h'.bus, ws)) ∨ Quiet a h.bus h'.bus := by
  cases a with
  | dispatch =>
    obtain ⟨⟨b, ws⟩, stepped, rfl⟩ := Option.map_eq_some_iff.1 made
    exact .inl ⟨ws, stepped⟩
  | expire =>
    rw [act] at made
    split at made
    · cases made
    · rename_i waits
      obtain ⟨⟨b, ws⟩, expired, rfl⟩ := Option.map_eq_some_iff.1 made
      exact .inr (.inl ⟨Option.not_isSome_iff_eq_none.1 waits, ws, expired⟩)
  | subscribe =>
    cases made
    exact .inr (.inr (quiet_ask fun _ => rfl))
  | publish topic payload =>
    cases made
    exact .inr (.inr (quiet_ask fun _ => Bus.find?_publish topic payload))
  | stats =>
    rw [act] at made
    split at made
    · cases made
    · cases made
      exact .inr (.inr (quiet_of_eq fun _ => rfl))
  | shutdown =>
    cases made
    exact .inr (.inr (quiet_ask fun _ => Bus.find?_shutdown))
  | receive k =>
    obtain ⟨⟨e, b⟩, took, rfl⟩ := Option.map_eq_some_iff.1 made
    refine .inr (.inr ⟨fun id => ?_, fun id _ => Bus.stays_take took⟩)
    obtain ⟨s, rest, -, -, rfl⟩ := Bus.take?_eq took
    exact Bus.lostOf_modify k (fun _ => rfl) fun _ => rfl
  | close k =>
    cases made
    refine .inr (.inr ⟨fun id => Bus.lostOf_modify k (fun _ => rfl) fun _ => rfl, fun id other => ?_⟩)
    refine Bus.stays_modify k (fun _ => rfl) (fun _ => rfl) (fun _ => Nat.le_refl _) fun own => ?_
    exact absurd (own ▸ rfl) other

/-- An event is lost only when it is offered to a full queue. -/
theorem full_of_lost {a : Act} {id : Nat} (made : h.act a = some h')
    (more : h.bus.lostOf id < h'.bus.lostOf id) :
    ∃ e s, h.bus.offering id = [e] ∧ h.bus.find? id = some s ∧ h.bus.hasRoom s = false := by
  rcases act_cases made with ⟨ws, stepped⟩ | ⟨waits, ws, expired⟩ | quiet
  · exact Bus.full_of_step stepped more
  · exact Bus.full_of_expire waits expired more
  · rw [quiet.lost] at more
    exact absurd more (Nat.lt_irrefl _)

theorem Books.stays (books : Books config h) {a : Act} {id : Nat} (made : h.act a = some h')
    (other : a ≠ .close id) : Bus.Stays h.bus h'.bus id := by
  rcases act_cases made with ⟨ws, stepped⟩ | ⟨waits, ws, expired⟩ | quiet
  · exact Bus.stays_turn books.sound (Bus.turn_of_step stepped).2
  · exact Bus.stays_turn books.sound (Bus.turn_of_expire expired).2
  · exact quiet.stays id other

/-- The account of a subscription on a bus that was set up with `config`. -/
structure Accounted (config : BusConfig) (h : Ledger) (id : Nat) : Prop where
  /-- What the receiver got and what waits for it come, in the order of publishing, among the
  events on its topic that were published after it was asked for and before the request to stop. -/
  kept : (h.received id ++ h.bus.queueOf id).Sublist (due id 0 h.asked)
  ascending : (h.received id ++ h.bus.queueOf id).Pairwise (·.sequence < ·.sequence)
  /-- The number of an event is its place, from one on, among all that were dispatched. -/
  place : ∀ e ∈ h.received id ++ h.bus.queueOf id, 0 < e.sequence ∧
    (h.taken.filterMap publication?)[e.sequence - 1]? = some e.content
  room : (h.bus.queueOf id).length ≤ max config.capacity 1
  topic : ∀ s, h.bus.find? id = some s → topic? id h.taken = some s.topic
  delivered : ∀ s, h.bus.find? id = some s → s.live = true →
    s.delivered = (h.received id).length + (h.bus.queueOf id).length
  /-- An event that is being offered is neither delivered nor dropped yet. -/
  dispatched : ∀ s, h.bus.find? id = some s → s.live = true →
    s.delivered + s.dropped + (h.bus.offering id).length = (due id 0 h.taken).length
  told : ∀ s, h.bus.find? id = some s → h.bus.stopped = false →
    ⟨s.name, s.topic, s.delivered, s.dropped⟩ ∈ h.bus.stats
  stays : ∀ a h', h.act a = some h' → a ≠ .close id → Bus.Stays h.bus h'.bus id
  /-- An event is dropped only when it is offered to a full queue. -/
  lost : ∀ a h', h.act a = some h' → h.bus.lostOf id < h'.bus.lostOf id →
    (∃ e, h.bus.offering id = [e]) ∧ (h.bus.queueOf id).length = max config.capacity 1

theorem mem_stats {b : Bus} {s : Subscriber} (running : b.stopped = false) (member : s ∈ b.table) :
    ⟨s.name, s.topic, s.delivered, s.dropped⟩ ∈ b.stats := by
  rw [Bus.stats, if_neg (Bool.eq_false_iff.1 running)]
  exact List.mem_mergeSort.2 (List.mem_map_of_mem member)

/-- After any run every subscription is accounted for. -/
theorem accounted_of_run {acts : List Act} (made : acts.foldlM act (start config) = some h) (id : Nat) :
    h.taken <+: h.asked ∧ Accounted config h id := by
  have books := books_run (books_start config) made
  have tally := books.tally id
  have here : (h.received id ++ h.bus.queueOf id).Sublist (due id 0 h.taken) :=
    (List.sublist_append_left _ _).trans tally.kept
  have placed : (h.received id ++ h.bus.queueOf id).Sublist (events 0 h.taken) :=
    here.trans BusRequest.due_sublist
  refine ⟨books.early, ?_⟩
  constructor
  case kept =>
    obtain ⟨rest, all⟩ := books.early
    exact here.trans (all ▸ BusRequest.due_prefix.sublist)
  case ascending => exact BusRequest.ascending_events.1.sublist placed
  case place =>
    intro e he
    have member := placed.subset he
    exact ⟨BusRequest.ascending_events.2 e member, BusRequest.publication_of_mem member⟩
  case room => exact books.config ▸ tally.room
  case topic => exact tally.topic
  case delivered =>
    intro s there live
    rw [Bus.queueOf_of_find? there]
    exact tally.delivered s there live
  case dispatched => exact tally.dispatched
  case told => exact fun s there running => mem_stats running (Bus.mem_of_find? there)
  case stays => exact fun a h' done other => books.stays done other
  case lost =>
    intro a h' done more
    obtain ⟨e, s, offer, there, full⟩ := full_of_lost done more
    refine ⟨⟨e, offer⟩, Nat.le_antisymm (books.config ▸ tally.room) ?_⟩
    rw [Bus.queueOf_of_find? there, ← books.config]
    exact Nat.le_of_not_lt (of_decide_eq_false full)

/-- A queue for one event, and three events on its topic with one on another between them: the
second is dropped, and the third comes after the receiver has taken the first. -/
theorem accounted_of_run_dropped : ∃ (acts : List Act) (h : Ledger),
    acts.foldlM act (start ⟨0, .reject, 5⟩) = some h ∧ Accounted ⟨0, .reject, 5⟩ h 0 ∧
      h.received 0 = [⟨"a", [1], 1⟩] ∧ h.bus.queueOf 0 = [⟨"a", [3], 4⟩] ∧ h.bus.lostOf 0 = 1 := by
  let acts : List Act := [.subscribe "n" "a", .publish "a" [1], .publish "a" [2], .publish "b" []] ++
    List.replicate 9 .dispatch ++ [.stats, .receive 0, .publish "a" [3]] ++ List.replicate 3 .dispatch
  have works : (acts.foldlM act (start ⟨0, .reject, 5⟩)).any (fun h =>
      decide (h.received 0 = [⟨"a", [1], 1⟩] ∧ h.bus.queueOf 0 = [⟨"a", [3], 4⟩] ∧
        h.bus.lostOf 0 = 1)) := by
    decide +kernel
  obtain ⟨h, made, facts⟩ := (Option.any_eq_true _ _).1 works
  obtain ⟨got, waits, lost⟩ := of_decide_eq_true facts
  exact ⟨acts, h, made, (accounted_of_run made 0).2, got, waits, lost⟩

end Ledger

end DeviceFleet
