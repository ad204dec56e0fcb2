import Mathlib.Data.List.ReduceOption
import DeviceFleet.Proofs.Bus.Accounting
import DeviceFleet.Proofs.Bus.Alone

/-! Subscriptions do not disturb each other on a bus that drops at once what has no room. In any two
runs that show the same to a subscription it gets the same, whatever the other subscriptions are and
do. -/

namespace DeviceFleet

namespace Ledger

def attempt (h : Ledger) (a : Act) : Ledger := (h.act a).getD h

/-- What is to be seen of a run, act by act. -/
def told {β : Type} (look : Ledger → Act → List β) : Ledger → List Act → List β
  | _, [] => []
  | h, a :: acts => look h a ++ told look (h.attempt a) acts

def sights (id : Nat) (h : Ledger) : Act → List Sight
  | .dispatch => h.bus.sights id
  | .receive k => if k = id then [.poll] else []
  | .close k => if k = id then [.leave] else []
  | _ => []

/-- What the receiver of a subscription gets if it asks. -/
def answer (id : Nat) (h : Ledger) : Act → List (Option Event)
  | .receive k => if k = id then [(h.bus.take? id).map (·.1)] else []
  | _ => []

/-- The subscription is as it would be by itself, and so is what its receiver got. -/
structure Sees (h : Ledger) (id : Nat) (o : Solo) : Prop where
  shows : h.bus.Shows id o
  got : h.received id = o.answers.reduceOption

variable {config : BusConfig} {h : Ledger} {id : Nat} {o : Solo}

theorem Books.attempt (books : Books config h) (a : Act) : Books config (h.attempt a) := by
  rw [Ledger.attempt]
  cases made : h.act a with
  | none => exact books
  | some h' => exact books_act books made

theorem act_expire (unwaiting : h.bus.config.waits = false) : h.act .expire = none := by
  rw [Ledger.act]
  cases stepped : h.bus.step with
  | some o => rfl
  | none =>
    rw [Bus.expire_eq_none unwaiting stepped]
    rfl

theorem Sees.ask (sees : h.Sees id o) {b : Bus} {r : BusRequest} {n : Nat}
    (next : h.bus.stopped = false → b = { h.bus with inbox := h.bus.inbox ++ [r], nextId := n }) :
    (h.ask b r).Sees id o := by
  rw [Ledger.ask]
  split
  · exact sees
  · rename_i running
    obtain rfl := next (Bool.eq_false_iff.2 running)
    exact ⟨sees.shows.hidden rfl rfl rfl, sees.got⟩

theorem Sees.asks (sees : h.Sees id o) (room : Nat) :
    (h.attempt (.receive id)).Sees id (o.see room .poll) ∧
      (o.see room .poll).answers = o.answers ++ [(h.bus.take? id).map (·.1)] := by
  have asked := sees.shows.head?_eq
  refine ⟨?_, by rw [asked, Solo.see]⟩
  cases took : h.bus.take? id with
  | none =>
    rw [took] at asked
    rw [Ledger.attempt, Ledger.act, took]
    refine ⟨sees.shows.poll_none room took, ?_⟩
    show h.received id = (o.answers ++ [o.queue.head?]).reduceOption
    rw [← asked, sees.got, List.reduceOption_append]
    exact (List.append_nil _).symm
  | some r =>
    obtain ⟨e, b⟩ := r
    rw [took] at asked
    rw [Ledger.attempt, Ledger.act, took]
    refine ⟨sees.shows.poll_some room took, ?_⟩
    show received { h with bus := b, got := h.got ++ [(id, e)] } id =
      (o.answers ++ [o.queue.head?]).reduceOption
    rw [← asked, received_receive, if_pos rfl, sees.got, List.reduceOption_append]
    rfl

theorem Sees.others_ask (sees : h.Sees id o) {k : Nat} (other : k ≠ id) :
    (h.attempt (.receive k)).Sees id o := by
  cases took : h.bus.take? k with
  | none =>
    rw [Ledger.attempt, Ledger.act, took]
    exact sees
  | some r =>
    obtain ⟨e, b⟩ := r
    obtain ⟨s, rest, -, -, rfl⟩ := Bus.take?_eq took
    rw [Ledger.attempt, Ledger.act, took]
    have elsewhere := Bus.find?_modify_other (b := h.bus)
      (f := fun s => { s with queue := s.queue.tail }) (fun _ => rfl) (Ne.symm other)
    refine ⟨sees.shows.hidden elsewhere rfl rfl, ?_⟩
    show received { h with bus := h.bus.modify k _, got := h.got ++ [(k, e)] } id = _
    rw [received_receive, if_neg (Ne.symm other)]
    exact sees.got

/-- An act does to a subscription what it shows to it, and the receiver is answered as it would be. -/
theorem Sees.act (sees : h.Sees id o) (books : Books config h) (unwaiting : config.waits = false)
    (a : Act) :
    let o' := (h.sights id a).foldl (Solo.see config.room) o
    (h.attempt a).Sees id o' ∧ o'.answers = o.answers ++ h.answer id a := by
  have still : o.answers = o.answers ++ [] := (List.append_nil _).symm
  cases a with
  | dispatch =>
    have kept := Bus.answers_sights h.bus id config.room o
    rw [Ledger.attempt, Ledger.act, Ledger.sights]
    cases stepped : h.bus.step with
    | none =>
      have nothing : h.bus.sights id = [] := by rw [Bus.sights, stepped]
      rw [nothing]
      exact ⟨sees, still⟩
    | some r =>
      have shows := sees.shows.step books.sound (books.config ▸ unwaiting) stepped
      rw [books.config] at shows
      refine ⟨⟨shows, ?_⟩, kept.trans still⟩
      rw [kept]
      exact sees.got
  | expire =>
    rw [Ledger.attempt, act_expire (books.config ▸ unwaiting)]
    exact ⟨sees, still⟩
  | subscribe name topic => exact ⟨sees.ask fun _ => rfl, still⟩
  | publish topic payload =>
    refine ⟨sees.ask (n := h.bus.nextId) fun running => ?_, still⟩
    rw [Bus.publish, if_neg (Bool.eq_false_iff.1 running)]
  | stats =>
    have same : h.attempt .stats = h := by
      rw [Ledger.attempt, Ledger.act]
      split <;> rfl
    rw [same]
    exact ⟨sees, still⟩
  | shutdown =>
    refine ⟨sees.ask (n := h.bus.nextId) fun running => ?_, still⟩
    rw [Bus.shutdown, if_neg (Bool.eq_false_iff.1 running)]
  | receive k =>
    rw [Ledger.sights, Ledger.answer]
    split
    · rename_i own
      exact own ▸ sees.asks config.room
    · rename_i other
      exact ⟨sees.others_ask other, still⟩
  | close k =>
    rw [Ledger.attempt, Ledger.act, Ledger.sights]
    split
    · rename_i own
      subst own
      exact ⟨⟨sees.shows.close config.room, sees.got⟩, still⟩
    · rename_i other
      have elsewhere : (h.bus.close k).find? id = h.bus.find? id :=
        Bus.find?_modify_other (by exact fun _ => rfl) (Ne.symm other)
      exact ⟨⟨sees.shows.hidden elsewhere rfl rfl, sees.got⟩, still⟩

/-- After any acts, done where they are possible, the subscription is as it would be by itself, and its
receiver was answered so. -/
theorem Sees.attempts (sees : h.Sees id o) (books : Books config h) (unwaiting : config.waits = false)
    (acts : List Act) :
    let o' := (told (sights id) h acts).foldl (Solo.see config.room) o
    (acts.foldl attempt h).Sees id o' ∧ o'.answers = o.answers ++ told (answer id) h acts := by
  induction acts generalizing h o with
  | nil => exact ⟨sees, (List.append_nil _).symm⟩
  | cons a acts ih =>
    obtain ⟨after, answered⟩ := sees.act books unwaiting a
    obtain ⟨end_, rest⟩ := ih after (books.attempt a)
    rw [told, told, List.foldl_append, List.foldl_cons, ← List.append_assoc, ← answered]
    exact ⟨end_, rest⟩

theorem sees_start (config : BusConfig) (id : Nat) : (start config).Sees id .start where
  shows := ⟨rfl, nofun, fun _ => .inl rfl, fun _ => rfl⟩
  got := rfl

/-- Two buses with queues of one size do not wait for room. Their runs may differ in anything, but they
show the same to one subscription of each: its registration, all that is published, the questions of
its receiver and the receiver's end, in one order. Then its receiver gets the same answers, and so the
same events under the same numbers, and the same events wait for it. Where both tables hold the
subscription, as many events were delivered and dropped; they hold it once it is registered, unless
its receiver goes away. -/
theorem isolated {config₁ config₂ : BusConfig} (reject₁ : config₁.policy = .reject)
    (reject₂ : config₂.policy = .reject) (capacity : config₁.capacity = config₂.capacity)
    {acts₁ acts₂ : List Act} {id₁ id₂ : Nat}
    (alike : told (sights id₁) (start config₁) acts₁ = told (sights id₂) (start config₂) acts₂) :
    let h₁ := acts₁.foldl attempt (start config₁)
    let h₂ := acts₂.foldl attempt (start config₂)
    told (answer id₁) (start config₁) acts₁ = told (answer id₂) (start config₂) acts₂ ∧
      h₁.received id₁ = h₂.received id₂ ∧ h₁.bus.queueOf id₁ = h₂.bus.queueOf id₂ ∧
      (∀ s₁ s₂, h₁.bus.find? id₁ = some s₁ → h₂.bus.find? id₂ = some s₂ →
        s₁.topic = s₂.topic ∧ s₁.delivered = s₂.delivered ∧ s₁.dropped = s₂.dropped) ∧
      ((∃ topic, .join topic ∈ told (sights id₁) (start config₁) acts₁) →
        .leave ∉ told (sights id₁) (start config₁) acts₁ →
        (∃ s₁, h₁.bus.find? id₁ = some s₁) ∧ ∃ s₂, h₂.bus.find? id₂ = some s₂) := by
  intro h₁ h₂
  have waits {config : BusConfig} (reject : config.policy = .reject) : config.waits = false := by
    rw [BusConfig.waits, reject]
    rfl
  have room : config₂.room = config₁.room := by rw [BusConfig.room, BusConfig.room, capacity]
  obtain ⟨sees₁, answers₁⟩ :=
    (sees_start config₁ id₁).attempts (books_start config₁) (waits reject₁) acts₁
  obtain ⟨sees₂, answers₂⟩ :=
    (sees_start config₂ id₂).attempts (books_start config₂) (waits reject₂) acts₂
  rw [← alike, room] at sees₂ answers₂
  refine ⟨?_, ?_, ?_, fun s₁ s₂ there₁ there₂ => ?_, fun joined stays => ?_⟩
  · exact answers₁.symm.trans answers₂
  · exact sees₁.got.trans sees₂.got.symm
  · exact sees₁.shows.queue_eq.symm.trans sees₂.shows.queue_eq
  · have same := (sees₁.shows.present s₁ there₁).symm.trans (sees₂.shows.present s₂ there₂)
    rw [Subscriber.alone, Subscriber.alone, Solo.mk.injEq] at same
    obtain ⟨-, topic, -, -, delivered, dropped, -⟩ := same
    exact ⟨Option.some.inj topic, delivered, dropped⟩
  · obtain ⟨live, registered⟩ := Solo.stays_joined config₁.room stays (o := .start) rfl
    have topic := registered (.inl joined)
    exact ⟨sees₁.shows.there topic live, sees₂.shows.there topic live⟩

/-- A subscription with a place for one event. On the one bus another one on its topic comes first and
goes away, and is removed while the first event is offered; on the other bus another one on another
topic comes after it and reads. It misses the second of its three events on both. -/
theorem isolated_beside_others :
    let run₁ : List Act := [.subscribe "m" "a", .subscribe "n" "a", .dispatch, .dispatch, .close 0,
      .publish "a" [1], .publish "b" [], .publish "a" [2]] ++ List.replicate 9 .dispatch ++
      [.receive 1, .publish "a" [3]] ++ List.replicate 3 .dispatch
    let run₂ : List Act := [.subscribe "n" "a", .dispatch, .subscribe "m" "b", .publish "a" [1],
      .publish "b" [], .publish "a" [2]] ++ List.replicate 7 .dispatch ++
      [.receive 1, .dispatch, .dispatch, .dispatch, .receive 0, .publish "a" [3]] ++
      List.replicate 3 .dispatch
    let h₁ := run₁.foldl attempt (start ⟨1, .reject, 5⟩)
    let h₂ := run₂.foldl attempt (start ⟨1, .reject, 0⟩)
    told (sights 1) (start ⟨1, .reject, 5⟩) run₁ = told (sights 0) (start ⟨1, .reject, 0⟩) run₂ ∧
      h₁.bus.table.map (·.topic) = ["a"] ∧ h₂.bus.table.map (·.topic) = ["a", "b"] ∧
      h₂.received 0 = [⟨"a", [1], 1⟩] ∧ h₁.received 1 = h₂.received 0 ∧
      h₁.bus.queueOf 1 = h₂.bus.queueOf 0 ∧
      (∃ s₁, h₁.bus.find? 1 = some s₁) ∧ ∃ s₂, h₂.bus.find? 0 = some s₂ ∧ s₂.dropped = 1 := by
  intro run₁ run₂ h₁ h₂
  have alike : told (sights 1) (start ⟨1, .reject, 5⟩) run₁ =
      told (sights 0) (start ⟨1, .reject, 0⟩) run₂ := by decide +kernel
  obtain ⟨-, received, queue, -, there⟩ :=
    @isolated ⟨1, .reject, 5⟩ ⟨1, .reject, 0⟩ rfl rfl rfl _ _ _ _ alike
  have joined : ∃ topic, .join topic ∈ told (sights 1) (start ⟨1, .reject, 5⟩) run₁ :=
    ⟨"a", by decide +kernel⟩
  obtain ⟨there₁, s₂, there₂⟩ := there joined (by decide +kernel)
  have dropped : (h₂.bus.find? 0).map (·.dropped) = some 1 := by decide +kernel
  rw [there₂] at dropped
  refine ⟨alike, by decide +kernel, by decide +kernel, by decide +kernel, received, queue, there₁, s₂,
    there₂, Option.some.inj dropped⟩

end Ledger

end DeviceFleet
