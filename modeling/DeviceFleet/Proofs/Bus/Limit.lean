import DeviceFleet.Proofs.Bus.Accounting
import DeviceFleet.Proofs.Bus.Subscribe

/-! The limit of subscriptions. A subscription whose receiver has gone away counts as before until the
dispatcher turns to it with an event on its topic. So a new one is refused just when the subscriptions with
a receiver and those to which the dispatcher has not turned since theirs has gone are together as many as a
bus takes. -/

namespace DeviceFleet

namespace Bus

/-- The subscription to which the dispatcher turns next with its event. -/
def turnsTo (b : Bus) : Option Nat := b.current.bind (·.remaining.head?)

/-- The subscriptions that were found without a receiver in the present dispatch. -/
def foundClosed (b : Bus) : List Nat := (b.current.map (·.closed)).getD []

def live (b : Bus) : List Subscriber := b.table.filter (·.live)

variable {b b' : Bus} {id : Nat} {ws : List Warning} {unnoticed : List Nat}

/-! ### Numbers of subscriptions -/

/-- As many subscriptions have a property as there are identifiers of such. -/
theorem length_filter (sound : b.Sound) {p : Subscriber → Bool} {ids : List Nat} (nodup : ids.Nodup)
    (same : ∀ k, k ∈ ids ↔ ∃ s, b.find? k = some s ∧ p s = true) :
    (b.table.filter p).length = ids.length := by
  have distinct : ((b.table.filter p).map (·.id)).Nodup :=
    sound.nodup_table.sublist (List.filter_sublist.map _)
  have perm : ((b.table.filter p).map (·.id)).Perm ids := by
    refine (List.perm_ext_iff_of_nodup distinct nodup).2 fun k => ?_
    rw [same, List.mem_map]
    constructor
    · rintro ⟨s, hs, rfl⟩
      obtain ⟨member, holds⟩ := List.mem_filter.1 hs
      exact ⟨s, sound.find?_of_mem member, holds⟩
    · rintro ⟨s, found, holds⟩
      exact ⟨s, List.mem_filter.2 ⟨mem_of_find? found, holds⟩, id_of_find? found⟩
  rw [← perm.length_eq, List.length_map]

/-! ### The invariant -/

/-- The count is that of the table, and the subscriptions without a receiver are those of `unnoticed`
and those found so in the present dispatch. -/
structure Counts (b : Bus) (unnoticed : List Nat) : Prop where
  sound : b.Sound
  count : b.count = b.table.length
  limit : b.count ≤ maxSubscriptions
  nodup : (unnoticed ++ b.foundClosed).Nodup
  gone : ∀ k, k ∈ unnoticed ++ b.foundClosed ↔ ∃ s, b.find? k = some s ∧ s.live = false
  apart : ∀ d, b.current = some d → ∀ k ∈ d.remaining, k ∉ d.closed

namespace Counts

theorem new (config : BusConfig) : (Bus.new config).Counts [] where
  sound := sound_new config
  count := rfl
  limit := Nat.zero_le _
  nodup := .nil
  gone _ := ⟨fun h => absurd h List.not_mem_nil, fun ⟨_, found, _⟩ => nomatch found⟩
  apart := nofun

theorem length_table (c : b.Counts unnoticed) :
    b.table.length = b.live.length + (unnoticed ++ b.foundClosed).length := by
  have gone : (b.table.filter (!·.live)).length = (unnoticed ++ b.foundClosed).length :=
    length_filter c.sound c.nodup fun k => by simp [c.gone]
  rw [List.length_eq_length_filter_add (·.live), live, gone]

theorem not_gone (c : b.Counts unnoticed) {s : Subscriber} (found : b.find? id = some s)
    (live : s.live = true) : id ∉ unnoticed ++ b.foundClosed := by
  intro gone
  obtain ⟨t, found', dead⟩ := (c.gone id).1 gone
  cases found.symm.trans found'
  rw [live] at dead
  cases dead

theorem congr (c : b.Counts unnoticed) (sound : b'.Sound) (table : b'.table = b.table)
    (count : b'.count = b.count) (current : b'.current = b.current) : b'.Counts unnoticed where
  sound := sound
  count := by rw [count, table, c.count]
  limit := count ▸ c.limit
  nodup := by
    rw [foundClosed, current]
    exact c.nodup
  gone k := by
    rw [foundClosed, current, find?, table]
    exact c.gone k
  apart d hd := c.apart d (current.symm.trans hd)

theorem modify (c : b.Counts unnoticed) (id : Nat) {f : Subscriber → Subscriber} (sound : b'.Sound)
    (keeps : KeepsId f) (live : ∀ s, (f s).live = s.live) (table : b'.table = (b.modify id f).table)
    (count : b'.count = b.count) (current : b'.current = b.current) : b'.Counts unnoticed where
  sound := sound
  count := by rw [count, table, Bus.modify, List.length_map, c.count]
  limit := count ▸ c.limit
  nodup := by
    rw [foundClosed, current]
    exact c.nodup
  gone k := by
    have same : b'.find? k = (b.modify id f).find? k := by rw [find?, find?, table]
    rw [foundClosed, current, same, find?_modify b id k keeps]
    refine (c.gone k).trans ?_
    split
    · simp [live]
    · rfl
  apart d hd := c.apart d (current.symm.trans hd)

/-! ### Turns of the dispatcher -/

/-- The dispatcher has turned to a subscription with a receiver, or to one that is not there. -/
theorem passed (c : b.Counts unnoticed) {e : Event} {rest closed : List Nat}
    (busy : b.current = some ⟨e, id :: rest, closed⟩)
    (alive : ∀ s, b.find? id = some s → s.live = true) :
    Counts { b with current := some ⟨e, rest, closed⟩ } (unnoticed.filter (· ≠ id)) := by
  have outside : id ∉ unnoticed := by
    intro inside
    obtain ⟨s, found, dead⟩ := (c.gone id).1 (List.mem_append_left _ inside)
    rw [alive s found] at dead
    cases dead
  have same : unnoticed.filter (· ≠ id) = unnoticed :=
    List.filter_eq_self.2 fun k hk => decide_eq_true fun eq => outside (eq ▸ hk)
  have here : b.foundClosed = closed := by rw [foundClosed, busy]; rfl
  rw [same]
  exact {
    sound := c.sound.next busy fun s _ hid => .inl hid
    count := c.count
    limit := c.limit
    nodup := here ▸ c.nodup
    gone := fun k => here ▸ c.gone k
    apart := fun d hd k hk => by
      cases hd
      exact c.apart _ busy k (List.mem_cons_of_mem id hk) }

/-- The dispatcher has turned to a subscription without a receiver. -/
theorem noticed (c : b.Counts unnoticed) {e : Event} {rest closed : List Nat} {s : Subscriber}
    (busy : b.current = some ⟨e, id :: rest, closed⟩) (found : b.find? id = some s)
    (dead : s.live = false) :
    Counts { b with current := some ⟨e, rest, closed ++ [id]⟩ } (unnoticed.filter (· ≠ id)) := by
  have here : b.foundClosed = closed := by rw [foundClosed, busy]; rfl
  have later : id ∉ rest := (List.nodup_cons.1 (c.sound.current _ busy).2).1
  have fresh : id ∉ closed := c.apart _ busy id List.mem_cons_self
  have gone := c.gone
  have nodup := c.nodup
  rw [here] at gone nodup
  have inside : id ∈ unnoticed :=
    (List.mem_append.1 ((gone id).2 ⟨s, found, dead⟩)).resolve_right fresh
  exact {
    sound := sound_turn c.sound (.skip busy (.inr ⟨⟨s, found, dead⟩, rfl⟩))
    count := c.count
    limit := c.limit
    nodup := by
      show (unnoticed.filter (· ≠ id) ++ (closed ++ [id])).Nodup
      rw [← List.append_assoc]
      refine List.nodup_append.2 ⟨nodup.sublist (List.filter_sublist.append_right closed),
        List.nodup_singleton id, fun k hk j hj same => ?_⟩
      rw [List.mem_singleton.1 hj] at same
      rcases List.mem_append.1 (same ▸ hk) with filtered | old
      · simp at filtered
      · exact fresh old
    gone := fun k => by
      show k ∈ unnoticed.filter (· ≠ id) ++ (closed ++ [id]) ↔ _
      refine Iff.trans ?_ (gone k)
      by_cases own : k = id
      · simp [own, inside]
      · simp [own]
    apart := fun d hd k hk => by
      cases hd
      intro listed
      rcases List.mem_append.1 listed with old | own
      · exact c.apart _ busy k (List.mem_cons_of_mem id hk) old
      · exact later (List.mem_singleton.1 own ▸ hk) }

theorem finish (c : b.Counts unnoticed) {d : Dispatch} (busy : b.current = some d) :
    (b.finish d).Counts unnoticed := by
  have here : b.foundClosed = d.closed := by rw [foundClosed, busy]; rfl
  have gone := c.gone
  have nodup := c.nodup
  rw [here] at gone nodup
  obtain ⟨nodup, distinct, disjoint⟩ := List.nodup_append.1 nodup
  have there (k : Nat) (hk : k ∈ d.closed) : ∃ s, b.find? k = some s ∧ s.live = false :=
    (gone k).1 (List.mem_append_right _ hk)
  have removed : (b.table.filter (·.id ∈ d.closed)).length = d.closed.length := by
    refine length_filter c.sound distinct fun k => ⟨fun hk => ?_, fun ⟨s, found, hs⟩ => ?_⟩
    · obtain ⟨s, found, -⟩ := there k hk
      exact ⟨s, found, decide_eq_true (id_of_find? found ▸ hk)⟩
    · exact id_of_find? found ▸ of_decide_eq_true hs
  have parts := List.length_eq_length_filter_add (l := b.table) (decide <| ·.id ∈ d.closed)
  have count := c.count
  constructor
  case sound => exact sound_finish c.sound d
  case count =>
    show b.count - d.closed.length = (b.table.filter (·.id ∉ d.closed)).length
    simp only [decide_not]
    omega
  case limit => exact Nat.le_trans (Nat.sub_le _ _) c.limit
  case nodup => exact (List.append_nil unnoticed).symm ▸ nodup
  case gone =>
    intro k
    rw [show (b.finish d).foundClosed = [] from rfl, List.append_nil, find?_finish]
    split
    · rename_i closed
      exact iff_of_false (fun hk => disjoint k hk k closed rfl) fun ⟨_, found, _⟩ => nomatch found
    · rename_i kept
      rw [← gone k, List.mem_append, or_iff_left kept]
  case apart => exact nofun

theorem register (c : b.Counts unnoticed) {name topic : String} {rest : List BusRequest}
    (idle : b.current = none) (next : b.inbox = .subscribe id name topic :: rest) :
    ({ b with inbox := rest }.register id name topic).Counts unnoticed := by
  have missing : b.find? id = none := c.sound.find?_first next
  obtain ⟨-, -, current, -, -⟩ := register_frame { b with inbox := rest } id name topic
  constructor
  case sound => exact sound_register c.sound idle next
  case count =>
    rw [Bus.register]
    split
    · rw [List.length_append, List.length_singleton, c.count]
    · exact c.count
  case limit =>
    rw [Bus.register]
    split
    · exact Nat.succ_le_of_lt ‹_›
    · exact c.limit
  case nodup =>
    rw [foundClosed, current]
    exact c.nodup
  case gone =>
    intro k
    rw [foundClosed, current]
    refine (c.gone k).trans ?_
    by_cases own : k = id
    · subst own
      rw [missing]
      constructor
      · rintro ⟨_, found, -⟩
        cases found
      · rintro ⟨s, found, dead⟩
        rcases find?_register_new (b := { b with inbox := rest }) name topic missing with new | refused
        · cases new.symm.trans found
          cases dead
        · cases refused.symm.trans found
    · rw [find?_register_other name topic own]
      rfl
  case apart =>
    intro d hd
    rw [show b.current = some d from current.symm.trans hd] at idle
    cases idle

/-- A turn of the dispatcher. It gives an event only to subscriptions with a receiver, and drops one only
for such. -/
theorem turn (c : b.Counts unnoticed) (turn : Turn b b')
    (heeds : ∀ e id rest closed s, b.current = some ⟨e, id :: rest, closed⟩ →
      b'.current = some ⟨e, rest, closed⟩ → b.find? id = some s → s.live = true) :
    b'.Counts (unnoticed.filter fun id => b.turnsTo ≠ some id) := by
  have none (idle : b.turnsTo = none) :
      unnoticed.filter (fun id => b.turnsTo ≠ some id) = unnoticed :=
    List.filter_eq_self.2 fun id _ => by simp [idle]
  have some {e : Event} {id : Nat} {rest closed : List Nat} (busy : b.current = some ⟨e, id :: rest, closed⟩) :
      unnoticed.filter (fun k => b.turnsTo ≠ some k) = unnoticed.filter (· ≠ id) :=
    List.filter_congr fun k _ => by simp [turnsTo, busy, eq_comm]
  cases turn with
  | finish busy ended =>
    rw [none (by rw [turnsTo, busy, Option.bind_some, ended]; rfl)]
    exact c.finish busy
  | skip busy gone =>
    rw [some busy]
    rcases gone with ⟨missing, rfl⟩ | ⟨⟨s, found, dead⟩, rfl⟩
    · exact c.passed busy fun s found => nomatch missing.symm.trans found
    · exact c.noticed busy found dead
  | @deliver e id rest closed s busy found live room =>
    rw [some busy]
    have sound := sound_turn c.sound (.deliver busy found live room)
    have next := c.passed busy fun t there => by cases found.symm.trans there; exact live
    exact next.modify id (f := fun s => { s with queue := s.queue ++ [e], delivered := s.delivered + 1 })
      sound (fun _ => rfl) (fun _ => rfl) rfl rfl rfl
  | @lose e id rest closed s busy found =>
    rw [some busy]
    have sound := sound_turn c.sound (.lose busy found)
    have live := heeds e id rest closed s busy rfl found
    have next := c.passed busy fun t there => by cases found.symm.trans there; exact live
    exact next.modify s.id (f := fun s => { s with dropped := s.dropped + 1 }) sound
      (fun _ => rfl) (fun _ => rfl) rfl rfl rfl
  | register idle next =>
    rw [none (by rw [turnsTo, idle]; rfl)]
    exact c.register idle next
  | start idle next =>
    rw [none (by rw [turnsTo, idle]; rfl)]
    have here : b.foundClosed = [] := by rw [foundClosed, idle]; rfl
    have nodup := c.nodup
    have gone := c.gone
    rw [here] at nodup gone
    exact {
      sound := sound_start c.sound next
      count := c.count
      limit := c.limit
      nodup := nodup
      gone := gone
      apart := fun d hd k _ => by cases hd; exact List.not_mem_nil }
  | stop idle next =>
    rw [none (by rw [turnsTo, idle]; rfl)]
    exact c.congr (sound_turn c.sound (.stop idle next)) rfl rfl rfl

/-- A step of the dispatcher, or the end of a wait of one that waits. -/
theorem step (c : b.Counts unnoticed)
    (h : b.step = some (b', ws) ∨ b.step = none ∧ b.expire = some (b', ws)) :
    b'.Counts (unnoticed.filter fun id => b.turnsTo ≠ some id) := by
  rcases h with stepped | ⟨waits, expired⟩
  · obtain ⟨running, turn⟩ := turn_of_step stepped
    refine c.turn turn fun e id rest closed s busy next found => ?_
    rw [Bus.step, if_neg (Bool.eq_false_iff.1 running), busy] at stepped
    simp only [offer, found] at stepped
    cases live : s.live with
    | true => rfl
    | false =>
      rw [live] at stepped
      cases stepped
      simp at next
  · obtain ⟨running, turn⟩ := turn_of_expire expired
    refine c.turn turn fun e id rest closed s busy next found => ?_
    rw [Bus.step, if_neg (Bool.eq_false_iff.1 running), busy] at waits
    simp only [offer, found] at waits
    cases live : s.live with
    | true => rfl
    | false =>
      rw [live] at waits
      cases waits

/-! ### Requests and receivers -/

theorem close (c : b.Counts unnoticed) (id : Nat) :
    (b.close id).Counts
      (if (b.find? id).any (·.live) then unnoticed ++ [id] else unnoticed) := by
  have change : Change [] b (b.close id) := .close List.not_mem_nil
  have sound : (b.close id).Sound := sound_change c.sound change
  have found (k : Nat) : (b.close id).find? k =
      if k = id then (b.find? k).map fun s => { s with live := false, queue := [] } else b.find? k :=
    find?_modify b id k fun _ => rfl
  have length : (b.close id).table.length = b.table.length := List.length_map _
  by_cases alive : (b.find? id).any (·.live) = true
  · obtain ⟨s, there, live⟩ := (Option.any_eq_true _ _).1 alive
    have fresh : id ∉ unnoticed ++ b.foundClosed := c.not_gone there live
    have perm : (unnoticed ++ [id] ++ b.foundClosed).Perm (id :: (unnoticed ++ b.foundClosed)) := by
      rw [List.append_assoc]
      exact List.perm_middle
    rw [if_pos alive]
    refine ⟨sound, c.count.trans length.symm, c.limit, ?_, fun k => ?_, c.apart⟩
    · exact perm.nodup_iff.2 (List.nodup_cons.2 ⟨fresh, c.nodup⟩)
    · refine perm.mem_iff.trans ?_
      rw [List.mem_cons, found]
      split
      · rename_i own
        exact iff_of_true (.inl own) ⟨_, by rw [own, there]; rfl, rfl⟩
      · rename_i other
        exact (or_iff_right other).trans (c.gone k)
  · rw [if_neg alive]
    refine ⟨sound, c.count.trans length.symm, c.limit, c.nodup, fun k => ?_, c.apart⟩
    refine (c.gone k).trans ?_
    rw [found]
    split
    · rename_i own
      subst own
      cases there : b.find? k with
      | none => simp
      | some s =>
        rw [there] at alive
        simpa using alive
    · rfl

theorem take (c : b.Counts unnoticed) {e : Event} (took : b.take? id = some (e, b')) :
    b'.Counts unnoticed := by
  have change : Change [] b b' := .take List.not_mem_nil took
  have sound : b'.Sound := sound_change c.sound change
  obtain ⟨s, rest, -, -, rfl⟩ := take?_eq took
  exact c.modify id (f := fun s => { s with queue := s.queue.tail }) sound (fun _ => rfl) (fun _ => rfl)
    rfl rfl rfl

end Counts

/-! ### Receivers that go away one after another -/

theorem idle_close (idle : b.Idle) (ids : List Nat) : (ids.foldl close b).Idle := by
  induction ids generalizing b with
  | nil => exact idle
  | cons id ids ih => exact ih ⟨idle.running, idle.current, idle.inbox⟩

theorem count_close (b : Bus) (ids : List Nat) : (ids.foldl close b).count = b.count := by
  induction ids generalizing b with
  | nil => rfl
  | cons id ids ih => exact ih (b.close id)

/-- A subscription that has a receiver afterwards is none of the closed ones. -/
theorem live_close (b : Bus) (ids : List Nat) {s : Subscriber} (member : s ∈ (ids.foldl close b).table)
    (live : s.live = true) : s ∈ b.table ∧ s.id ∉ ids := by
  induction ids generalizing b with
  | nil => exact ⟨member, List.not_mem_nil⟩
  | cons id ids ih =>
    obtain ⟨earlier, other⟩ := ih (b.close id) member
    obtain ⟨t, there, same⟩ := mem_modify earlier
    split at same
    · rw [same] at live
      cases live
    · rename_i own
      rw [same] at other ⊢
      exact ⟨there, fun listed => (List.mem_cons.1 listed).elim own other⟩

end Bus

namespace Ledger

variable {h : Ledger}

/-- As many subscriptions as there is room for, one after another. -/
def joins (n : Nat) : List Act := (List.replicate n [Act.subscribe "n" "a", .dispatch]).flatten

theorem run_joins (n : Nat) (idle : h.bus.Idle) (room : h.bus.count + n ≤ Bus.maxSubscriptions) :
    ∃ h', (joins n).foldlM act h = some h' ∧ h'.bus.Idle ∧ h'.bus.count = h.bus.count + n ∧
      h'.bus.nextId = h.bus.nextId + n := by
  induction n generalizing h with
  | zero => exact ⟨h, rfl, idle, rfl, rfl⟩
  | succ n ih =>
    let asked : Ledger := { h with
      bus := (h.bus.request "n" "a").1
      asked := h.asked ++ [.subscribe h.bus.nextId "n" "a"] }
    let h₁ := asked.turned (h.bus.joined "n" "a")
    have asks : h.act (.subscribe "n" "a") = some asked := by
      rw [act, ask, if_neg (Bool.eq_false_iff.1 idle.running)]
    have takes : asked.act .dispatch = some h₁ := by
      rw [act, Bus.step_request idle (by omega) "n" "a"]
      rfl
    have first : [.subscribe "n" "a", .dispatch].foldlM act h = some h₁ := by
      rw [List.foldlM_cons, asks, Option.bind_eq_bind, Option.bind_some, List.foldlM_cons, takes]
      rfl
    have count : h₁.bus.count = h.bus.count + 1 := rfl
    have nextId : h₁.bus.nextId = h.bus.nextId + 1 := rfl
    obtain ⟨h', rest, idle', count', nextId'⟩ := ih (h := h₁) (Bus.idle_joined idle _ _) (by omega)
    refine ⟨h', ?_, idle', by omega, by omega⟩
    rw [joins, List.replicate_succ, List.flatten_cons, List.foldlM_append, first]
    exact rest

theorem run_close (ids : List Nat) (h : Ledger) :
    (ids.map .close).foldlM act h = some { h with bus := ids.foldl Bus.close h.bus } := by
  induction ids generalizing h with
  | nil => rfl
  | cons id ids ih => exact ih { h with bus := h.bus.close id }

end Ledger

/-- A bus with what has happened on it, and the subscriptions whose receivers have gone away and to which
the dispatcher has not turned since. -/
structure Roll where
  ledger : Ledger
  unnoticed : List Nat

namespace Roll

def after (h : Roll) : Ledger.Act → List Nat
  | .dispatch | .expire => h.unnoticed.filter fun id => h.ledger.bus.turnsTo ≠ some id
  | .close id =>
    if (h.ledger.bus.find? id).any (·.live) then h.unnoticed ++ [id] else h.unnoticed
  | _ => h.unnoticed

def act (h : Roll) (a : Ledger.Act) : Option Roll := (h.ledger.act a).map (⟨·, h.after a⟩)

def start (config : BusConfig) : Roll := ⟨.start config, []⟩

variable {config : BusConfig} {h h' : Roll}

/-- The bus does not depend on what is noted beside it. -/
theorem ledger_run (acts : List Ledger.Act) (h : Roll) :
    (acts.foldlM act h).map (·.ledger) = acts.foldlM Ledger.act h.ledger := by
  have same (h : Roll) (a : Ledger.Act) : h.ledger.act (id a) = (h.act a).map (·.ledger) := by
    rw [act, Option.map_map]
    exact Option.map_id'.symm
  rw [← Runs.simulates same, List.map_id]

theorem counts_ask (c : h.ledger.bus.Counts h.unnoticed) {b : Bus} (r : BusRequest)
    (change : h.ledger.bus.stopped = false → Bus.Change [] h.ledger.bus b)
    (same : b.table = h.ledger.bus.table ∧ b.count = h.ledger.bus.count ∧
      b.current = h.ledger.bus.current) : (h.ledger.ask b r).bus.Counts h.unnoticed := by
  rw [Ledger.ask]
  split
  · exact c
  · rename_i running
    exact c.congr (Bus.sound_change c.sound (change (Bool.eq_false_iff.2 running))) same.1 same.2.1 same.2.2

theorem counts_act (c : h.ledger.bus.Counts h.unnoticed) {a : Ledger.Act} (done : h.act a = some h') :
    h'.ledger.bus.Counts h'.unnoticed := by
  obtain ⟨l, made, rfl⟩ := Option.map_eq_some_iff.1 done
  cases a with
  | dispatch =>
    obtain ⟨⟨b, ws⟩, stepped, rfl⟩ := Option.map_eq_some_iff.1 made
    exact c.step (.inl stepped)
  | expire =>
    rw [Ledger.act] at made
    split at made
    · cases made
    · rename_i waits
      obtain ⟨⟨b, ws⟩, expired, rfl⟩ := Option.map_eq_some_iff.1 made
      exact c.step (.inr ⟨Option.not_isSome_iff_eq_none.1 waits, expired⟩)
  | subscribe name topic =>
    cases made
    exact counts_ask c _ (fun running => .request running name topic) ⟨rfl, rfl, rfl⟩
  | publish topic payload =>
    cases made
    refine counts_ask c _ (fun _ => .publish topic payload) ?_
    rw [Bus.publish]
    split <;> exact ⟨rfl, rfl, rfl⟩
  | stats =>
    rw [Ledger.act] at made
    split at made
    · cases made
    · cases made
      exact c
  | shutdown =>
    cases made
    refine counts_ask c _ (fun _ => .shutdown) ?_
    rw [Bus.shutdown]
    split <;> exact ⟨rfl, rfl, rfl⟩
  | receive id =>
    obtain ⟨⟨e, b⟩, took, rfl⟩ := Option.map_eq_some_iff.1 made
    exact c.take took
  | close id =>
    cases made
    exact c.close id

theorem counts_run {acts : List Ledger.Act} (c : h.ledger.bus.Counts h.unnoticed)
    (done : acts.foldlM act h = some h') : h'.ledger.bus.Counts h'.unnoticed :=
  Runs.keeps (P := fun h => h.ledger.bus.Counts h.unnoticed) done c fun _ _ _ _ first c => counts_act c first

/-- When the dispatcher takes a request for a subscription, it refuses it just if the table is full. -/
theorem find?_of_request (c : h.ledger.bus.Counts h.unnoticed) {id : Nat} {name topic : String}
    {rest : List BusRequest} {b : Bus} {ws : List Warning} (idle : h.ledger.bus.current = none)
    (next : h.ledger.bus.inbox = .subscribe id name topic :: rest)
    (stepped : h.ledger.bus.step = some (b, ws)) :
    b.find? id = none ↔ h.ledger.bus.count = Bus.maxSubscriptions := by
  have missing : h.ledger.bus.find? id = none := c.sound.find?_first next
  have limit := c.limit
  have registered : b = { h.ledger.bus with inbox := rest }.register id name topic := by
    obtain ⟨running, -⟩ := Bus.turn_of_step stepped
    rw [Bus.step, if_neg (Bool.eq_false_iff.1 running), idle] at stepped
    simp only [next] at stepped
    cases stepped
    exact congrArg (fun d => ({ h.ledger.bus with inbox := rest, current := d } : Bus).register id name topic)
      idle.symm
  rw [registered, Bus.register]
  split
  · rename_i room
    refine iff_of_false (fun refused => ?_) (Nat.ne_of_lt room)
    have added := List.find?_eq_none.1 refused _ (List.mem_append_right _ List.mem_cons_self)
    exact added (decide_eq_true rfl)
  · rename_i full
    exact iff_of_true missing (Nat.le_antisymm limit (Nat.le_of_not_lt full))

/-- In every run the count is that of the table, and there are at most as many subscriptions with a receiver
as a bus takes. Between two dispatches the others are those to which the dispatcher has not turned since
their receivers have gone. So the dispatcher refuses a subscription just when these and the ones with a
receiver are together as many as a bus takes, and if all that were dropped have been noticed, just when there
are so many with a receiver. On an idle bus this is the answer. -/
theorem refused_iff {acts : List Ledger.Act} (done : acts.foldlM act (start config) = some h) :
    h.ledger.bus.count = h.ledger.bus.table.length ∧
    h.ledger.bus.live.length ≤ Bus.maxSubscriptions ∧
    (∀ id ∈ h.unnoticed, ∃ s, h.ledger.bus.find? id = some s ∧ s.live = false) ∧
    (∀ (id : Nat) (name topic : String) (rest : List BusRequest) (b : Bus) (ws : List Warning),
      h.ledger.bus.current = none → h.ledger.bus.inbox = .subscribe id name topic :: rest →
      h.ledger.bus.step = some (b, ws) →
      (b.find? id = none ↔
        h.ledger.bus.live.length + h.unnoticed.length = Bus.maxSubscriptions) ∧
      (h.unnoticed = [] → (b.find? id = none ↔ h.ledger.bus.live.length = Bus.maxSubscriptions))) ∧
    (h.ledger.bus.Idle → ∀ name topic, (h.ledger.bus.subscribe name topic).2 =
      if h.ledger.bus.live.length + h.unnoticed.length = Bus.maxSubscriptions then
        .error Bus.limitReached
      else .ok h.ledger.bus.nextId) := by
  have c : h.ledger.bus.Counts h.unnoticed := counts_run (.new config) done
  have between (idle : h.ledger.bus.current = none) :
      h.ledger.bus.count = h.ledger.bus.live.length + h.unnoticed.length := by
    have none : h.ledger.bus.foundClosed = [] := by rw [Bus.foundClosed, idle]; rfl
    rw [c.count, c.length_table, none, List.append_nil]
  refine ⟨c.count, ?_, fun id hid => (c.gone id).1 (List.mem_append_left _ hid), ?_, ?_⟩
  · have := c.length_table
    have := c.count
    have := c.limit
    omega
  · intro id name topic rest b ws idle next stepped
    have refused := find?_of_request c idle next stepped
    rw [between idle] at refused
    exact ⟨refused, fun none => by rwa [none, List.length_nil, Nat.add_zero] at refused⟩
  · intro idle name topic
    rw [← between idle.current]
    split
    · exact Bus.subscribe_full idle c.sound (by omega) name topic
    · have limit := c.limit
      rw [Bus.subscribe_idle idle (by omega)]

/-- Of two subscriptions one is dropped, an event on another topic is published, and a third subscription is
asked for: the dropped one still counts. -/
theorem refused_iff_dropped : ∃ (acts : List Ledger.Act) (h : Roll),
    acts.foldlM act (start ⟨4, .block, 5⟩) = some h ∧ h.unnoticed = [0] ∧ h.ledger.bus.live.length = 1 ∧
    h.ledger.bus.count = 2 ∧ h.ledger.bus.count = h.ledger.bus.table.length ∧
    h.ledger.bus.live.length ≤ Bus.maxSubscriptions ∧
    ∃ s, h.ledger.bus.find? 0 = some s ∧ s.live = false := by
  let acts : List Ledger.Act :=
    [.subscribe "n" "a", .dispatch, .subscribe "n" "b", .dispatch, .close 0, .publish "b" [],
      .dispatch, .dispatch, .dispatch, .subscribe "late" "c"]
  have works : (acts.foldlM act (start ⟨4, .block, 5⟩)).any (fun h =>
      decide (h.unnoticed = [0] ∧ h.ledger.bus.live.length = 1 ∧ h.ledger.bus.count = 2)) := by
    decide +kernel
  obtain ⟨h, done, facts⟩ := (Option.any_eq_true _ _).1 works
  obtain ⟨unnoticed, live, count⟩ := of_decide_eq_true facts
  obtain ⟨table, limit, gone, -⟩ := refused_iff done
  exact ⟨acts, h, done, unnoticed, live, count, table, limit, gone 0 (by simp [unnoticed])⟩

/-- A bus takes its most subscriptions and all of them are dropped: it refuses a new one although none is
left. -/
theorem refused_without_live : ∃ h : Ledger,
    (Ledger.joins Bus.maxSubscriptions ++ (List.range Bus.maxSubscriptions).map Ledger.Act.close).foldlM
      Ledger.act (.start ⟨1024, .block, 5000⟩) = some h ∧
    h.bus.Idle ∧ h.bus.live = [] ∧ (h.bus.subscribe "late" "b").2 = .error Bus.limitReached := by
  obtain ⟨h, joined, idle, count, nextId⟩ :=
    Ledger.run_joins (h := .start ⟨1024, .block, 5000⟩) Bus.maxSubscriptions ⟨rfl, rfl, rfl⟩ (by decide)
  have done (ids : List Nat) :
      (Ledger.joins Bus.maxSubscriptions ++ ids.map Ledger.Act.close).foldlM Ledger.act
        (.start ⟨1024, .block, 5000⟩) = some { h with bus := ids.foldl Bus.close h.bus } := by
    rw [List.foldlM_append, joined]
    exact Ledger.run_close ids h
  have sound := (Ledger.books_run (Ledger.books_start _) joined).sound
  -- The list is kept as a variable, so that nothing runs through its elements.
  obtain ⟨ids, range⟩ : ∃ ids, ids = List.range Bus.maxSubscriptions := ⟨_, rfl⟩
  have sound' := (Ledger.books_run (Ledger.books_start _) (done ids)).sound
  rw [← range]
  refine ⟨_, done ids, Bus.idle_close idle ids, ?_, ?_⟩
  · refine List.filter_eq_nil_iff.2 fun s member live => ?_
    obtain ⟨there, other⟩ := Bus.live_close h.bus ids member live
    have below := sound.below s.id (List.mem_append_left _ (List.mem_map_of_mem there))
    have zero : (Ledger.start ⟨1024, .block, 5000⟩).bus.nextId = 0 := rfl
    rw [nextId, zero, Nat.zero_add] at below
    exact other (range ▸ List.mem_range.2 below)
  · refine Bus.subscribe_full (Bus.idle_close idle ids) sound' ?_ "late" "b"
    show ¬(ids.foldl Bus.close h.bus).count < Bus.maxSubscriptions
    rw [Bus.count_close, count]
    exact Nat.not_lt.2 (Nat.le_add_left _ _)

end Roll

end DeviceFleet
