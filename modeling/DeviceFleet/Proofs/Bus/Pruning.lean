import DeviceFleet.Proofs.Bus.Limit
import DeviceFleet.Proofs.Bus.Rows

/-! What a dispatch does to the table. Its event has a fate for each subscription of the row, and those that
are found closed are removed at its end, by their places in the row and from the last one on. The others
stay in their order with their own counters, and no other row is touched. -/

namespace DeviceFleet

namespace Ledger

/-! ### A dispatch with what receivers do meanwhile -/

def Act.onRow (row : List Subscriber) : Act → List Subscriber
  | .receive id => row.map fun s => if s.id = id then { s with queue := s.queue.tail } else s
  | .close id => row.map fun s => if s.id = id then { s with live := false, queue := [] } else s
  | _ => row

def Act.isTurn : Act → Bool
  | .dispatch | .expire => true
  | _ => false

theorem onRow_of_isTurn {a : Act} (turns : a.isTurn = true) (row : List Subscriber) :
    Act.onRow row a = row :=
  match a, turns with
  | .dispatch, _ => rfl
  | .expire, _ => rfl

/-- The fate of the present event for the subscription to which an act of the dispatcher turns. -/
def fateIn (h : Ledger) (a : Act) : List Fate :=
  if a.isTurn then ((h.bus.turnsTo.bind h.bus.find?).map (·.fate h.bus.config.room)).toList else []

/-- The state after acts that all come while an event is dispatched, with the fates of the event. -/
def dispatching : List Act → Ledger → Option (List Fate × Ledger)
  | [], h => some ([], h)
  | a :: acts, h =>
    if h.bus.current.isSome then
      (h.act a).bind fun h' => (dispatching acts h').map fun r => (h.fateIn a ++ r.1, r.2)
    else none

theorem dispatching_cons {h h' : Ledger} {d : Dispatch} {a : Act} {acts : List Act}
    (busy : h.bus.current = some d) (made : h.act a = some h') :
    dispatching (a :: acts) h = (dispatching acts h').map fun r => (h.fateIn a ++ r.1, r.2) := by
  rw [dispatching, busy, Option.isSome_some, if_pos rfl, made, Option.bind_some]

/-- What a dispatch on a topic makes of the bus `b`, when the event has the fates `fates` in the row and the
acts `acts` come from its beginning to its end. -/
structure Prunes (b : Bus) (topic : String) (acts : List Act) (fates : List Fate) (b' : Bus) : Prop where
  length : fates.length = (b.row topic).length
  /-- Those are closed whose receivers were gone before, and no others but those whose receivers go away. -/
  gone : ∀ p ∈ (b.row topic).zip fates, (p.1.live = false → p.2 = .closed) ∧
    (p.2 = .closed → p.1.live = false ∨ .close p.1.id ∈ acts)
  /-- All others stay in their order, each with its own counters. -/
  row : (b'.row topic).map (·.entry) =
    (((b.row topic).zip fates).filter (·.2 ≠ .closed)).map fun p => p.1.entry.counting p.2
  /-- In the other rows only receivers do anything. -/
  others : ∀ t, t ≠ topic → b'.row t = acts.foldl Act.onRow (b.row t)
  count : b'.count + fates.countP (· = .closed) = b.count
  /-- So it is when the closed ones are removed by their places, from the last one on. No place is beyond the
  row, and the count never falls below zero. -/
  places : ∃ row : List Subscriber,
    row.map (·.entry) = ((b.row topic).zip fates).map (fun p => p.1.entry.counting p.2) ∧
    removeAt? (fates.findIdxs (· = .closed)).reverse (row, b.count) = some (b'.row topic, b'.count)

/-- A dispatch of `e` goes on that began on the bus `b`. The dispatcher has turned to the subscriptions
`past` of the row, and not yet to the subscriptions `left`. -/
structure Passes (b : Bus) (e : Event) (acts : List Act) (fates : List Fate) (past left : List Subscriber)
    (b' : Bus) : Prop where
  all : b.row e.topic = past ++ left
  length : fates.length = past.length
  current : b'.current = some ⟨e, left.map (·.id),
    ((past.zip fates).filter (·.2 = .closed)).map (·.1.id)⟩
  running : b'.stopped = false
  count : b'.count = b.count
  row : (b'.row e.topic).map (·.entry) =
    (past.zip fates).map (fun p => p.1.entry.counting p.2) ++ left.map (·.entry)
  others : ∀ t, t ≠ e.topic → b'.row t = acts.foldl Act.onRow (b.row t)
  hears : ∀ id, b'.hears id = (b.hears id && decide (.close id ∉ acts))
  gone : ∀ p ∈ past.zip fates, (b.hears p.1.id = false → p.2 = .closed) ∧
    (p.2 = .closed → b.hears p.1.id = false ∨ .close p.1.id ∈ acts)

namespace Passes

variable {b : Bus} {e : Event} {acts : List Act} {fates : List Fate} {past left : List Subscriber}
  {b' b'' : Bus} {a : Act}

theorem congr (p : Passes b e acts fates past left b') (table : b''.table = b'.table)
    (count : b''.count = b'.count) (current : b''.current = b'.current) (stopped : b''.stopped = b'.stopped)
    (idle : ∀ row, a.onRow row = row) (stays : ∀ id, a ≠ .close id) :
    Passes b e (acts ++ [a]) fates past left b'' := by
  have rows (t : String) : b''.row t = b'.row t := by rw [Bus.row, table, Bus.row]
  have closes (id : Nat) : .close id ∈ acts ++ [a] ↔ .close id ∈ acts := by
    simp [(stays id).symm]
  exact {
    all := p.all
    length := p.length
    current := current.trans p.current
    running := stopped.trans p.running
    count := count.trans p.count
    row := by rw [rows]; exact p.row
    others := fun t other => by
      rw [rows, p.others t other, List.foldl_append]
      exact (idle _).symm
    hears := fun id => by
      simp only [closes]
      rw [← p.hears id, Bus.hears, Bus.find?, table, Bus.hears, Bus.find?]
    gone := by
      simp only [closes]
      exact p.gone }

theorem modify (p : Passes b e acts fates past left b') (k : Nat) {f : Subscriber → Subscriber}
    (topic : ∀ s, (f s).topic = s.topic) (entry : ∀ s, (f s).entry = s.entry)
    (own : ∀ row, a.onRow row = row.map fun s => if s.id = k then f s else s)
    (closes : ∀ id, (b'.modify k f).hears id = (b'.hears id && decide (.close id ≠ a))) :
    Passes b e (acts ++ [a]) fates past left (b'.modify k f) where
  all := p.all
  length := p.length
  current := p.current
  running := p.running
  count := p.count
  row := by
    rw [← p.row, Bus.row_modify b' k topic, List.map_map]
    refine List.map_congr_left fun s _ => ?_
    rw [Function.comp_apply]
    split
    · exact entry s
    · rfl
  others t other := by
    rw [Bus.row_modify b' k topic, p.others t other, List.foldl_append, List.foldl_cons, own]
    rfl
  hears id := by
    rw [closes, p.hears, Bool.and_assoc, ← Bool.decide_and]
    simp
  gone x hx := by
    obtain ⟨before, meanwhile⟩ := p.gone x hx
    exact ⟨before, fun closed => (meanwhile closed).imp_right (List.mem_append_left _)⟩

theorem exists_next {s₀ : Subscriber} (p : Passes b e acts fates past (s₀ :: left) b') (sound : b'.Sound) :
    ∃ s, b'.find? s₀.id = some s ∧ s.topic = e.topic := by
  have member : s₀.entry ∈ (b'.row e.topic).map (·.entry) := by
    rw [p.row, List.map_cons]
    exact List.mem_append_right _ List.mem_cons_self
  obtain ⟨s, hs, same⟩ := List.mem_map.1 member
  obtain ⟨there, topic⟩ := List.mem_filter.1 hs
  have own : s.id = s₀.id := congrArg (·.id) same
  exact ⟨s, own ▸ sound.find?_of_mem there, of_decide_eq_true topic⟩

/-- The dispatcher turns to the next subscription. -/
theorem turn {s₀ : Subscriber} (p : Passes b e acts fates past (s₀ :: left) b') (sound : b'.Sound)
    {ws : List Warning} (turns : a.isTurn = true)
    (h : b'.step = some (b'', ws) ∨ b'.step = none ∧ b'.expire = some (b'', ws)) :
    ∃ s, b'.find? s₀.id = some s ∧
      Passes b e (acts ++ [a]) (fates ++ [s.fate b'.config.room]) (past ++ [s₀]) left b'' := by
  obtain ⟨s, there, topic⟩ := p.exists_next sound
  have after := Bus.turned_of_step sound p.current there h
  have zip : (past ++ [s₀]).zip (fates ++ [s.fate b'.config.room]) =
      past.zip fates ++ [(s₀, s.fate b'.config.room)] := by
    rw [List.zip_append p.length.symm]
    rfl
  have rows (t : String) : b''.row t =
      (b'.row t).map fun s => if s.id = s₀.id then s.offered b'.config.room e else s := by
    rw [after]
    exact Bus.row_modify b' s₀.id (fun s => s.topic_offered b'.config.room e) t
  have unclosed (id : Nat) : .close id ∈ acts ++ [a] ↔ .close id ∈ acts := by
    cases a <;> simp_all [Act.isTurn]
  refine ⟨s, there, ?_⟩
  constructor
  case all => rw [p.all, List.append_assoc]; rfl
  case length => rw [List.length_append, List.length_append, p.length]; rfl
  case current =>
    rw [after, zip, List.filter_append, List.map_append]
    split
    · rename_i closed
      simp [closed]
    · rename_i unclosed
      simp [unclosed]
  case running => rw [after]; exact p.running
  case count => rw [after]; exact p.count
  case row =>
    have distinct : (((b'.row e.topic).map (·.entry)).map (·.id)).Nodup := by
      rw [List.map_map]
      exact Bus.nodup_row sound e.topic
    rw [p.row, List.map_cons] at distinct
    rw [rows, Bus.entry_row_offered sound there, p.row, List.map_cons, zip]
    refine (Bus.map_at distinct).trans ?_
    simp only [List.map_append, List.append_assoc, List.map_cons, List.map_nil]
    rfl
  case others =>
    intro t other
    rw [rows, List.foldl_append, ← p.others t other, List.foldl_cons, List.foldl_nil, onRow_of_isTurn turns]
    exact Bus.row_unchanged sound there (topic ▸ other) _
  case hears =>
    intro id
    simp only [unclosed]
    rw [← p.hears, after]
    exact Bus.hears_modify b' s₀.id (fun s => s.id_offered _ _) fun s => s.live_offered _ _
  case gone =>
    have closed : s.fate b'.config.room = .closed ↔ (b.hears s₀.id && decide (.close s₀.id ∉ acts)) = false := by
      rw [← p.hears, Bus.hears, there]
      exact Subscriber.fate_eq_closed
    simp only [unclosed, zip]
    intro x hx
    rcases List.mem_append.1 hx with hx | hx
    · exact p.gone x hx
    · rw [List.mem_singleton.1 hx, closed]
      cases b.hears s₀.id <;> simp

section Whole

/-! The dispatcher has turned to the whole row. -/

variable (p : Passes b e acts fates past [] b')
include p

theorem row_past : b.row e.topic = past := by rw [p.all, List.append_nil]

theorem entries : (b'.row e.topic).map (·.entry) =
    (past.zip fates).map fun p => p.1.entry.counting p.2 := by
  rw [p.row, List.map_nil, List.append_nil]

theorem length_row : fates.length = (b'.row e.topic).length := by
  have lengths := congrArg List.length p.entries
  rw [List.length_map, List.length_map, List.length_zip, p.length, Nat.min_self] at lengths
  rw [p.length, lengths]

/-- What was found closed is what has the fate in the row as it is now. -/
theorem found_closed {d : Dispatch} (busy : b'.current = some d) :
    d.closed = (((b'.row e.topic).zip fates).filter (·.2 = .closed)).map (·.1.id) := by
  have ids : past.map (·.id) = (b'.row e.topic).map (·.id) := by
    have named := congrArg (List.map (·.id)) p.entries
    simp only [List.map_map, Function.comp_def, Subscriber.id_counting] at named
    rw [← List.map_fst_zip (Nat.le_of_eq p.length.symm), List.map_map]
    exact named.symm
  have named (xs : List Subscriber) := map_filter_zip Subscriber.id (· = Fate.closed) xs fates
  rw [p.current] at busy
  cases busy
  show ((past.zip fates).filter _).map _ = _
  rw [named, named, ids]

theorem countP_le (count : b.count = b.table.length) : fates.countP (· = .closed) ≤ b.count := by
  have rows := List.length_filter_le (fun s : Subscriber => decide (s.topic = e.topic)) b.table
  rw [← Bus.row, p.row_past, ← count, ← p.length] at rows
  exact Nat.le_trans List.countP_le_length rows

/-- The end of the dispatch leaves what was not found closed. -/
theorem row_finish (sound' : b'.Sound) {d : Dispatch} (busy : b'.current = some d) :
    (b'.finish d).row e.topic = (((b'.row e.topic).zip fates).filter (! ·.2 = .closed)).map (·.1) := by
  rw [Bus.row_finish, p.found_closed busy]
  exact filter_unmarked (p := fun f => decide (f = Fate.closed)) p.length_row (Bus.nodup_row sound' e.topic)

theorem count_finish {d : Dispatch} (busy : b'.current = some d) :
    (b'.finish d).count = b.count - fates.countP (· = .closed) := by
  have marks : ((b'.row e.topic).zip fates).map (·.2) = fates := List.map_snd_zip (Nat.le_of_eq p.length_row)
  show b'.count - d.closed.length = _
  rw [p.count, p.found_closed busy, List.length_map, ← List.countP_eq_length_filter]
  conv_rhs => rw [← marks, List.countP_map]
  rfl

/-- The entries that are left have what their fates made of their counters. -/
theorem entries_left : (((b'.row e.topic).zip fates).filter (! ·.2 = .closed)).map (·.1.entry) =
    ((past.zip fates).filter (·.2 ≠ .closed)).map fun p => p.1.entry.counting p.2 := by
  have marks : (past.zip fates).map (·.2) = fates := List.map_snd_zip (Nat.le_of_eq p.length)
  have zip : ((past.zip fates).map fun p => p.1.entry.counting p.2).zip fates =
      (past.zip fates).map fun p => (p.1.entry.counting p.2, p.2) := by
    conv_lhs => arg 2; rw [← marks]
    exact List.zip_map'
  refine (map_filter_zip Subscriber.entry (! · = Fate.closed) _ _).trans ?_
  rw [p.entries, zip, List.filter_map, List.map_map]
  simp [Function.comp_def]

theorem row_other (sound' : b'.Sound) {d : Dispatch} (busy : b'.current = some d) {t : String}
    (other : t ≠ e.topic) : (b'.finish d).row t = b'.row t := by
  rw [Bus.row_finish, p.found_closed busy]
  refine List.filter_eq_self.2 fun s hs => decide_eq_true fun listed => ?_
  obtain ⟨x, hx, same⟩ := List.mem_map.1 listed
  obtain ⟨there, topic⟩ := List.mem_filter.1 hs
  obtain ⟨there', topic'⟩ := List.mem_filter.1 (List.of_mem_zip (List.mem_filter.1 hx).1).1
  rw [sound'.unique there' there same] at topic'
  exact other ((of_decide_eq_true topic).symm.trans (of_decide_eq_true topic'))

/-- The dispatcher removes what it found closed. -/
theorem finish (sound : b.Sound) (sound' : b'.Sound) (count : b.count = b.table.length) {d : Dispatch}
    (busy : b'.current = some d) (turns : a.isTurn = true) :
    Prunes b e.topic (acts ++ [a]) fates (b'.finish d) := by
  have enough := p.countP_le count
  constructor
  case length => rw [p.length, p.row_past]
  case gone =>
    rw [p.row_past]
    intro x hx
    have member : x.1 ∈ b.row e.topic := p.row_past ▸ (List.of_mem_zip hx).1
    obtain ⟨before, meanwhile⟩ := p.gone x hx
    rw [Bus.hears_of_mem sound (List.mem_filter.1 member).1] at before meanwhile
    exact ⟨before, fun closed => (meanwhile closed).imp_right (List.mem_append_left _)⟩
  case row =>
    rw [p.row_finish sound' busy, p.row_past, List.map_map]
    exact p.entries_left
  case others =>
    intro t other
    rw [p.row_other sound' busy other, List.foldl_append, ← p.others t other, List.foldl_cons, List.foldl_nil,
      onRow_of_isTurn turns]
  case count => rw [p.count_finish busy, Nat.sub_add_cancel enough]
  case places =>
    refine ⟨b'.row e.topic, by rw [p.row_past, p.entries], ?_⟩
    rw [removeAt?_marked p.length_row enough, p.row_finish sound' busy, p.count_finish busy]

end Whole

variable {h h' : Ledger} {ws : List Warning}

/-- The dispatcher goes on with the event, or ends the dispatch. -/
theorem onward (p : Passes b e acts fates past left h.bus) (sound : b.Sound) (sound' : h.bus.Sound)
    (count : b.count = b.table.length) (turns : a.isTurn = true)
    (stepped : h.bus.step = some (b', ws) ∨ h.bus.step = none ∧ h.bus.expire = some (b', ws)) :
    left = [] ∧ b'.current = none ∧ Prunes b e.topic (acts ++ [a]) (fates ++ h.fateIn a) b' ∨
      ∃ s rest, left = s :: rest ∧
        Passes b e (acts ++ [a]) (fates ++ h.fateIn a) (past ++ [s]) rest b' := by
  have busy := p.current
  cases left with
  | nil =>
    obtain ⟨d, busy, offered⟩ : ∃ d, h.bus.current = some d ∧ d.remaining = [] := ⟨_, busy, rfl⟩
    have step : h.bus.step = some (h.bus.finish d, []) := by
      rw [Bus.step, if_neg (Bool.eq_false_iff.1 p.running), busy]
      simp only [offered]
    have ended : h.bus.finish d = b' := by
      rcases stepped with stepped | ⟨waits, -⟩
      · rw [step] at stepped
        exact congrArg Prod.fst (Option.some.inj stepped)
      · rw [step] at waits
        cases waits
    have silent : h.fateIn a = [] := by
      rw [fateIn, if_pos turns, Bus.turnsTo, busy, Option.bind_some, offered]
      rfl
    rw [silent, List.append_nil, ← ended]
    exact .inl ⟨rfl, rfl, p.finish sound sound' count busy turns⟩
  | cons s rest =>
    obtain ⟨t, there, passes⟩ := p.turn sound' turns stepped
    have fate : h.fateIn a = [t.fate h.bus.config.room] := by
      rw [fateIn, if_pos turns, Bus.turnsTo, busy]
      simp [there]
    rw [fate]
    exact .inr ⟨s, rest, rfl, passes⟩

theorem ask (p : Passes b e acts fates past left h.bus) {r : BusRequest} (table : b'.table = h.bus.table)
    (count : b'.count = h.bus.count) (current : b'.current = h.bus.current)
    (stopped : b'.stopped = h.bus.stopped) (idle : ∀ row, Act.onRow row a = row)
    (stays : ∀ id, a ≠ .close id) : Passes b e (acts ++ [a]) fates past left (h.ask b' r).bus := by
  rw [Ledger.ask]
  split
  · exact p.congr rfl rfl rfl rfl idle stays
  · exact p.congr table count current stopped idle stays

theorem act (p : Passes b e acts fates past left h.bus) (sound : b.Sound) (sound' : h.bus.Sound)
    (count : b.count = b.table.length) (made : h.act a = some h') :
    h'.bus.current = none ∧ Prunes b e.topic (acts ++ [a]) (fates ++ h.fateIn a) h'.bus ∨
      ∃ past left, Passes b e (acts ++ [a]) (fates ++ h.fateIn a) past left h'.bus := by
  have turned {b' : Bus} {ws : List Warning} (turns : a.isTurn = true)
      (stepped : h.bus.step = some (b', ws) ∨ h.bus.step = none ∧ h.bus.expire = some (b', ws)) :
      b'.current = none ∧ Prunes b e.topic (acts ++ [a]) (fates ++ h.fateIn a) b' ∨
        ∃ past left, Passes b e (acts ++ [a]) (fates ++ h.fateIn a) past left b' := by
    rcases p.onward sound sound' count turns stepped with ⟨-, ended, prunes⟩ | ⟨s, rest, -, passes⟩
    · exact .inl ⟨ended, prunes⟩
    · exact .inr ⟨_, _, passes⟩
  have quiet (other : a.isTurn = false) : fates ++ h.fateIn a = fates := by
    rw [fateIn, if_neg (Bool.eq_false_iff.1 other), List.append_nil]
  cases a with
  | dispatch =>
    obtain ⟨⟨b', ws⟩, stepped, rfl⟩ := Option.map_eq_some_iff.1 made
    exact turned rfl (.inl stepped)
  | expire =>
    rw [Ledger.act] at made
    split at made
    · cases made
    · rename_i waits
      obtain ⟨⟨b', ws⟩, expired, rfl⟩ := Option.map_eq_some_iff.1 made
      exact turned rfl (.inr ⟨Option.not_isSome_iff_eq_none.1 waits, expired⟩)
  | subscribe name topic =>
    cases made
    rw [quiet rfl]
    exact .inr ⟨past, left, p.ask rfl rfl rfl rfl (fun _ => rfl) (by simp)⟩
  | publish topic payload =>
    cases made
    rw [quiet rfl]
    have same : (h.bus.publish topic payload).1 =
        { h.bus with inbox := h.bus.inbox ++ [.publish topic payload] } := by
      rw [Bus.publish, if_neg (Bool.eq_false_iff.1 p.running)]
    refine .inr ⟨past, left, p.ask ?_ ?_ ?_ ?_ (fun _ => rfl) (by simp)⟩ <;> rw [same]
  | stats =>
    rw [Ledger.act, p.current] at made
    cases made
  | shutdown =>
    cases made
    rw [quiet rfl]
    have same : h.bus.shutdown = { h.bus with inbox := h.bus.inbox ++ [.shutdown] } :=
      if_neg (Bool.eq_false_iff.1 p.running)
    refine .inr ⟨past, left, p.ask ?_ ?_ ?_ ?_ (fun _ => rfl) (by simp)⟩ <;> rw [same]
  | receive id =>
    obtain ⟨⟨e', b'⟩, took, rfl⟩ := Option.map_eq_some_iff.1 made
    obtain ⟨s, rest, -, -, rfl⟩ := Bus.take?_eq took
    rw [quiet rfl]
    refine .inr ⟨past, left, p.modify id (fun _ => rfl) (fun _ => rfl) (fun _ => rfl) fun k => ?_⟩
    have same : (h.bus.modify id fun s => { s with queue := s.queue.tail }).hears k = h.bus.hears k :=
      Bus.hears_modify h.bus id (by exact fun _ => rfl) fun _ => rfl
    rw [same, decide_eq_true (by simp), Bool.and_true]
  | close id =>
    cases made
    rw [quiet rfl]
    refine .inr ⟨past, left, p.modify id (fun _ => rfl) (fun _ => rfl) (fun _ => rfl) fun k => ?_⟩
    rw [← Bus.close, Bus.hears_close]
    simp

/-- A dispatch goes on, or has ended and removed what it found closed. -/
theorem course {more : List Act} {r : List Fate × Ledger} (p : Passes b e acts fates past left h.bus)
    (sound : b.Sound) (count : b.count = b.table.length) {config : BusConfig} (books : Books config h)
    (went : dispatching more h = some r) :
    r.2.bus.current = none ∧ Prunes b e.topic (acts ++ more) (fates ++ r.1) r.2.bus ∨
      Books config r.2 ∧ ∃ past left, Passes b e (acts ++ more) (fates ++ r.1) past left r.2.bus := by
  induction more generalizing h acts fates past left r with
  | nil =>
    cases went
    rw [List.append_nil, List.append_nil]
    exact .inr ⟨books, _, _, p⟩
  | cons a more ih =>
    rw [dispatching, p.current, Option.isSome_some, if_pos rfl] at went
    obtain ⟨h', made, rest⟩ := Option.bind_eq_some_iff.1 went
    obtain ⟨r', went', rfl⟩ := Option.map_eq_some_iff.1 rest
    rw [List.append_cons, ← List.append_assoc]
    rcases p.act sound books.sound count made with ⟨ended, prunes⟩ | ⟨past', left', passes⟩
    · -- Nothing more can come during this dispatch.
      cases more with
      | nil =>
        cases went'
        refine .inl ⟨ended, ?_⟩
        rw [List.append_nil, show ([], h').1 = ([] : List Fate) from rfl, List.append_nil]
        exact prunes
      | cons =>
        rw [dispatching, ended, Option.isSome_none, if_neg nofun] at went'
        cases went'
    · exact ih passes (books_act books made) went'

/-- It is always the dispatcher's turn, if need be after the end of its wait. -/
theorem exists_turn (p : Passes b e acts fates past left h.bus) :
    ∃ a h' ws, a.isTurn = true ∧ h.act a = some h' ∧
      (h.bus.step = some (h'.bus, ws) ∨ h.bus.step = none ∧ h.bus.expire = some (h'.bus, ws)) := by
  cases stepped : h.bus.step with
  | some o => exact ⟨.dispatch, h.turned o.1, o.2, rfl, by rw [Ledger.act, stepped]; rfl, .inl rfl⟩
  | none =>
    obtain ⟨o, expired⟩ := Option.isSome_iff_exists.1 (Bus.goes_on p.running p.current stepped)
    refine ⟨.expire, h.turned o.1, o.2, rfl, ?_, .inr ⟨rfl, expired⟩⟩
    rw [Ledger.act, stepped, expired]
    rfl

/-- The dispatcher alone brings a dispatch to its end. -/
theorem ends (p : Passes b e acts fates past left h.bus) (sound : b.Sound)
    (count : b.count = b.table.length) {config : BusConfig} (books : Books config h) :
    ∃ last fates' h', (∀ a ∈ last, a.isTurn = true) ∧ dispatching last h = some (fates', h') ∧
      h'.bus.current = none := by
  induction left generalizing h acts fates past with
  | nil =>
    obtain ⟨a, h', ws, turns, made, stepped⟩ := p.exists_turn
    rcases p.onward sound books.sound count turns stepped with ⟨-, ended, -⟩ | ⟨s, rest, none, -⟩
    · refine ⟨[a], h.fateIn a ++ [], h', by simpa using turns, ?_, ended⟩
      rw [dispatching_cons p.current made]
      rfl
    · cases none
  | cons s rest ih =>
    obtain ⟨a, h', ws, turns, made, stepped⟩ := p.exists_turn
    rcases p.onward sound books.sound count turns stepped with ⟨none, -⟩ | ⟨_, _, same, passes⟩
    · cases none
    · cases same
      obtain ⟨last, fates', h'', alone, went, ended⟩ := ih passes (books_act books made)
      refine ⟨a :: last, h.fateIn a ++ fates', h'', List.forall_mem_cons.2 ⟨turns, alone⟩, ?_, ended⟩
      rw [dispatching_cons p.current made, went]
      rfl

end Passes

theorem passes_start {h : Ledger} {topic : String} {payload : Bytes} {rest : List BusRequest}
    (running : h.bus.stopped = false) (idle : h.bus.current = none)
    (next : h.bus.inbox = .publish topic payload :: rest) :
    ∃ h', h.act .dispatch = some h' ∧
      Passes h.bus ⟨topic, payload, h.bus.sequence + 1⟩ [] [] [] (h.bus.row topic) h'.bus := by
  have step : h.bus.step = some ({ h.bus with inbox := rest }.beginDispatch topic payload, []) := by
    rw [Bus.step, if_neg (Bool.eq_false_iff.1 running), idle]
    simp only [next]
    rw [Bus.handle, idle]
  refine ⟨h.turned ({ h.bus with inbox := rest }.beginDispatch topic payload), by rw [act, step]; rfl, ?_⟩
  exact {
    all := rfl
    length := rfl
    current := rfl
    running := running
    count := rfl
    row := rfl
    others := fun _ _ => rfl
    hears := fun id => (Bool.and_true _).symm
    gone := List.forall_mem_nil _ }

/-- In every run the count is the number of entries in all rows, and at most the limit. When the dispatcher
takes an event from its inbox, the dispatch ends with the removal of just the closed entries of the row,
whatever else happens meanwhile; and by itself the dispatcher always brings it to its end. -/
theorem prunes_closed {config : BusConfig} {acts : List Act} {h : Ledger}
    (reached : acts.foldlM act (start config) = some h) :
    h.bus.count = (h.bus.topics.flatMap h.bus.row).length ∧
    h.bus.count ≤ Bus.maxSubscriptions ∧
    ∀ topic payload rest, h.bus.stopped = false → h.bus.current = none →
      h.bus.inbox = .publish topic payload :: rest →
      ∃ h₁, h.act .dispatch = some h₁ ∧
        h₁.bus.current.map (·.event) = some ⟨topic, payload, h.bus.sequence + 1⟩ ∧
        ∀ more fates h₂, dispatching more h₁ = some (fates, h₂) →
          (h₂.bus.current = none → Prunes h.bus topic more fates h₂.bus) ∧
          ∃ last fates' h₃, (∀ a ∈ last, a.isTurn = true) ∧
            dispatching last h₂ = some (fates', h₃) ∧ h₃.bus.current = none := by
  have books := books_run (books_start config) reached
  have same := Roll.ledger_run acts (Roll.start config)
  rw [show (Roll.start config).ledger = start config from rfl, reached] at same
  obtain ⟨roll, rolled, rfl⟩ := Option.map_eq_some_iff.1 same
  have counts := Roll.counts_run (Bus.Counts.new config) rolled
  refine ⟨by rw [Bus.length_rows, counts.count], counts.limit, ?_⟩
  intro topic payload rest running idle next
  obtain ⟨h₁, begun, passes⟩ := passes_start running idle next
  refine ⟨h₁, begun, by rw [passes.current]; rfl, ?_⟩
  intro more fates h₂ went
  have course := passes.course books.sound counts.count (books_act books begun) went
  rcases course with ⟨ended, prunes⟩ | ⟨books₂, past, left, passes₂⟩
  · exact ⟨fun _ => prunes, [], [], h₂, List.forall_mem_nil _, rfl, ended⟩
  · refine ⟨fun ended => ?_, passes₂.ends books.sound counts.count books₂⟩
    rw [passes₂.current] at ended
    cases ended

/-- Of four subscriptions on a topic the first was dropped before and the third is while the event is
offered; the second has no room, and the subscription on another topic takes an event meanwhile. -/
theorem prunes_closed_two : ∃ (acts more : List Act) (h h₂ : Ledger),
    acts.foldlM act (start ⟨1, .reject, 5⟩) = some h ∧ (h.bus.row "a").map (·.id) = [0, 1, 3, 4] ∧
    Prunes h.bus "a" more [.closed, .dropped, .closed, .delivered] h₂.bus ∧
    (h₂.bus.row "a").map (fun s => (s.id, s.delivered, s.dropped)) = [(1, 1, 1), (4, 2, 0)] ∧
    h.bus.count = 5 ∧ h₂.bus.count = 3 := by
  let acts : List Act :=
    ["a", "a", "b", "a", "a"].map (.subscribe "n") ++ [.publish "a" [1], .publish "b" [2]] ++
      List.replicate 14 .dispatch ++ [.receive 4, .close 0, .publish "a" [3]]
  let more : List Act :=
    [.dispatch, .close 3, .receive 2, .dispatch, .dispatch, .dispatch, .dispatch]
  have works : (acts.foldlM act (start ⟨1, .reject, 5⟩)).any (fun h =>
      decide (h.bus.stopped = false ∧ h.bus.current = none ∧ h.bus.inbox = [.publish "a" [3]] ∧
        (h.bus.row "a").map (·.id) = [0, 1, 3, 4] ∧ h.bus.count = 5) &&
      (h.act .dispatch).any fun h₁ => (dispatching more h₁).any fun r =>
        decide (r.1 = [.closed, .dropped, .closed, .delivered] ∧ r.2.bus.current = none ∧
          (r.2.bus.row "a").map (fun s => (s.id, s.delivered, s.dropped)) = [(1, 1, 1), (4, 2, 0)] ∧
          r.2.bus.count = 3)) := by
    decide +kernel
  obtain ⟨h, done, facts⟩ := (Option.any_eq_true _ _).1 works
  obtain ⟨before, begun⟩ := Bool.and_eq_true_iff.1 facts
  obtain ⟨running, idle, next, row, count⟩ := of_decide_eq_true before
  obtain ⟨h₁, first, went⟩ := (Option.any_eq_true _ _).1 begun
  obtain ⟨⟨fates, h₂⟩, passed, after⟩ := (Option.any_eq_true _ _).1 went
  obtain ⟨rfl, ended, left, fewer⟩ := of_decide_eq_true after
  obtain ⟨h₁', first', -, prunes⟩ := (prunes_closed done).2.2 "a" [3] [] running idle next
  cases first.symm.trans first'
  exact ⟨acts, more, h, h₂, done, row, (prunes more _ h₂ passed).1 ended, left, count, fewer⟩

end Ledger

end DeviceFleet
