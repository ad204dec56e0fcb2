import DeviceFleet.Proofs.Bus.Line
import DeviceFleet.Proofs.Bus.Reader
import DeviceFleet.Proofs.Fleet.Start

/-! The two readers of check-ins on one bus. The keeper of the device records reads three topics in
the order of dispatch, the keeper of the push credentials reads one; whatever one of them takes, the
other finds its own queues as they were. -/

namespace DeviceFleet.Fleet

/-- How the two keepers stand to the bus: what was published, what came into the queues of each, and
what each has taken. -/
structure Readers (b : Bus) (m : Merge) (published : List (String × Bytes))
    (placed yielded came taken : List Event) : Prop where
  unclosed : b.Open
  stands : Reader.Stands ⟨b, m, placed, yielded⟩
  ids : Feed.ids m.feeds = deviceSubs.map (·.1)
  listens : b.Listens deviceSubs published placed
  merged : Merged b [⟨3, none⟩] came taken
  hears : b.Listens pushSubs published came

namespace Readers

variable {b b' : Bus} {m : Merge} {published : List (String × Bytes)}
  {placed yielded came taken : List Event}

theorem nodup_topics : (deviceSubs.map (·.2)).Nodup ∧ (pushSubs.map (·.2)).Nodup := by decide

theorem turn (h : Readers b m published placed yielded came taken) (turn : Bus.Turn b b') :
    ∃ placed' came', Readers b' m published placed' yielded came' taken := by
  have sound := h.merged.sound
  have unclosed := h.unclosed.turn turn
  have listens := h.listens.turn sound (by decide) nodup_topics.1 unclosed.running turn
  have hears := h.hears.turn sound (by decide) nodup_topics.2 unclosed.running turn
  have stands := Reader.stands_bus h.stands (.turn h.unclosed.running turn)
  have merged := h.merged.change (.turn h.unclosed.running turn)
  rw [← h.ids] at listens
  exact ⟨_, _, unclosed, stands, h.ids, listens, merged, hears⟩

theorem publish (h : Readers b m published placed yielded came taken) (topic : String)
    (payload : Bytes) :
    Readers (b.publish topic payload).1 m (published ++ [(topic, payload)]) placed yielded came
      taken where
  unclosed := h.unclosed.publish topic payload
  stands := Reader.stands_still h.stands (.publish topic payload) fun _ _ =>
    Bus.queueOf_congr (Bus.find?_publish topic payload)
  ids := h.ids
  listens := h.listens.publish h.unclosed.running topic payload
  merged := h.merged.still (.publish topic payload) fun _ _ =>
    Bus.queueOf_congr (Bus.find?_publish topic payload)
  hears := h.hears.publish h.unclosed.running topic payload

section Taken

variable {id : Nat} {e : Event}

theorem still_devices (h : Readers b m published placed yielded came taken)
    (other : id ∉ deviceSubs.map (·.1)) (first : b.take? id = some (e, b')) :
    Reader.Stands ⟨b', m, placed, yielded⟩ := by
  have apart : id ∉ Feed.ids m.feeds := h.ids ▸ other
  apply Reader.stands_still h.stands (.take apart first)
  intro k hk
  exact (Bus.queueOf_take first).2.1 k fun same => apart (same ▸ hk)

theorem still_pushes (h : Readers b m published placed yielded came taken) (other : id ≠ 3)
    (first : b.take? id = some (e, b')) : Merged b' [⟨3, none⟩] came taken := by
  have apart : id ∉ Feed.ids [⟨3, none⟩] := fun same => other (List.mem_singleton.1 same)
  apply h.merged.still (.take apart first)
  intro k hk
  exact (Bus.queueOf_take first).2.1 k fun same => apart (same ▸ hk)

theorem other (h : Readers b m published placed yielded came taken) (later : 3 < id)
    (first : b.take? id = some (e, b')) : Readers b' m published placed yielded came taken where
  unclosed := h.unclosed.take first
  stands := h.still_devices (fun same => by simp [deviceSubs] at same; omega) first
  ids := h.ids
  listens := h.listens.take nodup_topics.1 first
  merged := h.still_pushes (Nat.ne_of_gt later) first
  hears := h.hears.take nodup_topics.2 first

theorem keep (h : Readers b m published placed yielded came taken)
    (first : b.take? 3 = some (e, b')) :
    Readers b' m published placed yielded came (taken ++ [e]) where
  unclosed := h.unclosed.take first
  stands := h.still_devices (by decide) first
  ids := h.ids
  listens := h.listens.take nodup_topics.1 first
  merged := h.merged.pass_on first
  hears := h.hears.take nodup_topics.2 first

end Taken

theorem read (h : Readers b m published placed yielded came taken) {m' : Merge} {out : Option Event}
    (turn : Merge.Turn b m m' b' out) :
    Readers b' m' published placed (yielded ++ out.toList) came taken := by
  have stands := Reader.stands_read h.stands turn
  have ids : Feed.ids m'.feeds = deviceSubs.map (·.1) := turn.ids.trans h.ids
  rcases turn.bus with rfl | ⟨id, own, e, first⟩
  · exact ⟨h.unclosed, stands, ids, h.listens, h.merged, h.hears⟩
  · rw [h.ids] at own
    have differs : id ≠ 3 := fun same => absurd (same ▸ own) (by decide)
    exact ⟨h.unclosed.take first, stands, ids, h.listens.take nodup_topics.1 first,
      h.still_pushes differs first, h.hears.take nodup_topics.2 first⟩

/-! ### The start and the end -/

theorem started (store : Store) (config : BusConfig) (waker : Waker) (delay : Nat) :
    Readers (Fleet.started store config waker delay).bus (.ofIds [0, 1, 2]) [] [] [] [] [] := by
  have sound := Bus.sound_of_leads (leads_started store config waker delay [])
  have follows := follows_started store config waker delay
  have devices : (Fleet.started store config waker delay).bus.Follows deviceSubs :=
    fun p hp => follows p (List.mem_append_left _ hp)
  have pushes : (Fleet.started store config waker delay).bus.Follows pushSubs :=
    fun p hp => follows p (List.mem_append_right _ hp)
  constructor
  · exact ⟨rfl, List.not_mem_nil⟩
  · have stands := Reader.stands_start sound (devices.keeps nodup_topics.1) (by decide)
    rw [Reader.start_of_empty rfl] at stands
    exact stands
  · rfl
  · exact ⟨devices, fun _ => rfl⟩
  · have stands := Reader.stands_start sound (pushes.keeps nodup_topics.2) (by decide)
    rw [Reader.start_of_empty rfl] at stands
    exact stands.merged
  · exact ⟨pushes, fun _ => rfl⟩

theorem line_eq_nil {subs : List (Nat × String)} (current : b.current = none) (inbox : b.inbox = []) :
    b.line subs = [] := by
  rw [Bus.line, Bus.waiting, current, inbox]
  rfl

theorem queueOf_eq_nil (queued : b.queued = 0) (id : Nat) : b.queueOf id = [] := by
  rw [Bus.queueOf]
  cases found : b.find? id with
  | none => rfl
  | some s =>
    have none : b.table.flatMap (·.queue) = [] := List.eq_nil_of_length_eq_zero queued
    exact List.flatMap_eq_nil_iff.1 none s (Bus.mem_of_find? found)

theorem lostOf_eq_zero (lossless : ∀ s ∈ b.table, s.dropped = 0) (id : Nat) : b.lostOf id = 0 := by
  rw [Bus.lostOf]
  cases found : b.find? id with
  | none => rfl
  | some s => exact lossless s (Bus.mem_of_find? found)

/-- Once nothing is on its way, and if nothing was lost, each keeper has taken what was published on
its topics, in the order of publication. -/
theorem settled (h : Readers b m published placed yielded came taken)
    (lossless : ∀ s ∈ b.table, s.dropped = 0) (current : b.current = none) (inbox : b.inbox = [])
    (queued : b.queued = 0) (held : Feed.events m.feeds = []) :
    published.filter (fun p => decide (p.1 ∈ deviceSubs.map (·.2))) = yielded.map Event.content ∧
      published.filter (fun p => decide (p.1 ∈ pushSubs.map (·.2))) = taken.map Event.content := by
  have whole : yielded = placed :=
    h.stands.merged.yielded_eq_placed held fun id _ => queueOf_eq_nil queued id
  have whole' : taken = came := h.merged.yielded_eq_placed rfl fun id _ => queueOf_eq_nil queued id
  have accounts := h.listens.accounts fun id _ => lostOf_eq_zero lossless id
  have accounts' := h.hears.accounts fun id _ => lostOf_eq_zero lossless id
  rw [line_eq_nil current inbox, List.append_nil] at accounts accounts'
  rw [accounts, accounts', whole, whole']
  exact ⟨rfl, rfl⟩

end Readers

end DeviceFleet.Fleet
