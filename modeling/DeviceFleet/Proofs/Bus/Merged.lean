import DeviceFleet.Bus.Merge
import DeviceFleet.Proofs.Bus.Order

/-! The events of several subscriptions, read as one. The invariant of the reader says where each
event is that came into one of its queues, and that nothing can come into them any more that is
earlier than what the reader has given out. -/

namespace DeviceFleet

def Feed.events (feeds : List Feed) : List Event := feeds.filterMap (·.held)

def Feed.ids (feeds : List Feed) : List Nat := feeds.map (·.id)

/-- How a reader stands to its bus: `placed` are the events that came into its queues, `yielded`
those that it gave out. -/
structure Merged (b : Bus) (feeds : List Feed) (placed yielded : List Event) : Prop where
  sound : b.Sound
  nodup : (Feed.ids feeds).Nodup
  keeps : b.Keeps (Feed.ids feeds)
  perm : placed.Perm (yielded ++ (Feed.events feeds ++ (Feed.ids feeds).flatMap b.queueOf))
  ascending : placed.Pairwise (·.sequence < ·.sequence)
  past : ∀ e ∈ placed, e.sequence ≤ b.sequence
  /-- An event that is still to be offered to one of the queues is later than all before. -/
  fresh : ∀ d, b.current = some d → ∀ id ∈ Feed.ids feeds, id ∈ d.remaining →
    ∀ e ∈ placed, e.sequence < d.event.sequence
  given : yielded.Pairwise (·.sequence < ·.sequence)
  heads : ∀ f ∈ feeds, ∀ e, f.held = some e → b.Ahead f.id e.sequence
  later : ∀ y ∈ yielded, ∀ f ∈ feeds,
    (∀ e, f.held = some e → y.sequence < e.sequence) ∧ b.Ahead f.id y.sequence

namespace Merged

variable {b b' : Bus} {feeds : List Feed} {placed yielded : List Event}

theorem id_mem {f : Feed} (h : f ∈ feeds) : f.id ∈ Feed.ids feeds := List.mem_map_of_mem h

theorem quiet (h : Merged b feeds placed yielded) (change : Bus.Change (Feed.ids feeds) b b')
    (queues : ∀ id ∈ Feed.ids feeds, b'.queueOf id = b.queueOf id)
    (sequence : b.sequence ≤ b'.sequence)
    (fresh : ∀ d, b'.current = some d → ∀ id ∈ Feed.ids feeds, id ∈ d.remaining →
      ∀ e ∈ placed, e.sequence < d.event.sequence) : Merged b' feeds placed yielded where
  sound := Bus.sound_change h.sound change
  nodup := h.nodup
  keeps := h.keeps.of_stays fun _ hid => Bus.stays_change h.sound change hid
  perm := by
    rw [List.flatMap_congr queues]
    exact h.perm
  ascending := h.ascending
  past e he := Nat.le_trans (h.past e he) sequence
  fresh := fresh
  given := h.given
  heads f hf e he := (h.heads f hf e he).change h.sound h.keeps (id_mem hf) change
  later y hy f hf := by
    obtain ⟨held, ahead⟩ := h.later y hy f hf
    exact ⟨held, ahead.change h.sound h.keeps (id_mem hf) change⟩

/-- The event that is being offered comes into one of the queues, and into no other of them. -/
theorem gain (h : Merged b feeds placed yielded) (change : Bus.Change (Feed.ids feeds) b b') {e : Event}
    (queued : ((Feed.ids feeds).flatMap b'.queueOf).Perm ((Feed.ids feeds).flatMap b.queueOf ++ [e]))
    (number : e.sequence = b'.sequence) (before : ∀ x ∈ placed, x.sequence < e.sequence)
    (alone : ∀ d, b'.current = some d → ∀ id ∈ Feed.ids feeds, id ∉ d.remaining) :
    Merged b' feeds (placed ++ [e]) yielded where
  sound := Bus.sound_change h.sound change
  nodup := h.nodup
  keeps := h.keeps.of_stays fun _ hid => Bus.stays_change h.sound change hid
  perm := by
    refine (h.perm.append_right [e]).trans ?_
    rw [List.append_assoc, List.append_assoc]
    exact (queued.symm.append_left _).append_left _
  ascending := by
    refine List.pairwise_append.2 ⟨h.ascending, List.pairwise_singleton _ _, fun x hx y hy => ?_⟩
    rw [List.mem_singleton.1 hy]
    exact before x hx
  past x hx := by
    rcases List.mem_append.1 hx with hx | hx
    · exact Nat.le_of_lt (number ▸ before x hx)
    · rw [List.mem_singleton.1 hx]
      exact Nat.le_of_eq number
  fresh d hd k hk due := absurd due (alone d hd k hk)
  given := h.given
  heads f hf x hx := (h.heads f hf x hx).change h.sound h.keeps (id_mem hf) change
  later y hy f hf := by
    obtain ⟨held, ahead⟩ := h.later y hy f hf
    exact ⟨held, ahead.change h.sound h.keeps (id_mem hf) change⟩

theorem turn (h : Merged b feeds placed yielded) (running : b.stopped = false)
    (turn : Bus.Turn b b') :
    Merged b' feeds (placed ++ Bus.arrivals (Feed.ids feeds) b b') yielded := by
  have change : Bus.Change (Feed.ids feeds) b b' := .turn running turn
  cases Bus.effect_turn h.sound h.keeps turn with
  | still queues sequence current _ =>
    rw [Bus.arrivals_of_same queues, List.append_nil]
    refine h.quiet change queues (Nat.le_of_eq sequence.symm) fun d hd => ?_
    rcases current with same | ⟨ended, -⟩
    · exact h.fresh d (same ▸ hd)
    · rw [ended] at hd
      cases hd
  | start topic payload idle queues sequence current _ =>
    rw [Bus.arrivals_of_same queues, List.append_nil]
    apply h.quiet change queues (by omega)
    intro d hd _ _ _ e he
    rw [current] at hd
    cases hd
    exact Nat.lt_succ_of_le (h.past e he)
  | offer e id rest closed found busy current sequence _ others own =>
    have fresh := h.fresh ⟨e, id :: rest, closed⟩ busy
    by_cases gains : id ∈ Feed.ids feeds ∧ b'.queueOf id = b.queueOf id ++ [e]
    · obtain ⟨member, gets⟩ := gains
      obtain ⟨came, queued⟩ := Bus.arrivals_of_gain h.nodup member others gets
      rw [came]
      refine h.gain change queued ?_ (fresh id member List.mem_cons_self) fun d hd k hk due => ?_
      · rw [sequence]
        exact (h.sound.current _ busy).1
      · rw [current] at hd
        cases hd
        exact h.keeps.alone h.sound busy member k hk due
    · have queues : ∀ k ∈ Feed.ids feeds, b'.queueOf k = b.queueOf k := by
        intro k hk
        by_cases here : k = id
        · subst here
          exact (own hk).elim (fun gets => absurd ⟨hk, gets⟩ gains) fun same => same.1
        · exact others k hk here
      rw [Bus.arrivals_of_same queues, List.append_nil]
      refine h.quiet change queues (Nat.le_of_eq sequence.symm) fun d hd k hk due => ?_
      rw [current] at hd
      cases hd
      exact fresh k hk (List.mem_cons_of_mem id due)

/-- Whatever happens to the bus, the reader stands well to it. -/
theorem change (h : Merged b feeds placed yielded) (change : Bus.Change (Feed.ids feeds) b b') :
    Merged b' feeds (placed ++ Bus.arrivals (Feed.ids feeds) b b') yielded := by
  rcases Bus.quiet_change change with ⟨running, turn⟩ | ⟨queues, sequence, current⟩
  · exact h.turn running turn
  · rw [Bus.arrivals_of_same queues, List.append_nil]
    exact h.quiet change queues (Nat.le_of_eq sequence.symm) fun d hd => h.fresh d (current ▸ hd)

theorem still (h : Merged b feeds placed yielded) (change : Bus.Change (Feed.ids feeds) b b')
    (queues : ∀ id ∈ Feed.ids feeds, b'.queueOf id = b.queueOf id) :
    Merged b' feeds placed yielded := by
  have after := h.change change
  rw [Bus.arrivals_of_same queues, List.append_nil] at after
  exact after

/-! ### What the reader does -/

theorem ids_split (l₁ l₂ : List Feed) (f : Feed) (held : Option Event) :
    Feed.ids (l₁ ++ ⟨f.id, held⟩ :: l₂) = Feed.ids (l₁ ++ f :: l₂) := by
  simp [Feed.ids]

theorem events_split (l₁ l₂ : List Feed) (f : Feed) :
    Feed.events (l₁ ++ f :: l₂) = Feed.events l₁ ++ (f.held.toList ++ Feed.events l₂) := by
  rw [Feed.events, List.filterMap_append, List.filterMap_cons]
  cases f.held <;> rfl

theorem mem_split {l₁ l₂ : List Feed} {f g : Feed} (h : f ∈ l₁ ++ g :: l₂) :
    f = g ∨ f ∈ l₁ ++ l₂ := by
  rcases List.mem_append.1 h with h | h
  · exact .inr (List.mem_append_left _ h)
  · exact (List.mem_cons.1 h).imp id (List.mem_append_right _)

theorem mem_of_rest {l₁ l₂ : List Feed} {f g : Feed} (h : f ∈ l₁ ++ l₂) : f ∈ l₁ ++ g :: l₂ := by
  rcases List.mem_append.1 h with h | h
  · exact List.mem_append_left _ h
  · exact List.mem_append_right _ (List.mem_cons_of_mem g h)

variable {l₁ l₂ : List Feed} {f : Feed} {e : Event}

/-- An event moves from its queue to the reader. -/
theorem perm_take (nodup : (Feed.ids (l₁ ++ f :: l₂)).Nodup) (empty : f.held = none)
    (taken : b.take? f.id = some (e, b')) :
    (Feed.events (l₁ ++ f :: l₂) ++ (Feed.ids (l₁ ++ f :: l₂)).flatMap b.queueOf).Perm
      (Feed.events (l₁ ++ ⟨f.id, some e⟩ :: l₂) ++
        (Feed.ids (l₁ ++ ⟨f.id, some e⟩ :: l₂)).flatMap b'.queueOf) := by
  obtain ⟨first, others, -, -⟩ := Bus.queueOf_take taken
  have ids : Feed.ids (l₁ ++ f :: l₂) = Feed.ids l₁ ++ f.id :: Feed.ids l₂ := by simp [Feed.ids]
  have apart : ∀ k ∈ Feed.ids l₁ ++ Feed.ids l₂, b'.queueOf k = b.queueOf k := by
    intro k hk
    rw [ids] at nodup
    apply others k
    intro same
    exact (List.nodup_cons.1 (List.nodup_middle.1 nodup)).1 (same ▸ hk)
  rw [ids_split l₁ l₂ f (some e), ids, Bus.flatMap_of_split fun _ _ => rfl,
    Bus.flatMap_of_split apart, first, events_split, events_split, empty]
  -- The event is brought to the front on both sides.
  have front : ∀ {u v w x y : List Event},
      (u ++ v ++ (w ++ (e :: x ++ y))).Perm (e :: (u ++ v ++ (w ++ (x ++ y)))) := by
    intro u v w x y
    rw [← List.append_assoc, ← List.append_assoc (u ++ v) w (x ++ y)]
    exact List.perm_middle
  refine (front (v := [] ++ Feed.events l₂)).trans ?_
  simp only [Option.toList, List.nil_append, List.cons_append, List.append_assoc]
  exact List.perm_middle.symm

theorem take (h : Merged b (l₁ ++ f :: l₂) placed yielded) (empty : f.held = none)
    (taken : b.take? f.id = some (e, b')) :
    Merged b' (l₁ ++ ⟨f.id, some e⟩ :: l₂) placed yielded := by
  obtain ⟨first, others, sequence, current⟩ := Bus.queueOf_take taken
  have own : f ∈ l₁ ++ f :: l₂ := List.mem_append_right _ List.mem_cons_self
  have keeps := h.keeps
  have fresh := h.fresh
  constructor
  · exact Bus.sound_take h.sound taken
  · rw [ids_split]
    exact h.nodup
  · rw [ids_split]
    exact keeps.of_stays fun _ _ => Bus.stays_take taken
  · exact h.perm.trans ((perm_take h.nodup empty taken).append_left _)
  · exact h.ascending
  · rw [sequence]
    exact h.past
  · rw [ids_split, current]
    exact fresh
  · exact h.given
  · intro g hg x hx
    rcases mem_split hg with rfl | hg
    · cases hx
      exact Bus.ahead_taken h.sound taken
    · exact (h.heads g (mem_of_rest hg) x hx).take taken
  · intro y hy g hg
    rcases mem_split hg with rfl | hg
    · obtain ⟨-, ahead⟩ := h.later y hy f own
      refine ⟨fun x hx => ?_, ahead.take taken⟩
      cases hx
      exact ahead.queue e (first ▸ List.mem_cons_self)
    · obtain ⟨held, ahead⟩ := h.later y hy g (mem_of_rest hg)
      exact ⟨held, ahead.take taken⟩

theorem nodup_sequences (h : Merged b feeds placed yielded) :
    ((Feed.events feeds).map (·.sequence)).Nodup := by
  have placed_nodup : (placed.map (·.sequence)).Nodup :=
    List.pairwise_map.2 (h.ascending.imp Nat.ne_of_lt)
  have all := ((h.perm.map (·.sequence)).nodup_iff).1 placed_nodup
  rw [List.map_append, List.map_append] at all
  exact (List.nodup_append.1 (List.nodup_append.1 all).2.1).1

/-- No two events that are held have the same number. -/
theorem lt_of_held (h : Merged b (l₁ ++ f :: l₂) placed yielded) (held : f.held = some e)
    (least : ∀ x ∈ Feed.events (l₁ ++ f :: l₂), e.sequence ≤ x.sequence) {g : Feed} (hg : g ∈ l₁ ++ l₂)
    {x : Event} (hx : g.held = some x) : e.sequence < x.sequence := by
  have le := least x (List.mem_filterMap.2 ⟨g, mem_of_rest hg, hx⟩)
  apply Nat.lt_of_le_of_ne le
  intro same
  have distinct := h.nodup_sequences
  rw [events_split, held, Option.toList, List.singleton_append, List.map_append, List.map_cons,
    List.nodup_middle, ← List.map_append] at distinct
  refine (List.nodup_cons.1 distinct).1 (same ▸ List.mem_map_of_mem ?_)
  rw [Feed.events, Feed.events, ← List.filterMap_append]
  exact List.mem_filterMap.2 ⟨g, hg, hx⟩

/-- The reader gives out the first of the events that it holds; what can still come from the
others is later. -/
theorem give (h : Merged b (l₁ ++ f :: l₂) placed yielded) (held : f.held = some e)
    (least : ∀ x ∈ Feed.events (l₁ ++ f :: l₂), e.sequence ≤ x.sequence)
    (rest : ∀ g ∈ l₁ ++ f :: l₂, g.held = none → b.Ahead g.id e.sequence) :
    Merged b (l₁ ++ ⟨f.id, none⟩ :: l₂) placed (yielded ++ [e]) := by
  have own : f ∈ l₁ ++ f :: l₂ := List.mem_append_right _ List.mem_cons_self
  have ahead : ∀ g ∈ l₁ ++ f :: l₂, b.Ahead g.id e.sequence := by
    intro g hg
    cases empty : g.held with
    | none => exact rest g hg empty
    | some x => exact (h.heads g hg x empty).mono (least x (List.mem_filterMap.2 ⟨g, hg, empty⟩))
  constructor
  · exact h.sound
  · rw [ids_split]
    exact h.nodup
  · rw [ids_split]
    exact h.keeps
  · rw [ids_split]
    refine h.perm.trans ?_
    rw [events_split, events_split, held, List.append_assoc yielded]
    apply List.Perm.append_left yielded
    simp only [Option.toList, List.nil_append, List.cons_append, List.append_assoc]
    exact List.perm_middle
  · exact h.ascending
  · exact h.past
  · rw [ids_split]
    exact h.fresh
  · refine List.pairwise_append.2 ⟨h.given, List.pairwise_singleton _ _, fun x hx y hy => ?_⟩
    rw [List.mem_singleton.1 hy]
    exact (h.later x hx f own).1 e held
  · intro g hg x hx
    rcases mem_split hg with rfl | hg
    · cases hx
    · exact h.heads g (mem_of_rest hg) x hx
  · intro y hy g hg
    have same : (g.held = none ∧ g.id = f.id) ∨ g ∈ l₁ ++ l₂ := by
      rcases mem_split hg with rfl | hg
      · exact .inl ⟨rfl, rfl⟩
      · exact .inr hg
    rcases List.mem_append.1 hy with hy | hy
    · rcases same with ⟨empty, id⟩ | hg
      · refine ⟨fun x hx => ?_, id ▸ (h.later y hy f own).2⟩
        rw [empty] at hx
        cases hx
      · exact h.later y hy g (mem_of_rest hg)
    · rw [List.mem_singleton.1 hy]
      rcases same with ⟨empty, id⟩ | hg
      · refine ⟨fun x hx => ?_, id ▸ ahead f own⟩
        rw [empty] at hx
        cases hx
      · exact ⟨fun x hx => h.lt_of_held held least hg hx, ahead g (mem_of_rest hg)⟩

/-- A reader of one subscription gives out at once what it takes. -/
theorem pass_on {id : Nat} (h : Merged b [⟨id, none⟩] placed yielded)
    (taken : b.take? id = some (e, b')) : Merged b' [⟨id, none⟩] placed (yielded ++ [e]) := by
  have before : Merged b ([] ++ ⟨id, none⟩ :: []) placed yielded := h
  have holds := before.take rfl taken
  refine Merged.give holds rfl (fun x hx => ?_) fun g hg empty => ?_
  · exact Nat.le_of_eq (congrArg Event.sequence (List.mem_singleton.1 hx).symm)
  · rw [List.mem_singleton.1 hg] at empty
    cases empty

/-- A reader that has nothing left has given out what came, in the order in which it came. -/
theorem yielded_eq_placed (h : Merged b feeds placed yielded) (held : Feed.events feeds = [])
    (queues : ∀ id ∈ Feed.ids feeds, b.queueOf id = []) : yielded = placed := by
  have perm := h.perm
  rw [held, List.flatMap_eq_nil_iff.2 queues, List.append_nil, List.append_nil] at perm
  refine List.Perm.eq_of_pairwise (fun x y _ _ less more => ?_) h.given h.ascending perm.symm
  exact absurd (Nat.lt_trans less more) (Nat.lt_irrefl _)

end Merged

end DeviceFleet
