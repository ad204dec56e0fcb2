import Mathlib.Tactic.FinCases
import DeviceFleet.Proofs.Bus.Merged

/-! Runs of a reader beside its bus: in any order the bus changes and the reader takes its steps.
The reader gives out the events in the order of their dispatch, each event that comes into one of
its queues is in one place from then on, and the reader finds nothing only when the bus has stopped
and no event is left. -/

namespace DeviceFleet

/-! ### Steps of a merge -/

namespace Feed

/-- The place from which the first event of a round was taken. -/
theorem split_of_select? {i : Nat} {b b' : Bus} {feeds feeds' : List Feed}
    (h : select? i b feeds = some (feeds', b')) :
    ∃ l₁ f l₂ e, feeds = l₁ ++ f :: l₂ ∧ b.take? f.id = some (e, b') ∧
      feeds' = l₁ ++ ⟨f.id, some e⟩ :: l₂ := by
  induction feeds generalizing i feeds' with
  | nil => cases i <;> cases h
  | cons g rest ih =>
    cases i with
    | zero =>
      obtain ⟨⟨e, b''⟩, taken, same⟩ := Option.map_eq_some_iff.1 h
      obtain ⟨rfl, rfl⟩ := Prod.mk.inj same
      exact ⟨[], g, rest, e, rfl, taken, rfl⟩
    | succ i =>
      obtain ⟨⟨rest', b''⟩, selected, same⟩ := Option.map_eq_some_iff.1 h
      obtain ⟨rfl, rfl⟩ := Prod.mk.inj same
      obtain ⟨l₁, f, l₂, e, rfl, taken, rfl⟩ := ih selected
      exact ⟨g :: l₁, f, l₂, e, rfl, taken, rfl⟩

/-- If no place brings an event, all the queues are empty. -/
theorem take?_of_select?_none {b : Bus} {feeds : List Feed} (h : ∀ i, select? i b feeds = none) :
    ∀ f ∈ feeds, b.take? f.id = none := by
  induction feeds with
  | nil => exact List.forall_mem_nil _
  | cons f rest ih =>
    refine List.forall_mem_cons.2 ⟨?_, ih fun i => ?_⟩
    · simpa [select?] using h 0
    · simpa [select?] using h (i + 1)

theorem first?_eq_none {feeds : List Feed} : first? feeds = none ↔ events feeds = [] := by
  induction feeds with
  | nil => exact ⟨fun _ => rfl, fun _ => rfl⟩
  | cons f rest ih =>
    rw [first?, events, List.filterMap_cons]
    cases f.held with
    | none => exact Option.map_eq_none_iff.trans ih
    | some e =>
      cases first? rest with
      | none => constructor <;> intro h <;> cases h
      | some r =>
        constructor
        · intro h
          simp only at h
          split at h <;> cases h
        · intro h
          cases h

/-- The event that is given out comes first of all that are held. -/
theorem split_of_first? {feeds feeds' : List Feed} {e : Event} (h : first? feeds = some (e, feeds')) :
    ∃ l₁ f l₂, feeds = l₁ ++ f :: l₂ ∧ f.held = some e ∧ feeds' = l₁ ++ ⟨f.id, none⟩ :: l₂ ∧
      ∀ x ∈ events feeds, e.sequence ≤ x.sequence := by
  induction feeds generalizing e feeds' with
  | nil => cases h
  | cons g rest ih =>
    have held_cons : events (g :: rest) = g.held.toList ++ events rest := by
      rw [events, List.filterMap_cons]
      cases g.held <;> rfl
    rw [held_cons]
    rw [first?] at h
    cases own : g.held with
    | none =>
      rw [own] at h
      obtain ⟨⟨x, others⟩, found, same⟩ := Option.map_eq_some_iff.1 h
      obtain ⟨rfl, rfl⟩ := Prod.mk.inj same
      obtain ⟨l₁, f, l₂, rfl, held, rfl, least⟩ := ih found
      exact ⟨g :: l₁, f, l₂, rfl, held, rfl, least⟩
    | some y =>
      rw [own] at h
      cases found : first? rest with
      | none =>
        rw [found] at h
        obtain ⟨rfl, rfl⟩ := Prod.mk.inj (Option.some.inj h)
        refine ⟨[], g, rest, rfl, own, rfl, fun x hx => ?_⟩
        rw [first?_eq_none.1 found, List.append_nil] at hx
        exact Nat.le_of_eq (congrArg Event.sequence (List.mem_singleton.1 hx).symm)
      | some r =>
        obtain ⟨x, others⟩ := r
        obtain ⟨l₁, f, l₂, rfl, held, rfl, least⟩ := ih found
        rw [found] at h
        simp only at h
        split at h
        · rename_i less
          obtain ⟨rfl, rfl⟩ := Prod.mk.inj (Option.some.inj h)
          refine ⟨g :: l₁, f, l₂, rfl, held, rfl, fun z hz => ?_⟩
          rcases List.mem_append.1 hz with hz | hz
          · rw [List.mem_singleton.1 hz]
            exact Nat.le_of_lt less
          · exact least z hz
        · rename_i least_here
          obtain ⟨rfl, rfl⟩ := Prod.mk.inj (Option.some.inj h)
          refine ⟨[], g, _, rfl, own, rfl, fun z hz => ?_⟩
          rcases List.mem_append.1 hz with hz | hz
          · exact Nat.le_of_eq (congrArg Event.sequence (List.mem_singleton.1 hz).symm)
          · exact Nat.le_trans (Nat.le_of_not_lt least_here) (least z hz)

end Feed

/-- A step of a merge on the bus `b`: the reader after it, the bus, and the event given out. -/
inductive Merge.Turn (b : Bus) : Merge → Merge → Bus → Option Event → Prop where
  /-- A round begins, and an event is held. -/
  | resume {feeds : List Feed} {e : Event} (held : e ∈ Feed.events feeds) :
      Turn b (.waiting feeds) (.asking [] feeds) b none
  /-- A round begins with an event from a queue. -/
  | receive {l₁ l₂ : List Feed} {f : Feed} {e : Event} {b' : Bus} (empty : f.held = none)
      (taken : b.take? f.id = some (e, b')) :
      Turn b (.waiting (l₁ ++ f :: l₂)) (.asking [] (l₁ ++ ⟨f.id, some e⟩ :: l₂)) b' none
  /-- A subscription is not asked, or asked in vain. -/
  | pass {asked rest : List Feed} {f : Feed} (vain : f.held = none → b.queueOf f.id = []) :
      Turn b (.asking asked (f :: rest)) (.asking (asked ++ [f]) rest) b none
  | fetch {asked rest : List Feed} {f : Feed} {e : Event} {b' : Bus} (empty : f.held = none)
      (taken : b.take? f.id = some (e, b')) :
      Turn b (.asking asked (f :: rest)) (.asking (asked ++ [⟨f.id, some e⟩]) rest) b' none
  /-- A round ends. -/
  | give {l₁ l₂ : List Feed} {f : Feed} {e : Event} (held : f.held = some e)
      (least : ∀ x ∈ Feed.events (l₁ ++ f :: l₂), e.sequence ≤ x.sequence) :
      Turn b (.asking (l₁ ++ f :: l₂) []) (.waiting (l₁ ++ ⟨f.id, none⟩ :: l₂)) b (some e)

theorem Merge.turn_of_step {m m' : Merge} {i : Nat} {b b' : Bus} {out : Option Event}
    (h : m.step i b = some (m', b', out)) : Turn b m m' b' out := by
  match m with
  | waiting feeds =>
    simp only [step] at h
    split at h
    · rename_i holds
      obtain ⟨rfl, rfl, rfl⟩ := by simpa using h
      obtain ⟨f, hf, some⟩ := List.any_eq_true.1 holds
      obtain ⟨e, he⟩ := Option.isSome_iff_exists.1 some
      exact .resume (List.mem_filterMap.2 ⟨f, hf, he⟩)
    · rename_i none_held
      obtain ⟨⟨feeds', b''⟩, selected, same⟩ := Option.map_eq_some_iff.1 h
      obtain ⟨rfl, rfl, rfl⟩ := by simpa using same
      obtain ⟨l₁, f, l₂, e, rfl, taken, rfl⟩ := Feed.split_of_select? selected
      refine .receive (Option.eq_none_iff_forall_ne_some.2 fun x held => none_held ?_) taken
      refine List.any_eq_true.2 ⟨f, List.mem_append_right l₁ List.mem_cons_self, ?_⟩
      rw [held]
      rfl
  | asking asked (f :: rest) =>
    obtain ⟨rfl, rfl, rfl⟩ := by simpa [step] using h
    cases own : f.held with
    | some x =>
      have polled : f.poll b = (f, b) := by rw [Feed.poll, own]
      rw [polled]
      refine .pass fun empty => ?_
      rw [own] at empty
      cases empty
    | none =>
      cases taken : b.take? f.id with
      | none =>
        have polled : f.poll b = (f, b) := by rw [Feed.poll, own, taken]
        rw [polled]
        exact .pass fun _ => Bus.take?_eq_none.1 taken
      | some r =>
        have polled : f.poll b = (⟨f.id, some r.1⟩, r.2) := by rw [Feed.poll, own, taken]
        rw [polled]
        exact .fetch own taken
  | asking asked [] =>
    obtain ⟨⟨e, feeds⟩, found, same⟩ := Option.map_eq_some_iff.1 h
    obtain ⟨rfl, rfl, rfl⟩ := by simpa using same
    obtain ⟨l₁, f, l₂, rfl, held, rfl, least⟩ := Feed.split_of_first? found
    exact .give held least

theorem Merge.Turn.ids {m m' : Merge} {b b' : Bus} {out : Option Event}
    (turn : Turn b m m' b' out) : Feed.ids m'.feeds = Feed.ids m.feeds := by
  cases turn with
  | resume => rfl
  | receive => exact Merged.ids_split _ _ _ _
  | pass => simp [feeds]
  | @fetch asked rest f e =>
    have feeds : asked ++ [⟨f.id, some e⟩] ++ rest = asked ++ ⟨f.id, some e⟩ :: rest := by simp
    exact (congrArg Feed.ids feeds).trans (Merged.ids_split _ _ _ _)
  | give => simp [feeds, Feed.ids]

theorem Merge.Turn.bus {m m' : Merge} {b b' : Bus} {out : Option Event} (turn : Turn b m m' b' out) :
    b' = b ∨ ∃ id ∈ Feed.ids m.feeds, ∃ e, b.take? id = some (e, b') := by
  cases turn with
  | resume => exact .inl rfl
  | @receive l₁ l₂ f e b' empty taken =>
    exact .inr ⟨f.id, Merged.id_mem (List.mem_append_right l₁ List.mem_cons_self), e, taken⟩
  | pass => exact .inl rfl
  | @fetch asked rest f e b' empty taken =>
    exact .inr ⟨f.id, Merged.id_mem (List.mem_append_right asked List.mem_cons_self), e, taken⟩
  | give => exact .inl rfl

/-! ### The reader beside its bus -/

/-- A bus and one of its readers; `placed` are the events that came into the reader's queues,
`yielded` those that it gave out. -/
structure Reader where
  bus : Bus
  merge : Merge
  placed : List Event
  yielded : List Event
  deriving DecidableEq

namespace Reader

def ids (r : Reader) : List Nat := Feed.ids r.merge.feeds

def held (r : Reader) : List Event := Feed.events r.merge.feeds

def queued (r : Reader) : List Event := r.ids.flatMap r.bus.queueOf

/-- A reader that has read nothing. What lies in its queues came in in the order of dispatch. -/
def start (b : Bus) (ids : List Nat) : Reader where
  bus := b
  merge := .ofIds ids
  placed := (ids.flatMap b.queueOf).mergeSort fun x y => x.sequence ≤ y.sequence
  yielded := []

inductive Step (r : Reader) : Reader → Prop where
  | bus {b : Bus} (change : Bus.Change r.ids r.bus b) :
      Step r { r with bus := b, placed := r.placed ++ Bus.arrivals r.ids r.bus b }
  | read (i : Nat) {b : Bus} {m : Merge} {out : Option Event}
      (h : r.merge.step i r.bus = some (m, b, out)) :
      Step r ⟨b, m, r.placed, r.yielded ++ out.toList⟩

abbrev Run : Reader → Reader → Prop := Relation.ReflTransGen Step

/-- A turn of the dispatcher, or a step of the reader with the place from which a round begins. -/
def next (r : Reader) : Option Nat → Option Reader
  | none => r.bus.step.map fun (b, _) =>
    { r with bus := b, placed := r.placed ++ Bus.arrivals r.ids r.bus b }
  | some i => (r.merge.step i r.bus).map fun (m, b, out) =>
    ⟨b, m, r.placed, r.yielded ++ out.toList⟩

/-- A run that is given by its turns and steps. -/
theorem run_of_turns (turns : List (Option Nat)) {r r' : Reader}
    (h : turns.foldlM next r = some r') : Run r r' := by
  induction turns generalizing r with
  | nil =>
    cases h
    exact .refl
  | cons t turns ih =>
    obtain ⟨s, step, rest⟩ := Option.bind_eq_some_iff.1 h
    refine .head ?_ (ih rest)
    cases t with
    | none =>
      obtain ⟨⟨b, ws⟩, turn, rfl⟩ := Option.map_eq_some_iff.1 step
      exact .bus (Bus.change_of_step turn)
    | some i =>
      obtain ⟨⟨m, b, out⟩, turn, rfl⟩ := Option.map_eq_some_iff.1 step
      exact .read i turn

/-- The reader finds nothing: between rounds when no subscription can bring it an event any more,
its queue being empty and the dispatcher having stopped or removed it, and at the end of a round
that brought nothing. -/
def Exhausted (r : Reader) : Prop :=
  match r.merge with
  | .waiting feeds => Feed.events feeds = [] ∧ ∀ id ∈ Feed.ids feeds,
      r.bus.queueOf id = [] ∧ (r.bus.stopped = true ∨ r.bus.find? id = none)
  | .asking asked rest => rest = [] ∧ Feed.first? asked = none

/-- The invariant of a run. In a round some event is held such that what can still come from the
subscriptions that were asked in vain is later. -/
structure Stands (r : Reader) : Prop where
  merged : Merged r.bus r.merge.feeds r.placed r.yielded
  round : ∀ asked rest, r.merge = .asking asked rest → ∃ e ∈ r.held,
    ∀ f ∈ asked, f.held = none → r.bus.Ahead f.id e.sequence

/-! ### A step keeps the invariant -/

variable {r r' : Reader}

theorem ids_ofIds (ids : List Nat) : Feed.ids (Merge.ofIds ids).feeds = ids := by
  rw [Merge.ofIds, Merge.feeds, Feed.ids, List.map_map]
  exact List.map_id ids

theorem events_ofIds (ids : List Nat) : Feed.events (Merge.ofIds ids).feeds = [] := by
  rw [Merge.ofIds, Merge.feeds, Feed.events, List.filterMap_map]
  exact List.filterMap_eq_nil_iff.2 fun _ _ => rfl

theorem stands_bus (h : r.Stands) {b : Bus} (change : Bus.Change r.ids r.bus b) :
    Stands { r with bus := b, placed := r.placed ++ Bus.arrivals r.ids r.bus b } where
  merged := h.merged.change change
  round asked rest asking := by
    obtain ⟨e, held, ahead⟩ := h.round asked rest asking
    refine ⟨e, held, fun f hf empty => ?_⟩
    refine (ahead f hf empty).change h.merged.sound h.merged.keeps ?_ change
    refine Merged.id_mem (?_ : f ∈ r.merge.feeds)
    rw [asking]
    exact List.mem_append_left _ hf

/-- The bus changes, and the queues of the reader stay as they are. -/
theorem stands_still (h : r.Stands) {b : Bus} (change : Bus.Change r.ids r.bus b)
    (queues : ∀ id ∈ r.ids, b.queueOf id = r.bus.queueOf id) : Stands { r with bus := b } := by
  have after := stands_bus h change
  rw [Bus.arrivals_of_same queues, List.append_nil] at after
  exact after

/-- A subscription that was asked in vain can bring only what is dispatched later. -/
theorem ahead_of_empty {b : Bus} {feeds : List Feed} {placed yielded : List Event}
    (h : Merged b feeds placed yielded) {f : Feed} (member : f ∈ feeds)
    (empty : b.queueOf f.id = []) {e : Event} (held : e ∈ Feed.events feeds) :
    b.Ahead f.id e.sequence := by
  have came : e ∈ placed :=
    h.perm.symm.subset (List.mem_append_right _ (List.mem_append_left _ held))
  refine ⟨h.past e came, ?_, fun d busy due => h.fresh d busy f.id (Merged.id_mem member) due e came⟩
  rw [empty]
  exact nofun

variable {b : Bus} {placed yielded : List Event}

theorem stands_pass {asked rest : List Feed} {f : Feed}
    (h : Stands ⟨b, .asking asked (f :: rest), placed, yielded⟩)
    (vain : f.held = none → b.queueOf f.id = []) :
    Stands ⟨b, .asking (asked ++ [f]) rest, placed, yielded⟩ := by
  have feeds : asked ++ [f] ++ rest = asked ++ f :: rest := by simp
  have merged : Merged b (asked ++ f :: rest) placed yielded := h.merged
  obtain ⟨e, held, ahead⟩ := h.round asked (f :: rest) rfl
  refine ⟨?_, fun asked' rest' asking => ?_⟩
  · show Merged b (asked ++ [f] ++ rest) placed yielded
    rw [feeds]
    exact merged
  · cases asking
    refine ⟨e, ?_, fun g hg empty => ?_⟩
    · show e ∈ Feed.events (asked ++ [f] ++ rest)
      rw [feeds]
      exact held
    · rcases List.mem_append.1 hg with hg | hg
      · exact ahead g hg empty
      · rw [List.mem_singleton.1 hg] at empty ⊢
        exact ahead_of_empty merged (List.mem_append_right asked List.mem_cons_self) (vain empty) held

/-- A subscription is asked and brings an event. -/
theorem stands_fetch {asked rest : List Feed} {f : Feed} {x : Event} {b' : Bus}
    (h : Stands ⟨b, .asking asked (f :: rest), placed, yielded⟩) (empty : f.held = none)
    (taken : b.take? f.id = some (x, b')) :
    Stands ⟨b', .asking (asked ++ [⟨f.id, some x⟩]) rest, placed, yielded⟩ := by
  have feeds : asked ++ [⟨f.id, some x⟩] ++ rest = asked ++ ⟨f.id, some x⟩ :: rest := by simp
  have merged : Merged b (asked ++ f :: rest) placed yielded := h.merged
  obtain ⟨e, held, ahead⟩ := h.round asked (f :: rest) rfl
  refine ⟨?_, fun asked' rest' asking => ?_⟩
  · show Merged b' (asked ++ [⟨f.id, some x⟩] ++ rest) placed yielded
    rw [feeds]
    exact merged.take empty taken
  · cases asking
    refine ⟨e, ?_, fun g hg none_held => ?_⟩
    · show e ∈ Feed.events (asked ++ [⟨f.id, some x⟩] ++ rest)
      have before : e ∈ Feed.events (asked ++ f :: rest) := held
      rw [Merged.events_split, empty, Option.toList, List.nil_append] at before
      rw [feeds, Merged.events_split]
      exact (List.mem_append.1 before).elim (List.mem_append_left _)
        fun there => List.mem_append_right _ (List.mem_cons_of_mem x there)
    · rcases List.mem_append.1 hg with hg | hg
      · exact (ahead g hg none_held).take taken
      · rw [List.mem_singleton.1 hg] at none_held
        cases none_held

theorem stands_read (h : r.Stands) {m : Merge} {out : Option Event}
    (turn : Merge.Turn r.bus r.merge m b out) :
    Stands ⟨b, m, r.placed, r.yielded ++ out.toList⟩ := by
  obtain ⟨bus, merge, placed, yielded⟩ := r
  cases turn with
  | resume held =>
    rw [Option.toList, List.append_nil]
    refine ⟨h.merged, fun asked rest asking => ?_⟩
    cases asking
    exact ⟨_, held, List.forall_mem_nil _⟩
  | @receive l₁ l₂ f e b' empty taken =>
    rw [Option.toList, List.append_nil]
    refine ⟨h.merged.take empty taken, fun asked rest asking => ?_⟩
    cases asking
    refine ⟨e, List.mem_filterMap.2 ⟨⟨f.id, some e⟩, ?_, rfl⟩, List.forall_mem_nil _⟩
    exact List.mem_append_right l₁ List.mem_cons_self
  | pass vain =>
    rw [Option.toList, List.append_nil]
    exact stands_pass h vain
  | fetch empty taken =>
    rw [Option.toList, List.append_nil]
    exact stands_fetch h empty taken
  | @give l₁ l₂ f e own least =>
    have merged : Merged bus (l₁ ++ f :: l₂ ++ []) placed yielded := h.merged
    obtain ⟨y, held, ahead⟩ := h.round (l₁ ++ f :: l₂) [] rfl
    have before : y ∈ Feed.events (l₁ ++ f :: l₂ ++ []) := held
    rw [List.append_nil] at merged before
    refine ⟨merged.give own least fun g hg empty => (ahead g hg empty).mono (least y before), ?_⟩
    exact nofun

theorem stands_step (h : r.Stands) (step : Step r r') : r'.Stands := by
  cases step with
  | bus change => exact stands_bus h change
  | read i step => exact stands_read h (Merge.turn_of_step step)

/-! ### Runs -/

variable {config : BusConfig} {ids : List Nat}

/-- The events in the queues of subscriptions with different topics differ. -/
theorem start_distinct (sound : b.Sound) (keeps : b.Keeps ids) (nodup : ids.Nodup) :
    (ids.flatMap b.queueOf).Pairwise (·.sequence ≠ ·.sequence) := by
  obtain ⟨topicAt, -, fits⟩ := sound.fits
  refine List.pairwise_flatMap.2 ⟨fun id hid => ?_, nodup.imp_of_mem fun {id k} hid hk other => ?_⟩
  · obtain ⟨s, found, -⟩ := keeps.live id hid
    rw [Bus.queueOf_of_find? found]
    exact (fits s (Bus.mem_of_find? found)).ascending.imp Nat.ne_of_lt
  · intro x hx y hy same
    obtain ⟨s, fs, -⟩ := keeps.live id hid
    obtain ⟨t, ft, -⟩ := keeps.live k hk
    rw [Bus.queueOf_of_find? fs] at hx
    rw [Bus.queueOf_of_find? ft] at hy
    obtain ⟨-, xs, xt⟩ := (fits s (Bus.mem_of_find? fs)).dispatched x hx
    obtain ⟨-, yt, yt'⟩ := (fits t (Bus.mem_of_find? ft)).dispatched y hy
    refine other (keeps.apart id hid k hk s t fs ft ?_)
    rw [← xs, ← yt, xt, yt', same]

/-- An event that is offered to a kept subscription is later than all that lie in the queues. -/
theorem start_fresh (sound : b.Sound) (keeps : b.Keeps ids) {d : Dispatch}
    (busy : b.current = some d) {id : Nat} (hid : id ∈ ids) (due : id ∈ d.remaining) {e : Event}
    (he : e ∈ ids.flatMap b.queueOf) : e.sequence < d.event.sequence := by
  obtain ⟨k, hk, queued⟩ := List.mem_flatMap.1 he
  obtain ⟨topicAt, present, fits⟩ := sound.fits
  obtain ⟨s, fs, -⟩ := keeps.live id hid
  obtain ⟨t, ft, -⟩ := keeps.live k hk
  rw [Bus.queueOf_of_find? ft] at queued
  obtain ⟨le, own, at_⟩ := (fits t (Bus.mem_of_find? ft)).dispatched e queued
  obtain ⟨topic, later⟩ := (fits s (Bus.mem_of_find? fs)).due d busy (Bus.id_of_find? fs ▸ due)
  rw [← (sound.current d busy).1] at le
  apply Nat.lt_of_le_of_ne le
  intro same
  -- An event with the number of the present one has its topic, so it lies in the same queue.
  have here : id = k := by
    apply keeps.apart id hid k hk s t fs ft
    rw [topic, present d busy, ← same, ← at_, own]
  subst here
  cases fs.symm.trans ft
  exact Nat.ne_of_lt (later e queued) same

theorem stands_start (sound : b.Sound) (keeps : b.Keeps ids) (nodup : ids.Nodup) :
    (start b ids).Stands := by
  have sorted := List.mergeSort_perm (ids.flatMap b.queueOf)
    fun x y => decide (x.sequence ≤ y.sequence)
  have mem {e : Event} (h : e ∈ (start b ids).placed) : e ∈ ids.flatMap b.queueOf := sorted.subset h
  refine ⟨?_, nofun⟩
  constructor
  · exact sound
  · rw [start, ids_ofIds]
    exact nodup
  · rw [start, ids_ofIds]
    exact keeps
  · rw [start, ids_ofIds, events_ofIds]
    exact sorted
  · have le : (start b ids).placed.Pairwise fun x y => decide (x.sequence ≤ y.sequence) :=
      List.pairwise_mergeSort (fun x y z hxy hyz => by simp at *; omega)
        (fun x y => by simp; omega) _
    have ne : (start b ids).placed.Pairwise (·.sequence ≠ ·.sequence) :=
      (sorted.pairwise_iff fun h => Ne.symm h).2 (start_distinct sound keeps nodup)
    refine (le.and ne).imp fun both => ?_
    exact Nat.lt_of_le_of_ne (of_decide_eq_true both.1) both.2
  · intro e he
    obtain ⟨id, hid, queued⟩ := List.mem_flatMap.1 (mem he)
    obtain ⟨topicAt, -, fits⟩ := sound.fits
    obtain ⟨s, found, -⟩ := keeps.live id hid
    rw [Bus.queueOf_of_find? found] at queued
    exact ((fits s (Bus.mem_of_find? found)).dispatched e queued).1
  · intro d busy id hid due e he
    rw [start, ids_ofIds] at hid
    exact start_fresh sound keeps busy hid due (mem he)
  · exact .nil
  · intro f hf e he
    obtain ⟨id, -, rfl⟩ := List.mem_map.1 hf
    cases he
  · exact List.forall_mem_nil _

theorem ids_run (run : Run r r') : r'.ids = r.ids := by
  induction run with
  | refl => rfl
  | tail _ step ih =>
    cases step with
    | bus => exact ih
    | read i step => exact (Merge.turn_of_step step).ids.trans ih

theorem stands_run (h : r.Stands) (run : Run r r') : r'.Stands := by
  induction run with
  | refl => exact h
  | tail _ step ih => exact stands_step ih step

/-- A reader of some subscriptions that finds nothing stands on a stopped bus. -/
theorem stopped_of_exhausted (h : r.Stands) (some : r.ids ≠ []) (exhausted : r.Exhausted) :
    r.bus.stopped = true ∧ r.held = [] ∧ r.queued = [] := by
  obtain ⟨bus, merge, placed, yielded⟩ := r
  match merge with
  | .waiting feeds =>
    obtain ⟨none_held, ended⟩ := exhausted
    obtain ⟨id, hid⟩ := List.exists_mem_of_ne_nil _ some
    obtain ⟨s, found, -⟩ := h.merged.keeps.live id hid
    refine ⟨?_, none_held, List.flatMap_eq_nil_iff.2 fun k hk => (ended k hk).1⟩
    apply (ended id hid).2.resolve_right
    intro missing
    cases found.symm.trans missing
  | .asking asked rest =>
    obtain ⟨rfl, nothing⟩ := exhausted
    obtain ⟨e, held, -⟩ := h.round asked [] rfl
    have none_held : Feed.events (asked ++ []) = [] := by
      rw [List.append_nil]
      exact Feed.first?_eq_none.1 nothing
    have member : e ∈ Feed.events (asked ++ []) := held
    rw [none_held] at member
    cases member

/-- A reader that holds nothing and can take nothing has given out all that came. -/
theorem given_of_drained (h : r.Stands) (drained : r.merge.isDrained r.bus = true) :
    r.yielded = r.placed := by
  have empty : ∀ f ∈ r.merge.feeds, f.held = none ∧ r.bus.queueOf f.id = [] := by
    simpa [Merge.isDrained, Bus.take?_eq_none] using drained
  refine h.merged.yielded_eq_placed (List.filterMap_eq_nil_iff.2 fun f hf => (empty f hf).1) ?_
  exact List.forall_mem_map.2 fun f hf => (empty f hf).2

/-- So does one that cannot take a step. -/
theorem drained_of_stuck (h : r.Stands) (stuck : ∀ i, r.merge.step i r.bus = none) :
    r.merge.isDrained r.bus = true := by
  obtain ⟨bus, merge, placed, yielded⟩ := r
  match merge with
  | .waiting feeds =>
    have none_held : feeds.any (·.held.isSome) = false := by
      rw [Bool.eq_false_iff]
      intro holds
      have step := stuck 0
      simp only [Merge.step, if_pos holds] at step
      cases step
    have nothing : ∀ i, Feed.select? i bus feeds = none := fun i => by
      have step := stuck i
      rwa [Merge.step, none_held, if_neg Bool.false_ne_true, Option.map_eq_none_iff] at step
    refine List.all_eq_true.2 fun f hf => ?_
    have empty := List.any_eq_false.1 none_held f hf
    simp [Feed.take?_of_select?_none nothing f hf, Option.not_isSome_iff_eq_none.1 empty]
  | .asking asked (f :: rest) => simp [Merge.step] at stuck
  | .asking asked [] =>
    have nothing : Feed.first? asked = none := by simpa [Merge.step] using stuck
    obtain ⟨e, held, -⟩ := h.round asked [] rfl
    rw [Reader.held, Merge.feeds, List.append_nil, Feed.first?_eq_none.1 nothing] at held
    cases held

theorem start_of_empty (empty : ids.flatMap b.queueOf = []) :
    start b ids = ⟨b, .ofIds ids, [], []⟩ := by
  rw [start, empty, List.mergeSort_nil]

/-- Under every order of steps, whatever is lost on full queues and whichever queue a round begins
with: the events are given out in the order of their dispatch; each event that came into one of the
queues lies there, is held or was given out, and only one of these; and the reader finds nothing only
when the bus has stopped and nothing lies in the queues or is held. -/
theorem yields_in_dispatch_order (reached : Bus.Leads [] (.new config) b) (keeps : b.Keeps ids)
    (nodup : ids.Nodup) (some : ids ≠ []) (run : Run (start b ids) r) :
    r.yielded.Pairwise (·.sequence < ·.sequence) ∧
      (r.placed.Pairwise (·.sequence < ·.sequence) ∧
        r.placed.Perm (r.yielded ++ (r.held ++ r.queued))) ∧
      (r.Exhausted → r.bus.stopped = true ∧ r.held = [] ∧ r.queued = []) := by
  have stands := stands_run (stands_start (Bus.sound_of_leads reached) keeps nodup) run
  have same : r.ids = ids := (ids_run run).trans (ids_ofIds ids)
  refine ⟨stands.merged.given, ⟨stands.merged.ascending, stands.merged.perm⟩, fun exhausted => ?_⟩
  exact stopped_of_exhausted stands (same.symm ▸ some) exhausted

/-- Three subscriptions with room for one event each. The reader begins with the first of them,
whose event is the second; a third event is lost. -/
theorem yields_in_dispatch_order_two :
    ∃ b r, Bus.Leads [] (.new ⟨1, .reject, 0⟩) b ∧ b.Keeps [0, 1, 2] ∧ Run (start b [0, 1, 2]) r ∧
      r.Exhausted ∧ r.yielded.map (·.payload) = [[1], [2]] ∧
      r.yielded.Pairwise (·.sequence < ·.sequence) ∧ r.bus.stopped = true := by
  let row (id : Nat) (topic : String) (delivered dropped : Nat) : Subscriber :=
    ⟨id, "reader", topic, [], true, delivered, dropped⟩
  let b : Bus :=
    ⟨⟨1, .reject, 0⟩, [row 0 "a" 0 0, row 1 "b" 0 0, row 2 "c" 0 0], 3, 0, [], none, false, 3⟩
  let events : List Event := [⟨"b", [1], 1⟩, ⟨"a", [2], 2⟩]
  let r : Reader :=
    ⟨⟨⟨1, .reject, 0⟩, [row 0 "a" 1 1, row 1 "b" 1 0, row 2 "c" 0 0], 3, 3, [], none, true, 3⟩,
      .ofIds [0, 1, 2], events, events⟩
  have reached : Bus.Leads [] (.new ⟨1, .reject, 0⟩) b := by
    refine .head (.request rfl "reader" "a") ?_
    refine .head (.request rfl "reader" "b") ?_
    refine .head (.request rfl "reader" "c") ?_
    refine .head (Bus.change_of_step rfl) ?_
    refine .head (Bus.change_of_step rfl) ?_
    exact .single (Bus.change_of_step rfl)
  have keeps : b.Keeps [0, 1, 2] := by
    constructor
    · intro id hid
      fin_cases hid <;> exact ⟨_, rfl, rfl⟩
    · intro id hid k hk s t hs ht same
      fin_cases hid <;> fin_cases hk <;> cases hs <;> cases ht <;>
        first | rfl | exact absurd same (by decide)
  have run : Run (start b [0, 1, 2]) r := by
    rw [start_of_empty rfl]
    refine .head (.bus (.publish "b" [1])) ?_
    refine .head (.bus (.publish "a" [2])) ?_
    refine .head (.bus (.publish "a" [3])) ?_
    refine .head (.bus .shutdown) ?_
    -- An event takes three turns of the dispatcher, and a round five steps of the reader.
    exact run_of_turns (List.replicate 9 none ++ List.replicate 10 (some 0) ++ [none])
      (by decide +kernel)
  have exhausted : r.Exhausted := by
    refine ⟨rfl, fun id hid => ?_⟩
    fin_cases hid <;> exact ⟨rfl, .inl rfl⟩
  obtain ⟨given, -, ends⟩ := yields_in_dispatch_order reached keeps (by decide) (by decide) run
  exact ⟨b, r, reached, keeps, run, exhausted, rfl, given, (ends exhausted).1⟩

end Reader

end DeviceFleet
