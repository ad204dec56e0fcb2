import DeviceFleet.Bus.Run

/-! Subscriptions of several topics, read as one in the order in which the bus gave out
their events. The reader goes in rounds. It begins a round once it holds an event, taking
one from any queue if it holds none. In the round it asks each subscription of which it
holds no event, and at the end gives out the first of the events it holds. An event is
in its queue before the next one is dispatched, so none that comes earlier is missed. -/

namespace DeviceFleet

/-- A subscription of a merge, and the event that was taken from its queue and not yet
given out. -/
structure Feed where
  id : Nat
  held : Option Event
  deriving DecidableEq, Repr

namespace Feed

/-- Takes an event unless one is held. -/
def poll (f : Feed) (b : Bus) : Feed × Bus :=
  match f.held with
  | some _ => (f, b)
  | none => match b.take? f.id with
    | some (e, b) => ({ f with held := some e }, b)
    | none => (f, b)

def holding (feeds : List Feed) : Nat := (feeds.filter (·.held.isSome)).length

def first? : List Feed → Option (Event × List Feed)
  | [] => none
  | f :: rest =>
    match f.held, first? rest with
    | none, r => r.map fun (e, rest) => (e, f :: rest)
    | some e, none => some (e, { f with held := none } :: rest)
    | some e, some (x, others) =>
      if x.sequence < e.sequence then some (x, f :: others)
      else some (e, { f with held := none } :: rest)

/-- The feeds after an event was taken for the one in place `i`. -/
def select? : (i : Nat) → (b : Bus) → List Feed → Option (List Feed × Bus)
  | _, _, [] => none
  | 0, b, f :: rest =>
    (b.take? f.id).map fun (e, b) => ({ f with held := some e } :: rest, b)
  | i + 1, b, f :: rest => (select? i b rest).map fun (rest, b) => (f :: rest, b)

/-- Asking takes at most one event, and then the feed holds it. -/
theorem poll_cases (f : Feed) (b : Bus) :
    f.poll b = (f, b) ∨ ∃ e b', b.take? f.id = some (e, b') ∧ f.poll b = (⟨f.id, some e⟩, b') := by
  simp only [poll]
  split
  · exact .inl rfl
  · split
    · rename_i e b' h
      exact .inr ⟨e, b', h, rfl⟩
    · exact .inl rfl

theorem take?_of_select? {i : Nat} {b b' : Bus} {feeds feeds' : List Feed}
    (h : select? i b feeds = some (feeds', b')) :
    ∃ f ∈ feeds, ∃ e, b.take? f.id = some (e, b') := by
  induction feeds generalizing i feeds' with
  | nil => cases i <;> cases h
  | cons f rest ih =>
    cases i with
    | zero =>
      obtain ⟨⟨e, b''⟩, he, hy⟩ := Option.map_eq_some_iff.1 h
      obtain ⟨-, rfl⟩ := Prod.mk.inj hy
      exact ⟨f, List.mem_cons_self, e, he⟩
    | succ i =>
      obtain ⟨⟨rest', b''⟩, hr, hy⟩ := Option.map_eq_some_iff.1 h
      obtain ⟨-, rfl⟩ := Prod.mk.inj hy
      obtain ⟨g, hg, e, he⟩ := ih hr
      exact ⟨g, List.mem_cons_of_mem _ hg, e, he⟩

@[simp] theorem holding_nil : holding [] = 0 := rfl

theorem holding_cons (f : Feed) (rest : List Feed) :
    holding (f :: rest) = (if f.held.isSome then 1 else 0) + holding rest := by
  by_cases h : f.held.isSome <;> simp [holding, h, Nat.add_comm]

theorem holding_first? {feeds rest : List Feed} {e : Event} (h : first? feeds = some (e, rest)) :
    holding feeds = holding rest + 1 := by
  induction feeds generalizing e rest with
  | nil => cases h
  | cons f fs ih =>
    simp only [first?] at h
    split at h
    · rename_i hf
      obtain ⟨⟨x, others⟩, hx, hy⟩ := Option.map_eq_some_iff.1 h
      obtain ⟨rfl, rfl⟩ := Prod.mk.inj hy
      simp only [holding_cons, ih hx, hf]
      rfl
    · rename_i hf _
      obtain ⟨rfl, rfl⟩ := Prod.mk.inj (Option.some.inj h)
      simp [holding_cons, hf, Nat.add_comm]
    · rename_i hf hx
      split at h
      · obtain ⟨rfl, rfl⟩ := Prod.mk.inj (Option.some.inj h)
        simp [holding_cons, ih hx, Nat.add_assoc]
      · obtain ⟨rfl, rfl⟩ := Prod.mk.inj (Option.some.inj h)
        simp [holding_cons, hf, Nat.add_comm]

end Feed

/-- A reader of several subscriptions. -/
inductive Merge where
  /-- It is between two rounds. -/
  | waiting (feeds : List Feed)
  /-- It is in a round: it has asked some subscriptions and has others left to ask. -/
  | asking (asked rest : List Feed)
  deriving DecidableEq, Repr

namespace Merge

def ofIds (ids : List Nat) : Merge := waiting (ids.map fun id => ⟨id, none⟩)

def feeds : Merge → List Feed
  | waiting feeds => feeds
  | asking asked rest => asked ++ rest

def holding (m : Merge) : Nat := Feed.holding m.feeds

/-- The questions left in the round, more than all of them between rounds. -/
def phase : Merge → Nat
  | waiting feeds => feeds.length + 1
  | asking _ rest => rest.length

/-- One step of the reader, with the event that it gives out. If a round begins and no
event is held, the first is taken from the subscription in place `i`. -/
def step (m : Merge) (i : Nat) (b : Bus) : Option (Merge × Bus × Option Event) :=
  match m with
  | waiting feeds =>
    if feeds.any (·.held.isSome) then some (asking [] feeds, b, none)
    else (Feed.select? i b feeds).map fun (feeds, b) => (asking [] feeds, b, none)
  | asking asked (f :: rest) =>
    let (f, b) := f.poll b
    some (asking (asked ++ [f]) rest, b, none)
  | asking asked [] => (Feed.first? asked).map fun (e, feeds) => (waiting feeds, b, some e)

/-- A step takes an event from a queue, gives one out or shortens the round. -/
theorem step_lt {m m' : Merge} {i : Nat} {b b' : Bus} {r : Option Event}
    (h : m.step i b = some (m', b', r)) :
    b'.inbox = b.inbox ∧ b'.rank = b.rank ∧
      (b'.queued < b.queued ∨ b'.queued = b.queued ∧
        (m'.holding < m.holding ∨ m'.holding = m.holding ∧ m'.phase < m.phase)) := by
  match m with
  | waiting feeds =>
    simp only [step] at h
    split at h
    · obtain ⟨rfl, rfl, -⟩ := by simpa using h
      exact ⟨rfl, rfl, .inr ⟨rfl, .inr ⟨rfl, by simp [phase]⟩⟩⟩
    · obtain ⟨⟨feeds', b''⟩, hs, hy⟩ := Option.map_eq_some_iff.1 h
      obtain ⟨-, rfl, -⟩ := by simpa using hy
      obtain ⟨f, -, e, he⟩ := Feed.take?_of_select? hs
      have taken := Bus.take?_queued_lt he
      exact ⟨taken.2.1, taken.2.2, .inl taken.1⟩
  | asking asked (f :: rest) =>
    obtain ⟨rfl, rfl, -⟩ := by simpa [step] using h
    rcases Feed.poll_cases f b with same | ⟨e, b', he, taken⟩
    · rw [same]
      exact ⟨rfl, rfl, .inr ⟨rfl, .inr ⟨by simp [holding, feeds], by simp [phase]⟩⟩⟩
    · rw [taken]
      have := Bus.take?_queued_lt he
      exact ⟨this.2.1, this.2.2, .inl this.1⟩
  | asking asked [] =>
    obtain ⟨⟨e, feeds'⟩, hf, hy⟩ := Option.map_eq_some_iff.1 h
    obtain ⟨rfl, rfl, -⟩ := by simpa using hy
    exact ⟨rfl, rfl, .inr ⟨rfl, .inl (by simp [holding, feeds, Feed.holding_first? hf])⟩⟩

/-- The first place from which an event can be taken. -/
def choice (m : Merge) (b : Bus) : Nat := m.feeds.findIdx fun f => (b.take? f.id).isSome

/-- Whether nothing is held and nothing can be taken. -/
def isDrained (m : Merge) (b : Bus) : Bool :=
  m.feeds.all fun f => f.held.isNone && (b.take? f.id).isNone

end Merge

end DeviceFleet
