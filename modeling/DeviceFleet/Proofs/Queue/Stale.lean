import DeviceFleet.Proofs.Queue.Completion
import DeviceFleet.Proofs.Queue.Outstanding
import DeviceFleet.Proofs.Queue.Refusals

/-! Outcomes that come too late. Once a command has left the queue of a device, every report on it is
refused, and no exchange hands it out, until its identifier is queued again. Once it is postponed, every
report on it is refused until it is handed out again. This rests on the identifiers of a queue being
distinct: the commands behind a removed one have other identifiers. -/

namespace DeviceFleet.Delivery

/-- The step ends the command: a final outcome of it is accepted, or the queue is cleared. -/
def Step.Ends (udid : String) (i : Step) (uuid : String) : Prop :=
  (∃ r now x, i.Exchanges udid r now x ∧ r.status.settles = true ∧ r.command = uuid) ∨ i.Clears udid

def Step.Postpones (udid : String) (i : Step) (uuid : String) : Prop :=
  ∃ r now x, i.Exchanges udid r now x ∧ r.status = .notNow ∧ r.command = uuid

def Step.Queues (udid : String) (i : Step) (uuid : String) : Prop :=
  ∃ c now wasEmpty, i.request = .enqueue udid c now ∧ i.outcome = .queued wasEmpty ∧ c.uuid = uuid

/-- If the step is a report of the device on the command, it is refused as invalid and the store stays
as it was. -/
def Step.Rejects (udid : String) (i : Step) (uuid : String) : Prop :=
  ∀ r now, i.request = .acknowledge r now → r.udid = udid → r.isUserScoped = false →
    r.status ≠ .idle → r.command = uuid →
    ∃ e, i.outcome = .refused e ∧ e.kind = .validation ∧ i.after = i.before

/-- The step hands the device no command with the identifier, neither by name nor by its body. -/
def Step.Withholds (udid : String) (i : Step) (uuid : String) : Prop :=
  ∀ r now x, i.Exchanges udid r now x →
    x.delivered ≠ some uuid ∧ ∀ c : Command, c.uuid = uuid → x.payload ≠ some c.toWire

/-! ### Queues of queued commands -/

/-- The bodies in the queue are those of commands with the same identifiers. -/
def Authentic (q : DeviceQueue) : Prop :=
  ∀ d ∈ q.commands, ∃ c : Command, c.uuid = d.uuid ∧ c.toWire = d.payload

theorem Moves.authentic {delay : Nat} {udid : String} {q q' : DeviceQueue} {i : Request} {o : Outcome}
    (h : Moves delay udid q i o q') (hq : Authentic q) : Authentic q' := by
  cases h with
  | refused => exact hq
  | elsewhere => exact hq
  | enqueue c now =>
    intro d hd
    rcases List.mem_append.1 hd with hd | hd
    · exact hq d hd
    · rw [List.mem_singleton.1 hd]
      exact ⟨c, rfl, rfl⟩
  | exchange _ _ _ _ _ turn => exact fun d hd => hq d (turn.sublist.subset hd)
  | clear => exact List.forall_mem_nil _

structure Genuine (s : Store) (udid : String) (q : DeviceQueue) : Prop where
  found : s.queue udid = .ok q
  consistent : q.Consistent
  authentic : Authentic q

theorem genuine_empty (udid : String) : Genuine .empty udid .empty :=
  ⟨Store.queue_empty udid, DeviceQueue.consistent_empty, List.forall_mem_nil _⟩

theorem genuine_step (delay : Nat) {s : Store} {udid : String} {q : DeviceQueue} (h : Genuine s udid q)
    (i : Request) :
    ∃ q', Genuine (step delay s i).after udid q' ∧ Moves delay udid q i (step delay s i).outcome q' := by
  obtain ⟨q', found, moves⟩ := moves_perform delay h.found i
  exact ⟨q', ⟨found, moves.consistent h.consistent, moves.authentic h.authentic⟩, moves⟩

/-- What the allowed steps keep of a queue holds after all of them. -/
theorem kept_run {delay : Nat} {udid : String} (Keeps : DeviceQueue → Prop) (Allowed : Step → Prop)
    (keeps : ∀ {s : Store} {q q' : DeviceQueue} {i : Request}, Genuine s udid q →
      Moves delay udid q i (step delay s i).outcome q' → Allowed (step delay s i) → Keeps q → Keeps q')
    (rs : List Request) {s : Store} {q : DeviceQueue} (h : Genuine s udid q) (start : Keeps q)
    (allowed : ∀ i ∈ trace delay s rs, Allowed i) :
    ∃ q', Genuine (run delay s rs) udid q' ∧ Keeps q' := by
  induction rs generalizing s q with
  | nil => exact ⟨q, h, start⟩
  | cons i rs ih =>
    obtain ⟨first, others⟩ := List.forall_mem_cons.1 allowed
    obtain ⟨q', h', moves⟩ := genuine_step delay h i
    exact ih h' (keeps h moves first start) others

theorem genuine_run (delay : Nat) (rs : List Request) (udid : String) :
    ∃ q, Genuine (run delay .empty rs) udid q := by
  obtain ⟨q, h, -⟩ := kept_run (fun _ => True) (fun _ => True) (fun _ _ _ _ => trivial) rs
    (genuine_empty udid) trivial fun _ _ => trivial
  exact ⟨q, h⟩

/-! ### One exchange -/

section

variable {q q' : DeviceQueue} {r : Response} {now : Instant} {delay : Nat} {x : Exchange}

/-- An exchange that hands out nothing names no command and sets no marker. -/
theorem unhanded_of_turn (turn : Exchange.Turn q r now delay q' x) (nothing : x.payload = none) :
    x.delivered = none ∧ (q'.inFlight = q.inFlight ∨ q'.inFlight = none) := by
  have unhanded (q₀ : DeviceQueue) (done : Option (QueuedCommand × Status)) (again : Bool)
      (nothing : (Exchange.handOut q₀ done again now).2.payload = none) :
      (Exchange.handOut q₀ done again now).2.delivered = none ∧
        (Exchange.handOut q₀ done again now).1 = q₀ := by
    rcases handOut_cases q₀ done again now with ⟨-, same, nil⟩ | ⟨d, rest, -, payload, -, -⟩
    · refine ⟨?_, same⟩
      rw [Exchange.handOut, DeviceQueue.head?, nil]
      rfl
    · rw [payload] at nothing
      cases nothing
  cases turn with
  | first =>
    obtain ⟨none, same⟩ := unhanded _ _ _ nothing
    exact ⟨none, .inl (congrArg DeviceQueue.inFlight same)⟩
  | again =>
    obtain ⟨none, same⟩ := unhanded _ _ _ nothing
    exact ⟨none, .inl (congrArg DeviceQueue.inFlight same)⟩
  | wait => exact ⟨rfl, .inl rfl⟩
  | postpone => exact ⟨rfl, .inr rfl⟩
  | settle =>
    obtain ⟨none, same⟩ := unhanded _ _ _ nothing
    exact ⟨none, .inr (congrArg DeviceQueue.inFlight same)⟩

/-- A final report names the delivered command, and takes the head out. -/
theorem settled_of_turn (turn : Exchange.Turn q r now delay q' x) (final : r.status.settles = true) :
    ∃ f, q.inFlight = some f ∧ f.commandUuid = r.command ∧ q'.commands = q.commands.tail := by
  cases turn with
  | first idle => simp [idle, Status.settles] at final
  | again _ idle => simp [idle, Status.settles] at final
  | wait _ idle => simp [idle, Status.settles] at final
  | postpone _ later => simp [later, Status.settles] at final
  | settle f _ marker named => exact ⟨f, marker, named, by simp [Exchange.handOut, DeviceQueue.pop]⟩

theorem postponed_of_turn (turn : Exchange.Turn q r now delay q' x) (later : r.status = .notNow) :
    q' = q.release := by
  cases turn with
  | first idle => simp [idle] at later
  | again _ idle => simp [idle] at later
  | wait _ idle => simp [idle] at later
  | postpone => rfl
  | settle _ final => simp [later, Status.settles] at final

end

/-! ### Commands that are gone -/

def Gone (uuid : String) (q : DeviceQueue) : Prop := ∀ d ∈ q.commands, d.uuid ≠ uuid

/-- The delivered command has another identifier, or none is delivered. -/
def Unmarked (uuid : String) (q : DeviceQueue) : Prop := q.inFlightUuid? ≠ some uuid

theorem unmarked_of_free {uuid : String} {q : DeviceQueue} (free : q.inFlight = none) :
    Unmarked uuid q := by
  rw [Unmarked, DeviceQueue.inFlightUuid?, free]
  intro delivered
  cases delivered

theorem Gone.unmarked {uuid : String} {q : DeviceQueue} (h : Gone uuid q) (marked : q.Marked) :
    Unmarked uuid q := by
  intro delivered
  obtain ⟨f, marker, same⟩ := Option.map_eq_some_iff.1 delivered
  obtain ⟨c, rest, first, head⟩ := marked f marker
  have here : c ∈ q.commands := by
    rw [first]
    exact List.mem_cons_self
  exact h c here (head.trans same)

section

variable {delay : Nat} {s : Store} {udid uuid : String} {q q' : DeviceQueue} {i : Request}

/-- Only queueing brings an identifier back. -/
theorem gone_step (moves : Moves delay udid q i (step delay s i).outcome q')
    (unqueued : ¬ (step delay s i).Queues udid uuid) (h : Gone uuid q) : Gone uuid q' := by
  simp only [step, Step.Queues] at moves unqueued
  generalize (perform delay s i).2 = o at moves unqueued
  cases moves with
  | refused => exact h
  | elsewhere => exact h
  | enqueue c now wasEmpty =>
    intro d hd same
    rcases List.mem_append.1 hd with hd | hd
    · exact h d hd same
    · rw [List.mem_singleton.1 hd] at same
      exact unqueued ⟨c, now, wasEmpty, rfl, rfl, same⟩
  | exchange _ _ _ _ _ turn => exact fun d hd => h d (turn.sublist.subset hd)
  | clear => exact List.forall_mem_nil _

/-- Only handing a command out marks it. -/
theorem unmarked_step (moves : Moves delay udid q i (step delay s i).outcome q')
    (unhanded : ∀ p t, ¬ (step delay s i).Hands udid uuid p t) (h : Unmarked uuid q) :
    Unmarked uuid q' := by
  simp only [step] at moves unhanded
  generalize (perform delay s i).2 = o at moves unhanded
  cases moves with
  | refused => exact h
  | elsewhere => exact h
  | enqueue => exact h
  | exchange r now x _ here turn =>
    cases payload : x.payload with
    | none =>
      rcases (unhanded_of_turn turn payload).2 with same | none
      · rw [Unmarked, DeviceQueue.inFlightUuid?, same]
        exact h
      · exact unmarked_of_free none
    | some p =>
      obtain ⟨d, -, delivered, -, marker, -⟩ := outstanding_of_turn turn payload
      rw [Unmarked, DeviceQueue.inFlightUuid?, marker]
      intro same
      cases same
      exact unhanded p now ⟨r, x, ⟨rfl, rfl, here⟩, payload, delivered⟩
  | clear => exact unmarked_of_free rfl

/-- A final outcome or a clear leaves no command with the identifier. -/
theorem gone_of_ends (h : Genuine s udid q) (ends : (step delay s i).Ends udid uuid) :
    ∃ q', Genuine (step delay s i).after udid q' ∧ Gone uuid q' := by
  obtain ⟨q', h', moves⟩ := genuine_step delay h i
  refine ⟨q', h', ?_⟩
  rcases ends with ⟨r, now, x, exchanges, final, rfl⟩ | ⟨asked, count, cleared⟩
  · obtain ⟨q'', found, turn⟩ := turn_of_exchanges h.found exchanges
    cases h'.found.symm.trans found
    obtain ⟨f, marker, named, behind⟩ := settled_of_turn turn final
    obtain ⟨c, rest, first, head⟩ := h.consistent.marked f marker
    have distinct := h.consistent.distinct
    rw [first, List.map_cons, List.nodup_cons] at distinct
    rw [first, List.tail_cons] at behind
    intro d hd same
    rw [behind] at hd
    have again : c.uuid = d.uuid := head.trans (named.trans same.symm)
    exact distinct.1 (again ▸ List.mem_map_of_mem hd)
  · rw [cleared] at moves
    cases moves with
    | elsewhere _ _ other =>
      rw [show i = _ from asked] at other
      exact absurd rfl other
    | clear => exact List.forall_mem_nil _

theorem unmarked_of_postpones (h : Genuine s udid q) (postpones : (step delay s i).Postpones udid uuid) :
    ∃ q', Genuine (step delay s i).after udid q' ∧ Unmarked uuid q' := by
  obtain ⟨r, now, x, exchanges, later, -⟩ := postpones
  obtain ⟨q', h', -⟩ := genuine_step delay h i
  obtain ⟨q'', found, turn⟩ := turn_of_exchanges h.found exchanges
  cases h'.found.symm.trans found
  refine ⟨q', h', unmarked_of_free ?_⟩
  rw [postponed_of_turn turn later]
  rfl

theorem rejects_of_unmarked (h : Genuine s udid q) (free : Unmarked uuid q) :
    (step delay s i).Rejects udid uuid := by
  rintro r now asked rfl device report rfl
  obtain ⟨e, refused, invalid⟩ := perform_refused delay now h.found device report free
  rw [show i = _ from asked]
  exact ⟨e, congrArg Prod.snd refused, invalid, congrArg Prod.fst refused⟩

/-- Where no command with the identifier is left, none was handed out. -/
theorem withholds_of_left (h : Genuine s udid q) (h' : Genuine (step delay s i).after udid q')
    (gone : Gone uuid q') : (step delay s i).Withholds udid uuid := by
  intro r now x exchanges
  obtain ⟨q'', found, turn⟩ := turn_of_exchanges h.found exchanges
  cases h'.found.symm.trans found
  cases payload : x.payload with
  | none =>
    rw [(unhanded_of_turn turn payload).1]
    exact ⟨nofun, fun _ _ => nofun⟩
  | some p =>
    obtain ⟨d, rest, delivered, rfl, -, first⟩ := outstanding_of_turn turn payload
    have hd : d ∈ q'.commands := by
      rw [first]
      exact List.mem_cons_self
    rw [delivered]
    refine ⟨fun same => gone d hd (Option.some.inj same), fun c named same => ?_⟩
    obtain ⟨b, own, body⟩ := h'.authentic d hd
    have one : b.uuid = c.uuid := Command.uuid_of_toWire (body.trans (Option.some.inj same))
    exact gone d hd (own.symm.trans (one.trans named))

theorem withholds_of_gone (h : Genuine s udid q) (gone : Gone uuid q) :
    (step delay s i).Withholds udid uuid := by
  intro r now x exchanges
  obtain ⟨q', h', moves⟩ := genuine_step delay h i
  have unqueued : ¬ (step delay s i).Queues udid uuid := by
    rintro ⟨c, t, wasEmpty, asked, -⟩
    cases exchanges.1.symm.trans asked
  exact withholds_of_left h h' (gone_step moves unqueued gone) r now x exchanges

end

/-! ### Runs -/

/-- In every history: after a step that ends a command of a device, and until its identifier is queued
for the device again, each report of the device on it is refused as invalid and leaves the store as it
was, and neither that step nor a later one hands the command out. After a step that postpones a
command, each report on it is refused in this way until it is handed out again. -/
theorem late_reports_refused (delay : Nat) (rs : List Request) (udid uuid : String)
    {before later : List Step} {k : Step} (split : trace delay .empty rs = before ++ k :: later) :
    (k.Ends udid uuid → k.Withholds udid uuid ∧
      ∀ mid j after, later = mid ++ j :: after → (∀ i ∈ mid, ¬ i.Queues udid uuid) →
        j.Rejects udid uuid ∧ j.Withholds udid uuid) ∧
    (k.Postpones udid uuid →
      ∀ mid j after, later = mid ++ j :: after → (∀ i ∈ mid, ∀ p t, ¬ i.Hands udid uuid p t) →
        j.Rejects udid uuid) := by
  obtain ⟨rs₁, a, rs₂, -, -, rfl, rfl⟩ := trace_split split
  obtain ⟨q, h⟩ := genuine_run delay rs₁ udid
  constructor
  · intro ends
    obtain ⟨q', h', gone⟩ := gone_of_ends h ends
    refine ⟨withholds_of_left h h' gone, fun mid j after rest unqueued => ?_⟩
    obtain ⟨rs₃, b, -, -, rfl, rfl, -⟩ := trace_split rest
    obtain ⟨q'', h'', still⟩ :=
      kept_run (Gone uuid) (fun i => ¬ i.Queues udid uuid) (fun _ => gone_step) rs₃ h' gone unqueued
    exact ⟨rejects_of_unmarked h'' (still.unmarked h''.consistent.marked), withholds_of_gone h'' still⟩
  · intro postpones mid j after rest unhanded
    obtain ⟨q', h', free⟩ := unmarked_of_postpones h postpones
    obtain ⟨rs₃, b, -, -, rfl, rfl, -⟩ := trace_split rest
    obtain ⟨q'', h'', still⟩ :=
      kept_run (Unmarked uuid) (fun i => ∀ p t, ¬ i.Hands udid uuid p t) (fun _ => unmarked_step) rs₃ h'
        free unhanded
    exact rejects_of_unmarked h'' still

def handedFirst : List Request :=
  [.enqueue "D" ⟨"c-1", .restartDevice⟩ (.ofNanos 0), .enqueue "D" ⟨"c-2", .securityInfo⟩ (.ofNanos 1),
    .acknowledge (.asks "D") (.ofNanos 2)]

theorem exchanges_handedFirst (status : Status) (report : status ≠ .idle) :
    ∃ x, (step 5 (run 5 .empty handedFirst)
      (.acknowledge (.reports "D" status "c-1") (.ofNanos 3))).Exchanges "D"
        (.reports "D" status "c-1") (.ofNanos 3) x := by
  let first : QueuedCommand := queued ⟨"c-1", .restartDevice⟩ (.ofNanos 0)
  let second : QueuedCommand := queued ⟨"c-2", .securityInfo⟩ (.ofNanos 1)
  have put (s : Store) (q : DeviceQueue) : (s.putQueue "D" q).queue "D" = .ok q :=
    (Store.queue_putQueue s "D" "D" q).trans (if_pos rfl)
  have one : perform 5 .empty (.enqueue "D" ⟨"c-1", .restartDevice⟩ (.ofNanos 0)) =
      (Store.empty.putQueue "D" ⟨[first], none⟩, .queued true) :=
    perform_enqueue 5 _ (by decide) (Store.queue_empty "D") rfl
  let s := Store.empty.putQueue "D" ⟨[first], none⟩
  have two : perform 5 s (.enqueue "D" ⟨"c-2", .securityInfo⟩ (.ofNanos 1)) =
      (s.putQueue "D" ⟨[first, second], none⟩, .queued false) :=
    perform_enqueue 5 _ (by decide) (put .empty _) rfl
  obtain ⟨x, given⟩ := perform_asks 5 (by decide) (put s ⟨[first, second], none⟩) rfl (.ofNanos 2)
  have last : (run 5 .empty handedFirst).queue "D" =
      .ok ⟨[first, second], some ⟨"c-1", .ofNanos 2⟩⟩ := by
    rw [handedFirst, run_cons, run_cons, run_cons, run_nil, one, two, given]
    exact put _ _
  rcases Exchange.run_cases ⟨[first, second], some ⟨"c-1", .ofNanos 2⟩⟩ (.reports "D" status "c-1")
    (.ofNanos 3) 5 with ⟨q', x, accepted⟩ | ⟨e, refused, -⟩
  · refine ⟨x, exchanges_of_perform (perform_acknowledge rfl ?_ (show "D" ≠ "" by decide) last accepted)⟩
    cases status <;> rfl
  · cases refused with
    | free _ none => cases none
    | other _ uuid delivered differs =>
      cases delivered
      exact absurd rfl differs

/-- The device postpones the first command and reports then that it is done, or it reports this twice,
when the second command is the delivered one: the last report is refused. -/
theorem late_reports_refused_twice :
    let request (status : Status) (t : Int) := Request.acknowledge (.reports "D" status "c-1") (.ofNanos t)
    let s := run 5 .empty handedFirst
    let k := step 5 s (request .notNow 3)
    let k' := step 5 s (request .acknowledged 3)
    let j := step 5 k.after (request .acknowledged 4)
    let j' := step 5 k'.after (request .acknowledged 4)
    (k.Postpones "D" "c-1" ∧ ∃ e, j.outcome = .refused e ∧ e.kind = .validation ∧ j.after = j.before) ∧
      k'.Ends "D" "c-1" ∧ ∃ e, j'.outcome = .refused e ∧ e.kind = .validation ∧ j'.after = j'.before := by
  intro request s k k' j j'
  have split (status : Status) : trace 5 .empty (handedFirst ++
      [request status 3, request .acknowledged 4]) = trace 5 .empty handedFirst ++
        step 5 s (request status 3) :: [step 5 (step 5 s (request status 3)).after
          (request .acknowledged 4)] := trace_append _ _ _ _
  obtain ⟨x, postponed⟩ := exchanges_handedFirst .notNow (by decide)
  obtain ⟨y, settled⟩ := exchanges_handedFirst .acknowledged (by decide)
  have postpones : k.Postpones "D" "c-1" := ⟨_, _, x, postponed, rfl, rfl⟩
  have ends : k'.Ends "D" "c-1" := .inl ⟨_, _, y, settled, rfl, rfl⟩
  have late : j.Rejects "D" "c-1" :=
    (late_reports_refused 5 _ "D" "c-1" (split .notNow)).2 postpones [] j [] rfl (List.forall_mem_nil _)
  have again : j'.Rejects "D" "c-1" :=
    ((late_reports_refused 5 _ "D" "c-1" (split .acknowledged)).1 ends).2 [] j' [] rfl
      (List.forall_mem_nil _) |>.1
  exact ⟨⟨postpones, late _ _ rfl rfl rfl (by decide) rfl⟩, ends, again _ _ rfl rfl rfl (by decide) rfl⟩

end DeviceFleet.Delivery
