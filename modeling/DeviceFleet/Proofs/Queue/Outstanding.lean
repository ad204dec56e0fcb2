import Mathlib.Data.List.Induction
import DeviceFleet.Proofs.Queue.History

/-! A device has at most one command whose outcome is outstanding. Once a command was handed out,
the next one that is handed out comes after an outcome of it or after the queue was cleared, or it
is the same command again and the delay has passed. Only then is it said to be handed out again. -/

namespace DeviceFleet.Delivery

/-- The step is an accepted exchange with the device. -/
def Step.Exchanges (udid : String) (i : Step) (r : Response) (now : Instant) (x : Exchange) : Prop :=
  i.request = .acknowledge r now ∧ i.outcome = .exchanged x ∧ r.udid = udid

theorem exchanges_of_perform {delay : Nat} {s t : Store} {r : Response} {now : Instant}
    {x : Exchange} (h : perform delay s (.acknowledge r now) = (t, .exchanged x)) :
    (step delay s (.acknowledge r now)).Exchanges r.udid r now x :=
  ⟨rfl, congrArg Prod.snd h, rfl⟩

def Step.Hands (udid : String) (i : Step) (uuid : String) (p : Bytes) (t : Instant) : Prop :=
  ∃ r x, i.Exchanges udid r t x ∧ x.payload = some p ∧ x.delivered = some uuid

def Step.Silent (udid : String) (i : Step) : Prop :=
  ∀ r t x, i.Exchanges udid r t x → x.payload = none

/-- The step accepts an outcome of the command: that it is done, has failed or has to wait. -/
def Step.Reports (udid : String) (i : Step) (uuid : String) : Prop :=
  ∃ r now x, i.Exchanges udid r now x ∧ r.status ≠ .idle ∧ r.command = uuid

def Step.Clears (udid : String) (i : Step) : Prop :=
  i.request = .clear udid ∧ ∃ count, i.outcome = .cleared count

/-! ### What one step makes of a delivered command -/

/-- The command was handed to the device at the time and has no outcome. -/
def Outstanding (s : Store) (udid uuid : String) (p : Bytes) (t : Instant) : Prop :=
  ∃ q d rest, s.queue udid = .ok q ∧ q.inFlight = some ⟨uuid, t⟩ ∧ q.commands = d :: rest ∧
    d.uuid = uuid ∧ d.payload = p

theorem handOut_cases (q : DeviceQueue) (done : Option (QueuedCommand × Status)) (again : Bool)
    (now : Instant) :
    ((Exchange.handOut q done again now).2.payload = none ∧
        (Exchange.handOut q done again now).1 = q ∧ q.commands = []) ∨
      ∃ d rest, q.commands = d :: rest ∧
        (Exchange.handOut q done again now).2.payload = some d.payload ∧
        (Exchange.handOut q done again now).2.delivered = some d.uuid ∧
        (Exchange.handOut q done again now).1 = { q with inFlight := some ⟨d.uuid, now⟩ } := by
  obtain ⟨commands, inFlight⟩ := q
  cases commands with
  | nil => exact .inl ⟨rfl, rfl, rfl⟩
  | cons d rest => exact .inr ⟨d, rest, rfl, rfl, rfl, rfl⟩

/-- What an exchange hands out is outstanding then. -/
theorem outstanding_of_turn {q q' : DeviceQueue} {r : Response} {now : Instant} {delay : Nat}
    {x : Exchange} (turn : Exchange.Turn q r now delay q' x) {p : Bytes} (hp : x.payload = some p) :
    ∃ d rest, x.delivered = some d.uuid ∧ d.payload = p ∧ q'.inFlight = some ⟨d.uuid, now⟩ ∧
      q'.commands = d :: rest := by
  have handed (q : DeviceQueue) (done : Option (QueuedCommand × Status)) (again : Bool)
      (hp : (Exchange.handOut q done again now).2.payload = some p) :
      ∃ d rest, (Exchange.handOut q done again now).2.delivered = some d.uuid ∧ d.payload = p ∧
        (Exchange.handOut q done again now).1.inFlight = some ⟨d.uuid, now⟩ ∧
        (Exchange.handOut q done again now).1.commands = d :: rest := by
    rcases handOut_cases q done again now with ⟨none, -, -⟩ | ⟨d, rest, first, payload, uuid, after⟩
    · rw [none] at hp
      cases hp
    · rw [payload] at hp
      rw [after]
      exact ⟨d, rest, uuid, Option.some.inj hp, rfl, first⟩
  cases turn with
  | first => exact handed _ _ _ hp
  | again => exact handed _ _ _ hp
  | wait => cases hp
  | postpone => cases hp
  | settle => exact handed _ _ _ hp

/-- An accepted exchange is a turn of the queue of its device. -/
theorem turn_of_exchanges {delay : Nat} {s : Store} {udid : String} {q : DeviceQueue}
    (hq : s.queue udid = .ok q) {i : Request} {r : Response} {now : Instant} {x : Exchange}
    (h : (step delay s i).Exchanges udid r now x) :
    ∃ q', (step delay s i).after.queue udid = .ok q' ∧ Exchange.Turn q r now delay q' x := by
  obtain ⟨q', hq', moves⟩ := moves_perform delay hq i
  obtain ⟨asked, accepted, here⟩ := h
  simp only [step] at asked accepted ⊢
  rw [accepted] at moves
  refine ⟨q', hq', ?_⟩
  cases moves with
  | elsewhere _ _ other =>
    rw [asked] at other
    exact absurd here other
  | exchange r' now' _ _ _ turn =>
    cases asked
    exact turn

theorem outstanding_of_hands {delay : Nat} {s : Store} {udid : String} {q : DeviceQueue}
    (hq : s.queue udid = .ok q) {i : Request} {r : Response} {now : Instant} {x : Exchange}
    (h : (step delay s i).Exchanges udid r now x) {p : Bytes} (hp : x.payload = some p) :
    ∃ uuid, x.delivered = some uuid ∧ Outstanding (step delay s i).after udid uuid p now := by
  obtain ⟨q', hq', turn⟩ := turn_of_exchanges hq h
  obtain ⟨d, rest, uuid, payload, marker, first⟩ := outstanding_of_turn turn hp
  exact ⟨d.uuid, uuid, q', d, rest, hq', marker, first, rfl, payload⟩

/-- A command stays outstanding until its outcome is reported, the queue is cleared, or it is
handed out again after the delay. -/
theorem outstanding_step (delay : Nat) {s : Store} {udid uuid : String} {p : Bytes} {t : Instant}
    (h : Outstanding s udid uuid p t) (i : Request) :
    (step delay s i).Reports udid uuid ∨ (step delay s i).Clears udid ∨
      (∃ r now x, (step delay s i).Exchanges udid r now x ∧ x.payload = some p ∧
        x.delivered = some uuid ∧ x.redelivered = true ∧ (delay : Int) ≤ now.since t) ∨
      (step delay s i).Silent udid ∧ Outstanding (step delay s i).after udid uuid p t := by
  obtain ⟨q, d, rest, hq, marker, first, same, payload⟩ := h
  obtain ⟨q', hq', moves⟩ := moves_perform delay hq i
  simp only [step]
  generalize (perform delay s i).1 = after at hq' ⊢
  generalize (perform delay s i).2 = o at moves ⊢
  cases moves with
  | refused _ e =>
    refine .inr (.inr (.inr ⟨?_, q, d, rest, hq', marker, first, same, payload⟩))
    rintro r now x ⟨-, accepted, -⟩
    cases accepted
  | elsewhere _ _ other =>
    refine .inr (.inr (.inr ⟨?_, q, d, rest, hq', marker, first, same, payload⟩))
    rintro r now x ⟨asked, -, here⟩
    rw [show i = _ from asked] at other
    exact absurd here other
  | enqueue c now wasEmpty fresh =>
    refine .inr (.inr (.inr ⟨?_, q.push (queued c now), d, rest ++ [queued c now], hq', marker, ?_, same,
      payload⟩))
    · rintro r now x ⟨asked, -, -⟩
      cases asked
    · rw [DeviceQueue.push, first, List.cons_append]
  | exchange r now x _ here turn =>
    have exchanges : (⟨s, .acknowledge r now, .exchanged x, after⟩ : Step).Exchanges udid r now x :=
      ⟨rfl, rfl, here⟩
    cases turn with
    | first _ free =>
      rw [marker] at free
      cases free
    | again f _ marked due =>
      cases marker.symm.trans marked
      simp only [Exchange.isDue, Bool.and_eq_true, decide_eq_true_eq] at due
      refine .inr (.inr (.inl ⟨r, now, _, exchanges, ?_, ?_, rfl, due.2⟩))
      · rw [Exchange.handOut, DeviceQueue.head?, first]
        exact congrArg some payload
      · rw [Exchange.handOut, DeviceQueue.head?, first]
        exact congrArg some same
    | wait f _ _ _ =>
      refine .inr (.inr (.inr ⟨?_, q, d, rest, hq', marker, first, same, payload⟩))
      rintro r now x ⟨-, accepted, -⟩
      cases accepted
      rfl
    | postpone f later marked named =>
      cases marker.symm.trans marked
      refine .inl ⟨r, now, _, exchanges, ?_, named.symm⟩
      rw [later]
      decide
    | settle f final marked named =>
      cases marker.symm.trans marked
      refine .inl ⟨r, now, _, exchanges, ?_, named.symm⟩
      intro idle
      rw [idle] at final
      cases final
  | clear => exact .inr (.inl ⟨rfl, q.size, rfl⟩)

/-- The same over steps that hand out nothing. -/
theorem outstanding_run (delay : Nat) {udid uuid : String} {p : Bytes} {t : Instant}
    (rs : List Request) {s : Store} (h : Outstanding s udid uuid p t)
    (silent : ∀ k ∈ trace delay s rs, k.Silent udid) :
    (∃ k ∈ trace delay s rs, k.Reports udid uuid ∨ k.Clears udid) ∨
      Outstanding (run delay s rs) udid uuid p t := by
  induction rs generalizing s with
  | nil => exact .inr h
  | cons i rs ih =>
    rw [trace] at silent ⊢
    obtain ⟨quiet, others⟩ := List.forall_mem_cons.1 silent
    rcases outstanding_step delay h i with
      reports | clears | ⟨r, now, x, exchanges, handed, -⟩ | ⟨-, still⟩
    · exact .inl ⟨_, List.mem_cons_self, .inl reports⟩
    · exact .inl ⟨_, List.mem_cons_self, .inr clears⟩
    · rw [quiet r now x exchanges] at handed
      cases handed
    · rcases ih still others with ⟨k, hk, settled⟩ | last
      · exact .inl ⟨k, List.mem_cons_of_mem _ hk, settled⟩
      · exact .inr last

/-! ### Where a marker comes from -/

/-- The marker of the queue is that of an earlier step, which handed out the head; since then
nothing was handed out and nothing settled it. -/
def Explained (before : List Step) (udid : String) (q : DeviceQueue) : Prop :=
  ∀ f, q.inFlight = some f → ∃ pre i mid d rest, before = pre ++ i :: mid ∧ q.commands = d :: rest ∧
    d.uuid = f.commandUuid ∧ i.Hands udid d.uuid d.payload f.deliveredAt ∧
    ∀ k ∈ mid, k.Silent udid ∧ ¬ k.Reports udid d.uuid ∧ ¬ k.Clears udid

theorem explained_of_free {before : List Step} {udid : String} {q : DeviceQueue}
    (h : q.inFlight = none) : Explained before udid q := by
  intro f marked
  rw [h] at marked
  cases marked

/-- A step that hands out nothing and settles nothing leaves a marker explained, also when
commands are put behind the head. -/
theorem Explained.later {before : List Step} {udid : String} {q : DeviceQueue}
    (h : Explained before udid q) {k : Step} (silent : k.Silent udid)
    (unreported : ∀ uuid, ¬ k.Reports udid uuid) (kept : ¬ k.Clears udid) (more : List QueuedCommand) :
    Explained (before ++ [k]) udid { q with commands := q.commands ++ more } := by
  intro f marked
  obtain ⟨pre, i, mid, d, rest, rfl, first, named, hands, calm⟩ := h f marked
  refine ⟨pre, i, mid ++ [k], d, rest ++ more, ?_, ?_, named, hands, ?_⟩
  · rw [List.append_assoc, List.cons_append]
  · show q.commands ++ more = _
    rw [first, List.cons_append]
  · intro j hj
    rcases List.mem_append.1 hj with hj | hj
    · exact calm j hj
    · rw [List.mem_singleton.1 hj]
      exact ⟨silent, unreported _, kept⟩

theorem Explained.same {before : List Step} {udid : String} {q : DeviceQueue}
    (h : Explained before udid q) {k : Step} (silent : k.Silent udid)
    (unreported : ∀ uuid, ¬ k.Reports udid uuid) (kept : ¬ k.Clears udid) :
    Explained (before ++ [k]) udid q := by
  have later := h.later silent unreported kept []
  rw [List.append_nil] at later
  exact later

theorem silent_of_no_exchange (udid : String) (k : Step) (h : ∀ r t x, ¬ k.Exchanges udid r t x) :
    k.Silent udid ∧ ∀ uuid, ¬ k.Reports udid uuid :=
  ⟨fun r t x exchanges => absurd exchanges (h r t x),
    fun _ ⟨r, t, x, exchanges, _⟩ => absurd exchanges (h r t x)⟩

theorem explained_of_handOut (before : List Step) {udid : String} {q : DeviceQueue}
    {done : Option (QueuedCommand × Status)} {again : Bool} {r : Response} {now : Instant} {k : Step}
    (exchanges : k.Exchanges udid r now (Exchange.handOut q done again now).2)
    (free : q.commands = [] → q.inFlight = none) :
    Explained (before ++ [k]) udid (Exchange.handOut q done again now).1 := by
  rcases handOut_cases q done again now with ⟨-, same, none⟩ | ⟨d, rest, first, payload, uuid, next⟩
  · rw [same]
    exact explained_of_free (free none)
  · rw [next]
    intro f marker
    cases marker
    exact ⟨before, k, [], d, rest, rfl, first, rfl, ⟨r, _, exchanges, payload, uuid⟩,
      List.forall_mem_nil _⟩

/-- An exchange of the device keeps the marker explained. -/
theorem explained_turn {before : List Step} {udid : String} {q q' : DeviceQueue} (marked : q.Marked)
    (h : Explained before udid q) {r : Response} {now : Instant} {delay : Nat} {x : Exchange}
    (turn : Exchange.Turn q r now delay q' x) {k : Step} (exchanges : k.Exchanges udid r now x) :
    Explained (before ++ [k]) udid q' := by
  cases turn with
  | first _ free => exact explained_of_handOut before exchanges fun _ => free
  | again f _ marker _ =>
    apply explained_of_handOut before exchanges
    intro none
    obtain ⟨d, rest, first, -⟩ := marked f marker
    rw [first] at none
    cases none
  | wait f idle _ _ =>
    obtain ⟨asked, accepted, -⟩ := exchanges
    refine h.same ?_ ?_ ?_
    · rintro r' t x ⟨-, accepted', -⟩
      cases accepted.symm.trans accepted'
      rfl
    · rintro uuid ⟨r', t, x, ⟨asked', -, -⟩, report, -⟩
      cases asked.symm.trans asked'
      exact report idle
    · rintro ⟨asked', -⟩
      cases asked.symm.trans asked'
  | postpone => exact explained_of_free rfl
  | settle => exact explained_of_handOut before exchanges fun _ => rfl

theorem explained_step (delay : Nat) {before : List Step} {s : Store} {udid : String} {q : DeviceQueue}
    (hq : s.queue udid = .ok q) (marked : q.Marked) (h : Explained before udid q) (i : Request) :
    ∃ q', (step delay s i).after.queue udid = .ok q' ∧ q'.Marked ∧
      Explained (before ++ [step delay s i]) udid q' := by
  obtain ⟨q', hq', moves⟩ := moves_perform delay hq i
  refine ⟨q', hq', moves.marked marked, ?_⟩
  simp only [step]
  generalize (perform delay s i).1 = after
  generalize (perform delay s i).2 = o at moves ⊢
  cases moves with
  | refused _ e =>
    obtain ⟨silent, unreported⟩ := silent_of_no_exchange udid ⟨s, i, .refused e, after⟩ (by
      rintro r t x ⟨-, accepted, -⟩
      cases accepted)
    apply h.same silent unreported
    rintro ⟨-, _, cleared⟩
    cases cleared
  | elsewhere _ _ other =>
    obtain ⟨silent, unreported⟩ := silent_of_no_exchange udid ⟨s, i, o, after⟩ (by
      rintro r t x ⟨asked, -, here⟩
      rw [show i = _ from asked] at other
      exact other here)
    apply h.same silent unreported
    rintro ⟨rfl, -⟩
    exact other rfl
  | enqueue c now wasEmpty fresh =>
    obtain ⟨silent, unreported⟩ := silent_of_no_exchange udid
      ⟨s, .enqueue udid c now, .queued wasEmpty, after⟩ (by
        rintro r t x ⟨asked, -, -⟩
        cases asked)
    refine h.later silent unreported ?_ [queued c now]
    rintro ⟨asked, -⟩
    cases asked
  | exchange r now x _ here turn => exact explained_turn marked h turn ⟨rfl, rfl, here⟩
  | clear => exact explained_of_free rfl

theorem explained_run (delay : Nat) (rs : List Request) (udid : String) :
    ∃ q, (run delay .empty rs).queue udid = .ok q ∧ q.Marked ∧
      Explained (trace delay .empty rs) udid q := by
  induction rs using List.reverseRecOn with
  | nil => exact ⟨.empty, Store.queue_empty udid, DeviceQueue.marked_empty, explained_of_free rfl⟩
  | append_singleton rs i ih =>
    obtain ⟨q, hq, marked, explained⟩ := ih
    rw [run_append, trace_append]
    exact explained_step delay hq marked explained i

/-! ### Pairs of deliveries -/

/-- An outcome of the command was accepted after a delivery of it and up to `j`, or the queue was
cleared between the two. -/
def Settled (udid uuid : String) (between : List Step) (j : Step) : Prop :=
  (∃ k ∈ between ++ [j], k.Reports udid uuid) ∨ ∃ k ∈ between, k.Clears udid

/-- The store after a step is the one that the next steps start from. -/
theorem trace_after {delay : Nat} {rs : List Request} {pre mid after : List Step} {i j : Step}
    (h : trace delay .empty rs = pre ++ i :: mid ++ j :: after) :
    ∃ rs₁ a rs₂ b, i = step delay (run delay .empty rs₁) a ∧ mid = trace delay i.after rs₂ ∧
      j = step delay (run delay i.after rs₂) b := by
  rw [List.append_assoc, List.cons_append] at h
  obtain ⟨rs₁, a, more, -, -, first, tail⟩ := trace_split h
  obtain ⟨rs₂, b, -, -, between, last, -⟩ := trace_split tail.symm
  exact ⟨rs₁, a, rs₂, b, first, between, last⟩

/-- An exchange that hands out something after a delivery has the same command again, after the
delay, or the command is settled. -/
theorem settled_or_again {delay : Nat} {rs : List Request} {udid : String}
    {pre mid after : List Step} {i j : Step}
    (split : trace delay .empty rs = pre ++ i :: mid ++ j :: after)
    {rᵢ r : Response} {t now : Instant} {xᵢ x : Exchange} (hi : i.Exchanges udid rᵢ t xᵢ)
    (hj : j.Exchanges udid r now x) {p : Bytes} (given : xᵢ.payload = some p)
    (silent : ∀ k ∈ mid, k.Silent udid) (given' : x.payload ≠ none) :
    ∃ uuid, xᵢ.delivered = some uuid ∧
      (Settled udid uuid mid j ∨
        x.payload = some p ∧ x.delivered = some uuid ∧ x.redelivered = true ∧
          (delay : Int) ≤ now.since t) := by
  obtain ⟨rs₁, a, rs₂, b, rfl, rfl, rfl⟩ := trace_after split
  obtain ⟨q, hq, -, -⟩ := explained_run delay rs₁ udid
  obtain ⟨uuid, delivered, waits⟩ := outstanding_of_hands hq hi given
  refine ⟨uuid, delivered, ?_⟩
  rcases outstanding_run delay rs₂ waits silent with ⟨k, hk, reports | clears⟩ | still
  · exact .inl (.inl ⟨k, List.mem_append_left _ hk, reports⟩)
  · exact .inl (.inr ⟨k, hk, clears⟩)
  · rcases outstanding_step delay still b with
      reports | ⟨asked, -⟩ | ⟨r', now', x', same, again⟩ | ⟨quiet, -⟩
    · exact .inl (.inl ⟨_, List.mem_append_right _ List.mem_cons_self, reports⟩)
    · rw [hj.1] at asked
      cases asked
    · cases hj.1.symm.trans same.1
      cases hj.2.1.symm.trans same.2.1
      exact .inr again
    · exact absurd (quiet r now x hj) given'

/-- What is said to be handed out again was handed out before, is not settled and is due. -/
theorem handed_before {delay : Nat} {rs : List Request} {udid : String} {before after : List Step}
    {j : Step} (split : trace delay .empty rs = before ++ j :: after) {r : Response} {now : Instant}
    {x : Exchange} (hj : j.Exchanges udid r now x) (again : x.redelivered = true) :
    ∃ pre i mid uuid p t, before = pre ++ i :: mid ∧ i.Hands udid uuid p t ∧
      (∀ k ∈ mid, k.Silent udid) ∧ ¬ Settled udid uuid mid j ∧ x.payload = some p ∧
      x.delivered = some uuid ∧ (delay : Int) ≤ now.since t := by
  obtain ⟨rs₁, b, rs₂, -, rfl, rfl, -⟩ := trace_split split
  obtain ⟨q, hq, -, explained⟩ := explained_run delay rs₁ udid
  obtain ⟨q', -, turn⟩ := turn_of_exchanges hq hj
  cases turn with
  | first => cases again
  | wait => cases again
  | postpone => cases again
  | settle => cases again
  | again f idle marker due =>
    obtain ⟨pre, i, mid, d, rest, same, first, named, hands, calm⟩ := explained f marker
    simp only [Exchange.isDue, Bool.and_eq_true, decide_eq_true_eq] at due
    refine ⟨pre, i, mid, d.uuid, d.payload, f.deliveredAt, same, hands, fun k hk => (calm k hk).1,
      ?_, ?_, ?_, due.2⟩
    · rintro (⟨k, hk, reports⟩ | ⟨k, hk, clears⟩)
      · rcases List.mem_append.1 hk with hk | hk
        · exact (calm k hk).2.1 reports
        · obtain ⟨r', now', x', ⟨asked, -, -⟩, report, -⟩ := List.mem_singleton.1 hk ▸ reports
          cases hj.1.symm.trans asked
          exact report idle
      · exact (calm k hk).2.2 clears
    · rw [Exchange.handOut, DeviceQueue.head?, first]
      rfl
    · rw [Exchange.handOut, DeviceQueue.head?, first]
      rfl

/-- Between two deliveries in a row the command of the first is settled, or the second has the
same command, says so, and comes after the delay. An exchange says that it hands out a command
again in this case only, and it does hand it out. -/
theorem settled_or_redelivered (delay : Nat) (rs : List Request) (udid : String)
    {before after : List Step} {j : Step} (split : trace delay .empty rs = before ++ j :: after)
    {r : Response} {now : Instant} {x : Exchange} (hj : j.Exchanges udid r now x) :
    (∀ pre i mid rᵢ t xᵢ p, before = pre ++ i :: mid → i.Exchanges udid rᵢ t xᵢ →
        xᵢ.payload = some p → (∀ k ∈ mid, k.Silent udid) → x.payload ≠ none →
        ∃ uuid, xᵢ.delivered = some uuid ∧
          (Settled udid uuid mid j ∨
            x.payload = some p ∧ x.delivered = some uuid ∧ x.redelivered = true ∧
              (delay : Int) ≤ now.since t)) ∧
      (x.redelivered = true ↔
        ∃ pre i mid uuid p t, before = pre ++ i :: mid ∧ i.Hands udid uuid p t ∧
          (∀ k ∈ mid, k.Silent udid) ∧ ¬ Settled udid uuid mid j ∧ x.payload = some p ∧
          x.delivered = some uuid ∧ (delay : Int) ≤ now.since t) := by
  refine ⟨?_, handed_before split hj, ?_⟩
  · rintro pre i mid rᵢ t xᵢ p rfl hi given silent given'
    exact settled_or_again split hi hj given silent given'
  · rintro ⟨pre, i, mid, uuid, p, t, rfl, ⟨rᵢ, xᵢ, hi, given, delivered⟩, silent, unsettled, handed, -, -⟩
    have given' : x.payload ≠ none := by
      rw [handed]
      exact Option.some_ne_none p
    obtain ⟨uuid', same, settled | ⟨-, -, again, -⟩⟩ := settled_or_again split hi hj given silent given'
    · cases delivered.symm.trans same
      exact absurd settled unsettled
    · exact again

def asking : Response := ⟨"D", none, .idle, none, none, []⟩

def delivery (c : Command) (t : Instant) : List Request :=
  [.enqueue "D" c t, .acknowledge asking t]

/-- A device that asks again after the delay gets the command again. -/
theorem exchanges_again {delay : Nat} {c : Command} {early late : Instant}
    (due : Exchange.isDue ⟨c.uuid, early⟩ late delay = true) :
    (step delay (run delay .empty (delivery c early)) (.acknowledge asking late)).Exchanges "D"
      asking late ⟨some c.toWire, some c.uuid, none, true, 1⟩ := by
  let q : DeviceQueue := ⟨[queued c early], none⟩
  let marked : DeviceQueue := ⟨[queued c early], some ⟨c.uuid, early⟩⟩
  have put (s : Store) (q : DeviceQueue) : (s.putQueue "D" q).queue "D" = .ok q :=
    (Store.queue_putQueue s "D" "D" q).trans (if_pos rfl)
  have first : perform delay .empty (.enqueue "D" c early) = (Store.empty.putQueue "D" q, .queued true) :=
    perform_enqueue delay early (by decide) (Store.queue_empty "D") rfl
  have given : Exchange.run q asking early delay =
      .ok (marked, ⟨some c.toWire, some c.uuid, none, false, 1⟩) := rfl
  have second := perform_acknowledge (r := asking) rfl rfl (by decide) (put .empty q) given
  have last : run delay .empty (delivery c early) = (Store.empty.putQueue "D" q).putQueue "D" marked := by
    rw [delivery, run_cons, run_cons, run_nil, first, second]
    rfl
  have offered : Exchange.run marked asking late delay =
      .ok (⟨[queued c early], some ⟨c.uuid, late⟩⟩,
        ⟨some c.toWire, some c.uuid, none, true, 1⟩) := by
    simp only [Exchange.run, asking, if_true, Exchange.offer, marked, due]
    rfl
  rw [last]
  exact exchanges_of_perform
    (perform_acknowledge (r := asking) rfl rfl (by decide) (put _ marked) offered)

/-- A delivery that got lost is offered again ten nanoseconds later, where the delay is five. -/
theorem settled_or_redelivered_lost :
    let c : Command := ⟨"c-1", .restartDevice⟩
    let rs := delivery c (.ofNanos 0)
    let j := step 5 (run 5 .empty rs) (.acknowledge asking (.ofNanos 10))
    let x : Exchange := ⟨some c.toWire, some "c-1", none, true, 1⟩
    trace 5 .empty (rs ++ [.acknowledge asking (.ofNanos 10)]) = trace 5 .empty rs ++ j :: [] ∧
      j.Exchanges "D" asking (.ofNanos 10) x ∧
      ∃ pre i mid uuid p t, trace 5 .empty rs = pre ++ i :: mid ∧ i.Hands "D" uuid p t ∧
        (∀ k ∈ mid, k.Silent "D") ∧ ¬ Settled "D" uuid mid j ∧ x.payload = some p ∧
        x.delivered = some uuid ∧ ((5 : Nat) : Int) ≤ (Instant.ofNanos 10).since t := by
  intro c rs j x
  have split : trace 5 .empty (rs ++ [.acknowledge asking (.ofNanos 10)]) =
      trace 5 .empty rs ++ j :: [] := trace_append _ _ _ _
  have due : Exchange.isDue ⟨"c-1", .ofNanos 0⟩ (.ofNanos 10) 5 = true := by decide
  have again : j.Exchanges "D" asking (.ofNanos 10) x := exchanges_again due
  exact ⟨split, again, (settled_or_redelivered 5 _ "D" split again).2.1 rfl⟩

end DeviceFleet.Delivery
