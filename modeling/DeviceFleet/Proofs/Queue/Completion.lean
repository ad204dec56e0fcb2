import DeviceFleet.Proofs.Queue.WellFormed

/-! Every queue can be worked off. If all its commands have identifiers, the device can report them
one after another, at whatever times, and each of its responses is accepted. A command without an
identifier is queued and delivered as well, but no report can name it, so it stays in front for ever:
reports that name no command are refused before they reach the queue. -/

namespace DeviceFleet

def Response.asks (udid : String) : Response := ⟨udid, none, .idle, none, none, []⟩

def Response.reports (udid : String) (status : Status) (uuid : String) : Response :=
  ⟨udid, none, status, some uuid, none, []⟩

namespace Delivery

def answers (as : List (Response × Instant)) : List Request := as.map fun a => .acknowledge a.1 a.2

def Step.Accepted (k : Step) : Prop := ∃ x, k.outcome = .exchanged x

/-- The responses are accepted one after another, and then the queue of the device is empty. -/
def Completes (delay : Nat) (s : Store) (udid : String) (as : List (Response × Instant)) : Prop :=
  (∀ k ∈ trace delay s (answers as), k.Accepted) ∧
    (run delay s (answers as)).queue udid = .ok .empty

variable {delay : Nat} {s : Store} {udid : String}

theorem completes_nil (h : s.queue udid = .ok .empty) : Completes delay s udid [] :=
  ⟨List.forall_mem_nil _, h⟩

theorem Completes.cons {t : Store} {r : Response} {now : Instant} {x : Exchange}
    {as : List (Response × Instant)} (first : perform delay s (.acknowledge r now) = (t, .exchanged x))
    (h : Completes delay t udid as) : Completes delay s udid ((r, now) :: as) := by
  obtain ⟨accepted, empty⟩ := h
  simp only [Completes, answers, List.map_cons, trace, run_cons, first]
  refine ⟨List.forall_mem_cons.2 ⟨⟨x, ?_⟩, accepted⟩, empty⟩
  simp only [step, first]

/-! ### Reports that are accepted -/

/-- A report that the delivered command is done is accepted, and the device gets the next one. -/
theorem perform_reports (delay : Nat) {q : DeviceQueue} {f : InFlight} (named : udid ≠ "")
    (hq : s.queue udid = .ok q) (marked : q.inFlight = some f) (known : f.commandUuid ≠ "")
    (now : Instant) :
    ∃ x, perform delay s (.acknowledge (.reports udid .acknowledged f.commandUuid) now) =
      (s.putQueue udid (q.pop.deliver now), .exchanged x) := by
  have valid : (Response.reports udid .acknowledged f.commandUuid).validate = .ok () := by
    simp [Response.validate, Response.reports, Response.command, named, known]
  have run : Exchange.run q (.reports udid .acknowledged f.commandUuid) now delay =
      .ok (Exchange.handOut q.pop (q.head?.map (·, .acknowledged)) false now) := by
    simp [Exchange.run, Response.reports, Response.command, DeviceQueue.inFlightUuid?, marked,
      Exchange.offer, DeviceQueue.pop]
  exact ⟨_, perform_acknowledge rfl valid named hq run⟩

/-- A device that asks gets the head of a queue without a marker. -/
theorem perform_asks (delay : Nat) {q : DeviceQueue} (named : udid ≠ "") (hq : s.queue udid = .ok q)
    (free : q.inFlight = none) (now : Instant) :
    ∃ x, perform delay s (.acknowledge (.asks udid) now) =
      (s.putQueue udid (q.deliver now), .exchanged x) := by
  have valid : (Response.asks udid).validate = .ok () := by
    simp [Response.validate, Response.asks, Status.requiresCommand, named]
  have run : Exchange.run q (.asks udid) now delay = .ok (Exchange.handOut q none false now) := by
    simp [Exchange.run, Response.asks, Exchange.offer, free]
  exact ⟨_, perform_acknowledge rfl valid named hq run⟩

/-- The reports that work off the commands of a queue, one after another. -/
def reports (udid : String) (cs : List QueuedCommand) : List Response :=
  cs.map fun c => .reports udid .acknowledged c.uuid

/-- A queue whose head was delivered is worked off by the reports on its commands. The induction is on
the commands behind the head: each report delivers the next one. -/
theorem completes_reports (named : udid ≠ "") {c : QueuedCommand} {rest : List QueuedCommand}
    {f : InFlight} (hq : s.queue udid = .ok ⟨c :: rest, some f⟩) (head : c.uuid = f.commandUuid)
    (known : ∀ d ∈ c :: rest, d.uuid ≠ "") {times : List Instant}
    (length : times.length = rest.length + 1) :
    Completes delay s udid ((reports udid (c :: rest)).zip times) := by
  induction rest generalizing s c f times with
  | nil =>
    obtain ⟨now, rfl⟩ := List.length_eq_one_iff.1 length
    have delivered : f.commandUuid ≠ "" := head ▸ known c List.mem_cons_self
    obtain ⟨x, first⟩ := perform_reports delay named hq rfl delivered now
    rw [← head] at first
    refine .cons first (completes_nil ?_)
    rw [Store.queue_putQueue, if_pos rfl]
    rfl
  | cons d rest ih =>
    obtain ⟨now, later, rfl⟩ := List.exists_cons_of_length_eq_add_one length
    have delivered : f.commandUuid ≠ "" := head ▸ known c List.mem_cons_self
    obtain ⟨x, first⟩ := perform_reports delay named hq rfl delivered now
    rw [← head] at first
    refine .cons first (ih (f := ⟨d.uuid, now⟩) ?_ rfl ?_ (by simpa using length))
    · rw [Store.queue_putQueue, if_pos rfl]
      rfl
    · exact fun e he => known e (List.mem_cons_of_mem c he)

/-- The responses with which a device works off its queue. -/
def completion (udid : String) (q : DeviceQueue) : List Response :=
  if q.commands = [] then []
  else if q.inFlight = none then .asks udid :: reports udid q.commands
  else reports udid q.commands

theorem completes_completion {q : DeviceQueue} (hq : s.queue udid = .ok q) (marked : q.Marked)
    (named : q.commands ≠ [] → udid ≠ "") (known : ∀ c ∈ q.commands, c.uuid ≠ "")
    {times : List Instant} (length : times.length = (completion udid q).length) :
    Completes delay s udid ((completion udid q).zip times) := by
  obtain ⟨commands, inFlight⟩ := q
  cases commands with
  | nil =>
    cases marked.free_of_nil rfl
    exact completes_nil hq
  | cons c rest =>
    have udid_ne : udid ≠ "" := named (List.cons_ne_nil c rest)
    cases inFlight with
    | none =>
      have asked : completion udid ⟨c :: rest, none⟩ = .asks udid :: reports udid (c :: rest) := by
        simp [completion]
      rw [asked] at length ⊢
      obtain ⟨now, later, rfl⟩ := List.exists_cons_of_length_eq_add_one length
      obtain ⟨x, first⟩ := perform_asks delay udid_ne hq rfl now
      refine .cons first (completes_reports (f := ⟨c.uuid, now⟩) udid_ne ?_ rfl known ?_)
      · rw [Store.queue_putQueue, if_pos rfl]
        rfl
      · simpa [reports] using length
    | some f =>
      have reported : completion udid ⟨c :: rest, some f⟩ = reports udid (c :: rest) := by
        simp [completion]
      rw [reported] at length ⊢
      obtain ⟨d, others, first, head⟩ := marked f rfl
      cases first
      exact completes_reports udid_ne hq head known (by simpa [reports] using length)

theorem udid_of_mem_completion {q : DeviceQueue} : ∀ r ∈ completion udid q, r.udid = udid := by
  have own : ∀ r ∈ reports udid q.commands, r.udid = udid := by
    intro r hr
    obtain ⟨c, -, rfl⟩ := List.mem_map.1 hr
    rfl
  rw [completion]
  split
  · exact List.forall_mem_nil _
  · split
    · exact List.forall_mem_cons.2 ⟨rfl, own⟩
    · exact own

/-! ### Commands that no report can name -/

/-- A response that is answered names the command that it reports on. -/
theorem command_ne_of_settles {r : Response} (valid : r.validate = .ok ())
    (final : r.status.settles = true) : r.command ≠ "" := by
  intro unnamed
  rw [Response.validate] at valid
  split at valid
  · cases valid
  · have reports : r.status.requiresCommand = true := by
      cases status : r.status <;> simp_all [Status.settles, Status.requiresCommand]
    rw [if_pos ⟨reports, unnamed⟩] at valid
    cases valid

/-- The queue has a command without an identifier. -/
def Stuck (s : Store) (udid : String) : Prop :=
  ∃ q, s.queue udid = .ok q ∧ q.Marked ∧ ∃ c ∈ q.commands, c.uuid = ""

/-- An answered response takes no command without an identifier out of a queue. -/
theorem mem_of_turn {q q' : DeviceQueue} {r : Response} {now : Instant} {x : Exchange}
    (turn : Exchange.Turn q r now delay q' x) (valid : r.validate = .ok ()) (marked : q.Marked)
    {c : QueuedCommand} (hc : c ∈ q.commands) (unnamed : c.uuid = "") : c ∈ q'.commands := by
  cases turn with
  | first => simpa [Exchange.handOut] using hc
  | again => simpa [Exchange.handOut] using hc
  | wait => exact hc
  | postpone => exact hc
  | settle f final marker named =>
    obtain ⟨d, rest, first, head⟩ := marked f marker
    have other : c ≠ d := by
      rintro rfl
      exact command_ne_of_settles valid final (named.symm.trans (head.symm.trans unnamed))
    have behind : c ∈ rest := by simpa [first, other] using hc
    simpa [Exchange.handOut, DeviceQueue.pop, first] using behind

theorem stuck_perform (h : Stuck s udid) (r : Response) (now : Instant) :
    Stuck (perform delay s (.acknowledge r now)).1 udid := by
  rw [perform]
  cases done : (acknowledge s r now delay).1 with
  | error e => exact h
  | ok p =>
    obtain ⟨t, x⟩ := p
    obtain ⟨q, hq, marked, c, hc, unnamed⟩ := h
    obtain ⟨-, valid, -⟩ := exchange_of_acknowledge done
    obtain ⟨q₀, q', found, turn, rfl⟩ := acknowledge_ok done
    rw [settle, Stuck, Store.queue_putQueue]
    by_cases here : udid = r.udid
    · subst here
      cases hq.symm.trans found
      exact ⟨q', if_pos rfl, turn.marked marked, c, mem_of_turn turn valid marked hc unnamed, unnamed⟩
    · exact ⟨q, (if_neg here).trans hq, marked, c, hc, unnamed⟩

theorem stuck_run (h : Stuck s udid) (as : List (Response × Instant)) :
    Stuck (run delay s (answers as)) udid := by
  induction as generalizing s with
  | nil => exact h
  | cons a as ih => exact ih (stuck_perform h a.1 a.2)

theorem Stuck.not_empty (h : Stuck s udid) : s.queue udid ≠ .ok .empty := by
  obtain ⟨q, hq, -, c, hc, -⟩ := h
  intro empty
  cases hq.symm.trans empty
  cases hc

/-- The outcome of a delivered command can be reported just if the command has an identifier. -/
theorem settles_iff {q : DeviceQueue} {f : InFlight} (hq : s.queue udid = .ok q)
    (marker : q.inFlight = some f) (named : udid ≠ "") :
    (∃ r now, r.udid = udid ∧ r.status.settles = true ∧
      (step delay s (.acknowledge r now)).Accepted) ↔ f.commandUuid ≠ "" := by
  constructor
  · rintro ⟨r, now, rfl, final, x, accepted⟩
    simp only [step, perform] at accepted
    cases done : (acknowledge s r now delay).1 with
    | error e =>
      rw [done] at accepted
      cases accepted
    | ok p =>
      obtain ⟨t, y⟩ := p
      obtain ⟨-, valid, -⟩ := exchange_of_acknowledge done
      obtain ⟨q₀, q', found, turn, -⟩ := acknowledge_ok done
      cases hq.symm.trans found
      cases turn with
      | settle g _ marked reported =>
        cases marker.symm.trans marked
        exact reported ▸ command_ne_of_settles valid final
      | postpone g later => simp [later, Status.settles] at final
      | _ => simp_all [Status.settles]
  · intro known
    obtain ⟨x, accepted⟩ := perform_reports delay named hq marker known (.ofNanos 0)
    exact ⟨_, _, rfl, rfl, x, congrArg Prod.snd accepted⟩

/-! ### Runs -/

theorem known_of_stands {ds : List QueuedCommand} {cs : List Command} (h : List.Forall₂ Stands ds cs) :
    ∀ d ∈ ds, d.uuid ≠ "" := by
  induction h with
  | nil => exact List.forall_mem_nil _
  | cons first _ ih => exact List.forall_mem_cons.2 ⟨first.1 ▸ first.2.2, ih⟩

/-- After any requests a device can work off its queue if all commands in it have identifiers, which
they have if they were enqueued with them: there are responses that are accepted at whatever times,
and then the queue is empty. If a command in it has none, no responses empty the queue. And a
delivered command has an outcome that is accepted just if it has an identifier. -/
theorem completable (delay : Nat) (rs : List Request) (udid : String) :
    let s := run delay .empty rs
    ∃ q, s.queue udid = .ok q ∧
      ((∀ v c now, .enqueue v c now ∈ rs → c.uuid ≠ "") → ∀ c ∈ q.commands, c.uuid ≠ "") ∧
      ((∀ c ∈ q.commands, c.uuid ≠ "") → ∃ responses : List Response,
        (∀ r ∈ responses, r.udid = udid) ∧ ∀ times : List Instant, times.length = responses.length →
          Completes delay s udid (responses.zip times)) ∧
      ((∃ c ∈ q.commands, c.uuid = "") → ∀ as : List (Response × Instant),
        (run delay s (answers as)).queue udid ≠ .ok .empty) ∧
      ∀ f, q.inFlight = some f → ((∃ r now, r.udid = udid ∧ r.status.settles = true ∧
        (step delay s (.acknowledge r now)).Accepted) ↔ f.commandUuid ≠ "") := by
  intro s
  have wellFormed : s.WellFormed := wellFormed_run delay rs Store.wellFormed_empty
  obtain ⟨q, hq, ⟨-, marked⟩, -, named⟩ := wellFormed.queue udid
  refine ⟨q, hq, fun all => ?_, fun known => ⟨completion udid q, ?_, fun times length => ?_⟩, ?_, ?_⟩
  · obtain ⟨cs, ⟨q₀, hq₀, -, stands⟩, -⟩ := holds_run delay rs all (holds_empty udid)
    cases hq.symm.trans hq₀
    exact known_of_stands stands
  · exact udid_of_mem_completion
  · exact completes_completion hq marked named known length
  · rintro ⟨c, hc, unnamed⟩ as
    exact (stuck_run ⟨q, hq, marked, c, hc, unnamed⟩ as).not_empty
  · intro f marker
    obtain ⟨c, rest, first, -⟩ := marked f marker
    exact settles_iff hq marker (named (by simp [first]))

/-- A command without an identifier is queued and handed out, and then no responses work the queue
off. -/
theorem not_completable_unnamed :
    let t := Instant.ofNanos 0
    let c : Command := ⟨"", .profileList⟩
    let rs : List Request := [.enqueue "D" c t, .acknowledge (.asks "D") t]
    (trace 5 .empty rs).map (·.outcome) =
        [.queued true, .exchanged ⟨some c.toWire, some "", none, false, 1⟩] ∧
      ∀ as : List (Response × Instant), ¬ Completes 5 (run 5 .empty rs) "D" as := by
  intro t c rs
  let q : DeviceQueue := ⟨[queued c t], none⟩
  let marked : DeviceQueue := ⟨[queued c t], some ⟨"", t⟩⟩
  have put (s : Store) (q : DeviceQueue) : (s.putQueue "D" q).queue "D" = .ok q :=
    (Store.queue_putQueue s "D" "D" q).trans (if_pos rfl)
  have first : perform 5 .empty (.enqueue "D" c t) = (Store.empty.putQueue "D" q, .queued true) :=
    perform_enqueue 5 t (by decide) (Store.queue_empty "D") rfl
  have given : Exchange.run q (.asks "D") t 5 =
      .ok (marked, ⟨some c.toWire, some "", none, false, 1⟩) := rfl
  have second := perform_acknowledge (r := .asks "D") rfl rfl (by decide) (put .empty q) given
  have last : run 5 .empty rs = (Store.empty.putQueue "D" q).putQueue "D" marked := by
    rw [run_cons, run_cons, run_nil, first, second]
    rfl
  refine ⟨?_, fun as ⟨_, empty⟩ => ?_⟩
  · simp only [rs, trace, step, first, second, List.map_cons, List.map_nil]
  · have stuck : Stuck (run 5 .empty rs) "D" := by
      rw [last]
      exact ⟨marked, put _ marked, fun f h => by cases h; exact ⟨_, _, rfl, rfl⟩, _,
        List.mem_cons_self, rfl⟩
    exact (stuck_run stuck as).not_empty empty

end Delivery

end DeviceFleet
