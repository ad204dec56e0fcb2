import DeviceFleet.Proofs.Queue.Record

/-! The store as maps of values. A registry holds devices, push credentials and queues themselves
where the store holds their texts, and a rule for where a serial number leads where the store enters
and removes serial numbers one by one. Every value is read back from its text, so whatever is done to
the store comes to what is done to the registry: the same results and the same answers to every
question, and no record is ever one that cannot be read. -/

namespace DeviceFleet

/-! ### Tables of other values -/

namespace Named

variable {α β : Type}

def map (f : α → β) (entries : List (String × α)) : List (String × β) :=
  entries.map fun e => (e.1, f e.2)

theorem ascending_map (f : α → β) {entries : List (String × α)} (h : Ascending entries) :
    Ascending (map f entries) :=
  List.pairwise_map.2 h

theorem map_insert (f : α → β) (name : String) (value : α) (entries : List (String × α)) :
    map f (insert name value entries) = insert name (f value) (map f entries) := by
  induction entries with
  | nil => rfl
  | cons e rest ih =>
    obtain ⟨n, v⟩ := e
    simp only [insert, map, List.map_cons] at ih ⊢
    split
    · rfl
    · split
      · rfl
      · rw [List.map_cons, ih]

theorem find?_map (f : α → β) (name : String) (entries : List (String × α)) :
    find? name (map f entries) = (find? name entries).map f := by
  induction entries with
  | nil => rfl
  | cons e rest ih =>
    obtain ⟨n, v⟩ := e
    simp only [find?, map, List.map_cons] at ih ⊢
    split
    · rfl
    · exact ih

theorem map_erase (f : α → β) (name : String) (entries : List (String × α)) :
    map f (erase name entries) = erase name (map f entries) := by
  rw [erase, erase, map, map, List.filter_map]
  rfl

end Named

namespace Table

variable {α β : Type}

theorem eq_of_entries {t u : Table α} (h : t.entries = u.entries) : t = u := by
  obtain ⟨entries, ascending⟩ := t
  cases h
  rfl

def map (f : α → β) (t : Table α) : Table β := ⟨Named.map f t.entries, Named.ascending_map f t.ascending⟩

@[simp] theorem find?_map (f : α → β) (t : Table α) (name : String) :
    (t.map f).find? name = (t.find? name).map f := Named.find?_map f name t.entries

theorem map_insert (f : α → β) (t : Table α) (name : String) (value : α) :
    (t.insert name value).map f = (t.map f).insert name (f value) :=
  eq_of_entries (Named.map_insert f name value t.entries)

theorem map_erase (f : α → β) (t : Table α) (name : String) :
    (t.erase name).map f = (t.map f).erase name :=
  eq_of_entries (Named.map_erase f name t.entries)

@[simp] theorem contains_map (f : α → β) (t : Table α) (name : String) :
    (t.map f).contains name = t.contains name := by
  rw [contains, contains, find?_map, Option.isSome_map]

def values (t : Table α) : List α := t.entries.map (·.2)

end Table

/-! ### Records are read back -/

theorem Device.lawful : schema.Lawful :=
  Schema.lawful_record
    (Fields.lawful_required_text <| Fields.lawful_required_text <|
      Fields.lawful_text <| Fields.lawful_text <| Fields.lawful_text <| Fields.lawful_text <|
      Fields.lawful_text <| Fields.lawful_text <| Fields.lawful_text <| Fields.lawful_text <|
      Fields.lawful_text <| Fields.lawful_octets <| Fields.lawful_text <| Fields.lawful_octets <|
      Fields.lawful_flag <| Fields.lawful_flag <|
      Fields.lawful_required_time <| Fields.lawful_required_time Fields.lawful_done)
    (by decide) fun _ => rfl

theorem PushInfo.lawful : schema.Lawful :=
  Schema.lawful_record
    (Fields.lawful_required_text <| Fields.lawful_required_octets <| Fields.lawful_required_text <|
      Fields.lawful_text <| Fields.lawful_required_time Fields.lawful_done)
    (by decide) fun _ => rfl

/-! ### Operations -/

/-- What is done to a store. -/
inductive Operation where
  | insertDevice (d : Device)
  | updateDevice (udid : String) (f : Device → Device)
  | putPushInfo (p : PushInfo)
  | updateQueue {ε ρ : Type} (udid : String) (report : StoreError → ε)
      (f : DeviceQueue → Except ε (DeviceQueue × ρ))
  | clearQueue (udid : String)

namespace Operation

/-- What comes of an operation: whether the device was added, the changed device, what the change of
a queue gives or the number of commands that were removed. -/
def Result : Operation → Type
  | insertDevice _ => Except StoreError Bool
  | updateDevice _ _ => Except StoreError Device
  | putPushInfo _ => Except StoreError Unit
  | @updateQueue ε ρ _ _ _ => Except ε ρ
  | clearQueue _ => Except StoreError Nat

/-- The result is no failure to read a record: an operation fails without a UDID, where the device is
not known, or where the change of a queue does. -/
def Explains : (o : Operation) → o.Result → Prop
  | insertDevice d, r => ∀ e, r = .error e → d.udid = "" ∧ e = Store.emptyDeviceUdid
  | updateDevice udid _, r => ∀ e, r = .error e → e = Store.unknownDevice udid
  | putPushInfo p, r => ∀ e, r = .error e → p.udid = "" ∧ e = Store.emptyPushUdid
  | updateQueue udid report f, r => ∀ e, r = .error e →
      (udid = "" ∧ e = report Store.emptyQueueUdid) ∨ ∃ q, f q = .error e
  | clearQueue udid, r => ∀ e, r = .error e → udid = "" ∧ e = Store.emptyQueueUdid

end Operation

namespace Store

/-- The store and the result of what may fail; a failure leaves the store as it was. -/
def commit {ε ρ : Type} (s : Store) : Except ε (Store × ρ) → Store × Except ε ρ
  | .ok (t, r) => (t, .ok r)
  | .error e => (s, .error e)

def perform (s : Store) : (o : Operation) → Store × o.Result
  | .insertDevice d => s.commit (s.insertDevice d)
  | .updateDevice udid f => s.commit (s.updateDevice udid f)
  | .putPushInfo p => s.commit ((s.putPushInfo p).map (·, ()))
  | .updateQueue udid report f => s.commit (s.updateQueue udid report f)
  | .clearQueue udid => s.commit (s.clearQueue udid)

def run (s : Store) (os : List Operation) : Store := os.foldl (fun s o => (s.perform o).1) s

end Store

/-! ### The registry -/

/-- What is kept of the fleet, as values. -/
structure Registry where
  devices : Table Device
  /-- The device to which a serial number leads. -/
  serials : String → Option String
  pushInfos : Table PushInfo
  queues : Table DeviceQueue

namespace Registry

def empty : Registry := ⟨∅, fun _ => none, ∅, ∅⟩

def queue (r : Registry) (udid : String) : DeviceQueue := (r.queues.find? udid).getD .empty

def putQueue (r : Registry) (udid : String) (q : DeviceQueue) : Registry :=
  if q = .empty then { r with queues := r.queues.erase udid }
  else { r with queues := r.queues.insert udid q }

def deviceBySerial? (r : Registry) (serial : String) : Option Device :=
  r.serials serial >>= r.devices.find?

def pendingUdids (r : Registry) : List String :=
  (r.queues.entries.filter fun e => !e.2.commands.isEmpty).map (·.1)

/-- Where a serial number leads after a device went from one serial number to another: the one that it has
now leads to it, and the one that it had leads nowhere. A device that keeps its serial number changes
nothing, and the empty text leads where it did. -/
def reindex (serials : String → Option String) (old new udid serial : String) : Option String :=
  if old = new ∨ serial = "" then serials serial
  else if serial = new then some udid
  else if serial = old then none
  else serials serial

/-- Performs an operation. A device that is added had no serial number before. -/
def perform (r : Registry) : (o : Operation) → Registry × o.Result
  | .insertDevice d =>
    if d.udid = "" then (r, .error Store.emptyDeviceUdid)
    else if r.devices.contains d.udid then (r, .ok false)
    else ({ r with
      devices := r.devices.insert d.udid d
      serials := reindex r.serials "" d.serialNumber d.udid }, .ok true)
  | .updateDevice udid f =>
    match r.devices.find? udid with
    | none => (r, .error (Store.unknownDevice udid))
    | some old =>
      let new := { f old with udid }
      ({ r with
        devices := r.devices.insert udid new
        serials := reindex r.serials old.serialNumber new.serialNumber udid }, .ok new)
  | .putPushInfo p =>
    if p.udid = "" then (r, .error Store.emptyPushUdid)
    else ({ r with pushInfos := r.pushInfos.insert p.udid p }, .ok ())
  | .updateQueue udid report f =>
    if udid = "" then (r, .error (report Store.emptyQueueUdid))
    else match f (r.queue udid) with
      | .error e => (r, .error e)
      | .ok (q, a) => (r.putQueue udid q, .ok a)
  | .clearQueue udid =>
    if udid = "" then (r, .error Store.emptyQueueUdid)
    else (r.putQueue udid .empty, .ok (r.queue udid).size)

def run (r : Registry) (os : List Operation) : Registry := os.foldl (fun r o => (r.perform o).1) r

variable (r : Registry)

/-- What is refused without a UDID fails for that, or fails all the same. -/
theorem unnamed_or_failed {ε ρ : Type} {udid : String} {unnamed e : ε} {x : Registry × Except ε ρ}
    (h : (if udid = "" then (r, .error unnamed) else x).2 = .error e) :
    (udid = "" ∧ e = unnamed) ∨ x.2 = .error e := by
  split at h
  · rename_i empty
    cases h
    exact .inl ⟨empty, rfl⟩
  · exact .inr h

/-- No operation on the registry fails because of what it holds. -/
theorem explains_perform (o : Operation) : o.Explains (r.perform o).2 := by
  cases o with
  | insertDevice d =>
    intro e failed
    rcases r.unnamed_or_failed failed with unnamed | failed
    · exact unnamed
    · split at failed <;> cases failed
  | updateDevice udid f =>
    intro e failed
    rw [perform] at failed
    split at failed <;> cases failed
    rfl
  | putPushInfo p =>
    intro e failed
    exact (r.unnamed_or_failed failed).resolve_right nofun
  | updateQueue udid report f =>
    intro e failed
    rcases r.unnamed_or_failed failed with unnamed | failed
    · exact .inl unnamed
    · split at failed
      · rename_i own
        cases failed
        exact .inr ⟨r.queue udid, own⟩
      · cases failed
  | clearQueue udid =>
    intro e failed
    exact (r.unnamed_or_failed failed).resolve_right nofun

end Registry

namespace Store

/-! ### The index -/

theorem find?_listSerial (serials : Table String) (serial udid other : String) :
    (listSerial serials serial udid).find? other =
      if other = serial ∧ serial ≠ "" then some udid else serials.find? other := by
  rw [listSerial]
  split
  · rename_i empty
    rw [if_neg fun h => h.2 empty]
  · rename_i given
    simp only [Table.find?_insert, given, ne_eq, not_false_eq_true, and_true]

theorem find?_unlistSerial (serials : Table String) (serial other : String) :
    (unlistSerial serials serial).find? other =
      if other = serial ∧ serial ≠ "" then none else serials.find? other := by
  rw [unlistSerial]
  split
  · rename_i empty
    rw [if_neg fun h => h.2 empty]
  · rename_i given
    simp only [Table.find?_erase, given, ne_eq, not_false_eq_true, and_true]

/-- The index with the serial number of a new device. -/
theorem find?_listed (serials : Table String) (new udid : String) :
    (listSerial serials new udid).find? = Registry.reindex serials.find? "" new udid := by
  funext serial
  rw [find?_listSerial, Registry.reindex]
  grind

/-- The index with the old serial number of a device removed and the new one entered. -/
theorem find?_relisted (serials : Table String) (old new udid : String) :
    (if old = new then serials else listSerial (unlistSerial serials old) new udid).find? =
      Registry.reindex serials.find? old new udid := by
  funext serial
  rw [Registry.reindex]
  split
  · rename_i same
    rw [if_pos (.inl same)]
  · rw [find?_listSerial, find?_unlistSerial]
    grind

/-! ### Reading records -/

section Records

variable {α : Type} {sch : Schema α}

/-- A record that was stored is found as its value. -/
theorem lookup_map (h : sch.Lawful) (t : Table α) (name : String) :
    lookup sch (t.map sch.store) name = .ok (t.find? name) := by
  rw [lookup, Table.find?_map]
  cases t.find? name with
  | none => rfl
  | some a =>
    simp only [Option.map_some, load_store h]
    rfl

/-- The stored records are read one by one, and none of them fails. -/
theorem mapM_stored {γ : Type} {read : String × Bytes → Except StoreError γ} {value : String × α → γ}
    (reads : ∀ e, read (e.1, sch.store e.2) = .ok (value e)) (entries : List (String × α)) :
    (Named.map sch.store entries).mapM read = .ok (entries.map value) := by
  induction entries with
  | nil => rfl
  | cons e rest ih =>
    have others : (rest.map fun e => (e.1, sch.store e.2)).mapM read = .ok (rest.map value) := ih
    rw [Named.map, List.map_cons, List.mapM_cons, reads e, others]
    rfl

end Records

/-- The store holds a registry: the texts of its values, and an index that leads where its own does. -/
structure Holds (s : Store) (r : Registry) : Prop where
  devices : s.devices = r.devices.map Device.schema.store
  serials : s.serials.find? = r.serials
  pushInfos : s.pushInfos = r.pushInfos.map PushInfo.schema.store
  queues : s.queues = r.queues.map DeviceQueue.schema.store

theorem holds_empty : empty.Holds .empty := ⟨rfl, rfl, rfl, rfl⟩

namespace Holds

variable {s : Store} {r : Registry} (h : s.Holds r)
include h

/-! ### Questions -/

theorem device? (udid : String) : s.device? udid = .ok (r.devices.find? udid) := by
  rw [Store.device?, h.devices]
  exact lookup_map Device.lawful r.devices udid

theorem pushInfo? (udid : String) : s.pushInfo? udid = .ok (r.pushInfos.find? udid) := by
  rw [Store.pushInfo?, h.pushInfos]
  exact lookup_map PushInfo.lawful r.pushInfos udid

theorem queue (udid : String) : s.queue udid = .ok (r.queue udid) := by
  rw [Store.queue, h.queues, lookup_map DeviceQueue.lawful]
  rfl

theorem deviceList : s.deviceList = .ok r.devices.values := by
  rw [Store.deviceList, h.devices]
  exact mapM_stored (fun e => load_store Device.lawful e.2) r.devices.entries

theorem deviceBySerial? (serial : String) :
    s.deviceBySerial? serial = .ok (r.deviceBySerial? serial) := by
  rw [Store.deviceBySerial?, Registry.deviceBySerial?, h.serials]
  cases r.serials serial with
  | none => rfl
  | some udid => exact h.device? udid

theorem pendingUdids : s.pendingUdids = .ok r.pendingUdids := by
  have all : (Named.map DeviceQueue.schema.store r.queues.entries).mapM (fun e => do
      let q ← load DeviceQueue.schema e.2
      .ok (e.1, q)) = .ok (r.queues.entries.map id) := by
    apply mapM_stored
    intro e
    rw [load_store DeviceQueue.lawful]
    rfl
  rw [Store.pendingUdids, h.queues]
  show (Named.map DeviceQueue.schema.store r.queues.entries).mapM _ >>= _ = _
  rw [all, List.map_id]
  rfl

/-! ### Operations on the registry and on its store -/

theorem putQueue (udid : String) (q : DeviceQueue) : (s.putQueue udid q).Holds (r.putQueue udid q) := by
  rw [Store.putQueue, Registry.putQueue]
  by_cases clear : q = .empty
  · rw [if_pos clear, clear, if_pos (show DeviceQueue.isClear .empty = true from rfl)]
    exact { h with queues := by rw [h.queues, Table.map_erase] }
  · rw [if_neg clear, if_neg fun isClear => clear (DeviceQueue.eq_empty_of_isClear isClear)]
    exact { h with queues := by rw [h.queues, Table.map_insert] }

theorem insertDevice (d : Device) :
    (s.perform (.insertDevice d)).1.Holds (r.perform (.insertDevice d)).1 ∧
      (s.perform (.insertDevice d)).2 = (r.perform (.insertDevice d)).2 := by
  rw [Store.perform, Store.insertDevice, Registry.perform, h.devices, Table.contains_map]
  split
  · exact ⟨h, rfl⟩
  · split
    · exact ⟨h, rfl⟩
    · refine ⟨{ h with devices := ?_, serials := ?_ }, rfl⟩
      · exact (Table.map_insert _ r.devices d.udid d).symm
      · exact (find?_listed s.serials d.serialNumber d.udid).trans (by rw [h.serials])

theorem updateDevice (udid : String) (f : Device → Device) :
    (s.perform (.updateDevice udid f)).1.Holds (r.perform (.updateDevice udid f)).1 ∧
      (s.perform (.updateDevice udid f)).2 = (r.perform (.updateDevice udid f)).2 := by
  rw [Store.perform, Store.updateDevice, Registry.perform, h.devices, Table.find?_map]
  cases r.devices.find? udid with
  | none => exact ⟨h, rfl⟩
  | some old =>
    simp only [Option.map_some, load_store Device.lawful]
    refine ⟨{ h with devices := ?_, serials := ?_ }, rfl⟩
    · exact (Table.map_insert _ r.devices udid _).symm
    · exact (find?_relisted s.serials old.serialNumber (f old).serialNumber udid).trans (by rw [h.serials])

theorem putPushInfo (p : PushInfo) :
    (s.perform (.putPushInfo p)).1.Holds (r.perform (.putPushInfo p)).1 ∧
      (s.perform (.putPushInfo p)).2 = (r.perform (.putPushInfo p)).2 := by
  rw [Store.perform, Store.putPushInfo, Registry.perform]
  split
  · exact ⟨h, rfl⟩
  · refine ⟨{ h with pushInfos := ?_ }, rfl⟩
    rw [h.pushInfos]
    exact (Table.map_insert _ r.pushInfos p.udid p).symm

theorem updateQueue {ε ρ : Type} (udid : String) (report : StoreError → ε)
    (f : DeviceQueue → Except ε (DeviceQueue × ρ)) :
    (s.perform (.updateQueue udid report f)).1.Holds (r.perform (.updateQueue udid report f)).1 ∧
      (s.perform (.updateQueue udid report f)).2 = (r.perform (.updateQueue udid report f)).2 := by
  rw [Store.perform, Store.updateQueue, Registry.perform, h.queue]
  split
  · exact ⟨h, rfl⟩
  · simp only
    cases f (r.queue udid) with
    | error e => exact ⟨h, rfl⟩
    | ok p => exact ⟨h.putQueue udid p.1, rfl⟩

theorem perform (o : Operation) :
    (s.perform o).1.Holds (r.perform o).1 ∧ (s.perform o).2 = (r.perform o).2 := by
  cases o with
  | insertDevice d => exact h.insertDevice d
  | updateDevice udid f => exact h.updateDevice udid f
  | putPushInfo p => exact h.putPushInfo p
  | updateQueue udid report f => exact h.updateQueue udid report f
  | clearQueue udid => exact h.updateQueue udid id fun q => Except.ok (DeviceQueue.empty, q.size)

theorem run (os : List Operation) : (s.run os).Holds (r.run os) := by
  induction os generalizing s r with
  | nil => exact h
  | cons o os ih => exact ih (h.perform o).1

end Holds

/-- What is to be seen of a store is what a registry has: so are all questions answered, and so does
any operation come out, which never fails because a record cannot be read. -/
structure Shows (s : Store) (r : Registry) : Prop where
  device : ∀ udid, s.device? udid = .ok (r.devices.find? udid)
  deviceList : s.deviceList = .ok r.devices.values
  deviceBySerial : ∀ serial, s.deviceBySerial? serial = .ok (r.deviceBySerial? serial)
  pushInfo : ∀ udid, s.pushInfo? udid = .ok (r.pushInfos.find? udid)
  queue : ∀ udid, s.queue udid = .ok (r.queue udid)
  pendingUdids : s.pendingUdids = .ok r.pendingUdids
  result : ∀ o, (s.perform o).2 = (r.perform o).2
  explained : ∀ o : Operation, o.Explains (s.perform o).2

theorem Holds.shows {s : Store} {r : Registry} (h : s.Holds r) : s.Shows r where
  device := h.device?
  deviceList := h.deviceList
  deviceBySerial := h.deviceBySerial?
  pushInfo := h.pushInfo?
  queue := h.queue
  pendingUdids := h.pendingUdids
  result o := (h.perform o).2
  explained o := by
    rw [(h.perform o).2]
    exact r.explains_perform o

/-- Devices, push credentials and queues are read back from their texts. So after any operations on an
empty store, it shows what a registry has after the same operations. -/
theorem shows_registry :
    ((∀ d : Device, Device.schema.load? (Device.schema.store d) = some d) ∧
      (∀ p : PushInfo, PushInfo.schema.load? (PushInfo.schema.store p) = some p) ∧
      ∀ q : DeviceQueue, DeviceQueue.schema.load? (DeviceQueue.schema.store q) = some q) ∧
    ∀ os : List Operation, (empty.run os).Shows (Registry.empty.run os) :=
  ⟨⟨Schema.load?_store Device.lawful, Schema.load?_store PushInfo.lawful,
    Schema.load?_store DeviceQueue.lawful⟩, fun os => (holds_empty.run os).shows⟩

end Store

end DeviceFleet
