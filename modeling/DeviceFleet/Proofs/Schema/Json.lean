import DeviceFleet.Proofs.Instant.Text
import DeviceFleet.Proofs.Json.Sorted
import DeviceFleet.Proofs.Text.Base64
import DeviceFleet.Schema.Codec

/-! Laws of the JSON form of schemas, kept by every way to build one. A written value is read
back, a text says it exactly, and reading does not mind sorted members. For the fields of a
record the laws are about the members under each name, so that it makes no difference where
those stand, what stands beside them, and whether a `null` is written or left out. -/

namespace DeviceFleet

open Json (under)

namespace Schema

structure Lawful {α : Type} (s : Schema α) : Prop where
  reads : ∀ a, s.read? (s.write a) = some a
  exactly : ∀ a, (s.write a).Exact
  stable : ∀ v a, s.read? v = some a → s.read? v.sorted = some a

def Solid {α : Type} (s : Schema α) : Prop := ∀ a, s.write a ≠ .null

def Shallow {α : Type} (s : Schema α) (depth : Nat) : Prop :=
  ∀ a, (s.write a).readable depth = true

/-! ### Values without parts -/

theorem solid_text : text.Solid := by
  intro a h
  cases h

theorem lawful_text : text.Lawful where
  reads _ := rfl
  exactly _ := trivial
  stable v a h := by
    cases v <;> exact h

theorem solid_spelled {α : Type} (spell : α → String) (parse? : String → Option α) :
    (spelled spell parse?).Solid := by
  intro a h
  cases h

theorem lawful_spelled {α : Type} {spell : α → String} {parse? : String → Option α}
    (h : ∀ a, parse? (spell a) = some a) : (spelled spell parse?).Lawful where
  reads a := h a
  exactly _ := trivial
  stable v a read := by
    obtain ⟨s, found, parsed⟩ := Option.bind_eq_some_iff.1 read
    exact Option.bind_eq_some_iff.2 ⟨s, lawful_text.stable v s found, parsed⟩

theorem lawful_octets : octets.Lawful := lawful_spelled Base64.bytes?_text

theorem lawful_time : time.Lawful := lawful_spelled Instant.ofText?_text

theorem solid_flag : flag.Solid := by
  intro a h
  cases h

theorem lawful_flag : flag.Lawful where
  reads _ := rfl
  exactly _ := trivial
  stable v a h := by
    cases v <;> exact h

theorem solid_int64 : int64.Solid := by
  intro a h
  cases h

theorem lawful_int64 : int64.Lawful where
  reads n := by
    have low := n.minValue_le_toInt
    have high := n.toInt_le
    show (if _ then _ else _) = _
    rw [if_pos ⟨by simpa using low, by simpa using high⟩, Int64.ofInt_toInt]
  exactly n := by
    have low := n.le_toInt
    have high := n.toInt_lt
    show -(Json.maxNegative : Int) ≤ n.toInt ∧ n.toInt ≤ Json.maxSignificand
    simp only [Json.maxNegative, Json.maxSignificand]
    omega
  stable v a h := by
    cases v <;> exact h

/-! ### Values that may be missing, and lists -/

theorem option_read? {α : Type} (s : Schema α) {v : Json} (h : v ≠ .null) :
    s.option.read? v = (s.read? v).map some := by
  cases v <;> first | rfl | exact absurd rfl h

theorem lawful_option {α : Type} {s : Schema α} (h : s.Lawful) (solid : s.Solid) :
    s.option.Lawful where
  reads
    | none => rfl
    | some a => by
      show s.option.read? (s.write a) = _
      rw [option_read? s (solid a), h.reads, Option.map_some]
  exactly
    | none => trivial
    | some a => h.exactly a
  stable v a read := by
    by_cases null : v = .null
    · rw [null] at read ⊢
      exact read
    · rw [option_read? s null, Option.map_eq_some_iff] at read
      obtain ⟨b, found, rfl⟩ := read
      rw [option_read? s (fun eq => null (Json.sorted_eq_null.1 eq)), h.stable v b found,
        Option.map_some]

theorem readAll?_map {α : Type} {s : Schema α} (h : s.Lawful) (as : List α) :
    readAll? s.read? (as.map s.write) = some as := by
  induction as with
  | nil => rfl
  | cons a as ih =>
    rw [List.map_cons, readAll?, h.reads, ih]
    rfl

theorem readAll?_sorted {α : Type} {s : Schema α} (h : s.Lawful) :
    ∀ (vs : List Json) (as : List α), readAll? s.read? vs = some as →
      readAll? s.read? (Json.sortedItems vs) = some as
  | [], as, read => read
  | v :: vs, as, read => by
    simp only [readAll?, Option.bind_eq_bind, Option.bind_eq_some_iff, Option.some.injEq] at read
    obtain ⟨b, first, bs, others, rfl⟩ := read
    rw [Json.sortedItems, readAll?, h.stable v b first, readAll?_sorted h vs bs others]
    rfl

theorem solid_list {α : Type} (s : Schema α) : s.list.Solid := by
  intro a h
  cases h

theorem lawful_list {α : Type} {s : Schema α} (h : s.Lawful) : s.list.Lawful where
  reads as := readAll?_map h as
  exactly as := by
    apply Json.exactItems_iff.2
    intro v hv
    obtain ⟨a, -, rfl⟩ := List.mem_map.1 hv
    exact h.exactly a
  stable v as read := by
    cases v with
    | array vs => exact readAll?_sorted h vs as read
    | _ => cases read

end Schema

/-! ### Fields -/

namespace Fields

structure Lawful {α : Type} (f : Fields α) : Prop where
  names_write : ∀ x, (f.write x).map (·.1) = f.names
  exactly : ∀ x, Json.ExactMembers (f.write x)
  /-- The value is read from any members that hold its own; a `null` may be missing. -/
  reads : ∀ x ms, (∀ m ∈ f.write x, under m.1 ms = [m] ∨ m.2 = .null ∧ under m.1 ms = []) →
    f.read? ms = some x
  /-- The value is read as well from members that are the same under each of its names, or are
  so once they are sorted. -/
  stable : ∀ ms ms' x, f.read? ms = some x →
    (∀ n ∈ f.names, (under n ms).length ≤ 1 →
      under n ms' = under n ms ∨ under n ms' = Json.sortedMembers (under n ms)) →
    f.read? ms' = some x

theorem lawful_done : done.Lawful where
  names_write _ := rfl
  exactly _ := trivial
  reads _ _ _ := rfl
  stable _ _ _ h _ := h

variable {α β : Type} {name : String} {s : Schema α} {absent : Option α} {ms : Json.Members}

theorem value?_nil (h : under name ms = []) : value? name s absent ms = absent := by
  rw [value?, show ms.filter _ = [] from h]

theorem value?_single {m : String × Json} (h : under name ms = [m]) :
    value? name s absent ms = s.read? m.2 := by
  rw [value?, show ms.filter _ = [m] from h]

/-- A field that has a value stands for one member at most. -/
theorem under_of_value? {a : α} (h : value? name s absent ms = some a) :
    under name ms = [] ∨ ∃ m, under name ms = [m] := by
  rw [value?, show ms.filter _ = under name ms from rfl] at h
  match found : under name ms with
  | [] => exact .inl rfl
  | [m] => exact .inr ⟨m, rfl⟩
  | m :: n :: rest =>
    rw [found] at h
    cases h

/-- The first field has a value, and the others are read from the same members. -/
theorem read?_field {rest : Fields β} {x : α × β} :
    (field name s absent rest).read? ms = some x ↔
      value? name s absent ms = some x.1 ∧ rest.read? ms = some x.2 := by
  obtain ⟨a, b⟩ := x
  simp [field, Option.bind_eq_some_iff]

theorem value?_stable (hs : s.Lawful) {a : α} {ms' : Json.Members}
    (h : value? name s absent ms = some a)
    (same : (under name ms).length ≤ 1 →
      under name ms' = under name ms ∨ under name ms' = Json.sortedMembers (under name ms)) :
    value? name s absent ms' = some a := by
  rcases under_of_value? h with none | ⟨m, one⟩
  · rw [value?_nil none] at h
    rw [none] at same
    rw [value?_nil ((same (Nat.zero_le 1)).elim id id), h]
  · rw [value?_single one] at h
    rw [one] at same
    rcases same (Nat.le_refl 1) with eq | eq
    · rw [value?_single eq, h]
    · rw [value?_single eq]
      exact hs.stable m.2 a h

theorem lawful_field {rest : Fields β} (hs : s.Lawful)
    (habsent : ∀ a, s.write a = .null → absent = some a) (h : rest.Lawful) :
    (field name s absent rest).Lawful where
  names_write x := congrArg (name :: ·) (h.names_write x.2)
  exactly x := ⟨hs.exactly x.1, h.exactly x.2⟩
  reads x ms found := by
    have first : value? name s absent ms = some x.1 := by
      rcases found (name, s.write x.1) List.mem_cons_self with one | ⟨null, none⟩
      · rw [value?_single one]
        exact hs.reads x.1
      · rw [value?_nil none]
        exact habsent x.1 null
    have others := h.reads x.2 ms fun m hm => found m (List.mem_cons_of_mem _ hm)
    show (value? name s absent ms >>= fun a => rest.read? ms >>= fun b => some (a, b)) = some x
    rw [first, others]
    rfl
  stable ms ms' x read same := by
    obtain ⟨first, others⟩ := read?_field.1 read
    exact read?_field.2 ⟨value?_stable hs first (same name List.mem_cons_self),
      h.stable ms ms' x.2 others fun n hn => same n (List.mem_cons_of_mem _ hn)⟩

theorem lawful_required {rest : Fields β} (hs : s.Lawful) (solid : s.Solid) (h : rest.Lawful) :
    (required name s rest).Lawful :=
  lawful_field hs (fun a null => absurd null (solid a)) h

theorem lawful_required_text {rest : Fields β} (h : rest.Lawful) :
    (required name .text rest).Lawful :=
  lawful_required Schema.lawful_text Schema.solid_text h

theorem lawful_required_octets {rest : Fields β} (h : rest.Lawful) :
    (required name .octets rest).Lawful :=
  lawful_required Schema.lawful_octets (Schema.solid_spelled _ _) h

theorem lawful_required_time {rest : Fields β} (h : rest.Lawful) :
    (required name .time rest).Lawful :=
  lawful_required Schema.lawful_time (Schema.solid_spelled _ _) h

theorem lawful_default {rest : Fields β} {a : α} (hs : s.Lawful) (solid : s.Solid)
    (h : rest.Lawful) : (default name s a rest).Lawful :=
  lawful_field hs (fun a null => absurd null (solid a)) h

theorem lawful_text {rest : Fields β} (h : rest.Lawful) : (text name rest).Lawful :=
  lawful_default Schema.lawful_text Schema.solid_text h

theorem lawful_octets {rest : Fields β} (h : rest.Lawful) : (octets name rest).Lawful :=
  lawful_default Schema.lawful_octets (Schema.solid_spelled _ _) h

theorem lawful_flag {rest : Fields β} (h : rest.Lawful) : (flag name rest).Lawful :=
  lawful_default Schema.lawful_flag Schema.solid_flag h

theorem lawful_optional {rest : Fields β} (hs : s.Lawful) (solid : s.Solid) (h : rest.Lawful) :
    (optional name s rest).Lawful := by
  refine lawful_field (Schema.lawful_option hs solid) (fun a null => ?_) h
  cases a with
  | none => rfl
  | some a => exact absurd null (solid a)

def Shallow {α : Type} (f : Fields α) (depth : Nat) : Prop :=
  ∀ x, Json.readableMembers depth (f.write x) = true

theorem shallow_done (depth : Nat) : done.Shallow depth := fun _ => rfl

theorem shallow_field {rest : Fields β} {depth : Nat} (hs : s.Shallow depth)
    (h : rest.Shallow depth) : (field name s absent rest).Shallow depth := by
  intro x
  show (Json.readable depth (s.write x.1) && Json.readableMembers depth (rest.write x.2)) = true
  rw [hs x.1, h x.2]
  rfl

end Fields

/-! ### Records -/

namespace Json

/-- Where no name comes twice, a member is all there is under its name. -/
theorem under_self {ms : Members} (h : (ms.map (·.1)).Nodup) {m : String × Json} (hm : m ∈ ms) :
    under m.1 ms = [m] := by
  induction ms with
  | nil => cases hm
  | cons n ms ih =>
    rw [List.map_cons, List.nodup_cons] at h
    rcases List.mem_cons.1 hm with rfl | later
    · rw [under, List.filter_cons_of_pos (by simp)]
      exact congrArg _ (under_eq_nil h.1)
    · have differs : n.1 ≠ m.1 := fun same => h.1 (same ▸ List.mem_map.2 ⟨m, later, rfl⟩)
      rw [under, List.filter_cons_of_neg (by simpa using differs)]
      exact ih h.2 later

/-- Without its nulls, an object has under each name the member or, if that is `null`, nothing. -/
theorem under_dropNulls_self {ms : Members} (h : (ms.map (·.1)).Nodup) {m : String × Json}
    (hm : m ∈ ms) :
    under m.1 (dropNulls ms) = [m] ∨ m.2 = .null ∧ under m.1 (dropNulls ms) = [] := by
  rw [under_dropNulls, under_self h hm]
  obtain ⟨n, v⟩ := m
  cases v <;> simp [dropNulls]

theorem zip_sortedItems (names : List String) (vs : List Json) :
    names.zip (sortedItems vs) = sortedMembers (names.zip vs) := by
  rw [sortedItems_eq_map, sortedMembers_eq_map, List.zip_map_right]
  rfl

end Json

namespace Schema

variable {α β : Type} {f : Fields β} {make : β → α} {chain : α → β}

theorem solid_record : (record f make chain).Solid := by
  intro a h
  cases h

/-- A schema of objects: what matters is under the given names. -/
structure Keyed {α : Type} (s : Schema α) (names : List String) : Prop where
  lawful : s.Lawful
  object : ∀ a, s.write a = .object (s.write a).members
  names_write : ∀ a, (s.write a).members.map (·.1) = names
  /-- A value is read from an object in which a further member stands before its own. -/
  beside : ∀ a tag v, tag ∉ names →
    s.read? (.object ((tag, v) :: Json.dropNulls (s.write a).members)) = some a
  stable : ∀ ms ms' a, s.read? (.object ms) = some a →
    (∀ n ∈ names, under n ms' = under n ms) → s.read? (.object ms') = some a

/-- A record is read from any object that holds its members; a `null` may be missing. -/
theorem record_reads (h : f.Lawful) (inverse : ∀ a, make (chain a) = a) (a : α)
    {ms : Json.Members}
    (found : ∀ m ∈ f.write (chain a), under m.1 ms = [m] ∨ m.2 = .null ∧ under m.1 ms = []) :
    (record f make chain).read? (.object ms) = some a := by
  show (f.read? ms).map make = some a
  rw [h.reads (chain a) ms found, Option.map_some, inverse]

theorem lawful_record (h : f.Lawful) (nodup : f.names.Nodup) (inverse : ∀ a, make (chain a) = a) :
    (record f make chain).Lawful where
  reads a := by
    refine record_reads h inverse a fun m hm => .inl (Json.under_self ?_ hm)
    rw [h.names_write]
    exact nodup
  exactly a := h.exactly (chain a)
  stable v a read := by
    obtain ⟨x, found, rfl⟩ := Option.map_eq_some_iff.1 read
    refine Option.map_eq_some_iff.2 ⟨x, ?_, rfl⟩
    cases v with
    | object ms =>
      exact h.stable ms _ x found fun n _ one => .inr (Json.under_members_sorted one)
    | array vs =>
      simp only [Json.fields?, Option.bind_eq_bind, Json.sorted, Json.sortedItems_eq_map,
        List.length_map] at found ⊢
      split at found
      · rename_i short
        rw [if_pos short, Option.bind_some, ← Json.sortedItems_eq_map, Json.zip_sortedItems]
        exact h.stable _ _ x found fun n _ _ => .inr (Json.under_sortedMembers n _)
      · cases found
    | _ => cases found

theorem keyed_record (h : f.Lawful) (nodup : f.names.Nodup) (inverse : ∀ a, make (chain a) = a) :
    (record f make chain).Keyed f.names where
  lawful := lawful_record h nodup inverse
  object _ := rfl
  names_write a := h.names_write (chain a)
  beside a tag v fresh := by
    apply record_reads h inverse a
    intro m hm
    have known : m.1 ∈ f.names := by
      rw [← h.names_write (chain a)]
      exact List.mem_map_of_mem hm
    have differs : tag ≠ m.1 := fun same => fresh (same ▸ known)
    rw [under, List.filter_cons_of_neg (by simpa using differs)]
    have distinct : ((f.write (chain a)).map (·.1)).Nodup := by
      rw [h.names_write]
      exact nodup
    exact Json.under_dropNulls_self distinct hm
  stable ms ms' a read same := by
    obtain ⟨x, found, rfl⟩ := Option.map_eq_some_iff.1 read
    have again := h.stable ms ms' x found fun n hn _ => .inl (same n hn)
    exact Option.map_eq_some_iff.2 ⟨x, again, rfl⟩

/-- A value is read as well from its members in the order in which devices send them. -/
theorem Lawful.reads_resorted {α : Type} {s : Schema α} (h : s.Lawful) {ms : Json.Members} {a : α}
    (read : s.read? (.object ms) = some a) : s.read? (.object (Json.resorted ms)) = some a := by
  rw [← Json.sorted_sorted]
  exact h.stable _ a (h.stable _ a read)

/-! ### How deep written values nest -/

theorem shallow_text (depth : Nat) : text.Shallow depth := fun _ => rfl

theorem shallow_spelled {α : Type} (spell : α → String) (parse? : String → Option α) (depth : Nat) :
    (spelled spell parse?).Shallow depth := fun _ => rfl

theorem shallow_flag (depth : Nat) : flag.Shallow depth := fun _ => rfl

theorem shallow_int64 (depth : Nat) : int64.Shallow depth := fun _ => rfl

theorem shallow_option {α : Type} {s : Schema α} {depth : Nat} (h : s.Shallow depth) :
    s.option.Shallow depth
  | none => rfl
  | some a => h a

theorem shallow_list {α : Type} {s : Schema α} {depth : Nat} (h : s.Shallow depth) :
    s.list.Shallow (depth + 1) := by
  intro as
  apply Json.readableItems_iff.2
  intro v hv
  obtain ⟨a, -, rfl⟩ := List.mem_map.1 hv
  exact h a

theorem shallow_record {depth : Nat} (h : f.Shallow depth) :
    (record f make chain).Shallow (depth + 1) := fun a => h (chain a)

theorem Keyed.shallow_members {α : Type} {s : Schema α} {names : List String} {depth : Nat}
    (h : s.Keyed names) (shallow : s.Shallow (depth + 1)) (a : α) :
    Json.readableMembers depth (s.write a).members = true := by
  have read := shallow a
  rw [h.object a] at read
  exact read

/-! ### Stored texts -/

/-- A value is read back from its stored text. -/
theorem load?_store {α : Type} {s : Schema α} (h : s.Lawful) (a : α) :
    s.load? (s.store a) = some a := by
  rw [load?, store, Json.parse?_print (h.exactly a), Option.bind_eq_bind, Option.bind_some,
    h.reads]

end Schema

end DeviceFleet
