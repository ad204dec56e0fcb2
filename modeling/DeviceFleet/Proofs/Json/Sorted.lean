import DeviceFleet.Proofs.Json.RoundTrip

/-! What is left of a value that is read generically. The members of an object under one name
are the view: an arranged object has under each name the last member that had it, and a value
that is exact or shallow stays so. -/

namespace DeviceFleet.Json

def under (name : String) (ms : Members) : Members := ms.filter (·.1 = name)

theorem get?_eq_under (name : String) (ms : Members) :
    get? name ms = (under name ms).getLast?.map (·.2) := by
  rw [get?, under, ← List.head?_reverse, ← List.filter_reverse, List.head?_filter]

/-- A member that is alone under its name gives the value. -/
theorem get?_of_under {name : String} {ms : Members} {m : String × Json} (h : under name ms = [m]) :
    get? name ms = some m.2 := by
  rw [get?_eq_under, h]
  rfl

/-! ### Members under a name -/

theorem under_eq_nil {name : String} {ms : Members} (h : name ∉ ms.map (·.1)) :
    under name ms = [] :=
  List.filter_eq_nil_iff.2 fun m hm same => h (List.mem_map.2 ⟨m, hm, of_decide_eq_true same⟩)

theorem under_insert (name other : String) (v : Json) {ms : Members} (h : Named.Ascending ms) :
    under other (Named.insert name v ms) = if other = name then [(name, v)] else under other ms := by
  induction ms with
  | nil =>
    by_cases same : name = other
    · simp [Named.insert, under, same]
    · simp [Named.insert, under, same, Ne.symm same]
  | cons m ms ih =>
    obtain ⟨n, w⟩ := m
    obtain ⟨below, tail⟩ := List.pairwise_cons.1 h
    -- Names after `n` are above it, so none of them is `name` where the new member goes first.
    have absent (above : name < n) : under name ((n, w) :: ms) = [] := by
      apply List.filter_eq_nil_iff.2
      intro m hm same
      rcases List.mem_cons.1 hm with rfl | hm
      · exact String.lt_irrefl _ ((of_decide_eq_true same : n = name) ▸ above)
      · have := String.lt_trans above (below m hm)
        exact String.lt_irrefl _ ((of_decide_eq_true same : m.1 = name) ▸ this)
    simp only [Named.insert]
    split
    · rename_i above
      by_cases same : other = name
      · rw [if_pos same, same, under, List.filter_cons_of_pos (by simp)]
        exact congrArg _ (absent above)
      · rw [if_neg same, under, List.filter_cons_of_neg (by simpa using Ne.symm same)]
        rfl
    · split
      · rename_i same
        subst same
        by_cases it : other = name
        · have none : under name ms = [] := by
            apply List.filter_eq_nil_iff.2
            intro m hm eq
            have := below m hm
            exact String.lt_irrefl _ ((of_decide_eq_true eq : m.1 = name) ▸ this)
          rw [if_pos it, it, under, List.filter_cons_of_pos (by simp)]
          exact congrArg _ none
        · rw [if_neg it, under, List.filter_cons_of_neg (by simpa using Ne.symm it), under,
            List.filter_cons_of_neg (by simpa using Ne.symm it)]
      · rename_i differs
        have rest := ih tail
        by_cases it : other = n
        · have other_ne : other ≠ name := fun eq => differs (eq.symm.trans it)
          rw [if_neg other_ne] at rest ⊢
          simp only [under, it] at rest ⊢
          rw [List.filter_cons_of_pos (by simp), rest, List.filter_cons_of_pos (by simp)]
        · simp only [under] at rest ⊢
          rw [List.filter_cons_of_neg (by simpa using Ne.symm it), rest,
            List.filter_cons_of_neg (by simpa using Ne.symm it)]

/-- Under each name an arranged object has the last member that had it. -/
theorem under_arrange (name : String) (ms : Members) :
    under name (arrange ms) = (under name ms).getLast?.toList := by
  have grow (ms : Members) : ∀ acc : Members, Named.Ascending acc →
      under name (ms.foldl (fun sorted m => Named.insert m.1 m.2 sorted) acc) =
        match (under name ms).getLast? with
        | some m => [m]
        | none => under name acc := by
    induction ms with
    | nil => exact fun acc _ => rfl
    | cons m ms ih =>
      intro acc h
      obtain ⟨n, v⟩ := m
      rw [List.foldl_cons, ih _ (Named.ascending_insert n v h), under_insert n name v h]
      by_cases same : n = name
      · subst same
        rw [show under n ((n, v) :: ms) = (n, v) :: under n ms from List.filter_cons_of_pos (by simp),
          List.getLast?_cons, if_pos rfl]
        cases (under n ms).getLast? <;> rfl
      · rw [show under name ((n, v) :: ms) = under name ms from
          List.filter_cons_of_neg (by simpa using same), if_neg (Ne.symm same)]
  rw [arrange, grow ms [] List.Pairwise.nil]
  cases (under name ms).getLast? <;> rfl

theorem under_sortedMembers (name : String) (ms : Members) :
    under name (sortedMembers ms) = sortedMembers (under name ms) := by
  induction ms with
  | nil => rfl
  | cons m ms ih =>
    obtain ⟨n, v⟩ := m
    simp only [under, sortedMembers] at ih ⊢
    by_cases same : n = name
    · rw [List.filter_cons_of_pos (by simpa using same), List.filter_cons_of_pos (by simpa using same),
        ih, sortedMembers]
    · rw [List.filter_cons_of_neg (by simpa using same), List.filter_cons_of_neg (by simpa using same),
        ih]

theorem sortedMembers_eq_map (ms : Members) : sortedMembers ms = ms.map fun m => (m.1, m.2.sorted) := by
  induction ms with
  | nil => rfl
  | cons m ms ih => rw [sortedMembers, ih, List.map_cons]

theorem sortedItems_eq_map (vs : List Json) : sortedItems vs = vs.map sorted := by
  induction vs with
  | nil => rfl
  | cons v vs ih => rw [sortedItems, ih, List.map_cons]

/-- A name that stands for one value at most stands for the same value in the arranged object. -/
theorem under_members_sorted {name : String} {ms : Members} (h : (under name ms).length ≤ 1) :
    under name (arrange (sortedMembers ms)) = sortedMembers (under name ms) := by
  rw [under_arrange, under_sortedMembers]
  cases found : under name ms with
  | nil => rfl
  | cons m rest =>
    rw [found, List.length_cons] at h
    rw [List.eq_nil_of_length_eq_zero (show rest.length = 0 by omega)]
    rfl

theorem get?_sorted (name : String) (ms : Members) :
    get? name (arrange (sortedMembers ms)) = (get? name ms).map sorted := by
  rw [get?_eq_under, get?_eq_under, under_arrange, under_sortedMembers, sortedMembers_eq_map,
    List.getLast?_map]
  cases (under name ms).getLast? <;> rfl

/-- The members of an object after it is sorted twice: once before it is written and once when it
is read generically. -/
def resorted (ms : Members) : Members := arrange (sortedMembers (arrange (sortedMembers ms)))

theorem sorted_sorted (ms : Members) : (object ms).sorted.sorted = object (resorted ms) := by
  rw [sorted, sorted, resorted]

theorem get?_resorted (name : String) (ms : Members) :
    get? name (resorted ms) = (get? name ms).map fun v => v.sorted.sorted := by
  rw [resorted, get?_sorted, get?_sorted, Option.map_map]
  rfl

theorem under_without {name other : String} (h : name ≠ other) (ms : Members) :
    under name (without other ms) = under name ms := by
  rw [under, without, List.filter_filter]
  apply List.filter_congr
  intro m _
  by_cases same : m.1 = name
  · simp [same, h]
  · simp [same]

/-! ### Nulls -/

theorem sorted_eq_null {v : Json} : v.sorted = null ↔ v = null := by
  cases v <;> simp [sorted]

theorem dropNulls_sortedMembers (ms : Members) :
    dropNulls (sortedMembers ms) = sortedMembers (dropNulls ms) := by
  induction ms with
  | nil => rfl
  | cons m ms ih =>
    obtain ⟨n, v⟩ := m
    simp only [dropNulls, sortedMembers] at ih ⊢
    cases v <;> simp [sorted, sortedMembers, ih]

theorem under_dropNulls (name : String) (ms : Members) :
    under name (dropNulls ms) = dropNulls (under name ms) := by
  rw [under, dropNulls, dropNulls, under, List.filter_filter, List.filter_filter]
  exact List.filter_congr fun _ _ => Bool.and_comm _ _

/-- The form in which devices get an object is that of its sorted value without nulls. -/
theorem wire_eq_print (ms : Members) : wire ms = print (object (dropNulls ms)).sorted := by
  rw [wire, dropNulls_sortedMembers, sorted]

/-! ### Exact and shallow values -/

theorem mem_arrange {m : String × Json} {ms : Members} (h : m ∈ arrange ms) : m ∈ ms := by
  have grow (ms : Members) : ∀ acc : Members,
      m ∈ ms.foldl (fun sorted m => Named.insert m.1 m.2 sorted) acc → m ∈ acc ∨ m ∈ ms := by
    induction ms with
    | nil => exact fun acc h => .inl h
    | cons n ms ih =>
      intro acc h
      rcases ih _ h with h | h
      · rcases Named.mem_insert h with rfl | h
        · exact .inr List.mem_cons_self
        · exact .inl h
      · exact .inr (List.mem_cons_of_mem n h)
  exact (grow ms [] h).resolve_left (by simp)

mutual

theorem exact_sorted : ∀ {v : Json}, Exact v → Exact v.sorted
  | null, h => h
  | bool _, h => h
  | int _, h => h
  | double _, h => h
  | string _, h => h
  | array vs, h => by
    rw [sorted]
    exact exactItems_sorted h
  | object ms, h => by
    rw [sorted, Exact, exactMembers_iff]
    exact fun m hm => exactMembers_iff.1 (exactMembers_sorted h) m (mem_arrange hm)
  | unreadable, h => h

theorem exactItems_sorted : ∀ {vs : List Json}, ExactItems vs → ExactItems (sortedItems vs)
  | [], h => h
  | _ :: _, h => ⟨exact_sorted h.1, exactItems_sorted h.2⟩

theorem exactMembers_sorted : ∀ {ms : Members}, ExactMembers ms → ExactMembers (sortedMembers ms)
  | [], h => h
  | (_, _) :: _, h => ⟨exact_sorted h.1, exactMembers_sorted h.2⟩

end

theorem exact_dropNulls {ms : Members} (h : ExactMembers ms) : ExactMembers (dropNulls ms) :=
  exactMembers_iff.2 fun m hm => exactMembers_iff.1 h m (List.mem_filter.1 hm).1

theorem readableMembers_iff {d : Nat} {ms : Members} :
    readableMembers d ms = true ↔ ∀ m ∈ ms, m.2.readable d = true := by
  induction ms with
  | nil => simp [readableMembers]
  | cons m ms ih =>
    obtain ⟨n, v⟩ := m
    simp [readableMembers, ih]

theorem readableItems_iff {d : Nat} {vs : List Json} :
    readableItems d vs = true ↔ ∀ v ∈ vs, v.readable d = true := by
  induction vs with
  | nil => simp [readableItems]
  | cons v vs ih => simp [readableItems, ih]

mutual

theorem readable_sorted : ∀ {d : Nat} {v : Json}, v.readable d = true → v.sorted.readable d = true
  | _, null, h => h
  | _, bool _, h => h
  | _, int _, h => h
  | _, double _, h => h
  | _, string _, h => h
  | 0, array _, h => by
    simp [readable] at h
  | 0, object _, h => by
    simp [readable] at h
  | d + 1, array vs, h => by
    rw [sorted, readable]
    rw [readable] at h
    exact readableItems_sorted h
  | d + 1, object ms, h => by
    rw [readable] at h
    rw [sorted, readable, readableMembers_iff]
    exact fun m hm => readableMembers_iff.1 (readableMembers_sorted h) m (mem_arrange hm)
  | _, unreadable, h => h

theorem readableItems_sorted : ∀ {d : Nat} {vs : List Json}, readableItems d vs = true →
    readableItems d (sortedItems vs) = true
  | _, [], h => h
  | d, v :: vs, h => by
    rw [readableItems, Bool.and_eq_true] at h
    rw [sortedItems, readableItems, readable_sorted h.1, readableItems_sorted h.2]
    rfl

theorem readableMembers_sorted : ∀ {d : Nat} {ms : Members}, readableMembers d ms = true →
    readableMembers d (sortedMembers ms) = true
  | _, [], h => h
  | d, (n, v) :: ms, h => by
    rw [readableMembers, Bool.and_eq_true] at h
    rw [sortedMembers, readableMembers, readable_sorted h.1, readableMembers_sorted h.2]
    rfl

end

theorem readable_dropNulls {d : Nat} {ms : Members} (h : readableMembers d ms = true) :
    readableMembers d (dropNulls ms) = true :=
  readableMembers_iff.2 fun m hm => readableMembers_iff.1 h m (List.mem_filter.1 hm).1

/-- What a device gets, as it is read generically. -/
theorem read?_wire {ms : Members} (h : ExactMembers ms)
    (shallow : readableMembers (maxDepth - 1) ms = true) :
    read? (wire ms) = some (object (resorted (dropNulls ms))) := by
  have exactly : Exact (object (dropNulls ms)).sorted := exact_sorted (exact_dropNulls h)
  have deep : (object (dropNulls ms)).readable maxDepth = true := readable_dropNulls shallow
  rw [wire_eq_print, read?, parse?_print exactly, Option.bind_eq_bind, Option.bind_some, normal,
    if_pos (readable_sorted deep), sorted_sorted]

end DeviceFleet.Json
