/-! Lists of named values in the order of their names. Names are ordered by code
points, which is the order of their UTF-8 octets. -/

namespace DeviceFleet.Named

variable {α : Type}

/-- Puts a value into its place by name, over an earlier value of the same name. -/
def insert (name : String) (value : α) : List (String × α) → List (String × α)
  | [] => [(name, value)]
  | (n, v) :: rest =>
    if name < n then (name, value) :: (n, v) :: rest
    else if name = n then (name, value) :: rest
    else (n, v) :: insert name value rest

def find? (name : String) : List (String × α) → Option α
  | [] => none
  | (n, v) :: rest => if n = name then some v else find? name rest

def erase (name : String) (entries : List (String × α)) : List (String × α) :=
  entries.filter (·.1 ≠ name)

def Ascending (entries : List (String × α)) : Prop := entries.Pairwise (·.1 < ·.1)

theorem mem_insert {name : String} {value : α} {e : String × α} :
    ∀ {entries : List (String × α)}, e ∈ insert name value entries →
      e = (name, value) ∨ e ∈ entries
  | [], h => by simpa [insert] using h
  | (n, v) :: rest, h => by
    simp only [insert] at h
    split at h
    · simpa using h
    · split at h
      · rcases List.mem_cons.1 h with h | h
        · exact .inl h
        · exact .inr (List.mem_cons_of_mem _ h)
      · rcases List.mem_cons.1 h with h | h
        · exact .inr (h ▸ List.mem_cons_self)
        · exact (mem_insert h).imp id (List.mem_cons_of_mem _)

theorem ascending_insert (name : String) (value : α) :
    ∀ {entries : List (String × α)}, Ascending entries → Ascending (insert name value entries)
  | [], _ => List.pairwise_singleton _ _
  | (n, v) :: rest, h => by
    obtain ⟨below, tail⟩ := List.pairwise_cons.1 h
    simp only [insert]
    split
    · rename_i lt
      refine List.pairwise_cons.2 ⟨fun e he => ?_, h⟩
      rcases List.mem_cons.1 he with rfl | he
      · exact lt
      · exact String.lt_trans lt (below e he)
    · rename_i notLt
      split
      · rename_i eq
        exact List.pairwise_cons.2 ⟨fun e he => eq ▸ below e he, tail⟩
      · rename_i ne
        refine List.pairwise_cons.2 ⟨fun e he => ?_, ascending_insert name value tail⟩
        rcases mem_insert he with rfl | he
        · exact Std.lt_of_le_of_ne (Std.not_lt.1 notLt) (Ne.symm ne)
        · exact below e he

theorem ascending_erase (name : String) {entries : List (String × α)} (h : Ascending entries) :
    Ascending (erase name entries) :=
  h.sublist List.filter_sublist

theorem find?_insert (name other : String) (value : α) :
    ∀ {entries : List (String × α)}, Ascending entries →
      find? other (insert name value entries) =
        if other = name then some value else find? other entries
  | [], _ => by simp [insert, find?, eq_comm]
  | (n, v) :: rest, h => by
    obtain ⟨below, tail⟩ := List.pairwise_cons.1 h
    simp only [insert]
    split
    · by_cases e : name = other <;> simp [find?, e, eq_comm]
    · split
      · rename_i eq
        subst eq
        by_cases e : name = other
        · simp [find?, e]
        · simp [find?, e, Ne.symm e]
      · rename_i ne
        simp only [find?, find?_insert name other value tail]
        by_cases e : n = other
        · simp [e, show other ≠ name from fun h => ne (h ▸ e.symm)]
        · simp [e]

theorem find?_erase (name other : String) (entries : List (String × α)) :
    find? other (erase name entries) = if other = name then none else find? other entries := by
  induction entries with
  | nil => simp [erase, find?]
  | cons e rest ih =>
    simp only [erase, List.filter_cons] at ih ⊢
    by_cases h : e.1 = name
    · by_cases o : other = name
      · simp_all
      · simp_all [find?, show name ≠ other from Ne.symm o]
    · by_cases o : e.1 = other
      · simp_all [find?]
      · simp_all [find?]

theorem mem_of_find? {name : String} {value : α} {entries : List (String × α)}
    (h : find? name entries = some value) : (name, value) ∈ entries := by
  induction entries with
  | nil => cases h
  | cons e rest ih =>
    rw [find?] at h
    split at h
    · rename_i same
      cases h
      exact same ▸ List.mem_cons_self
    · exact List.mem_cons_of_mem e (ih h)

theorem find?_of_mem {name : String} {value : α} :
    ∀ {entries : List (String × α)}, Ascending entries → (name, value) ∈ entries →
      find? name entries = some value
  | [], _, member => by cases member
  | (n, v) :: rest, h, member => by
    obtain ⟨below, tail⟩ := List.pairwise_cons.1 h
    rw [find?]
    rcases List.mem_cons.1 member with first | later
    · cases first
      exact if_pos rfl
    · have other : n ≠ name := Std.ne_of_lt (below _ later)
      rw [if_neg other]
      exact find?_of_mem tail later

end DeviceFleet.Named
