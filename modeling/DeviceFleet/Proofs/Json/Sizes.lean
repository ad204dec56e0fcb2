import DeviceFleet.Proofs.Json.Sorted
import DeviceFleet.Schema.Words

/-! How long the texts and arrays in a value are that was read. An escape takes at least as many octets
as what it stands for, and each item of an array is followed by a mark, so none of them is longer than
the text that it was read from. -/

namespace DeviceFleet

/-- Octets whose number fits a word of eight octets. -/
def Words.Fits (bs : Bytes) : Prop := bs.length < UInt64.size

instance (bs : Bytes) : Decidable (Words.Fits bs) :=
  inferInstanceAs (Decidable (bs.length < UInt64.size))

theorem Words.Fits.mono {bs rest : Bytes} (h : Fits bs) (le : rest.length ≤ bs.length) : Fits rest :=
  Nat.lt_of_le_of_lt le h

namespace Json

mutual

/-- Whether the texts and arrays that the value holds have lengths that fit a word. -/
def Sized : Json → Prop
  | string s => Words.Fits (Text.encode s)
  | array items => items.length < UInt64.size ∧ SizedItems items
  | object members => SizedMembers members
  | _ => True

def SizedItems : List Json → Prop
  | [] => True
  | v :: vs => Sized v ∧ SizedItems vs

def SizedMembers : Members → Prop
  | [] => True
  | (_, v) :: ms => Sized v ∧ SizedMembers ms

end

theorem sizedItems_iff {vs : List Json} : SizedItems vs ↔ ∀ v ∈ vs, Sized v := by
  induction vs with
  | nil => simp [SizedItems]
  | cons v vs ih => simp [SizedItems, ih]

theorem sizedMembers_iff {ms : Members} : SizedMembers ms ↔ ∀ m ∈ ms, Sized m.2 := by
  induction ms with
  | nil => simp [SizedMembers]
  | cons m ms ih =>
    obtain ⟨n, v⟩ := m
    simp [SizedMembers, ih]

mutual

theorem sized_sorted : ∀ {v : Json}, Sized v → Sized v.sorted
  | null, h => h
  | bool _, h => h
  | int _, h => h
  | double _, h => h
  | string _, h => h
  | array vs, h => by
    rw [sorted]
    refine ⟨?_, sizedItems_sorted h.2⟩
    rw [sortedItems_eq_map, List.length_map]
    exact h.1
  | object ms, h => by
    rw [sorted, Sized, sizedMembers_iff]
    exact fun m hm => sizedMembers_iff.1 (sizedMembers_sorted h) m (mem_arrange hm)
  | unreadable, h => h

theorem sizedItems_sorted : ∀ {vs : List Json}, SizedItems vs → SizedItems (sortedItems vs)
  | [], h => h
  | _ :: _, h => ⟨sized_sorted h.1, sizedItems_sorted h.2⟩

theorem sizedMembers_sorted : ∀ {ms : Members}, SizedMembers ms → SizedMembers (sortedMembers ms)
  | [], h => h
  | (_, _) :: _, h => ⟨sized_sorted h.1, sizedMembers_sorted h.2⟩

end

/-! ### Strings -/

def Piece.size (p : Piece) : Nat := (p.getD []).length

def Piece.sizes : List Piece → Nat
  | [] => 0
  | p :: ps => p.size + sizes ps

theorem length_encode_singleton (c : Char) : (Text.encode (String.singleton c)).length ≤ 4 := by
  have size : (Text.encode (String.singleton c)).length = (String.singleton c).utf8ByteSize := rfl
  rw [size, String.utf8ByteSize_singleton]
  exact c.utf8Size_le_four

theorem size_ofCode (n : Nat) : (ofCode n).size ≤ 4 := by
  rw [ofCode]
  split
  · exact length_encode_singleton _
  · exact Nat.zero_le 4

theorem length_after? {t : String} {bs rest : Bytes} (h : after? t bs = some rest) :
    rest.length ≤ bs.length := by
  rw [after?] at h
  split at h
  · cases h
    rw [List.length_drop]
    omega
  · cases h

theorem length_hex4? {bs rest : Bytes} {n : Nat} (h : hex4? bs = some (n, rest)) :
    bs.length = rest.length + 4 := by
  match bs with
  | a :: b :: c :: d :: more =>
    simp only [hex4?, Option.bind_eq_bind, Option.bind_eq_some_iff] at h
    obtain ⟨_, -, _, -, _, -, _, -, same⟩ := h
    cases same
    rfl
  | [] => cases h
  | [_] => cases h
  | [_, _] => cases h
  | [_, _, _] => cases h

theorem length_escaped (n : Nat) (rest : Bytes) :
    (escaped n rest).1.size ≤ 4 ∧ (escaped n rest).2.length ≤ rest.length := by
  have same : Piece.size none ≤ 4 ∧ rest.length ≤ rest.length := ⟨Nat.zero_le 4, Nat.le_refl _⟩
  rw [escaped]
  split
  · split
    · exact same
    · rename_i more found
      have le := length_after? found
      split
      · exact same
      · rename_i low last low_found
        have eq := length_hex4? low_found
        split
        · simp only
          generalize 0x10000 + (n - 0xd800) * 0x400 + (low - 0xdc00) = code
          exact ⟨size_ofCode code, by omega⟩
        · exact same
  · exact ⟨size_ofCode n, Nat.le_refl _⟩

/-- The pieces of a string and what comes after it take no more octets than there are. -/
theorem length_pieces? : ∀ {fuel : Nat} {bs rest : Bytes} {ps : List Piece},
    pieces? fuel bs = some (ps, rest) → Piece.sizes ps + rest.length ≤ bs.length := by
  intro fuel
  induction fuel with
  | zero =>
    intro bs rest ps h
    cases bs <;> cases h
  | succ fuel ih =>
    intro bs rest ps h
    cases bs with
    | nil => cases h
    | cons b bs =>
      rw [pieces?.eq_def] at h
      simp only at h
      split at h
      · cases h
        simp [Piece.sizes]
      · split at h
        · cases h
        · rename_i e bs
          split at h
          · simp only [Option.bind_eq_bind, Option.bind_eq_some_iff] at h
            obtain ⟨⟨n, left⟩, digits, ⟨more, last⟩, others, same⟩ := h
            cases same
            have four := length_hex4? digits
            have piece := length_escaped n left
            have tail := ih others
            simp only [Piece.sizes, List.length_cons] at tail ⊢
            omega
          · simp only [Option.bind_eq_bind, Option.bind_eq_some_iff] at h
            obtain ⟨c, -, ⟨more, last⟩, others, same⟩ := h
            cases same
            have tail := ih others
            have one : Piece.size (some [c]) = 1 := rfl
            simp only [Piece.sizes, List.length_cons, one]
            omega
      · split at h
        · cases h
        · simp only [Option.bind_eq_bind, Option.bind_eq_some_iff] at h
          obtain ⟨⟨more, last⟩, others, same⟩ := h
          cases same
          have tail := ih others
          have one : Piece.size (some [b]) = 1 := rfl
          simp only [Piece.sizes, List.length_cons, one]
          omega

theorem length_assemble? {ps : List Piece} {s : String} (h : assemble? ps = some s) :
    (Text.encode s).length = Piece.sizes ps := by
  have whole : ∀ {ps : List Piece} {parts : List Bytes}, ps.mapM id = some parts →
      parts.flatten.length = Piece.sizes ps := by
    intro ps
    induction ps with
    | nil =>
      intro parts h
      cases h
      rfl
    | cons p ps ih =>
      intro parts h
      rw [List.mapM_cons] at h
      simp only [id, Option.bind_eq_bind, Option.bind_eq_some_iff] at h
      obtain ⟨part, own, others, rest, same⟩ := h
      cases same
      rw [List.flatten_cons, List.length_append, ih rest, Piece.sizes, own]
      rfl
  simp only [assemble?, Option.bind_eq_bind, Option.bind_eq_some_iff] at h
  obtain ⟨parts, found, decoded⟩ := h
  rw [← Text.eq_encode_of_decode? decoded]
  exact whole found

/-- A string that is read is no longer than what it was read from. -/
theorem length_string? {bs rest : Bytes} {s : Option String} (h : string? bs = some (s, rest)) :
    rest.length ≤ bs.length ∧ ∀ t, s = some t → (Text.encode t).length ≤ bs.length := by
  obtain ⟨⟨ps, last⟩, found, same⟩ := Option.map_eq_some_iff.1 h
  obtain ⟨rfl, rfl⟩ := Prod.mk.inj same
  have total := length_pieces? found
  refine ⟨by omega, fun t assembled => ?_⟩
  have size := length_assemble? assembled
  omega

/-! ### Numbers -/

theorem length_digits (bs : Bytes) : (digits bs).2.length ≤ bs.length := by
  induction bs with
  | nil => exact Nat.le_refl 0
  | cons b bs ih =>
    rw [digits]
    split
    · exact Nat.le_succ_of_le ih
    · exact Nat.le_refl _

theorem length_digits1? {bs rest : Bytes} {ds : List Nat} (h : digits1? bs = some (ds, rest)) :
    rest.length ≤ bs.length := by
  have le := length_digits bs
  rw [digits1?] at h
  split at h
  · cases h
  · rw [Option.some.inj h] at le
    exact le

theorem length_whole? {bs rest : Bytes} {ds : List Nat} (h : whole? bs = some (ds, rest)) :
    rest.length ≤ bs.length := by
  simp only [whole?, Option.bind_eq_bind, Option.bind_eq_some_iff] at h
  obtain ⟨⟨found, left⟩, first, same⟩ := h
  split at same
  · cases same
  · cases same
    exact length_digits1? first

theorem length_fraction? {bs rest : Bytes} {ds : Option (List Nat)}
    (h : fraction? bs = some (ds, rest)) : rest.length ≤ bs.length := by
  cases bs with
  | nil =>
    cases h
    exact Nat.le_refl 0
  | cons b bs =>
    rw [fraction?] at h
    split at h
    · obtain ⟨⟨found, left⟩, first, same⟩ := Option.map_eq_some_iff.1 h
      cases same
      exact Nat.le_succ_of_le (length_digits1? first)
    · cases h
      exact Nat.le_refl _

theorem length_sign (bs : Bytes) : (sign bs).2.length ≤ bs.length := by
  cases bs with
  | nil => exact Nat.le_refl 0
  | cons b bs =>
    rw [sign]
    split <;> simp

theorem length_exponent? {bs rest : Bytes} {e : Option (Bool × List Nat)}
    (h : exponent? bs = some (e, rest)) : rest.length ≤ bs.length := by
  cases bs with
  | nil =>
    cases h
    exact Nat.le_refl 0
  | cons b bs =>
    rw [exponent?] at h
    split at h
    · obtain ⟨⟨found, left⟩, first, same⟩ := Option.map_eq_some_iff.1 h
      cases same
      exact Nat.le_succ_of_le (Nat.le_trans (length_digits1? first) (length_sign bs))
    · cases h
      exact Nat.le_refl _

theorem unsigned?_sized {negative : Bool} {bs rest : Bytes} {v : Json}
    (h : unsigned? negative bs = some (v, rest)) : rest.length ≤ bs.length ∧ Sized v := by
  simp only [unsigned?, Option.bind_eq_bind, Option.bind_eq_some_iff] at h
  obtain ⟨⟨whole, bs₁⟩, first, ⟨fraction, bs₂⟩, second, ⟨exponent, bs₃⟩, third, same⟩ := h
  cases same
  have le₁ := length_whole? first
  have le₂ := length_fraction? second
  have le₃ := length_exponent? third
  refine ⟨Nat.le_trans le₃ (Nat.le_trans le₂ le₁), ?_⟩
  rw [Numeral.value]
  split
  · trivial
  · split <;> trivial

/-! ### Values -/

theorem length_skip (bs : Bytes) : (skip bs).length ≤ bs.length :=
  (List.dropWhile_suffix isSpace).length_le

/-- The members of a readable object are those that were read. -/
theorem sized_ofMembers {members : List (Option String × Json)} (h : ∀ m ∈ members, Sized m.2) :
    Sized (ofMembers members) := by
  rw [ofMembers]
  split
  · rename_i ms named
    apply sizedMembers_iff.2
    induction members generalizing ms with
    | nil =>
      cases named
      exact List.forall_mem_nil _
    | cons m members ih =>
      simp only [named?, List.mapM_cons, Option.bind_eq_bind, Option.bind_eq_some_iff] at named
      obtain ⟨first, own, others, rest, same⟩ := named
      cases same
      obtain ⟨name, -, rfl⟩ := Option.map_eq_some_iff.1 own
      refine List.forall_mem_cons.2 ⟨h m List.mem_cons_self, ih ?_ others rest⟩
      exact fun n hn => h n (List.mem_cons_of_mem m hn)
  · trivial

theorem length_literal? {t : String} {bs rest : Bytes} {v w : Json}
    (h : (after? t bs).map (w, ·) = some (v, rest)) : rest.length ≤ bs.length ∧ v = w := by
  obtain ⟨last, found, same⟩ := Option.map_eq_some_iff.1 h
  cases same
  exact ⟨length_after? found, rfl⟩

/-- What a part of the reader gives for a text: a rest that is no longer, and texts and arrays of that
length at most. -/
structure Reads (fuel : Nat) : Prop where
  value : ∀ {bs rest : Bytes} {v : Json}, Words.Fits bs → value? fuel bs = some (v, rest) →
    rest.length ≤ bs.length ∧ Sized v
  items : ∀ {bs rest : Bytes} {vs : List Json}, Words.Fits bs → items? fuel bs = some (vs, rest) →
    vs.length + rest.length ≤ bs.length ∧ ∀ v ∈ vs, Sized v
  members : ∀ {bs rest : Bytes} {ms : List (Option String × Json)}, Words.Fits bs →
    members? fuel bs = some (ms, rest) → rest.length ≤ bs.length ∧ ∀ m ∈ ms, Sized m.2

theorem value?_sized {fuel : Nat} (ih : Reads fuel) {bs rest : Bytes} {v : Json}
    (fits : Words.Fits bs) (h : value? (fuel + 1) bs = some (v, rest)) :
    rest.length ≤ bs.length ∧ Sized v := by
  have le := length_skip bs
  rw [value?.eq_def] at h
  simp only at h
  generalize skip bs = left at le h
  cases left with
  | nil => cases h
  | cons b left =>
    rw [List.length_cons] at le
    -- The rest after a value that begins behind the first octet.
    have behind {last : Bytes} (h : last.length ≤ left.length) : last.length ≤ bs.length := by omega
    simp only at h
    split at h
    · obtain ⟨shorter, rfl⟩ := length_literal? h
      exact ⟨behind shorter, trivial⟩
    · obtain ⟨shorter, rfl⟩ := length_literal? h
      exact ⟨behind shorter, trivial⟩
    · obtain ⟨shorter, rfl⟩ := length_literal? h
      exact ⟨behind shorter, trivial⟩
    · obtain ⟨⟨s, last⟩, found, same⟩ := Option.map_eq_some_iff.1 h
      cases same
      obtain ⟨shorter, text⟩ := length_string? found
      refine ⟨behind shorter, ?_⟩
      cases s with
      | none => trivial
      | some t => exact fits.mono (behind (text t rfl))
    · have first := length_skip left
      generalize skip left = more at first h
      cases more with
      | nil => cases h
      | cons c more =>
        simp only at h
        split at h
        · cases h
          exact ⟨behind (Nat.le_of_succ_le first), by decide, trivial⟩
        · obtain ⟨⟨vs, last⟩, found, same⟩ := Option.map_eq_some_iff.1 h
          cases same
          obtain ⟨total, sized⟩ := ih.items (fits.mono (behind first)) found
          have whole : vs.length + last.length ≤ bs.length := Nat.le_trans total (behind first)
          have few : vs.length < UInt64.size :=
            Nat.lt_of_le_of_lt (Nat.le_trans (Nat.le_add_right _ _) whole) fits
          exact ⟨Nat.le_trans (Nat.le_add_left _ _) whole, few, sizedItems_iff.2 sized⟩
    · have first := length_skip left
      generalize skip left = more at first h
      cases more with
      | nil => cases h
      | cons c more =>
        simp only at h
        split at h
        · cases h
          exact ⟨behind (Nat.le_of_succ_le first), trivial⟩
        · obtain ⟨⟨ms, last⟩, found, same⟩ := Option.map_eq_some_iff.1 h
          cases same
          obtain ⟨shorter, sized⟩ := ih.members (fits.mono (behind first)) found
          exact ⟨behind (Nat.le_trans shorter first), sized_ofMembers sized⟩
    · obtain ⟨shorter, sized⟩ := unsigned?_sized h
      exact ⟨behind shorter, sized⟩
    · obtain ⟨shorter, sized⟩ := unsigned?_sized h
      exact ⟨Nat.le_trans shorter le, sized⟩

theorem items?_sized {fuel : Nat} (ih : Reads fuel) {bs rest : Bytes} {vs : List Json}
    (fits : Words.Fits bs) (h : items? (fuel + 1) bs = some (vs, rest)) :
    vs.length + rest.length ≤ bs.length ∧ ∀ v ∈ vs, Sized v := by
  rw [items?.eq_def] at h
  simp only [Option.bind_eq_bind, Option.bind_eq_some_iff] at h
  obtain ⟨⟨v, left⟩, first, h⟩ := h
  obtain ⟨shorter, sized⟩ := ih.value fits first
  have le := Nat.le_trans (length_skip left) shorter
  generalize skip left = more at le h
  cases more with
  | nil => cases h
  | cons c more =>
    have behind : more.length ≤ bs.length := Nat.le_of_succ_le le
    simp only at h
    split at h
    · obtain ⟨⟨others, last⟩, found, same⟩ := Option.bind_eq_some_iff.1 h
      cases same
      obtain ⟨tail, all⟩ := ih.items (fits.mono behind) found
      have total : others.length + 1 + last.length ≤ bs.length := by
        rw [List.length_cons] at le
        omega
      exact ⟨total, List.forall_mem_cons.2 ⟨sized, all⟩⟩
    · split at h
      · cases h
        have total : 1 + rest.length ≤ bs.length := by
          rw [List.length_cons] at le
          omega
        exact ⟨total, List.forall_mem_singleton.2 sized⟩
      · cases h

theorem members?_sized {fuel : Nat} (ih : Reads fuel) {bs rest : Bytes}
    {ms : List (Option String × Json)} (fits : Words.Fits bs)
    (h : members? (fuel + 1) bs = some (ms, rest)) :
    rest.length ≤ bs.length ∧ ∀ m ∈ ms, Sized m.2 := by
  have le := length_skip bs
  rw [members?.eq_def] at h
  simp only at h
  generalize skip bs = left at le h
  cases left with
  | nil => cases h
  | cons q left =>
    simp only at h
    split at h
    · simp only [Option.bind_eq_bind, Option.bind_eq_some_iff] at h
      obtain ⟨⟨name, named⟩, text, colon, mark, ⟨v, after⟩, first, h⟩ := h
      have le₁ := (length_string? text).1
      have le₂ := Nat.le_trans (length_after? mark) (length_skip named)
      have whole : colon.length ≤ bs.length := Nat.le_trans le₂ (Nat.le_trans le₁ (Nat.le_of_succ_le le))
      obtain ⟨shorter, sized⟩ := ih.value (fits.mono whole) first
      have le₃ := Nat.le_trans (length_skip after) (Nat.le_trans shorter whole)
      generalize skip after = more at le₃ h
      cases more with
      | nil => cases h
      | cons c more =>
        have behind : more.length ≤ bs.length := Nat.le_of_succ_le le₃
        simp only at h
        split at h
        · obtain ⟨⟨others, last⟩, found, same⟩ := Option.bind_eq_some_iff.1 h
          cases same
          obtain ⟨tail, all⟩ := ih.members (fits.mono behind) found
          exact ⟨Nat.le_trans tail behind, List.forall_mem_cons.2 ⟨sized, all⟩⟩
        · split at h
          · cases h
            exact ⟨behind, List.forall_mem_singleton.2 sized⟩
          · cases h
    · cases h

theorem reads (fuel : Nat) : Reads fuel := by
  induction fuel with
  | zero =>
    constructor
    · intro bs rest v _ h
      cases h
    · intro bs rest vs _ h
      cases h
    · intro bs rest ms _ h
      cases h
  | succ fuel ih => exact ⟨value?_sized ih, items?_sized ih, members?_sized ih⟩

/-- No text or array in a value is longer than what the value was read from. -/
theorem sized_of_parse? {bs : Bytes} {v : Json} (fits : Words.Fits bs) (h : parse? bs = some v) :
    Sized v := by
  simp only [parse?, Option.bind_eq_bind, Option.bind_eq_some_iff] at h
  obtain ⟨⟨w, rest⟩, found, same⟩ := h
  split at same
  · cases same
    exact ((reads _).value fits found).2
  · cases same

theorem sized_of_read? {bs : Bytes} {v : Json} (fits : Words.Fits bs) (h : read? bs = some v) :
    Sized v := by
  obtain ⟨w, parsed, normal⟩ := Option.bind_eq_some_iff.1 h
  rw [Json.normal] at normal
  split at normal
  · cases normal
    exact sized_sorted (sized_of_parse? fits parsed)
  · cases normal

end Json

end DeviceFleet
