import Mathlib.Data.String.Basic
import DeviceFleet.Text.Octets

/-! The order of texts is that of their octets. The octets of a smaller character come before those of
a greater one whatever follows either, so texts compare octet by octet as they do character by
character. -/

namespace DeviceFleet.Text

/-- The octets of a text are those of its characters, one after another. -/
theorem encode_eq (s : String) : encode s = s.toList.flatMap String.utf8EncodeChar := by
  rw [encode, ← String.utf8Encode_toList, List.utf8Encode, List.toList_data_toByteArray]

/-- Octets compare by the first ones, and by those that follow if these are the same. -/
theorem octets_lt_iff {v w : Nat} (hv : v < 256) (hw : w < 256) (bs cs : Bytes) :
    UInt8.ofNat v :: bs < UInt8.ofNat w :: cs ↔ v < w ∨ v = w ∧ bs < cs := by
  rw [List.cons_lt_cons_iff, UInt8.lt_iff_toNat_lt, ← UInt8.toNat_inj, UInt8.toNat_ofNat',
    UInt8.toNat_ofNat', Nat.mod_eq_of_lt hv, Nat.mod_eq_of_lt hw]

theorem digit_lt_iff (v w : Nat) : v < w ↔ v / 64 < w / 64 ∨ v / 64 = w / 64 ∧ v % 64 < w % 64 := by
  omega

theorem char_lt {c d : Char} (h : c < d) (bs cs : Bytes) :
    String.utf8EncodeChar c ++ bs < String.utf8EncodeChar d ++ cs := by
  have less : c.val.toNat < d.val.toNat := h
  have last : d.val.toNat < 0x110000 := by
    rcases d.valid with low | high <;> omega
  simp only [String.utf8EncodeChar]
  generalize c.val.toNat = v, d.val.toNat = w at less last
  -- The digits to the base 64, from the last one on; the octets begin with the first.
  have third := (digit_lt_iff v w).1 less
  have second := digit_lt_iff (v / 64) (w / 64)
  have first := digit_lt_iff (v / 4096) (w / 4096)
  simp only [Nat.div_div_eq_div_mul, Nat.reduceMul] at second first
  -- One case for each two lengths; those in which the smaller one is longer do not arise.
  split
  all_goals split_ifs
  all_goals
    simp (disch := omega) only [List.cons_append, List.nil_append, octets_lt_iff, Nat.mod_eq_of_lt]
    omega

theorem utf8EncodeChar_ne_nil (c : Char) : String.utf8EncodeChar c ≠ [] := by
  simp only [String.utf8EncodeChar]
  split_ifs <;> exact List.cons_ne_nil _ _

theorem flatMap_lt : ∀ {s t : List Char}, s < t →
    s.flatMap String.utf8EncodeChar < t.flatMap String.utf8EncodeChar
  | s, [], h => absurd h (List.not_lt_nil s)
  | [], d :: t, _ => by
    obtain ⟨b, bs, form⟩ := List.exists_cons_of_ne_nil (utf8EncodeChar_ne_nil d)
    rw [List.flatMap_nil, List.flatMap_cons, form]
    exact List.nil_lt_cons b _
  | c :: s, d :: t, h => by
    rw [List.flatMap_cons, List.flatMap_cons]
    rcases List.cons_lt_cons_iff.1 h with less | ⟨rfl, less⟩
    · exact char_lt less _ _
    · exact List.append_left_lt (flatMap_lt less)

theorem encode_lt {s t : String} (h : s < t) : encode s < encode t := by
  rw [encode_eq, encode_eq]
  exact flatMap_lt (String.lt_iff_toList_lt.1 h)

/-- Texts have the order of their octets. -/
theorem encode_lt_iff {s t : String} : encode s < encode t ↔ s < t := by
  refine ⟨fun h => ?_, encode_lt⟩
  rcases lt_trichotomy s t with less | rfl | greater
  · exact less
  · exact absurd h (List.lt_irrefl _)
  · exact absurd h (List.lt_asymm (encode_lt greater))

end DeviceFleet.Text
