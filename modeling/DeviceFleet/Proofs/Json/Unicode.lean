import DeviceFleet.Proofs.Json.RoundTrip
import DeviceFleet.Proofs.Text.Order

/-! A value is written as a Unicode text: its marks and digits are ASCII characters, and escaping a
string replaces some of its ASCII characters by several such and leaves all others as they are. -/

namespace DeviceFleet

namespace Text

def IsUtf8 (bs : Bytes) : Prop := ∃ s, decode? bs = some s

variable {bs cs : Bytes}

theorem isUtf8_encode (s : String) : IsUtf8 (encode s) := ⟨s, decode?_encode s⟩

theorem encode_append (s t : String) : encode (s ++ t) = encode s ++ encode t := by
  rw [encode_eq, encode_eq, encode_eq, String.toList_append, List.flatMap_append]

theorem IsUtf8.append (hb : IsUtf8 bs) (hc : IsUtf8 cs) : IsUtf8 (bs ++ cs) := by
  obtain ⟨s, hs⟩ := hb
  obtain ⟨t, ht⟩ := hc
  rw [eq_encode_of_decode? hs, eq_encode_of_decode? ht, ← encode_append]
  exact isUtf8_encode _

theorem isUtf8_flatMap {α : Type} {f : α → Bytes} {xs : List α} (h : ∀ x ∈ xs, IsUtf8 (f x)) :
    IsUtf8 (xs.flatMap f) := by
  induction xs with
  | nil => exact isUtf8_encode ""
  | cons x xs ih =>
    rw [List.flatMap_cons]
    exact (h x List.mem_cons_self).append (ih fun y hy => h y (List.mem_cons_of_mem x hy))

theorem encode_singleton (c : Char) : encode (String.singleton c) = String.utf8EncodeChar c := by
  rw [encode_eq, String.toList_singleton, List.flatMap_singleton]

/-- Octets of the lower half are ASCII characters. -/
theorem isUtf8_of_low (h : ∀ b ∈ bs, b.toNat < 128) : IsUtf8 bs := by
  have one : ∀ n < 128, String.utf8EncodeChar (Char.ofNat n) = [UInt8.ofNat n] := by decide
  have each (b : UInt8) (hb : b ∈ bs) : IsUtf8 [b] := by
    rw [← UInt8.ofNat_toNat (x := b), ← one b.toNat (h b hb), ← encode_singleton]
    exact isUtf8_encode _
  have whole : bs.flatMap (fun b => [b]) = bs := List.flatMap_singleton' bs
  rw [← whole]
  exact isUtf8_flatMap each

theorem high_utf8EncodeChar {c : Char} (wide : 127 < c.val.toNat) :
    ∀ b ∈ String.utf8EncodeChar c, 128 ≤ b.toNat := by
  simp only [String.utf8EncodeChar, if_neg (Nat.not_le.2 wide)]
  split_ifs <;>
    simp only [List.mem_cons, List.not_mem_nil, or_false, forall_eq_or_imp, forall_eq,
      UInt8.toNat_ofNat'] <;> omega

end Text

namespace Json

open Text (IsUtf8)

-- The condition is computed, so that for the marks of the format it is `rfl`.
theorem isUtf8_ascii {cs : List Char} (h : cs.all (fun c => c.toNat < 128) = true) :
    IsUtf8 (ascii cs) := by
  refine Text.isUtf8_of_low fun b hb => ?_
  obtain ⟨c, hc, rfl⟩ := List.mem_map.1 hb
  have size : c.toUInt8.toNat = c.toNat % 256 := rfl
  have low : c.toNat < 128 := of_decide_eq_true (List.all_eq_true.1 h c hc)
  omega

/-- The escaped form of an ASCII character has ASCII characters only. -/
theorem low_of_mem_escape {b : UInt8} (low : b.toNat < 128) {c : UInt8} (hc : c ∈ escape b) :
    c.toNat < 128 := by
  have all : ∀ n < 128, ∀ c ∈ escape (UInt8.ofNat n), c.toNat < 128 := by decide +kernel
  exact all b.toNat low c (by rwa [UInt8.ofNat_toNat])

theorem escape_high {b : UInt8} (high : 128 ≤ b.toNat) : escape b = [b] := by
  have all : ∀ n < 256, 128 ≤ n → escape (UInt8.ofNat n) = [UInt8.ofNat n] := by decide +kernel
  have same := all b.toNat b.toNat_lt high
  rwa [UInt8.ofNat_toNat] at same

theorem isUtf8_escape (c : Char) : IsUtf8 ((String.utf8EncodeChar c).flatMap escape) := by
  by_cases wide : 127 < c.val.toNat
  · have plain : (String.utf8EncodeChar c).flatMap escape = String.utf8EncodeChar c := by
      rw [List.flatMap_congr fun b hb => escape_high (Text.high_utf8EncodeChar wide b hb)]
      exact List.flatMap_singleton' _
    rw [plain, ← Text.encode_singleton]
    exact Text.isUtf8_encode _
  · refine Text.isUtf8_of_low fun b hb => ?_
    obtain ⟨a, ha, hb⟩ := List.mem_flatMap.1 hb
    rw [String.utf8EncodeChar, if_pos (Nat.not_lt.1 wide), List.mem_singleton] at ha
    refine low_of_mem_escape ?_ hb
    rw [ha, UInt8.toNat_ofNat']
    omega

theorem isUtf8_quote (s : String) : IsUtf8 (quote s) := by
  rw [quote, Text.encode_eq, List.flatMap_assoc]
  exact ((isUtf8_ascii rfl).append (Text.isUtf8_flatMap fun c _ => isUtf8_escape c)).append
    (isUtf8_ascii rfl)

theorem isUtf8_decimal (n : Nat) : IsUtf8 (ascii (Nat.toDigits 10 n)) := by
  refine isUtf8_ascii (List.all_eq_true.2 fun c hc => decide_eq_true ?_)
  have digit := isDigit_of_mem_decimal hc
  simp only [Char.isDigit, Bool.and_eq_true, decide_eq_true_eq] at digit
  have high : c.toNat ≤ 57 := digit.2
  omega

mutual

/-- A value that a text says exactly is written as a text. -/
theorem isUtf8_print : ∀ {v : Json}, Exact v → IsUtf8 (print v)
  | null, _ => isUtf8_ascii rfl
  | bool true, _ => isUtf8_ascii rfl
  | bool false, _ => isUtf8_ascii rfl
  | int n, _ => by
    rw [print]
    rcases int_cases n with ⟨k, -, form⟩ | ⟨k, -, -, form⟩
    · rw [form]
      exact isUtf8_decimal k
    · have minus : IsUtf8 (ascii ['-']) := isUtf8_ascii rfl
      rw [form]
      exact minus.append (isUtf8_decimal k)
  | string s, _ => isUtf8_quote s
  | array [], _ => isUtf8_ascii rfl
  | array (_ :: _), h =>
    ((isUtf8_ascii rfl).append (isUtf8_print h.1)).append (isUtf8_printItems h.2)
  | object [], _ => isUtf8_ascii rfl
  | object ((n, _) :: _), h =>
    ((((isUtf8_ascii rfl).append (isUtf8_quote n)).append (isUtf8_ascii rfl)).append
      (isUtf8_print h.1)).append (isUtf8_printMembers h.2)

theorem isUtf8_printItems : ∀ {vs : List Json}, ExactItems vs → IsUtf8 (printItems vs)
  | [], _ => isUtf8_ascii rfl
  | _ :: _, h =>
    ((isUtf8_ascii rfl).append (isUtf8_print h.1)).append (isUtf8_printItems h.2)

theorem isUtf8_printMembers : ∀ {ms : Members}, ExactMembers ms → IsUtf8 (printMembers ms)
  | [], _ => isUtf8_ascii rfl
  | (n, _) :: _, h =>
    ((((isUtf8_ascii rfl).append (isUtf8_quote n)).append (isUtf8_ascii rfl)).append
      (isUtf8_print h.1)).append (isUtf8_printMembers h.2)

end

end Json

end DeviceFleet
