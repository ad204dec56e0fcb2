import DeviceFleet.Text.Hex

/-! Octets are written in lower-case digits, two for each, and are read back from them. -/

namespace DeviceFleet.Hex

def digits : List Char := "0123456789abcdef".toList

theorem value?_digit {n : Nat} (h : n < 16) : value? (digit n) = some n := by
  have all : ∀ n < 16, value? (digit n) = some n := by decide
  exact all n h

theorem digit_mem {n : Nat} (h : n < 16) : digit n ∈ digits := by
  have all : ∀ n < 16, digit n ∈ digits := by decide
  exact all n h

theorem halves (a : UInt8) : a.toNat / 16 < 16 ∧ a.toNat % 16 < 16 := by
  have := a.toNat_lt
  omega

theorem decode?_encode : ∀ bs : Bytes, decode? (encode bs) = some bs
  | [] => rfl
  | a :: rest => by
    obtain ⟨high, low⟩ := halves a
    have octet : UInt8.ofNat (a.toNat / 16 * 16 + a.toNat % 16) = a := by
      rw [Nat.div_add_mod', UInt8.ofNat_toNat]
    rw [encode, decode?, value?_digit high, value?_digit low, decode?_encode rest]
    simp only [Option.bind_eq_bind, Option.bind_some, octet]

theorem bytes?_text (bs : Bytes) : bytes? (text bs) = some bs := by
  rw [bytes?, text, String.toList_ofList, decode?_encode]

theorem mem_digits : ∀ (bs : Bytes) {c : Char}, c ∈ encode bs → c ∈ digits
  | [], _, h => absurd h List.not_mem_nil
  | a :: rest, c, h => by
    obtain ⟨high, low⟩ := halves a
    rcases List.mem_cons.1 h with rfl | h
    · exact digit_mem high
    · rcases List.mem_cons.1 h with rfl | h
      · exact digit_mem low
      · exact mem_digits rest h

end DeviceFleet.Hex
