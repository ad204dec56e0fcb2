import DeviceFleet.Json.Parser
import DeviceFleet.Json.Printer

/-! An integer is read back from its written form, if nothing after it continues a number. -/

namespace DeviceFleet.Json

/-- The rest of a text after a complete value inside it: nothing, or a mark that ends one. -/
def Ends (rest : Bytes) : Prop := ∀ b ∈ rest.head?, b = 0x2c ∨ b = 0x5d ∨ b = 0x7d

theorem ends_nil : Ends [] := by
  intro b h
  cases h

theorem ends_cons {b : UInt8} (h : b = 0x2c ∨ b = 0x5d ∨ b = 0x7d) (rest : Bytes) :
    Ends (b :: rest) := by
  intro c hc
  cases hc
  exact h

/-! ### Digits -/

def digitOf (c : Char) : Nat := c.toNat - '0'.toNat

theorem digit?_digit {c : Char} (h : c.isDigit = true) : digit? c.toUInt8 = some (digitOf c) := by
  simp only [Char.isDigit, Bool.and_eq_true, decide_eq_true_eq] at h
  have low : 48 ≤ c.toNat := h.1
  have high : c.toNat ≤ 57 := h.2
  have size : c.toUInt8.toNat = c.toNat := by
    have : c.toUInt8.toNat = c.toNat % 256 := rfl
    omega
  have inside : (0x30 : UInt8) ≤ c.toUInt8 ∧ c.toUInt8 ≤ 0x39 := by
    rw [UInt8.le_iff_toNat_le, UInt8.le_iff_toNat_le, size]
    exact ⟨low, high⟩
  rw [digit?, if_pos inside, size]
  rfl

theorem digits_rest {rest : Bytes} (h : Ends rest) : digits rest = ([], rest) := by
  cases rest with
  | nil => rfl
  | cons b rest => rcases h b rfl with rfl | rfl | rfl <;> rfl

theorem digits_ascii (cs : List Char) (hc : ∀ c ∈ cs, c.isDigit = true) {rest : Bytes}
    (h : Ends rest) : digits (ascii cs ++ rest) = (cs.map digitOf, rest) := by
  induction cs with
  | nil => exact digits_rest h
  | cons c cs ih =>
    have first := digit?_digit (hc c List.mem_cons_self)
    have others := ih fun d hd => hc d (List.mem_cons_of_mem c hd)
    simp only [ascii, List.map_cons, List.cons_append] at others ⊢
    rw [digits, first]
    simp only [others]

theorem ofDigits_digitOf (cs : List Char) : ofDigits (cs.map digitOf) = Nat.ofDigitChars 10 cs 0 := by
  rw [ofDigits, List.foldl_map]
  rfl

/-! ### Decimal forms of numbers -/

theorem isDigit_of_mem_decimal {n : Nat} {c : Char} (h : c ∈ Nat.toDigits 10 n) :
    c.isDigit = true :=
  Nat.isDigit_of_mem_toDigits (by decide) (by decide) h

theorem head_decimal {n : Nat} (pos : 0 < n) : ∃ c cs, Nat.toDigits 10 n = c :: cs ∧ digitOf c ≠ 0 := by
  induction n using Nat.strongRecOn with
  | _ n ih =>
    by_cases small : n < 10
    · refine ⟨n.digitChar, [], Nat.toDigits_of_lt_base small, ?_⟩
      have all : ∀ n < 10, 0 < n → digitOf n.digitChar ≠ 0 := by decide
      exact all n small pos
    · obtain ⟨c, cs, form, nonzero⟩ := ih (n / 10) (by omega) (by omega)
      refine ⟨c, cs ++ [(n % 10).digitChar], ?_, nonzero⟩
      rw [Nat.toDigits_of_base_le (by decide) (by omega), form, List.cons_append]

theorem whole?_decimal (n : Nat) {rest : Bytes} (h : Ends rest) :
    whole? (ascii (Nat.toDigits 10 n) ++ rest) =
      some ((Nat.toDigits 10 n).map digitOf, rest) := by
  have read := digits_ascii (Nat.toDigits 10 n) (fun c => isDigit_of_mem_decimal) h
  by_cases pos : 0 < n
  · obtain ⟨c, cs, form, nonzero⟩ := head_decimal pos
    simp only [form, List.map_cons] at read ⊢
    rw [whole?, digits1?, read]
    simp only [Option.bind_eq_bind, Option.bind_some]
    split
    · rename_i zero
      exact absurd (List.cons.inj zero).1 nonzero
    · rfl
  · obtain rfl : n = 0 := by omega
    rw [Nat.toDigits_zero] at read ⊢
    rw [whole?, digits1?, read]
    rfl

theorem fraction?_rest {rest : Bytes} (h : Ends rest) : fraction? rest = some (none, rest) := by
  cases rest with
  | nil => rfl
  | cons b rest => rcases h b rfl with rfl | rfl | rfl <;> rfl

theorem exponent?_rest {rest : Bytes} (h : Ends rest) : exponent? rest = some (none, rest) := by
  cases rest with
  | nil => rfl
  | cons b rest => rcases h b rfl with rfl | rfl | rfl <;> rfl

theorem unsigned?_decimal (negative : Bool) (n : Nat) {rest : Bytes} (h : Ends rest) :
    unsigned? negative (ascii (Nat.toDigits 10 n) ++ rest) =
      some (({ negative, whole := (Nat.toDigits 10 n).map digitOf, fraction := none,
               exponent := none } : Numeral).value, rest) := by
  simp only [unsigned?, whole?_decimal n h, fraction?_rest h, exponent?_rest h,
    Option.bind_eq_bind, Option.bind_some]

/-! ### Integers -/

/-- The integers that a number in a text can stand for. -/
def Fits (n : Int) : Prop := -(maxNegative : Int) ≤ n ∧ n ≤ maxSignificand

theorem value_decimal {n : Nat} (h : n ≤ maxSignificand) :
    ({ negative := false, whole := (Nat.toDigits 10 n).map digitOf, fraction := none,
       exponent := none } : Numeral).value = .int n := by
  simp only [Numeral.value, Numeral.int?, ofDigits_digitOf, Nat.ofDigitChars_ten_toDigits,
    Option.isSome_none, Bool.or_self, Bool.false_eq_true, if_false, if_pos h]

theorem value_negative {n : Nat} (pos : 0 < n) (h : n ≤ maxNegative) :
    ({ negative := true, whole := (Nat.toDigits 10 n).map digitOf, fraction := none,
       exponent := none } : Numeral).value = .int (-n) := by
  simp only [Numeral.value, Numeral.int?, ofDigits_digitOf, Nat.ofDigitChars_ten_toDigits,
    Option.isSome_none, Bool.or_self, Bool.false_eq_true, if_false, if_true, if_pos (And.intro pos h)]

theorem toString_ofNat (n : Nat) : (toString (n : Int)).toList = Nat.toDigits 10 n := by
  rw [Int.toString_eq_repr, Int.repr_eq_if, if_pos (Int.natCast_nonneg n), Int.toNat_natCast,
    Nat.toList_repr]

theorem toString_negative {n : Nat} (pos : 0 < n) :
    (toString (-n : Int)).toList = '-' :: Nat.toDigits 10 n := by
  rw [Int.toString_eq_repr, Int.repr_eq_if, if_neg (by omega), Int.neg_neg, Int.toNat_natCast,
    String.toList_append, Nat.toList_repr]
  rfl

/-- The form of an integer is either that of its size or a minus and that of its size. -/
theorem int_cases (n : Int) :
    (∃ k : Nat, n = k ∧ (toString n).toList = Nat.toDigits 10 k) ∨
      ∃ k : Nat, 0 < k ∧ n = -k ∧ (toString n).toList = '-' :: Nat.toDigits 10 k := by
  by_cases h : 0 ≤ n
  · refine .inl ⟨n.toNat, by omega, ?_⟩
    have form := toString_ofNat n.toNat
    rwa [Int.toNat_of_nonneg h] at form
  · refine .inr ⟨(-n).toNat, by omega, by omega, ?_⟩
    have form := toString_negative (n := (-n).toNat) (by omega)
    rwa [Int.toNat_of_nonneg (by omega), Int.neg_neg] at form

end DeviceFleet.Json
