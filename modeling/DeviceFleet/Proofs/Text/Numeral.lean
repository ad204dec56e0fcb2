import Mathlib.Data.List.Induction
import DeviceFleet.Proofs.Text.Blank
import DeviceFleet.Text.Numeral

/-! Which texts are unsigned integers, and of which numbers: a number in decimal with any
number of zeros before it and perhaps a plus before these, if it has no more bits than the
integer. -/

namespace DeviceFleet.Text

/-- The characters are the number in decimal after any number of zeros. -/
def Decimal (cs : List Char) (n : Nat) : Prop :=
  ∃ zeros, cs = List.replicate zeros '0' ++ Nat.toDigits 10 n

/-- The characters are the number in decimal, which may have zeros and a plus before it. -/
def Numeral (cs : List Char) (n : Nat) : Prop :=
  Decimal cs n ∨ ∃ ds, cs = '+' :: ds ∧ Decimal ds n

theorem toDigits_digit {c : Char} (h : c.isDigit = true) :
    c.toNat - '0'.toNat < 10 ∧ Nat.toDigits 10 (c.toNat - '0'.toNat) = [c] := by
  simp only [Char.isDigit, Bool.and_eq_true, decide_eq_true_eq, ge_iff_le, UInt32.le_iff_toNat_le] at h
  have lo : 48 ≤ c.toNat := h.1
  have hi : c.toNat ≤ 57 := h.2
  have small : c.toNat - '0'.toNat < 10 := by
    rw [show '0'.toNat = 48 from rfl]
    omega
  refine ⟨small, ?_⟩
  rw [Nat.toDigits_of_lt_base small, List.singleton_inj, ← Char.toNat_inj,
    Nat.toNat_digitChar_of_lt_ten small]
  exact Nat.add_sub_of_le lo

/-- Digits are their number in decimal after some zeros. -/
theorem decimal_ofDigitChars (cs : List Char) (ne : cs ≠ []) (digits : ∀ c ∈ cs, c.isDigit = true) :
    Decimal cs (Nat.ofDigitChars 10 cs 0) := by
  induction cs using List.reverseRecOn with
  | nil => exact absurd rfl ne
  | append_singleton cs c ih =>
    obtain ⟨small, last⟩ := toDigits_digit (digits c (by simp))
    have step : Nat.ofDigitChars 10 (cs ++ [c]) 0 =
        10 * Nat.ofDigitChars 10 cs 0 + (c.toNat - '0'.toNat) := by
      rw [Nat.ofDigitChars_append]
      rfl
    rw [step]
    by_cases alone : cs = []
    · subst alone
      refine ⟨0, ?_⟩
      rw [Nat.ofDigitChars_nil, Nat.mul_zero, Nat.zero_add, last, List.replicate_zero]
    · obtain ⟨zeros, form⟩ := ih alone fun d hd => digits d (List.mem_append_left _ hd)
      rcases Nat.eq_zero_or_pos (Nat.ofDigitChars 10 cs 0) with zero | pos
      · -- A nought alone is one more zero before the last digit.
        refine ⟨zeros + 1, ?_⟩
        rw [zero, Nat.toDigits_zero] at form
        rw [zero, Nat.mul_zero, Nat.zero_add, last, form, List.replicate_succ']
      · refine ⟨zeros, ?_⟩
        rw [← Nat.toDigits_append_toDigits (by decide) pos small, last, ← List.append_assoc, ← form]

theorem isDigit_of_decimal {cs : List Char} {n : Nat} (h : Decimal cs n) :
    ∀ c ∈ cs, c.isDigit = true := by
  obtain ⟨zeros, rfl⟩ := h
  intro c hc
  rcases List.mem_append.1 hc with hc | hc
  · rw [List.eq_of_mem_replicate hc]
    decide
  · exact Nat.isDigit_of_mem_toDigits (by decide) (by decide) hc

theorem digits?_eq_some (cs : List Char) (n : Nat) : digits? cs = some n ↔ Decimal cs n := by
  have read : digits? cs = some n ↔
      cs ≠ [] ∧ (∀ c ∈ cs, c.isDigit = true) ∧ Nat.ofDigitChars 10 cs 0 = n := by
    cases cs with
    | nil => simp [digits?]
    | cons c cs =>
      rw [digits?, Option.ite_none_right_eq_some, List.all_eq_true, Option.some.injEq]
      · simp only [ne_eq, reduceCtorEq, not_false_eq_true, true_and]
        rfl
      · simp
  rw [read]
  constructor
  · rintro ⟨ne, digits, rfl⟩
    exact decimal_ofDigitChars cs ne digits
  · intro h
    have digits := isDigit_of_decimal h
    obtain ⟨zeros, rfl⟩ := h
    refine ⟨List.append_ne_nil_of_right_ne_nil _ Nat.toDigits_ne_nil, digits, ?_⟩
    rw [Nat.ofDigitChars_append, Nat.ofDigitChars_replicate_zero, Nat.mul_zero,
      Nat.ofDigitChars_ten_toDigits]

theorem plain?_eq_some (cs : List Char) (n : Nat) : plain? cs = some n ↔ Numeral cs n := by
  have noSign : ∀ ds, ¬ Decimal ('+' :: ds) n := fun ds h =>
    absurd (isDigit_of_decimal h '+' List.mem_cons_self) (by decide)
  unfold plain?
  split
  · rename_i ds
    rw [digits?_eq_some]
    constructor
    · exact fun h => .inr ⟨ds, rfl, h⟩
    · rintro (h | ⟨ds', same, h⟩)
      · exact absurd h (noSign ds)
      · exact (List.cons.inj same).2 ▸ h
  · rename_i unsigned
    rw [digits?_eq_some]
    exact ⟨.inl, fun h => h.elim id fun ⟨ds, signed, _⟩ => absurd signed (unsigned ds)⟩

theorem unsigned?_eq_some (bits : Nat) (s : String) (n : Nat) :
    unsigned? bits s = some n ↔ Numeral s.toList n ∧ n < Nat.pow 2 bits := by
  rw [unsigned?, Option.filter_eq_some_iff, plain?_eq_some, decide_eq_true_eq]

theorem Numeral.solid {cs : List Char} {n : Nat} (h : Numeral cs n) :
    ∀ c ∈ cs, isBlank c = false := by
  rcases h with h | ⟨ds, rfl, h⟩
  · exact fun c hc => isBlank_of_isDigit (isDigit_of_decimal h c hc)
  · intro c hc
    rcases List.mem_cons.1 hc with rfl | hc
    · decide
    · exact isBlank_of_isDigit (isDigit_of_decimal h c hc)

end DeviceFleet.Text
