import DeviceFleet.Text.Base64

/-! Reading base64 gives back what was written, and a text that is read is the written form
of what it stands for. -/

namespace DeviceFleet.Base64

theorem value?_digit {n : Nat} (h : n < 64) : value? (digit n) = some n := by
  have all : ∀ n < 64, value? (digit n) = some n := by decide
  exact all n h

theorem digit_ne_fill {n : Nat} (h : n < 64) : digit n ≠ '=' := by
  have all : ∀ n < 64, digit n ≠ '=' := by decide
  exact all n h

/-! The three kinds of groups: one octet, two octets and three. -/

theorem decode?_one {p q : Char} {x y : Nat} (hx : value? p = some x) (hy : value? q = some y)
    (low : y % 16 = 0) : decode? [p, q, '=', '='] = some [UInt8.ofNat (x * 4 + y / 16)] := by
  rw [decode?, hx, hy]
  simp only [low, Option.bind_eq_bind, Option.bind_some, if_true]

theorem decode?_two {p q r : Char} {x y z : Nat} (hr : r ≠ '=') (hx : value? p = some x)
    (hy : value? q = some y) (hz : value? r = some z) (low : z % 4 = 0) :
    decode? [p, q, r, '='] =
      some [UInt8.ofNat (x * 4 + y / 16), UInt8.ofNat (y % 16 * 16 + z / 4)] := by
  rw [decode?, hx, hy, hz]
  · simp only [low, Option.bind_eq_bind, Option.bind_some, if_true]
  · exact fun h => absurd h hr

theorem decode?_three {p q r s : Char} {x y z w : Nat} {rest : List Char} {bs : Bytes}
    (hs : s ≠ '=') (hx : value? p = some x) (hy : value? q = some y) (hz : value? r = some z)
    (hw : value? s = some w) (hrest : decode? rest = some bs) :
    decode? (p :: q :: r :: s :: rest) =
      some (UInt8.ofNat (x * 4 + y / 16) :: UInt8.ofNat (y % 16 * 16 + z / 4) ::
        UInt8.ofNat (z % 4 * 64 + w) :: bs) := by
  simp [decode?, hs, hx, hy, hz, hw, hrest]

theorem decode?_encode : ∀ bs : Bytes, decode? (encode bs) = some bs
  | [] => rfl
  | [a] => by
    have ha := a.toNat_lt
    rw [encode, decode?_one (value?_digit (by omega)) (value?_digit (by omega)) (by omega)]
    rw [show a.toNat / 4 * 4 + a.toNat % 4 * 16 / 16 = a.toNat by omega, UInt8.ofNat_toNat]
  | [a, b] => by
    have ha := a.toNat_lt
    have hb := b.toNat_lt
    rw [encode, decode?_two (digit_ne_fill (by omega)) (value?_digit (by omega))
      (value?_digit (by omega)) (value?_digit (by omega)) (by omega)]
    rw [show a.toNat / 4 * 4 + (a.toNat % 4 * 16 + b.toNat / 16) / 16 = a.toNat by omega,
      show (a.toNat % 4 * 16 + b.toNat / 16) % 16 * 16 + b.toNat % 16 * 4 / 4 = b.toNat by omega,
      UInt8.ofNat_toNat, UInt8.ofNat_toNat]
  | a :: b :: c :: rest => by
    have ha := a.toNat_lt
    have hb := b.toNat_lt
    have hc := c.toNat_lt
    rw [encode, decode?_three (digit_ne_fill (by omega)) (value?_digit (by omega))
      (value?_digit (by omega)) (value?_digit (by omega)) (value?_digit (by omega))
      (decode?_encode rest)]
    rw [show a.toNat / 4 * 4 + (a.toNat % 4 * 16 + b.toNat / 16) / 16 = a.toNat by omega,
      show (a.toNat % 4 * 16 + b.toNat / 16) % 16 * 16 +
        (b.toNat % 16 * 4 + c.toNat / 64) / 4 = b.toNat by omega,
      show (b.toNat % 16 * 4 + c.toNat / 64) % 4 * 64 + c.toNat % 64 = c.toNat by omega,
      UInt8.ofNat_toNat, UInt8.ofNat_toNat, UInt8.ofNat_toNat]

theorem bytes?_text (bs : Bytes) : bytes? (text bs) = some bs := by
  simp [bytes?, text, decode?_encode]

/-! ### One form -/

theorem digit_of_value? {c : Char} {n : Nat} (h : value? c = some n) : n < 64 ∧ digit n = c := by
  have char (k : Nat) (eq : k = c.toNat) : Char.ofNat k = c := eq ▸ Char.ofNat_toNat c
  simp only [value?] at h
  split at h
  · cases h
    refine ⟨by omega, ?_⟩
    rw [digit, if_pos (by omega)]
    exact char _ (by omega)
  · split at h
    · cases h
      refine ⟨by omega, ?_⟩
      rw [digit, if_neg (by omega), if_pos (by omega)]
      exact char _ (by omega)
    · split at h
      · cases h
        refine ⟨by omega, ?_⟩
        rw [digit, if_neg (by omega), if_neg (by omega), if_pos (by omega)]
        exact char _ (by omega)
      · split at h
        · rename_i same
          cases h
          exact ⟨by omega, same.symm⟩
        · split at h
          · rename_i same
            cases h
            exact ⟨by omega, same.symm⟩
          · cases h

theorem toNat_ofNat {n : Nat} (h : n < 256) : (UInt8.ofNat n).toNat = n := by
  rw [UInt8.toNat_ofNat']
  omega

/-- Octets are written as the characters that they were read from. -/
theorem encode_of_decode? {cs : List Char} {bs : Bytes} (h : decode? cs = some bs) :
    encode bs = cs := by
  fun_induction decode? cs generalizing bs with
  | case1 =>
    cases h
    rfl
  | case2 p q =>
    simp only [Option.bind_eq_bind, Option.bind_eq_some_iff] at h
    obtain ⟨x, hx, y, hy, h⟩ := h
    obtain ⟨lx, rfl⟩ := digit_of_value? hx
    obtain ⟨ly, rfl⟩ := digit_of_value? hy
    split at h
    · cases h
      rw [encode, toNat_ofNat (by omega), show (x * 4 + y / 16) / 4 = x by omega,
        show (x * 4 + y / 16) % 4 * 16 = y by omega]
    · cases h
  | case3 p q r =>
    simp only [Option.bind_eq_bind, Option.bind_eq_some_iff] at h
    obtain ⟨x, hx, y, hy, z, hz, h⟩ := h
    obtain ⟨lx, rfl⟩ := digit_of_value? hx
    obtain ⟨ly, rfl⟩ := digit_of_value? hy
    obtain ⟨lz, rfl⟩ := digit_of_value? hz
    split at h
    · cases h
      rw [encode, toNat_ofNat (by omega), toNat_ofNat (by omega),
        show (x * 4 + y / 16) / 4 = x by omega,
        show (x * 4 + y / 16) % 4 * 16 + (y % 16 * 16 + z / 4) / 16 = y by omega,
        show (y % 16 * 16 + z / 4) % 16 * 4 = z by omega]
    · cases h
  | case4 p q r s rest _ _ ih =>
    simp only [Option.bind_eq_bind, Option.bind_eq_some_iff] at h
    obtain ⟨x, hx, y, hy, z, hz, w, hw, more, others, h⟩ := h
    obtain ⟨lx, rfl⟩ := digit_of_value? hx
    obtain ⟨ly, rfl⟩ := digit_of_value? hy
    obtain ⟨lz, rfl⟩ := digit_of_value? hz
    obtain ⟨lw, rfl⟩ := digit_of_value? hw
    cases h
    rw [encode, toNat_ofNat (by omega), toNat_ofNat (by omega), toNat_ofNat (by omega), ih others,
      show (x * 4 + y / 16) / 4 = x by omega,
      show (x * 4 + y / 16) % 4 * 16 + (y % 16 * 16 + z / 4) / 16 = y by omega,
      show (y % 16 * 16 + z / 4) % 16 * 4 + (z % 4 * 64 + w) / 64 = z by omega,
      show (z % 4 * 64 + w) % 64 = w by omega]
  | case5 => cases h

theorem text_of_bytes? {s : String} {bs : Bytes} (h : bytes? s = some bs) : text bs = s := by
  rw [text, encode_of_decode? h, String.ofList_toList]

end DeviceFleet.Base64
