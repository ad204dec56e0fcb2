import DeviceFleet.Json.Parser
import DeviceFleet.Json.Printer

/-! A string is read back from its written form: each octet is written plainly, as a letter
behind a backslash or as four digits, and each of these is one piece of the string. -/

namespace DeviceFleet.Json

theorem ofUInt8_inj {b c : UInt8} (h : Char.ofUInt8 b = Char.ofUInt8 c) : b = c := by
  have value : b.toUInt32 = c.toUInt32 := congrArg Char.val h
  exact UInt8.toUInt32_inj.1 value

/-! ### The three ways to write an octet -/

theorem pieces?_plain {b : UInt8} (quote : b ≠ 0x22) (backslash : b ≠ 0x5c)
    (printed : ¬ b < 0x20) (fuel : Nat) (rest : Bytes) :
    pieces? (fuel + 1) (b :: rest) = (pieces? fuel rest).map fun p => (some [b] :: p.1, p.2) := by
  have plain : pieces? (fuel + 1) (b :: rest) = if b < 0x20 then none
      else pieces? fuel rest >>= fun p => some (some [b] :: p.1, p.2) := by
    rw [pieces?.eq_def]
    simp only []
    split
    · rename_i h
      exact absurd (ofUInt8_inj h) quote
    · rename_i h
      exact absurd (ofUInt8_inj h) backslash
    · rfl
  rw [plain, if_neg printed]
  cases pieces? fuel rest <;> rfl

theorem pieces?_letter {e c : UInt8} (letter : Char.ofUInt8 e ≠ 'u')
    (h : escape? (Char.ofUInt8 e) = some c) (fuel : Nat) (rest : Bytes) :
    pieces? (fuel + 1) (0x5c :: e :: rest) =
      (pieces? fuel rest).map fun p => (some [c] :: p.1, p.2) := by
  rw [pieces?, if_neg letter, h]
  cases pieces? fuel rest <;> rfl

theorem ofCode_control {b : UInt8} (h : b < 0x20) : ofCode b.toNat = some [b] := by
  have all : ∀ n < 32, ofCode n = some [UInt8.ofNat n] := by decide +kernel
  rw [all b.toNat h, UInt8.ofNat_toNat]

theorem hex4?_control {b : UInt8} (h : b < 0x20) (rest : Bytes) :
    hex4? (ascii ['0', '0', Hex.digit (b.toNat / 16), Hex.digit (b.toNat % 16)] ++ rest) =
      some (b.toNat, rest) := by
  have digit : ∀ n < 16, Hex.value? (Char.ofUInt8 (Hex.digit n).toUInt8) = some n := by decide
  have zero : Hex.value? (Char.ofUInt8 ('0' : Char).toUInt8) = some 0 := by decide
  have hb : b.toNat < 32 := h
  simp only [ascii, List.map_cons, List.map_nil, List.cons_append, List.nil_append, hex4?, zero,
    digit (b.toNat / 16) (by omega), digit (b.toNat % 16) (by omega), Option.bind_eq_bind,
    Option.bind_some]
  rw [show ((0 * 16 + 0) * 16 + b.toNat / 16) * 16 + b.toNat % 16 = b.toNat by omega]

/-- Four digits behind a backslash and a `u`. -/
theorem pieces?_code {b : UInt8} (h : b < 0x20) (fuel : Nat) (rest : Bytes) :
    pieces? (fuel + 1)
        (ascii ['\\', 'u', '0', '0', Hex.digit (b.toNat / 16), Hex.digit (b.toNat % 16)] ++ rest) =
      (pieces? fuel rest).map fun p => (some [b] :: p.1, p.2) := by
  have hb : b.toNat < 32 := h
  have code : escaped b.toNat rest = (some [b], rest) := by
    rw [escaped, if_neg (by omega), ofCode_control h]
  have read := hex4?_control h rest
  simp only [ascii, List.map_cons, List.map_nil, List.cons_append, List.nil_append] at read ⊢
  rw [pieces?, if_pos (by decide), read]
  simp only [code, Option.bind_eq_bind, Option.bind_some]
  cases pieces? fuel rest <;> rfl

/-- Whichever way it is written, an octet is read back as one piece. -/
theorem pieces?_escape (b : UInt8) (fuel : Nat) (rest : Bytes) :
    pieces? (fuel + 1) (escape b ++ rest) =
      (pieces? fuel rest).map fun p => (some [b] :: p.1, p.2) := by
  simp only [escape]
  split
  · rename_i h
    obtain rfl : b = 0x22 := ofUInt8_inj h
    exact pieces?_letter (e := 0x22) (by decide) rfl fuel rest
  · rename_i h
    obtain rfl : b = 0x5c := ofUInt8_inj h
    exact pieces?_letter (e := 0x5c) (by decide) rfl fuel rest
  · rename_i h
    obtain rfl : b = 0x0a := ofUInt8_inj h
    exact pieces?_letter (e := 0x6e) (by decide) rfl fuel rest
  · rename_i h
    obtain rfl : b = 0x0d := ofUInt8_inj h
    exact pieces?_letter (e := 0x72) (by decide) rfl fuel rest
  · rename_i h
    obtain rfl : b = 0x09 := ofUInt8_inj h
    exact pieces?_letter (e := 0x74) (by decide) rfl fuel rest
  · rename_i quote backslash _ _ _
    split
    · rename_i h
      rw [h]
      exact pieces?_letter (e := 0x62) (by decide) rfl fuel rest
    · split
      · rename_i h
        rw [h]
        exact pieces?_letter (e := 0x66) (by decide) rfl fuel rest
      · split
        · rename_i control
          exact pieces?_code control fuel rest
        · rename_i printed
          refine pieces?_plain ?_ ?_ printed fuel rest
          · rintro rfl
            exact quote rfl
          · rintro rfl
            exact backslash rfl

/-! ### Whole strings -/

/-- The pieces up to the closing quotation mark. -/
theorem pieces?_escaped (bs : Bytes) (rest : Bytes) :
    ∀ fuel, bs.length < fuel → pieces? fuel (bs.flatMap escape ++ (ascii ['"'] ++ rest)) =
      some (bs.map fun b => some [b], rest) := by
  induction bs with
  | nil =>
    intro fuel h
    obtain ⟨n, rfl⟩ := Nat.exists_eq_succ_of_ne_zero (Nat.ne_of_gt h)
    unfold pieces?
    rfl
  | cons b bs ih =>
    intro fuel h
    rw [List.length_cons] at h
    obtain ⟨n, rfl⟩ := Nat.exists_eq_succ_of_ne_zero (show fuel ≠ 0 by omega)
    rw [List.flatMap_cons, List.append_assoc, Nat.succ_eq_add_one, pieces?_escape,
      ih n (by omega), Option.map_some, List.map_cons]

theorem assemble?_octets (s : String) :
    assemble? ((Text.encode s).map fun b => some [b]) = some s := by
  have parts (bs : Bytes) : (bs.map fun b => (some [b] : Piece)).mapM id =
      some (bs.map fun b => [b]) := by
    induction bs with
    | nil => rfl
    | cons b bs ih =>
      rw [List.map_cons, List.mapM_cons, ih]
      rfl
  have whole (bs : Bytes) : (bs.map fun b => [b]).flatten = bs := by
    induction bs with
    | nil => rfl
    | cons b bs ih => rw [List.map_cons, List.flatten_cons, ih, List.singleton_append]
  simp only [assemble?, parts, whole, Option.bind_eq_bind, Option.bind_some, Text.decode?_encode]

theorem length_le_escape (bs : Bytes) : bs.length ≤ (bs.flatMap escape).length := by
  have one (b : UInt8) : 1 ≤ (escape b).length := by
    simp only [escape, ascii, List.map_cons, List.map_nil]
    split <;> (try split) <;> (try split) <;> (try split) <;>
      simp only [List.length_cons, List.length_nil] <;> omega
  induction bs with
  | nil => exact Nat.le_refl 0
  | cons b bs ih =>
    have := one b
    rw [List.flatMap_cons, List.length_append, List.length_cons]
    omega

/-- A string is read back, whatever follows. -/
theorem string?_quote (s : String) (rest : Bytes) :
    string? ((Text.encode s).flatMap escape ++ (ascii ['"'] ++ rest)) = some (some s, rest) := by
  have long := length_le_escape (Text.encode s)
  have enough : (Text.encode s).length <
      ((Text.encode s).flatMap escape ++ (ascii ['"'] ++ rest)).length := by
    rw [List.length_append, List.length_append, show (ascii ['"']).length = 1 from rfl]
    omega
  rw [string?, pieces?_escaped _ rest _ enough]
  simp only [Option.map_some, assemble?_octets]

end DeviceFleet.Json
