import DeviceFleet.Proofs.Json.Numerals
import DeviceFleet.Proofs.Json.Strings

/-! A value is read back from its compact form, if a text can say it exactly: it holds no
double and nothing unreadable, and its integers fit. The members of its objects come back
in their order, repeated names and all. -/

namespace DeviceFleet.Json

mutual

/-- Whether a text says the value exactly. -/
def Exact : Json → Prop
  | int n => Fits n
  | double _ => False
  | array items => ExactItems items
  | object members => ExactMembers members
  | unreadable => False
  | _ => True

def ExactItems : List Json → Prop
  | [] => True
  | v :: vs => Exact v ∧ ExactItems vs

def ExactMembers : Members → Prop
  | [] => True
  | (_, v) :: ms => Exact v ∧ ExactMembers ms

end

theorem exactItems_iff {vs : List Json} : ExactItems vs ↔ ∀ v ∈ vs, Exact v := by
  induction vs with
  | nil => simp [ExactItems]
  | cons v vs ih => simp [ExactItems, ih]

theorem exactMembers_iff {ms : Members} : ExactMembers ms ↔ ∀ m ∈ ms, Exact m.2 := by
  induction ms with
  | nil => simp [ExactMembers]
  | cons m ms ih =>
    obtain ⟨n, v⟩ := m
    simp [ExactMembers, ih]

/-! ### One step of the reader -/

theorem eq_of_digit? {b : UInt8} {d : Nat} (h : digit? b = some d) :
    ∃ n, 48 ≤ n ∧ n ≤ 57 ∧ b = UInt8.ofNat n := by
  rw [digit?] at h
  split at h
  · rename_i inside
    exact ⟨b.toNat, UInt8.le_iff_toNat_le.1 inside.1, UInt8.le_iff_toNat_le.1 inside.2,
      UInt8.ofNat_toNat.symm⟩
  · cases h

theorem value?_digit {b : UInt8} {d : Nat} (h : digit? b = some d) (fuel : Nat) (rest : Bytes) :
    value? (fuel + 1) (b :: rest) = unsigned? false (b :: rest) := by
  obtain ⟨n, low, high, rfl⟩ := eq_of_digit? h
  have which : n = 48 ∨ n = 49 ∨ n = 50 ∨ n = 51 ∨ n = 52 ∨ n = 53 ∨ n = 54 ∨ n = 55 ∨ n = 56 ∨
    n = 57 := by omega
  rcases which with rfl | rfl | rfl | rfl | rfl | rfl | rfl | rfl | rfl | rfl <;> rfl

theorem value?_minus (fuel : Nat) (rest : Bytes) :
    value? (fuel + 1) (ascii ['-'] ++ rest) = unsigned? true rest := rfl

theorem value?_int {n : Int} (h : Fits n) (fuel : Nat) {rest : Bytes} (hr : Ends rest) :
    value? (fuel + 1) (print (.int n) ++ rest) = some (.int n, rest) := by
  rw [print]
  rcases int_cases n with ⟨k, rfl, form⟩ | ⟨k, pos, rfl, form⟩
  · have small : k ≤ maxSignificand := Int.ofNat_le.1 h.2
    obtain ⟨c, cs, first⟩ := List.exists_cons_of_ne_nil (Nat.toDigits_ne_nil (n := k) (b := 10))
    have digit : c.isDigit = true := isDigit_of_mem_decimal (n := k) (by rw [first]; simp)
    have read := unsigned?_decimal false k hr
    rw [value_decimal small] at read
    rw [form]
    rw [first] at read ⊢
    exact (value?_digit (digit?_digit digit) fuel (ascii cs ++ rest)).trans read
  · have small : k ≤ maxNegative := by
      have := h.1
      omega
    have read := unsigned?_decimal true k hr
    rw [value_negative pos small] at read
    rw [form]
    exact (value?_minus fuel _).trans read

theorem value?_string (s : String) (fuel : Nat) (rest : Bytes) :
    value? (fuel + 1) (print (.string s) ++ rest) = some (.string s, rest) := by
  rw [print, quote, List.append_assoc, List.append_assoc]
  show (string? ((Text.encode s).flatMap escape ++ (ascii ['"'] ++ rest))).map _ = _
  rw [string?_quote]
  rfl

/-- A written value starts with an octet that is no space and closes no array. -/
def Starts (bs : Bytes) : Prop := ∃ b more, bs = b :: more ∧ isSpace b = false ∧ Char.ofUInt8 b ≠ ']'

theorem starts_digit {b : UInt8} {d : Nat} (h : digit? b = some d) (bs : Bytes) : Starts (b :: bs) := by
  obtain ⟨n, low, high, rfl⟩ := eq_of_digit? h
  have all : ∀ n ≤ 57, 48 ≤ n → isSpace (UInt8.ofNat n) = false ∧
    Char.ofUInt8 (UInt8.ofNat n) ≠ ']' := by decide
  exact ⟨_, bs, rfl, all n high low⟩

theorem starts_print {v : Json} (h : Exact v) : Starts (print v) := by
  match v with
  | null => exact ⟨0x6e, _, rfl, rfl, by decide⟩
  | bool true => exact ⟨0x74, _, rfl, rfl, by decide⟩
  | bool false => exact ⟨0x66, _, rfl, rfl, by decide⟩
  | int n =>
    rw [print]
    rcases int_cases n with ⟨k, -, form⟩ | ⟨k, -, -, form⟩
    · obtain ⟨c, cs, first⟩ := List.exists_cons_of_ne_nil (Nat.toDigits_ne_nil (n := k) (b := 10))
      have digit : c.isDigit = true := isDigit_of_mem_decimal (n := k) (by rw [first]; simp)
      rw [form, first]
      exact starts_digit (digit?_digit digit) _
    · rw [form]
      exact ⟨0x2d, _, rfl, rfl, by decide⟩
  | string s => exact ⟨0x22, _, rfl, rfl, by decide⟩
  | array [] => exact ⟨0x5b, _, rfl, rfl, by decide⟩
  | array (v :: vs) => exact ⟨0x5b, _, rfl, rfl, by decide⟩
  | object [] => exact ⟨0x7b, _, rfl, rfl, by decide⟩
  | object ((n, v) :: ms) => exact ⟨0x7b, _, rfl, rfl, by decide⟩

theorem skip_starts {bs : Bytes} (h : Starts bs) (rest : Bytes) : skip (bs ++ rest) = bs ++ rest := by
  obtain ⟨b, more, rfl, space, -⟩ := h
  rw [skip, List.cons_append, List.dropWhile_cons_of_neg (by rw [space]; decide)]

theorem value?_array {bs : Bytes} (h : Starts bs) (fuel : Nat) (rest : Bytes) :
    value? (fuel + 1) (ascii ['['] ++ (bs ++ rest)) =
      (items? fuel (bs ++ rest)).map fun p => (.array p.1, p.2) := by
  have front : skip (bs ++ rest) = bs ++ rest := skip_starts h rest
  obtain ⟨b, more, rfl, -, close⟩ := h
  have bracket : Char.ofUInt8 0x5b = '[' := rfl
  rw [List.cons_append] at front
  unfold value?
  rw [show skip (ascii ['['] ++ (b :: more ++ rest)) = 0x5b :: (b :: more ++ rest) from rfl]
  simp only [front, bracket, List.cons_append]
  exact if_neg close

theorem value?_object (name : String) (fuel : Nat) (rest : Bytes) :
    value? (fuel + 1) (ascii ['{'] ++ (quote name ++ rest)) =
      (members? fuel (quote name ++ rest)).map fun p => (ofMembers p.1, p.2) := rfl

theorem members?_name (name : String) (fuel : Nat) (bs : Bytes) :
    members? (fuel + 1) (quote name ++ (ascii [':'] ++ bs)) = (do
      let (v, rest) ← value? fuel bs
      match skip rest with
      | [] => none
      | c :: more =>
        if Char.ofUInt8 c = ',' then do
          let (ms, rest) ← members? fuel more
          some ((some name, v) :: ms, rest)
        else if Char.ofUInt8 c = '}' then some ([(some name, v)], more)
        else none) := by
  have shape : quote name ++ (ascii [':'] ++ bs) =
      0x22 :: ((Text.encode name).flatMap escape ++ (ascii ['"'] ++ (ascii [':'] ++ bs))) := by
    rw [quote, List.append_assoc, List.append_assoc]
    rfl
  have front : skip (0x22 :: ((Text.encode name).flatMap escape ++ (ascii ['"'] ++ (ascii [':'] ++ bs)))) =
      0x22 :: ((Text.encode name).flatMap escape ++ (ascii ['"'] ++ (ascii [':'] ++ bs))) := rfl
  have colon : after? ":" (skip (ascii [':'] ++ bs)) = some bs := rfl
  rw [shape, members?, front]
  simp only [string?_quote, colon, Option.bind_eq_bind, Option.bind_some]
  rfl

/-! ### Whole values -/

theorem ends_printItems (vs : List Json) (rest : Bytes) : Ends (printItems vs ++ rest) := by
  cases vs with
  | nil => exact ends_cons (.inr (.inl rfl)) _
  | cons v vs =>
    rw [printItems, List.append_assoc, List.append_assoc]
    exact ends_cons (.inl rfl) _

theorem ends_printMembers (ms : Members) (rest : Bytes) : Ends (printMembers ms ++ rest) := by
  cases ms with
  | nil => exact ends_cons (.inr (.inr rfl)) _
  | cons m ms =>
    rw [printMembers, List.append_assoc, List.append_assoc, List.append_assoc, List.append_assoc]
    exact ends_cons (.inl rfl) _

theorem length_print_pos {v : Json} (h : Exact v) : 0 < (print v).length := by
  obtain ⟨b, more, form, -, -⟩ := starts_print h
  rw [form]
  exact Nat.succ_pos _

theorem length_printItems_pos (vs : List Json) : 0 < (printItems vs).length := by
  cases vs <;> exact Nat.succ_pos _

theorem length_printMembers_pos (ms : Members) : 0 < (printMembers ms).length := by
  cases ms <;> exact Nat.succ_pos _

/-- Members whose names are texts are those of an object. -/
theorem ofMembers_texts (ms : Members) : ofMembers (ms.map fun m => (some m.1, m.2)) = object ms := by
  have named : named? (ms.map fun m => (some m.1, m.2)) = some ms := by
    rw [named?]
    induction ms with
    | nil => rfl
    | cons m ms ih =>
      rw [List.map_cons, List.mapM_cons, ih]
      rfl
  rw [ofMembers, named]

mutual

/-- A written value is read back, whatever ends it. The fuel is spent one a level and the
levels take an octet each. -/
theorem value?_print : ∀ (fuel : Nat) (v : Json) (rest : Bytes), Exact v → Ends rest →
    (print v).length ≤ fuel → value? fuel (print v ++ rest) = some (v, rest)
  | 0, v, rest, hv, _, hf => by
    have := length_print_pos hv
    omega
  | fuel + 1, v, rest, hv, hr, hf => by
    match v with
    | null => rfl
    | bool true => rfl
    | bool false => rfl
    | int n => exact value?_int hv fuel hr
    | string s => exact value?_string s fuel rest
    | array [] => rfl
    | array (v :: vs) =>
      have read := items?_print fuel v vs rest hv.1 hv.2 (by
        simp only [print, List.length_append, ascii, List.map_cons, List.map_nil,
          List.length_cons, List.length_nil] at hf
        omega)
      have first := value?_array (starts_print hv.1) fuel (printItems vs ++ rest)
      rw [read] at first
      rw [print, List.append_assoc, List.append_assoc]
      exact first
    | object [] => rfl
    | object ((n, v) :: ms) =>
      have read := members?_print fuel n v ms rest hv.1 hv.2 (by
        simp only [print, List.length_append, ascii, List.map_cons, List.map_nil,
          List.length_cons, List.length_nil] at hf
        omega)
      have first := value?_object n fuel (ascii [':'] ++ (print v ++ (printMembers ms ++ rest)))
      have whole := ofMembers_texts ((n, v) :: ms)
      rw [List.map_cons] at whole
      simp only [read, Option.map_some, whole] at first
      rw [print, List.append_assoc, List.append_assoc, List.append_assoc, List.append_assoc]
      exact first
termination_by structural fuel => fuel

theorem items?_print : ∀ (fuel : Nat) (v : Json) (vs : List Json) (rest : Bytes), Exact v →
    ExactItems vs → (print v).length + (printItems vs).length ≤ fuel →
    items? fuel (print v ++ (printItems vs ++ rest)) = some (v :: vs, rest)
  | 0, v, vs, rest, hv, _, hf => by
    have := length_print_pos hv
    omega
  | fuel + 1, v, vs, rest, hv, hvs, hf => by
    have first := value?_print fuel v (printItems vs ++ rest) hv (ends_printItems vs rest) (by
      have := length_printItems_pos vs
      omega)
    match vs with
    | [] =>
      rw [items?, first]
      rfl
    | w :: ws =>
      have more := items?_print fuel w ws rest hvs.1 hvs.2 (by
        have := length_print_pos hv
        simp only [printItems, List.length_append, ascii, List.map_cons, List.map_nil,
          List.length_cons, List.length_nil] at hf
        omega)
      have mark : skip (printItems (w :: ws) ++ rest) =
          0x2c :: (print w ++ (printItems ws ++ rest)) := by
        rw [printItems, List.append_assoc, List.append_assoc]
        rfl
      rw [items?, first]
      simp only [Option.bind_eq_bind, Option.bind_some, mark, more]
      rfl
termination_by structural fuel => fuel

theorem members?_print : ∀ (fuel : Nat) (n : String) (v : Json) (ms : Members) (rest : Bytes),
    Exact v → ExactMembers ms →
    (quote n).length + (print v).length + (printMembers ms).length ≤ fuel →
    members? fuel (quote n ++ (ascii [':'] ++ (print v ++ (printMembers ms ++ rest)))) =
      some ((some n, v) :: ms.map fun m => (some m.1, m.2), rest)
  | 0, n, v, ms, rest, hv, _, hf => by
    have := length_print_pos hv
    omega
  | fuel + 1, n, v, ms, rest, hv, hms, hf => by
    have first := value?_print fuel v (printMembers ms ++ rest) hv (ends_printMembers ms rest) (by
      have := length_printMembers_pos ms
      omega)
    match ms with
    | [] =>
      rw [members?_name, first]
      rfl
    | (k, w) :: ms =>
      have more := members?_print fuel k w ms rest hms.1 hms.2 (by
        have := length_print_pos hv
        simp only [printMembers, List.length_append, ascii, List.map_cons, List.map_nil,
          List.length_cons, List.length_nil] at hf
        omega)
      have mark : skip (printMembers ((k, w) :: ms) ++ rest) =
          0x2c :: (quote k ++ (ascii [':'] ++ (print w ++ (printMembers ms ++ rest)))) := by
        rw [printMembers, List.append_assoc, List.append_assoc, List.append_assoc,
          List.append_assoc]
        rfl
      rw [members?_name, first]
      simp only [Option.bind_eq_bind, Option.bind_some, mark, more]
      rfl
termination_by structural fuel => fuel

end

/-- The compact form of a value is a text that writes the value. -/
theorem parse?_print {v : Json} (h : Exact v) : parse? (print v) = some v := by
  have read := value?_print ((print v).length + 1) v [] h ends_nil (by omega)
  rw [List.append_nil] at read
  rw [parse?, read]
  rfl

end DeviceFleet.Json
