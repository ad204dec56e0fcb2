import DeviceFleet.Instant.Text
import DeviceFleet.Proofs.Instant.Calendar
import DeviceFleet.Proofs.Text.Blank

/-! A time is read back from its written form. Each number of the form has as many digits as
its reader takes, or is followed by something that is no digit. -/

namespace DeviceFleet.Instant

/-! ### Digits -/

theorem isDigit_eq (c : Char) : isDigit c = c.isDigit := rfl

theorem isDigit_of_mem_toDigits {n : Nat} {c : Char} (h : c ∈ Nat.toDigits 10 n) :
    isDigit c = true := by
  rw [isDigit_eq]
  exact Nat.isDigit_of_mem_toDigits (by decide) (by decide) h

theorem isDigit_of_mem_padded {width n : Nat} {c : Char} (h : c ∈ padded width n) :
    isDigit c = true := by
  rcases List.mem_append.1 h with h | h
  · rw [List.eq_of_mem_replicate h]
    decide
  · exact isDigit_of_mem_toDigits h

theorem ofDigits_padded (width n : Nat) : ofDigits (padded width n) = n := by
  have h : Nat.ofDigitChars 10 (padded width n) 0 = n := by
    simp only [padded, Nat.ofDigitChars_append, Nat.ofDigitChars_replicate_zero, Nat.mul_zero,
      Nat.ofDigitChars_ten_toDigits]
  exact h

theorem padded_ne_nil (width n : Nat) : padded width n ≠ [] := by
  simp [padded]

theorem length_padded {width n : Nat} (pos : 0 < width) (h : n < Nat.pow 10 width) :
    (padded width n).length = width := by
  have := (Nat.length_toDigits_le_iff (b := 10) (by decide) pos).2 h
  simp only [padded, List.length_append, List.length_replicate]
  omega

/-- What follows a number does not go on with a digit. -/
def NoDigit (cs : List Char) : Prop := ∀ c ∈ cs.head?, isDigit c = false

theorem takeWhile_noDigit {cs : List Char} (h : NoDigit cs) : cs.takeWhile isDigit = [] := by
  cases cs with
  | nil => rfl
  | cons c cs => rw [List.takeWhile_cons, h c rfl, if_neg (by decide)]

theorem NoDigit.take {cs : List Char} (h : NoDigit cs) (n : Nat) : NoDigit (cs.take n) := by
  intro c hc
  cases n with
  | zero => cases hc
  | succ n =>
    cases cs with
    | nil => cases hc
    | cons d cs => exact h c hc

/-! ### The readers, each on what the writer gives it -/

/-- A number ends where its width does or where no digit follows. -/
theorem number?_append {width : Nat} {ds rest : List Char} (hd : ∀ c ∈ ds, isDigit c = true)
    (hne : ds ≠ []) (hw : ds.length ≤ width) (hr : ds.length = width ∨ NoDigit rest) :
    number? width (ds ++ rest) = some (ofDigits ds, rest) := by
  have tail : (rest.take (width - ds.length)).takeWhile isDigit = [] := by
    rcases hr with h | h
    · rw [h, Nat.sub_self, List.take_zero, List.takeWhile_nil]
    · exact takeWhile_noDigit (h.take _)
  have found : ((ds ++ rest).take width).takeWhile isDigit = ds := by
    rw [List.take_append, List.take_of_length_le hw, List.takeWhile_append_of_pos hd, tail,
      List.append_nil]
  simp only [number?, found]
  rw [List.drop_left]

theorem trimStart_digits {ds : List Char} (hd : ∀ c ∈ ds, isDigit c = true) (hne : ds ≠ [])
    (rest : List Char) : Text.trimStart (ds ++ rest) = ds ++ rest := by
  cases ds with
  | nil => exact absurd rfl hne
  | cons c ds => exact Text.trimStart_of_not_blank (Text.isBlank_of_isDigit (hd c List.mem_cons_self)) _

theorem trimStart_padded (width n : Nat) (rest : List Char) :
    Text.trimStart (padded width n ++ rest) = padded width n ++ rest :=
  trimStart_digits (fun _ => isDigit_of_mem_padded) (padded_ne_nil width n) rest

theorem field?_padded {n : Nat} (h : n < 100) (rest : List Char) :
    field? 2 (padded 2 n ++ rest) = some (n, rest) := by
  have len : (padded 2 n).length = 2 := length_padded (by decide) h
  rw [field?, trimStart_padded, number?_append (fun _ => isDigit_of_mem_padded)
    (padded_ne_nil 2 n) (Nat.le_of_eq len) (.inl len), ofDigits_padded]

theorem mark?_cons {c : Char} (h : Text.isBlank c = false) (rest : List Char) :
    mark? c (c :: rest) = some rest := by
  simp only [mark?, Text.trimStart_of_not_blank h, if_true]

theorem number?_year (n : Nat) (rest : List Char) :
    number? (padded 4 n ++ '-' :: rest).length (padded 4 n ++ '-' :: rest) =
      some (n, '-' :: rest) := by
  have stop : NoDigit ('-' :: rest) := by
    intro c hc
    rw [← Option.some.inj hc]
    decide
  have fits : (padded 4 n).length ≤ (padded 4 n ++ '-' :: rest).length := by
    rw [List.length_append]
    omega
  rw [number?_append (fun _ => isDigit_of_mem_padded) (padded_ne_nil 4 n) fits (.inr stop),
    ofDigits_padded]

theorem year?_digits {ds : List Char} (hd : ∀ c ∈ ds, isDigit c = true) (hne : ds ≠ [])
    (rest : List Char) :
    year? (ds ++ rest) = (number? 4 (ds ++ rest)).map fun (n, rest) => ((n : Int), rest) := by
  rw [year?, trimStart_digits hd hne]
  cases ds with
  | nil => exact absurd rfl hne
  | cons c ds =>
    have hc := hd c List.mem_cons_self
    rw [List.cons_append]
    split
    · rename_i h
      rw [(List.cons.inj h).1] at hc
      contradiction
    · rename_i h
      rw [(List.cons.inj h).1] at hc
      contradiction
    · rfl

theorem year?_yearText (y : Int) (rest : List Char) :
    year? (yearText y ++ '-' :: rest) = some (y, '-' :: rest) := by
  simp only [yearText]
  split
  · rename_i h
    have len : (padded 4 y.toNat).length = 4 := length_padded (by decide) (show y.toNat < 10000 by omega)
    have back : ((y.toNat : Nat) : Int) = y := by omega
    rw [year?_digits (fun _ => isDigit_of_mem_padded) (padded_ne_nil 4 y.toNat),
      number?_append (fun _ => isDigit_of_mem_padded) (padded_ne_nil 4 y.toNat)
        (Nat.le_of_eq len) (.inl len), ofDigits_padded]
    simp only [Option.map_some, back]
  · by_cases neg : y < 0
    · have back : -((y.natAbs : Nat) : Int) = y := by omega
      rw [if_pos neg, List.cons_append, year?, Text.trimStart_of_not_blank (by decide)]
      simp only [number?_year, Option.map_some, back]
    · have back : ((y.natAbs : Nat) : Int) = y := by omega
      rw [if_neg neg, List.cons_append, year?, Text.trimStart_of_not_blank (by decide)]
      simp only [number?_year, Option.map_some, back]

theorem fraction?_padded {width n : Nat} (pos : 0 < width) (le : width ≤ 9) (h : n < Nat.pow 10 width)
    (rest : List Char) :
    fraction? ('.' :: (padded width n ++ 'Z' :: rest)) =
      some (n * Nat.pow 10 (9 - width), 'Z' :: rest) := by
  have len := length_padded pos h
  have stop : NoDigit ('Z' :: rest) := by
    intro c hc
    rw [← Option.some.inj hc]
    decide
  have found : (padded width n ++ 'Z' :: rest).takeWhile isDigit = padded width n := by
    rw [List.takeWhile_append_of_pos fun _ => isDigit_of_mem_padded, takeWhile_noDigit stop,
      List.append_nil]
  simp only [fraction?, found]
  split
  · rename_i h
    exact absurd h (padded_ne_nil width n)
  · rw [List.take_of_length_le (by omega), ofDigits_padded, List.drop_left, len]

theorem fraction?_fractionText {n : Nat} (h : n < 1000000000) (rest : List Char) :
    fraction? (fractionText n ++ 'Z' :: rest) = some (n, 'Z' :: rest) := by
  simp only [fractionText]
  split
  · rename_i zero
    rw [zero]
    rfl
  · split
    · have small : n / 1000000 < 1000 := by omega
      rw [List.cons_append, fraction?_padded (by decide) (by decide) small]
      rw [show n / 1000000 * Nat.pow 10 (9 - 3) = n by simp only [Nat.pow_eq]; omega]
    · split
      · have small : n / 1000 < 1000000 := by omega
        rw [List.cons_append, fraction?_padded (by decide) (by decide) small]
        rw [show n / 1000 * Nat.pow 10 (9 - 6) = n by simp only [Nat.pow_eq]; omega]
      · rw [List.cons_append, fraction?_padded (by decide) (by decide) h]
        rw [show n * Nat.pow 10 (9 - 9) = n by simp only [Nat.pow_eq]; omega]

/-! ### The whole -/

theorem bind_of_eq_some {α β : Type} {x : Option α} {a : α} (h : x = some a) (f : α → Option β) :
    (x >>= f) = f a := by
  rw [h]
  rfl

/-- The parts of a written time. -/
theorem ofChars?_parts {date : Calendar.Date} {hour minute second nanos : Nat}
    (month : date.month < 100) (day : date.day < 100) (hh : hour < 100) (mm : minute < 100)
    (ss : second < 100) (ns : nanos < 1000000000) :
    ofChars? (yearText date.year ++ '-' :: padded 2 date.month ++ '-' :: padded 2 date.day ++
        'T' :: padded 2 hour ++ ':' :: padded 2 minute ++ ':' :: padded 2 second ++
        fractionText nanos ++ ['Z']) =
      ofFields? date hour minute second nanos 0 := by
  have dash := mark?_cons (c := '-') (by decide)
  have colon := mark?_cons (c := ':') (by decide)
  have utc : offset? (Text.trimStart ['Z']) = some (0, []) := by decide
  simp only [List.append_assoc, List.cons_append]
  rw [ofChars?]
  refine (bind_of_eq_some (year?_yearText _ _) _).trans ?_
  refine (bind_of_eq_some (dash _) _).trans ?_
  refine (bind_of_eq_some (field?_padded month _) _).trans ?_
  refine (bind_of_eq_some (dash _) _).trans ?_
  refine (bind_of_eq_some (field?_padded day _) _).trans ?_
  -- The date and the time of day are divided by a `T`.
  refine (if_pos (.inl rfl)).trans ?_
  refine (bind_of_eq_some rfl _).trans ?_
  refine (bind_of_eq_some (field?_padded hh _) _).trans ?_
  refine (bind_of_eq_some (colon _) _).trans ?_
  refine (bind_of_eq_some (field?_padded mm _) _).trans ?_
  refine (bind_of_eq_some (colon _) _).trans ?_
  refine (bind_of_eq_some (field?_padded ss _) _).trans ?_
  refine (bind_of_eq_some (fraction?_fractionText ns []) _).trans ?_
  exact bind_of_eq_some utc _

/-- The fields of a time of the calendar make it up again. -/
theorem ofFields?_of {date : Calendar.Date} {hour minute second nanos : Nat} {t : Instant}
    (valid : date.Valid) (first : minYear ≤ date.year) (last : date.year ≤ maxYear)
    (hh : hour < 24) (mm : minute < 60) (ss : second ≤ 60)
    (seconds : Calendar.toDays date * 86400 + hour * 3600 + minute * 60 + min second 59 =
      t.seconds)
    (ns : (if second = 60 then nanos + 1000000000 else nanos) = t.nanos) :
    ofFields? date hour minute second nanos 0 = some t := by
  rw [ofFields?, if_pos ⟨valid, first, last, hh, mm, ss⟩, ns]
  simp only [Int.sub_zero, seconds]
  rw [of?, dif_pos t.wellFormed, dif_pos t.inCalendar]

/-- A time is read back. -/
theorem ofText?_text (t : Instant) : ofText? t.text = some t := by
  have inside : Calendar.yearStart minYear ≤ t.day ∧ t.day < Calendar.yearStart (maxYear + 1) := by
    have h := t.inCalendar
    simp only [firstSecond, endSecond] at h
    simp only [day]
    omega
  obtain ⟨first, last⟩ := Calendar.year_ofDays inside
  have valid := Calendar.valid_ofDays t.day
  have days := Calendar.toDays_ofDays t.day
  have month := valid.2.1
  have dayLe := Nat.le_trans valid.2.2.2 (Calendar.monthLength_le _ _)
  obtain ⟨s, hs⟩ : ∃ s, s = t.secondOfDay.toNat := ⟨_, rfl⟩
  have hs' : (s : Int) = t.seconds % 86400 ∧ s < 86400 := by
    simp only [secondOfDay] at hs
    omega
  have seconds : t.day * 86400 + (s / 3600 : Nat) * 3600 + (s / 60 % 60 : Nat) * 60 +
      (s % 60 : Nat) = t.seconds := by
    simp only [day]
    omega
  have form := t.wellFormed
  rw [ofText?, text, String.toList_ofList, toChars, ← hs]
  by_cases leap : t.isLeapSecond = true
  · have late : 1000000000 ≤ t.nanos ∧ s % 60 = 59 := by
      simp only [isLeapSecond, decide_eq_true_eq] at leap
      omega
    simp only [leap, if_true]
    rw [ofChars?_parts (by omega) (by omega) (by omega) (by omega) (by omega) (by omega)]
    refine ofFields?_of valid first last (by omega) (by omega) (by omega) ?_ ?_
    · rw [days, late.2] at *
      omega
    · rw [late.2, if_pos rfl]
      omega
  · have early : t.nanos < 1000000000 := by
      simp only [isLeapSecond, decide_eq_true_eq] at leap
      omega
    simp only [leap, Bool.false_eq_true, if_false]
    rw [ofChars?_parts (by omega) (by omega) (by omega) (by omega) (by omega) early]
    refine ofFields?_of valid first last (by omega) (by omega) (by omega) ?_ ?_
    · rw [days]
      omega
    · rw [if_neg (by omega)]

/-! ### Lengths -/

/-- Ten characters suffice for a number below ten to the tenth. -/
theorem length_padded_le (width : Nat) {n : Nat} (short : width ≤ 10) (h : n < 10000000000) :
    (padded width n).length ≤ 10 := by
  have digits : (Nat.toDigits 10 n).length ≤ 10 :=
    (Nat.length_toDigits_le_iff (b := 10) (by decide) (by decide)).2 h
  simp only [padded, List.length_append, List.length_replicate]
  omega

theorem length_fractionText {n : Nat} (h : n < 10000000000) : (fractionText n).length ≤ 11 := by
  have padded (width n : Nat) (short : width ≤ 10) (h : n < 10000000000) :
      ('.' :: padded width n).length ≤ 11 := Nat.succ_le_succ (length_padded_le width short h)
  rw [fractionText]
  split
  · exact Nat.zero_le 11
  · split
    · exact padded 3 _ (by decide) (by omega)
    · split
      · exact padded 6 _ (by decide) (by omega)
      · exact padded 9 _ (by decide) h

theorem length_yearText {y : Int} (first : minYear ≤ y) (last : y ≤ maxYear) :
    (yearText y).length ≤ 11 := by
  have size : y.natAbs < 10000000000 ∧ y.toNat < 10000000000 := by
    simp only [minYear, maxYear] at first last
    omega
  rw [yearText]
  split
  · exact Nat.le_succ_of_le (length_padded_le 4 (by decide) size.2)
  · exact Nat.succ_le_succ (length_padded_le 4 (by decide) size.1)

theorem length_toChars (t : Instant) : t.toChars.length ≤ 100 := by
  have inside : Calendar.yearStart minYear ≤ t.day ∧ t.day < Calendar.yearStart (maxYear + 1) := by
    have h := t.inCalendar
    simp only [firstSecond, endSecond] at h
    simp only [day]
    omega
  obtain ⟨first, last⟩ := Calendar.year_ofDays inside
  have valid := Calendar.valid_ofDays t.day
  have dayLe := Nat.le_trans valid.2.2.2 (Calendar.monthLength_le _ _)
  have form := t.wellFormed
  have second : t.secondOfDay.toNat < 86400 := by
    simp only [secondOfDay]
    omega
  have year := length_yearText first last
  have monthLe := valid.2.1
  have two {n : Nat} (h : n < 10000000000) : (padded 2 n).length ≤ 10 :=
    length_padded_le 2 (by decide) h
  simp only [toChars]
  generalize t.secondOfDay.toNat = s at *
  have hour := two (show s / 3600 < 10000000000 by omega)
  have minute := two (show s / 60 % 60 < 10000000000 by omega)
  have month := two (show (Calendar.ofDays t.day).month < 10000000000 by omega)
  have dayOf := two (show (Calendar.ofDays t.day).day < 10000000000 by omega)
  split
  · have sec := two (show s % 60 + 1 < 10000000000 by omega)
    have fraction := length_fractionText (show t.nanos - 1000000000 < 10000000000 by omega)
    simp only [List.length_append, List.length_cons, List.length_nil]
    omega
  · have sec := two (show s % 60 < 10000000000 by omega)
    have fraction := length_fractionText (show t.nanos < 10000000000 by omega)
    simp only [List.length_append, List.length_cons, List.length_nil]
    omega

end DeviceFleet.Instant
