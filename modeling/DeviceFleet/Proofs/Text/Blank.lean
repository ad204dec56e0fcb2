import Mathlib.Data.List.DropRight
import DeviceFleet.Text.Blank

/-! White space at the ends of a text. What is left without it is the only part of the text
with white space around it that has none itself, so a reader that takes no white space takes
a trimmed text just when the text is something that it takes with white space around it. -/

namespace DeviceFleet.Text

/-- The text is the given characters with white space around them. -/
def Pads (v : String) (cs : List Char) : Prop :=
  ∃ before after, v.toList = before ++ cs ++ after ∧
    (∀ c ∈ before, isBlank c = true) ∧ ∀ c ∈ after, isBlank c = true

theorem isBlank_of_isDigit {c : Char} (h : c.isDigit = true) : isBlank c = false := by
  simp only [Char.isDigit, Bool.and_eq_true, decide_eq_true_eq, ge_iff_le, UInt32.le_iff_toNat_le] at h
  have lo : 48 ≤ c.toNat := h.1
  have hi : c.toNat ≤ 57 := h.2
  simp only [isBlank, Bool.or_eq_false_iff, Bool.and_eq_false_iff, decide_eq_false_iff_not,
    beq_eq_false_iff_ne]
  omega

theorem trimStart_of_not_blank {c : Char} (h : isBlank c = false) (cs : List Char) :
    trimStart (c :: cs) = c :: cs := by
  rw [trimStart, List.dropWhile_cons, h, if_neg (by decide)]

/-- White space is left out at the end, once it is left out at the start. -/
theorem trimChars_eq (cs : List Char) :
    trimChars cs = (trimStart cs).rdropWhile isBlank := rfl

theorem toList_trim (v : String) : (trim v).toList = trimChars v.toList := String.toList_ofList

theorem pads_trim (v : String) : Pads v (trimChars v.toList) := by
  refine ⟨v.toList.takeWhile isBlank, (trimStart v.toList).rtakeWhile isBlank, ?_,
    fun c => List.mem_takeWhile_imp, fun c => List.mem_rtakeWhile_imp⟩
  rw [trimChars_eq, List.append_assoc, List.rdropWhile_append_rtakeWhile, trimStart,
    List.takeWhile_append_dropWhile]

theorem Pads.blank {v : String} (h : Pads v []) : ∀ c ∈ v.toList, isBlank c = true := by
  obtain ⟨before, after, text, starts, ends⟩ := h
  rw [text, List.append_nil]
  exact fun c hc => (List.mem_append.1 hc).elim (starts c) (ends c)

/-- White space goes from both ends, up to what has none. -/
theorem trimChars_of_pads {v : String} {cs : List Char} (h : Pads v cs)
    (solid : ∀ c ∈ cs, isBlank c = false) : trimChars v.toList = cs := by
  cases cs with
  | nil => rw [trimChars_eq, trimStart, List.dropWhile_eq_nil_iff.2 h.blank, List.rdropWhile_nil]
  | cons c cs =>
    obtain ⟨before, after, text, starts, ends⟩ := h
    have start : trimStart v.toList = c :: cs ++ after := by
      rw [text, List.append_assoc, trimStart, List.dropWhile_append_of_pos starts]
      exact trimStart_of_not_blank (solid c List.mem_cons_self) _
    -- The rest is as at the start, from the last character on.
    obtain ⟨d, ds, turned⟩ := List.exists_cons_of_ne_nil (List.reverse_ne_nil_iff.2 (List.cons_ne_nil c cs))
    have last : isBlank d = false :=
      solid d (List.mem_reverse.1 (turned ▸ List.mem_cons_self))
    rw [trimChars_eq, start, List.rdropWhile, List.reverse_append,
      List.dropWhile_append_of_pos fun d hd => ends d (List.mem_reverse.1 hd), turned]
    rw [← List.reverse_reverse (c :: cs), turned]
    exact congrArg List.reverse (trimStart_of_not_blank last ds)

/-- A reader that takes no white space reads a trimmed text as it reads what stands in the
text with white space around it. -/
theorem read_trim {α : Type} {read? : String → Option α} (Spells : List Char → α → Prop)
    (reads : ∀ s a, read? s = some a ↔ Spells s.toList a)
    (solid : ∀ cs a, Spells cs a → ∀ c ∈ cs, isBlank c = false) (v : String) (a : α) :
    read? (trim v) = some a ↔ ∃ cs, Pads v cs ∧ Spells cs a := by
  rw [reads, toList_trim]
  constructor
  · exact fun spells => ⟨_, pads_trim v, spells⟩
  · rintro ⟨cs, pads, spells⟩
    rwa [trimChars_of_pads pads (solid cs a spells)]

/-- A text is blank just when nothing is left of it without its white space. -/
theorem trim_eq_empty (v : String) : trim v = "" ↔ ∀ c ∈ v.toList, isBlank c = true := by
  rw [← String.toList_inj, toList_trim]
  constructor
  · intro empty
    have pads := pads_trim v
    rw [empty] at pads
    exact pads.blank
  · exact fun blank => trimChars_of_pads ⟨v.toList, [], by simp, blank, by simp⟩ (by simp)

end DeviceFleet.Text
