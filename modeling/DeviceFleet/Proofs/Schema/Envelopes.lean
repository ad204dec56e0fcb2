import DeviceFleet.Proofs.Schema.Octets

/-! Schemas that restore whatever they put: a value is taken back from its octets if their number
fits a word. The parts of a value take no more octets than the whole, so one bound on the whole
envelope is enough. A list that was read from JSON needs no such bound: its array was short. -/

namespace DeviceFleet

namespace Words

theorem Fits.left {bs rest : Bytes} (h : Fits (bs ++ rest)) : Fits bs :=
  h.mono (by simp)

theorem Fits.right {bs rest : Bytes} (h : Fits (bs ++ rest)) : Fits rest :=
  h.mono (by simp)

end Words

namespace Schema

variable {α : Type}

/-- Every value whose octets fit is taken back from them. -/
def Restores (s : Schema α) : Prop := ∀ a, Words.Fits (s.put a) → s.TakesBack a

theorem restores_text : text.Restores := fun _ fits => takesBack_text fits.right

theorem restores_spelled {spell : α → String} {parse? : String → Option α}
    (inverse : ∀ a, parse? (spell a) = some a) : (spelled spell parse?).Restores :=
  fun a fits => takesBack_spelled (inverse a) fits.right

theorem restores_time : time.Restores := fun t _ => takesBack_time t

theorem restores_flag : flag.Restores := fun b _ => takesBack_flag b

theorem takesBack_int64 (n : Int64) : int64.TakesBack n := by
  intro rest
  have word := Words.take?_put (show n.toUInt64.toNat < Nat.pow 256 8 from n.toUInt64.toNat_lt) rest
  show (Words.take? 8 (Words.put 8 n.toUInt64.toNat ++ rest)).map
    (fun r => ((UInt64.ofNat r.1).toInt64, r.2)) = some (n, rest)
  rw [word, Option.map_some, UInt64.ofNat_toNat, Int64.toInt64_toUInt64]

theorem restores_int64 : int64.Restores := fun n _ => takesBack_int64 n

theorem carries_int64 : int64.Carries := fun _ n _ _ => takesBack_int64 n

theorem restores_option {s : Schema α} (h : s.Restores) : s.option.Restores := by
  intro x fits
  refine takesBack_option fun a same => ?_
  subst same
  exact h a (fits.mono (Nat.le_succ _))

/-! ### Lists -/

theorem takeMany?_put {s : Schema α} {as : List α} (h : ∀ a ∈ as, s.TakesBack a) (rest : Bytes) :
    takeMany? s.take? as.length (as.flatMap s.put ++ rest) = some (as, rest) := by
  induction as with
  | nil => rfl
  | cons a as ih =>
    have first := h a List.mem_cons_self (as.flatMap s.put ++ rest)
    have others := ih fun b hb => h b (List.mem_cons_of_mem a hb)
    rw [List.length_cons, List.flatMap_cons, List.append_assoc, takeMany?, first]
    simp only [Option.bind_eq_bind, Option.bind_some, others]

theorem takesBack_list {s : Schema α} {as : List α} (few : as.length < UInt64.size)
    (h : ∀ a ∈ as, s.TakesBack a) : s.list.TakesBack as := by
  intro rest
  have word : as.length < Nat.pow 256 8 := few
  simp only [list, List.append_assoc, Words.take?_put word, Option.bind_eq_bind, Option.bind_some,
    takeMany?_put h]

/-- The items of an array that are read are as many, and each is taken back. -/
theorem takesBack_of_readAll? {s : Schema α} (h : s.Carries) {vs : List Json} {as : List α}
    (sized : ∀ v ∈ vs, v.Sized) (read : readAll? s.read? vs = some as) :
    as.length = vs.length ∧ ∀ a ∈ as, s.TakesBack a := by
  induction vs generalizing as with
  | nil =>
    cases read
    exact ⟨rfl, List.forall_mem_nil _⟩
  | cons v vs ih =>
    obtain ⟨first, others⟩ := List.forall_mem_cons.1 sized
    simp only [readAll?, Option.bind_eq_bind, Option.bind_eq_some_iff, Option.some.injEq] at read
    obtain ⟨a, own, rest, tail, rfl⟩ := read
    obtain ⟨length, back⟩ := ih others tail
    refine ⟨?_, List.forall_mem_cons.2 ⟨h v a first own, back⟩⟩
    rw [List.length_cons, List.length_cons, length]

theorem carries_list {s : Schema α} (h : s.Carries) : s.list.Carries := by
  intro v as sized read
  cases v with
  | array vs =>
    obtain ⟨few, items⟩ := sized
    obtain ⟨length, back⟩ := takesBack_of_readAll? h (Json.sizedItems_iff.1 items) read
    exact takesBack_list (length ▸ few) back
  | _ => cases read

/-- A list is not longer than its octets if no item goes without any. -/
theorem length_le_flatMap {s : Schema α} (solid : ∀ a, s.put a ≠ []) (as : List α) :
    as.length ≤ (as.flatMap s.put).length := by
  induction as with
  | nil => exact Nat.le_refl 0
  | cons a as ih =>
    have first := List.length_pos_iff.2 (solid a)
    rw [List.flatMap_cons, List.length_append, List.length_cons]
    omega

theorem restores_list {s : Schema α} (h : s.Restores) (solid : ∀ a, s.put a ≠ []) :
    s.list.Restores := by
  intro as fits
  have items : Words.Fits (as.flatMap s.put) := fits.right
  have back : ∀ a ∈ as, s.TakesBack a := by
    intro a ha
    have part : (s.put a).Sublist (as.flatMap s.put) :=
      List.sublist_flatten_of_mem (List.mem_map_of_mem ha)
    exact h a (items.mono part.length_le)
  exact takesBack_list (Nat.lt_of_le_of_lt (length_le_flatMap solid as) items) back

end Schema

/-! ### Records -/

namespace Fields

variable {α β : Type}

def Restores (f : Fields α) : Prop := ∀ a, Words.Fits (f.put a) → f.TakesBack a

theorem restores_done : done.Restores := fun _ _ => takesBack_done

theorem restores_field {name : String} {s : Schema α} {absent : Option α} {f : Fields β}
    (hs : s.Restores) (hf : f.Restores) : (field name s absent f).Restores := by
  intro (a, b) fits
  exact takesBack_field (hs a fits.left) (hf b fits.right)

end Fields

theorem Schema.restores_record {α β : Type} {f : Fields β} {make : β → α} {chain : α → β}
    (inverse : ∀ a, make (chain a) = a) (h : f.Restores) : (record f make chain).Restores :=
  fun a fits => takesBack_record (inverse a) (h (chain a) fits)

/-! ### Alternatives -/

namespace Alternative

variable {α β : Type}

def Restores (c : Alternative α) : Prop :=
  ∀ x bs, c.put x = some bs → Words.Fits bs → ∀ rest, c.take? (bs ++ rest) = some (x, rest)

theorem restores_bare [DecidableEq α] (name : String) (a : α) : (bare name a).Restores := by
  intro x bs own _ rest
  simp only [bare] at own
  split at own
  · rename_i same
    cases own
    rw [same]
    rfl
  · cases own

theorem restores_holding {name : String} {s : Schema β} {make : β → α} {content? : α → Option β}
    (h : s.Restores) (inverse : ∀ x b, content? x = some b → make b = x) :
    (holding name s make content?).Restores := by
  intro x bs own fits rest
  obtain ⟨b, content, rfl⟩ := Option.map_eq_some_iff.1 own
  show (s.take? (s.put b ++ rest)).map (fun r => (make r.1, r.2)) = _
  rw [h b fits rest, Option.map_some, inverse x b content]

/-- The octets of a value are the place of an alternative that has it, then its own. -/
theorem putFirst_eq {x : α} {cs : List (Alternative α)} (covers : ∃ c ∈ cs, (c.put x).isSome)
    (i : Nat) : ∃ j c bs, cs[j]? = some c ∧ c.put x = some bs ∧
      putFirst x i cs = Words.put 4 (i + j) ++ bs := by
  induction cs generalizing i with
  | nil => simp at covers
  | cons c cs ih =>
    cases own : c.put x with
    | some bs => exact ⟨0, c, bs, rfl, own, by rw [putFirst, own]; rfl⟩
    | none =>
      have others : ∃ c ∈ cs, (c.put x).isSome := by simpa [own] using covers
      obtain ⟨j, d, bs, found, has, octets⟩ := ih others (i + 1)
      refine ⟨j + 1, d, bs, by simpa using found, has, ?_⟩
      rw [putFirst, own, octets, Nat.add_right_comm, Nat.add_assoc]

end Alternative

/-- A type of alternatives restores its values if each alternative does and every value is in one. -/
theorem Schema.restores_alternatives {α : Type} {cs : List (Alternative α)}
    (few : cs.length < UInt32.size) (h : ∀ c ∈ cs, c.Restores)
    (covers : ∀ x, ∃ c ∈ cs, (c.put x).isSome) : (alternatives cs).Restores := by
  intro x fits rest
  obtain ⟨j, c, bs, found, own, octets⟩ := Alternative.putFirst_eq (covers x) 0
  rw [Nat.zero_add] at octets
  have place : j < Nat.pow 256 4 := by
    obtain ⟨inside, -⟩ := List.getElem?_eq_some_iff.1 found
    exact Nat.lt_trans inside few
  have fitting : Words.Fits (Words.put 4 j ++ bs) := octets ▸ fits
  have back := h c (List.mem_of_getElem? found) x bs own fitting.right rest
  simp only [alternatives, octets, List.append_assoc, Words.take?_put place, Option.bind_eq_bind,
    Option.bind_some, found, back]

end DeviceFleet
