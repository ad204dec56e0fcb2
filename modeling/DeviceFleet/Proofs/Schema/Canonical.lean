import DeviceFleet.Proofs.Schema.Envelopes

/-! Schemas whose values have one form in octets. What is taken as a value was put for it, octet by
octet, and would be taken whatever came after it: words and texts have one spelling, and marks and
places that no value has are refused. A time is different, it can be spelled in many ways; of its
octets it is known that they hold a text which stands for it. -/

namespace DeviceFleet

namespace Words

theorem value_lt (w : Bytes) : value w < Nat.pow 256 w.length := by
  induction w with
  | nil => exact Nat.one_pos
  | cons b rest ih =>
    have low := b.toNat_lt
    show b.toNat + 256 * value rest < Nat.pow 256 rest.length * 256
    omega

theorem put_value (w : Bytes) : put w.length (value w) = w := by
  induction w with
  | nil => rfl
  | cons b rest ih =>
    have low := b.toNat_lt
    have first : UInt8.ofNat (b.toNat + 256 * value rest) = b := by
      apply UInt8.toNat_inj.1
      rw [UInt8.toNat_ofNat']
      omega
    have others : (b.toNat + 256 * value rest) / 256 = value rest := by omega
    rw [List.length_cons, value, put, first, others, ih]

theorem split?_eq_some {n : Nat} {bs w rest : Bytes} (h : split? n bs = some (w, rest)) :
    w.length = n ∧ bs = w ++ rest := by
  rw [split?] at h
  split at h
  · rename_i long
    cases h
    exact ⟨List.length_take_of_le long, (List.take_append_drop n bs).symm⟩
  · cases h

theorem take?_eq_some {width n : Nat} {bs rest : Bytes} (h : take? width bs = some (n, rest)) :
    n < Nat.pow 256 width ∧ bs = put width n ++ rest := by
  obtain ⟨⟨w, rest⟩, found, same⟩ := Option.map_eq_some_iff.1 h
  cases same
  obtain ⟨rfl, whole⟩ := split?_eq_some found
  exact ⟨value_lt w, by rw [put_value, whole]⟩

theorem takeBlock?_eq_some {bs block rest : Bytes} (h : takeBlock? bs = some (block, rest)) :
    Fits block ∧ bs = putBlock block ++ rest := by
  obtain ⟨⟨n, behind⟩, word, found⟩ := Option.bind_eq_some_iff.1 h
  obtain ⟨small, front⟩ := take?_eq_some word
  obtain ⟨rfl, whole⟩ := split?_eq_some found
  exact ⟨small, by rw [front, whole, putBlock, List.append_assoc]⟩

end Words

namespace Schema

variable {α : Type}

/-- Every value is taken back from its octets, if these fit, and values are taken from nothing else. -/
structure Faithful (s : Schema α) : Prop where
  restores : s.Restores
  canonical : ∀ bs a rest, s.take? bs = some (a, rest) → s.TakesBack a ∧ bs = s.put a ++ rest

theorem faithful_text : text.Faithful where
  restores := restores_text
  canonical bs t rest h := by
    obtain ⟨⟨block, behind⟩, taken, h⟩ := Option.bind_eq_some_iff.1 h
    obtain ⟨t, decoded, h⟩ := Option.bind_eq_some_iff.1 h
    cases h
    obtain ⟨fits, whole⟩ := Words.takeBlock?_eq_some taken
    rw [Text.eq_encode_of_decode? decoded] at fits whole
    exact ⟨takesBack_text fits, whole⟩

section Spelled

variable {spell : α → String} {parse? : String → Option α}

/-- A value is taken from the octets of any text that stands for it. -/
theorem take?_spelled {t : String} {a : α} (stands : parse? t = some a) (h : text.TakesBack t)
    (rest : Bytes) : (spelled spell parse?).take? (text.put t ++ rest) = some (a, rest) := by
  simp only [spelled, h rest, Option.bind_eq_bind, Option.bind_some, stands]

/-- The octets that a value is taken from hold a text that stands for it. -/
theorem text_of_take?_spelled {bs rest : Bytes} {a : α}
    (h : (spelled spell parse?).take? bs = some (a, rest)) :
    ∃ t, parse? t = some a ∧ text.TakesBack t ∧ bs = text.put t ++ rest := by
  obtain ⟨⟨t, behind⟩, taken, h⟩ := Option.bind_eq_some_iff.1 h
  obtain ⟨a, stands, h⟩ := Option.bind_eq_some_iff.1 h
  cases h
  exact ⟨t, stands, faithful_text.canonical bs t rest taken⟩

theorem faithful_spelled (inverse : ∀ a, parse? (spell a) = some a)
    (only : ∀ t a, parse? t = some a → spell a = t) : (spelled spell parse?).Faithful where
  restores := restores_spelled inverse
  canonical bs a rest h := by
    obtain ⟨t, stands, back, whole⟩ := text_of_take?_spelled h
    obtain rfl := only t a stands
    exact ⟨take?_spelled stands back, whole⟩

end Spelled

theorem faithful_octets : octets.Faithful :=
  faithful_spelled Base64.bytes?_text fun _ _ => Base64.text_of_bytes?

theorem faithful_flag : flag.Faithful where
  restores := restores_flag
  canonical bs b rest h := by
    refine ⟨takesBack_flag b, ?_⟩
    cases bs with
    | nil => cases h
    | cons mark bs =>
      simp only [flag] at h
      split at h
      · rename_i zero
        cases h
        rw [zero]
        rfl
      · split at h
        · rename_i one
          cases h
          rw [one]
          rfl
        · cases h

theorem faithful_int64 : int64.Faithful where
  restores := restores_int64
  canonical bs a rest h := by
    refine ⟨takesBack_int64 a, ?_⟩
    obtain ⟨⟨n, behind⟩, word, same⟩ := Option.map_eq_some_iff.1 h
    cases same
    obtain ⟨small, whole⟩ := Words.take?_eq_some word
    have number : (UInt64.ofNat n).toNat = n := UInt64.toNat_ofNat_of_lt' small
    show bs = Words.put 8 (UInt64.ofNat n).toNat ++ rest
    rw [whole, number]

theorem faithful_option {s : Schema α} (h : s.Faithful) : s.option.Faithful where
  restores := restores_option h.restores
  canonical bs x rest taken := by
    cases bs with
    | nil => cases taken
    | cons mark bs =>
      simp only [option] at taken
      split at taken
      · rename_i zero
        cases taken
        refine ⟨takesBack_option fun a same => ?_, by rw [zero]; rfl⟩
        cases same
      · split at taken
        · rename_i one
          obtain ⟨⟨a, behind⟩, found, same⟩ := Option.map_eq_some_iff.1 taken
          cases same
          obtain ⟨back, whole⟩ := h.canonical bs a behind found
          refine ⟨takesBack_option fun b same => ?_, ?_⟩
          · cases same
            exact back
          · rw [one, whole]
            rfl
        · cases taken

theorem takeMany?_eq_some {s : Schema α} (h : s.Faithful) {n : Nat} {bs rest : Bytes} {as : List α}
    (taken : takeMany? s.take? n bs = some (as, rest)) :
    as.length = n ∧ (∀ a ∈ as, s.TakesBack a) ∧ bs = as.flatMap s.put ++ rest := by
  induction n generalizing bs as with
  | zero =>
    cases taken
    exact ⟨rfl, List.forall_mem_nil _, rfl⟩
  | succ n ih =>
    obtain ⟨⟨a, behind⟩, first, taken⟩ := Option.bind_eq_some_iff.1 taken
    obtain ⟨⟨more, behind'⟩, others, same⟩ := Option.bind_eq_some_iff.1 taken
    cases same
    obtain ⟨back, front⟩ := h.canonical bs a behind first
    obtain ⟨length, backs, tail⟩ := ih others
    refine ⟨congrArg (· + 1) length, List.forall_mem_cons.2 ⟨back, backs⟩, ?_⟩
    rw [front, tail, List.flatMap_cons, List.append_assoc]

theorem faithful_list {s : Schema α} (h : s.Faithful) (solid : ∀ a, s.put a ≠ []) :
    s.list.Faithful where
  restores := restores_list h.restores solid
  canonical bs as rest taken := by
    obtain ⟨⟨n, behind⟩, word, items⟩ := Option.bind_eq_some_iff.1 taken
    obtain ⟨small, front⟩ := Words.take?_eq_some word
    obtain ⟨rfl, backs, tail⟩ := takeMany?_eq_some h items
    refine ⟨takesBack_list small backs, ?_⟩
    rw [front, tail, list, List.append_assoc]

end Schema

/-! ### Records -/

namespace Fields

variable {α β : Type}

structure Faithful (f : Fields α) : Prop where
  restores : f.Restores
  canonical : ∀ bs a rest, f.take? bs = some (a, rest) → f.TakesBack a ∧ bs = f.put a ++ rest

theorem faithful_done : done.Faithful where
  restores := restores_done
  canonical bs a rest h := by
    cases h
    exact ⟨takesBack_done, rfl⟩

/-- The first field is taken from the front, and the others from what it leaves. -/
theorem take?_field {name : String} {s : Schema α} {absent : Option α} {f : Fields β}
    {bs rest : Bytes} {x : α × β} (h : (field name s absent f).take? bs = some (x, rest)) :
    ∃ behind, s.take? bs = some (x.1, behind) ∧ f.take? behind = some (x.2, rest) := by
  obtain ⟨⟨a, behind⟩, first, h⟩ := Option.bind_eq_some_iff.1 h
  obtain ⟨⟨b, behind'⟩, others, same⟩ := Option.bind_eq_some_iff.1 h
  cases same
  exact ⟨behind, first, others⟩

theorem faithful_field {name : String} {s : Schema α} {absent : Option α} {f : Fields β}
    (hs : s.Faithful) (hf : f.Faithful) : (field name s absent f).Faithful where
  restores := restores_field hs.restores hf.restores
  canonical bs x rest h := by
    obtain ⟨behind, first, others⟩ := take?_field h
    obtain ⟨back, front⟩ := hs.canonical bs x.1 behind first
    obtain ⟨backs, tail⟩ := hf.canonical behind x.2 rest others
    refine ⟨takesBack_field back backs, ?_⟩
    rw [front, tail, field, List.append_assoc]

end Fields

theorem Schema.faithful_record {α β : Type} {f : Fields β} {make : β → α} {chain : α → β}
    (inverse : ∀ a, make (chain a) = a) (inverse' : ∀ b, chain (make b) = b) (h : f.Faithful) :
    (record f make chain).Faithful where
  restores := restores_record inverse h.restores
  canonical bs a rest taken := by
    obtain ⟨⟨b, behind⟩, found, same⟩ := Option.map_eq_some_iff.1 taken
    cases same
    obtain ⟨back, whole⟩ := h.canonical bs b rest found
    rw [← inverse' b] at back whole
    exact ⟨takesBack_record (congrArg make (inverse' b)) back, whole⟩

/-! ### Alternatives -/

namespace Alternative

variable {α β : Type}

structure Faithful (c : Alternative α) : Prop where
  restores : c.Restores
  canonical : ∀ bs x rest, c.take? bs = some (x, rest) →
    ∃ own, c.put x = some own ∧ (∀ more, c.take? (own ++ more) = some (x, more)) ∧ bs = own ++ rest

theorem faithful_bare [DecidableEq α] (name : String) (a : α) : (bare name a).Faithful where
  restores := restores_bare name a
  canonical bs x rest h := by
    cases h
    exact ⟨[], if_pos rfl, fun _ => rfl, rfl⟩

theorem faithful_holding {name : String} {s : Schema β} {make : β → α} {content? : α → Option β}
    (h : s.Faithful) (content : ∀ b, content? (make b) = some b)
    (inverse : ∀ x b, content? x = some b → make b = x) :
    (holding name s make content?).Faithful where
  restores := restores_holding h.restores inverse
  canonical bs x rest taken := by
    obtain ⟨⟨b, behind⟩, found, same⟩ := Option.map_eq_some_iff.1 taken
    cases same
    obtain ⟨back, whole⟩ := h.canonical bs b rest found
    refine ⟨s.put b, ?_, fun more => ?_, whole⟩
    · show (content? (make b)).map s.put = _
      rw [content, Option.map_some]
    · show (s.take? (s.put b ++ more)).map (fun r => (make r.1, r.2)) = _
      rw [back more, Option.map_some]

theorem place_eq {cs : List (Alternative α)} (nodup : (cs.map (·.name)).Nodup) {i j : Nat}
    {c d : Alternative α} (at_i : cs[i]? = some c) (at_j : cs[j]? = some d) (same : c.name = d.name) :
    i = j := by
  have place : (cs.map (·.name))[i]? = some c.name := by rw [List.getElem?_map, at_i]; rfl
  have place' : (cs.map (·.name))[j]? = some d.name := by rw [List.getElem?_map, at_j]; rfl
  have inside := (List.getElem?_eq_some_iff.1 place).1
  refine (List.getElem?_inj inside nodup).1 ?_
  rw [place, place', same]

end Alternative

/-- A type of alternatives is faithful if each alternative is, and each value is in the one that has
the name of its kind. -/
theorem Schema.faithful_alternatives {α : Type} {cs : List (Alternative α)} (kind : α → String)
    (few : cs.length < UInt32.size) (h : ∀ c ∈ cs, c.Faithful) (covers : ∀ x, ∃ c ∈ cs, (c.put x).isSome)
    (named : ∀ c ∈ cs, ∀ x, (c.put x).isSome → kind x = c.name)
    (nodup : (cs.map (·.name)).Nodup) : (alternatives cs).Faithful where
  restores := restores_alternatives few (fun c hc => (h c hc).restores) covers
  canonical bs x rest taken := by
    obtain ⟨⟨i, behind⟩, word, taken⟩ := Option.bind_eq_some_iff.1 taken
    obtain ⟨c, found, taken⟩ := Option.bind_eq_some_iff.1 taken
    obtain ⟨small, front⟩ := Words.take?_eq_some word
    obtain ⟨own, has, back, whole⟩ := (h c (List.mem_of_getElem? found)).canonical behind x rest taken
    obtain ⟨j, d, own', found', has', octets⟩ := Alternative.putFirst_eq (covers x) 0
    -- The alternative that the value is put for is the one that it was taken by.
    have same : i = j := by
      have name := named c (List.mem_of_getElem? found) x (by rw [has]; rfl)
      have name' := named d (List.mem_of_getElem? found') x (by rw [has']; rfl)
      exact Alternative.place_eq nodup found found' (name.symm.trans name')
    subst same
    cases found.symm.trans found'
    cases has.symm.trans has'
    rw [Nat.zero_add] at octets
    have put : (alternatives cs).put x = Words.put 4 i ++ own := octets
    refine ⟨fun more => ?_, ?_⟩
    · rw [put, List.append_assoc]
      simp only [alternatives, Words.take?_put small, Option.bind_eq_bind, Option.bind_some, found, back]
    · rw [put, front, whole, List.append_assoc]

end DeviceFleet
