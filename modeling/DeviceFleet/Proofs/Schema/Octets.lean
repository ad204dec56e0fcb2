import DeviceFleet.Proofs.Instant.Text
import DeviceFleet.Proofs.Json.Sizes
import DeviceFleet.Proofs.Text.Base64
import DeviceFleet.Schema.Codec

/-! Laws of the octet form of schemas. A value is taken back from the octets that were put for it,
whatever comes after them, if the lengths of its texts fit a word; a value that is read from JSON
with such texts is one of these. -/

namespace DeviceFleet

namespace Words

theorem length_put (width n : Nat) : (put width n).length = width := by
  induction width generalizing n with
  | zero => rfl
  | succ width ih => rw [put, List.length_cons, ih]

theorem value_put {width n : Nat} (h : n < Nat.pow 256 width) : value (put width n) = n := by
  induction width generalizing n with
  | zero =>
    have zero : n = 0 := by simpa using h
    rw [zero]
    rfl
  | succ width ih =>
    have high : n / 256 < Nat.pow 256 width := by
      have whole : n < Nat.pow 256 width * 256 := h
      omega
    rw [put, value, ih high, UInt8.toNat_ofNat']
    omega

theorem split?_append (bs rest : Bytes) : split? bs.length (bs ++ rest) = some (bs, rest) := by
  rw [split?, if_pos (by rw [List.length_append]; omega), List.take_left, List.drop_left]

theorem take?_put {width n : Nat} (h : n < Nat.pow 256 width) (rest : Bytes) :
    take? width (put width n ++ rest) = some (n, rest) := by
  have whole := split?_append (put width n) rest
  rw [length_put] at whole
  simp only [take?, whole, Option.map_some, value_put h]

theorem takeBlock?_putBlock {bs : Bytes} (h : Fits bs) (rest : Bytes) :
    takeBlock? (putBlock bs ++ rest) = some (bs, rest) := by
  have word := take?_put (show bs.length < Nat.pow 256 8 from h) (bs ++ rest)
  simp only [takeBlock?, putBlock, List.append_assoc, word, Option.bind_eq_bind, Option.bind_some,
    split?_append]

end Words

theorem Text.length_encode_ofList (cs : List Char) :
    (Text.encode (String.ofList cs)).length ≤ 4 * cs.length := by
  induction cs with
  | nil => exact Nat.le_refl 0
  | cons c cs ih =>
    have whole : String.ofList (c :: cs) = String.singleton c ++ String.ofList cs := by
      simp [String.ofList_cons]
    have size : (Text.encode (String.ofList (c :: cs))).length =
        (Text.encode (String.singleton c)).length + (Text.encode (String.ofList cs)).length := by
      rw [whole]
      exact String.utf8ByteSize_append
    have first := Json.length_encode_singleton c
    rw [size, List.length_cons]
    omega

/-! ### Values that are taken back -/

namespace Schema

variable {α : Type}

/-- The value is taken back from its octets, whatever comes after them. -/
def TakesBack (s : Schema α) (a : α) : Prop := ∀ rest, s.take? (s.put a ++ rest) = some (a, rest)

/-- What comes after the octets of a value is passed over. -/
theorem decode_append {s : Schema α} {a : α} {own : Bytes}
    (h : ∀ rest, s.take? (own ++ rest) = some (a, rest)) (more : Bytes) :
    s.decode (own ++ more) = .ok a := by
  rw [decode, decode?, h more]
  rfl

theorem decode_encode {s : Schema α} {a : α} (h : s.TakesBack a) : s.decode (s.encode a) = .ok a := by
  have whole := decode_append h []
  rw [List.append_nil] at whole
  exact whole

theorem take?_of_decode {s : Schema α} {bs : Bytes} {a : α} (h : s.decode bs = .ok a) :
    ∃ rest, s.take? bs = some (a, rest) := by
  rw [decode] at h
  split at h
  · rename_i found
    cases h
    obtain ⟨⟨a, rest⟩, taken, same⟩ := Option.map_eq_some_iff.1 found
    cases same
    exact ⟨rest, taken⟩
  · cases h

theorem takesBack_text {t : String} (h : Words.Fits (Text.encode t)) : text.TakesBack t := by
  intro rest
  simp only [text, Words.takeBlock?_putBlock h, Option.bind_eq_bind, Option.bind_some,
    Text.decode?_encode]

theorem takesBack_spelled {spell : α → String} {parse? : String → Option α} {a : α}
    (inverse : parse? (spell a) = some a) (h : Words.Fits (Text.encode (spell a))) :
    (spelled spell parse?).TakesBack a := by
  intro rest
  simp only [spelled, takesBack_text h rest, Option.bind_eq_bind, Option.bind_some, inverse]

theorem takesBack_time (t : Instant) : time.TakesBack t := by
  refine takesBack_spelled (Instant.ofText?_text t) ?_
  have short := Text.length_encode_ofList t.toChars
  have chars := t.length_toChars
  show (Text.encode (String.ofList t.toChars)).length < UInt64.size
  simp only [UInt64.size]
  omega

theorem takesBack_flag (b : Bool) : flag.TakesBack b := by
  intro rest
  cases b <;> rfl

theorem takesBack_option {s : Schema α} {x : Option α} (h : ∀ a, x = some a → s.TakesBack a) :
    s.option.TakesBack x := by
  intro rest
  cases x with
  | none => rfl
  | some a =>
    show (s.take? (s.put a ++ rest)).map (fun r => (some r.1, r.2)) = some (some a, rest)
    rw [h a rfl rest, Option.map_some]

end Schema

namespace Fields

variable {α β : Type}

def TakesBack (f : Fields α) (a : α) : Prop := ∀ rest, f.take? (f.put a ++ rest) = some (a, rest)

theorem takesBack_done : done.TakesBack () := fun _ => rfl

theorem takesBack_field {name : String} {s : Schema α} {absent : Option α} {f : Fields β}
    {a : α} {b : β} (ha : s.TakesBack a) (hb : f.TakesBack b) :
    (field name s absent f).TakesBack (a, b) := by
  intro rest
  simp only [field, List.append_assoc, ha (f.put b ++ rest), hb rest, Option.bind_eq_bind,
    Option.bind_some]

end Fields

theorem Schema.takesBack_record {α β : Type} {f : Fields β} {make : β → α} {chain : α → β} {a : α}
    (inverse : make (chain a) = a) (h : f.TakesBack (chain a)) : (record f make chain).TakesBack a := by
  intro rest
  show (f.take? (f.put (chain a) ++ rest)).map (fun r => (make r.1, r.2)) = some (a, rest)
  rw [h rest, Option.map_some, inverse]

/-! ### Alternatives -/

namespace Alternative

variable {α β : Type}

/-- The octets of the first alternative that has the value. -/
theorem putFirst_append {x : α} {before after : List (Alternative α)} {c : Alternative α} {bs : Bytes}
    (none_before : ∀ d ∈ before, d.put x = none) (own : c.put x = some bs) (i : Nat) :
    putFirst x i (before ++ c :: after) = Words.put 4 (i + before.length) ++ bs := by
  induction before generalizing i with
  | nil =>
    rw [List.nil_append, putFirst, own]
    rfl
  | cons d before ih =>
    rw [List.cons_append, putFirst, none_before d List.mem_cons_self,
      ih (fun e he => none_before e (List.mem_cons_of_mem d he)), List.length_cons,
      Nat.add_right_comm, Nat.add_assoc]

end Alternative

/-- A value is taken back by the first alternative that has it. -/
theorem Schema.takesBack_alternatives {α β : Type} (before : List (Alternative α))
    {after : List (Alternative α)} {name : String} {s : Schema β} {make : β → α}
    {content? : α → Option β} {b : β}
    (few : before.length < UInt32.size) (content : content? (make b) = some b)
    (none_before : ∀ d ∈ before, d.put (make b) = none) (h : s.TakesBack b) :
    (alternatives (before ++ .holding name s make content? :: after)).TakesBack (make b) := by
  intro rest
  have own : (Alternative.holding name s make content?).put (make b) = some (s.put b) := by
    show (content? (make b)).map s.put = _
    rw [content, Option.map_some]
  have place := Words.take?_put (show before.length < Nat.pow 256 4 from few) (s.put b ++ rest)
  have found : ∀ c : Alternative α, (before ++ c :: after)[before.length]? = some c := by
    intro c
    rw [List.getElem?_append_right (Nat.le_refl _), Nat.sub_self, List.getElem?_cons_zero]
  simp only [alternatives, Alternative.putFirst_append none_before own, Nat.zero_add,
    List.append_assoc, place, found, Option.bind_eq_bind, Option.bind_some]
  show (s.take? (s.put b ++ rest)).map (fun r => (make r.1, r.2)) = _
  rw [h rest, Option.map_some]

/-! ### Values that were read -/

namespace Schema

variable {α : Type}

/-- Whatever is read from JSON whose texts have lengths that fit a word is taken back. -/
def Carries (s : Schema α) : Prop := ∀ v a, v.Sized → s.read? v = some a → s.TakesBack a

theorem carries_text : text.Carries := by
  intro v a sized h
  cases v <;> cases h
  exact takesBack_text sized

theorem carries_octets : octets.Carries := by
  intro v a sized h
  obtain ⟨t, found, parsed⟩ := Option.bind_eq_some_iff.1 h
  refine takesBack_spelled (Base64.bytes?_text a) ?_
  rw [Base64.text_of_bytes? parsed]
  cases v <;> cases found
  exact sized

theorem carries_flag : flag.Carries := fun _ b _ _ => takesBack_flag b

theorem carries_option {s : Schema α} (h : s.Carries) : s.option.Carries := by
  intro v x sized read
  apply takesBack_option
  intro a same
  subst same
  cases v with
  | null => cases read
  | _ =>
    obtain ⟨b, found, same⟩ := Option.map_eq_some_iff.1 read
    cases same
    exact h _ a sized found

end Schema

namespace Fields

variable {α β : Type}

def Carries (f : Fields α) : Prop :=
  ∀ ms x, Json.SizedMembers ms → f.read? ms = some x → f.TakesBack x

theorem carries_done : done.Carries := fun _ _ _ _ => takesBack_done

theorem carries_field {name : String} {s : Schema α} {absent : Option α} {f : Fields β}
    (hs : s.Carries) (habsent : ∀ a, absent = some a → s.TakesBack a) (hf : f.Carries) :
    (field name s absent f).Carries := by
  intro ms x sized read
  simp only [field, Option.bind_eq_bind, Option.bind_eq_some_iff, Option.some.injEq] at read
  obtain ⟨a, first, b, others, rfl⟩ := read
  refine takesBack_field ?_ (hf ms b sized others)
  rw [value?] at first
  split at first
  · exact habsent a first
  · rename_i m one
    have member : m ∈ ms.filter (·.1 = name) := one ▸ List.mem_singleton_self m
    exact hs m.2 a (Json.sizedMembers_iff.1 sized m (List.mem_filter.1 member).1) first
  · cases first

theorem carries_text {name : String} {f : Fields β} (h : f.Carries) : (text name f).Carries := by
  refine carries_field Schema.carries_text (fun a same => ?_) h
  cases same
  exact Schema.takesBack_text (by decide)

theorem carries_octets {name : String} {f : Fields β} (h : f.Carries) : (octets name f).Carries := by
  refine carries_field Schema.carries_octets (fun a same => ?_) h
  cases same
  exact Schema.takesBack_spelled rfl (by decide)

theorem carries_flag {name : String} {f : Fields β} (h : f.Carries) : (flag name f).Carries :=
  carries_field Schema.carries_flag (fun a _ => Schema.takesBack_flag a) h

theorem carries_optional {name : String} {s : Schema α} {f : Fields β} (hs : s.Carries)
    (h : f.Carries) : (optional name s f).Carries := by
  refine carries_field (Schema.carries_option hs) (fun x same => ?_) h
  cases same
  exact Schema.takesBack_option nofun

end Fields

theorem Schema.carries_record {α β : Type} {f : Fields β} {make : β → α} {chain : α → β}
    (inverse : ∀ b, chain (make b) = b) (h : f.Carries) : (record f make chain).Carries := by
  intro v a sized read
  obtain ⟨x, found, rfl⟩ := Option.map_eq_some_iff.1 read
  obtain ⟨ms, members, values⟩ := Option.bind_eq_some_iff.1 found
  apply takesBack_record (congrArg make (inverse x))
  rw [inverse x]
  refine h ms x ?_ values
  cases v with
  | object members' =>
    cases members
    exact sized
  | array items =>
    rw [Json.fields?] at members
    split at members
    · cases members
      apply Json.sizedMembers_iff.2
      intro m hm
      exact Json.sizedItems_iff.1 sized.2 m.2 (List.of_mem_zip hm).2
    · cases members
  | _ => cases members

end DeviceFleet
