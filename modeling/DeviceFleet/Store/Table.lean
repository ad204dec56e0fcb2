import DeviceFleet.Named

/-! Tables of the store: values under names, listed in the order of the names. -/

namespace DeviceFleet

structure Table (α : Type) where
  entries : List (String × α)
  ascending : Named.Ascending entries

namespace Table

variable {α : Type}

def empty : Table α := ⟨[], List.Pairwise.nil⟩

instance : EmptyCollection (Table α) := ⟨empty⟩

def find? (t : Table α) (name : String) : Option α := Named.find? name t.entries

def contains (t : Table α) (name : String) : Bool := (t.find? name).isSome

def insert (t : Table α) (name : String) (value : α) : Table α :=
  ⟨Named.insert name value t.entries, Named.ascending_insert name value t.ascending⟩

def erase (t : Table α) (name : String) : Table α :=
  ⟨Named.erase name t.entries, Named.ascending_erase name t.ascending⟩

def names (t : Table α) : List String := t.entries.map (·.1)

@[simp] theorem find?_empty (name : String) : (empty : Table α).find? name = none := rfl

@[simp] theorem find?_insert (t : Table α) (name other : String) (value : α) :
    (t.insert name value).find? other = if other = name then some value else t.find? other :=
  Named.find?_insert name other value t.ascending

@[simp] theorem find?_erase (t : Table α) (name other : String) :
    (t.erase name).find? other = if other = name then none else t.find? other :=
  Named.find?_erase name other t.entries

end Table

end DeviceFleet
