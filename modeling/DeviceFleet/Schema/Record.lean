import DeviceFleet.Schema.Basic

/-! Records. In JSON a record is an object; a list of its fields in their order is
read too. A name given twice is an error, an unknown one is passed over, and a field
with a default may be left out. As octets a record is its fields one after another. -/

namespace DeviceFleet

/-- The fields of a record, as a chain of pairs. -/
structure Fields (α : Type) where
  names : List String
  write : α → Json.Members
  read? : Json.Members → Option α
  put : α → Bytes
  take? : Bytes → Option (α × Bytes)

namespace Fields

def done : Fields Unit where
  names := []
  write _ := []
  read? _ := some ()
  put _ := []
  take? bs := some ((), bs)

/-- The value of a field: its only member's, or the default. -/
def value? {α : Type} (name : String) (s : Schema α) (absent : Option α) (members : Json.Members) :
    Option α :=
  match members.filter (·.1 = name) with
  | [] => absent
  | [m] => s.read? m.2
  | _ => none

/-- A field before the others, with the value it has when it is left out. -/
def field {α β : Type} (name : String) (s : Schema α) (absent : Option α) (rest : Fields β) :
    Fields (α × β) where
  names := name :: rest.names
  write x := (name, s.write x.1) :: rest.write x.2
  read? members := do
    let a ← value? name s absent members
    let b ← rest.read? members
    some (a, b)
  put x := s.put x.1 ++ rest.put x.2
  take? bs := do
    let (a, bs) ← s.take? bs
    let (b, bs) ← rest.take? bs
    some ((a, b), bs)

def required {α β : Type} (name : String) (s : Schema α) (rest : Fields β) : Fields (α × β) :=
  field name s none rest

def default {α β : Type} (name : String) (s : Schema α) (absent : α) (rest : Fields β) :
    Fields (α × β) :=
  field name s (some absent) rest

/-- A text, empty when it is left out. -/
def text {β : Type} (name : String) (rest : Fields β) : Fields (String × β) :=
  default name .text "" rest

def octets {β : Type} (name : String) (rest : Fields β) : Fields (Bytes × β) :=
  default name .octets [] rest

def flag {β : Type} (name : String) (rest : Fields β) : Fields (Bool × β) :=
  default name .flag false rest

def optional {α β : Type} (name : String) (s : Schema α) (rest : Fields β) :
    Fields (Option α × β) :=
  default name s.option none rest

end Fields

/-- The members of a record with the given names; a list gives the first of them. -/
def Json.fields? (names : List String) : Json → Option Json.Members
  | .object members => some members
  | .array items => if items.length ≤ names.length then some (names.zip items) else none
  | _ => none

/-- The schema of a record, from its fields and the two ways between it and the chain
of its fields' values. -/
def Schema.record {α β : Type} (fields : Fields β) (make : β → α) (chain : α → β) :
    Schema α where
  write a := .object (fields.write (chain a))
  read? v := (v.fields? fields.names >>= fields.read?).map make
  put a := fields.put (chain a)
  take? bs := (fields.take? bs).map fun (b, rest) => (make b, rest)

end DeviceFleet
