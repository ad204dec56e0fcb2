import DeviceFleet.Schema.Record

/-! Alternatives. In JSON an alternative without content is its name, and one with
content is an object whose only member has its name. As octets an alternative is its
place in four octets, then its content. -/

namespace DeviceFleet

/-- One alternative of a type. The written content is `none` for an alternative that
has none, and the whole is `none` for a value of another alternative. -/
structure Alternative (α : Type) where
  name : String
  write : α → Option (Option Json)
  read? : Option Json → Option α
  put : α → Option Bytes
  take? : Bytes → Option (α × Bytes)

namespace Alternative

/-- The alternative of a single value. -/
def bare {α : Type} [DecidableEq α] (name : String) (a : α) : Alternative α where
  name
  write x := if x = a then some none else none
  read?
    | none => some a
    | some .null => some a
    | some _ => none
  put x := if x = a then some [] else none
  take? bs := some (a, bs)

/-- The alternative of the values made by `make`; `content?` finds what they are made
from. -/
def holding {α β : Type} (name : String) (s : Schema β) (make : β → α) (content? : α → Option β) :
    Alternative α where
  name
  write x := (content? x).map fun b => some (s.write b)
  read? v := v >>= fun v => (s.read? v).map make
  put x := (content? x).map s.put
  take? bs := (s.take? bs).map fun (b, rest) => (make b, rest)

/-- The JSON form by the first alternative that has the value. -/
def writeFirst {α : Type} (x : α) : List (Alternative α) → Json
  | [] => .null
  | c :: cs => match c.write x with
    | some none => .string c.name
    | some (some v) => .object [(c.name, v)]
    | none => writeFirst x cs

/-- The octets by the first alternative that has the value, in place `i` or later. -/
def putFirst {α : Type} (x : α) (i : Nat) : List (Alternative α) → Bytes
  | [] => []
  | c :: cs => match c.put x with
    | some bs => Words.put 4 i ++ bs
    | none => putFirst x (i + 1) cs

def readNamed? {α : Type} (cs : List (Alternative α)) (name : String) (content : Option Json) :
    Option α := do
  let c ← cs.find? (·.name = name)
  c.read? content

end Alternative

def Schema.alternatives {α : Type} (cs : List (Alternative α)) : Schema α where
  write x := Alternative.writeFirst x cs
  read?
    | .string name => Alternative.readNamed? cs name none
    | .object [(name, v)] => Alternative.readNamed? cs name (some v)
    | _ => none
  put x := Alternative.putFirst x 0 cs
  take? bs := do
    let (i, rest) ← Words.take? 4 bs
    let c ← cs[i]?
    c.take? rest

end DeviceFleet
