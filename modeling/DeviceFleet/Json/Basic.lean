import DeviceFleet.Named
import DeviceFleet.Json.Double

/-! JSON values. Members keep their written order and may repeat a name; `normal`
is the value read generically, in which the members of every object are in the order
of their names and each name has its last value. A value is `unreadable` when it
follows the grammar but has no meaning: a number beyond the largest double, a string
that is not Unicode text. Such a value does no harm where it is skipped. -/

namespace DeviceFleet

inductive Json where
  | null
  | bool (b : Bool)
  /-- An integer between `-2 ^ 63` and `2 ^ 64 - 1`. -/
  | int (n : Int)
  | double (x : Double)
  | string (s : String)
  | array (items : List Json)
  | object (members : List (String × Json))
  | unreadable
  deriving Repr, Inhabited

namespace Json

abbrev Members := List (String × Json)

/-- The members in the order of their names, each name once with its last value. -/
def arrange (members : Members) : Members :=
  members.foldl (fun sorted m => Named.insert m.1 m.2 sorted) []

/-- The value of the last member with the name. -/
def get? (name : String) (members : Members) : Option Json :=
  (members.reverse.find? (·.1 = name)).map (·.2)

/-- The members of an object; other values have none. -/
def members : Json → Members
  | object members => members
  | _ => []

def without (name : String) (members : Members) : Members := members.filter (·.1 ≠ name)

def dropNulls (members : Members) : Members :=
  members.filter fun m => match m.2 with
    | null => false
    | _ => true

/-- Arrays and objects may nest this deep in a value read generically. -/
def maxDepth : Nat := 127

mutual

/-- Whether the value has a meaning throughout and nests at most `depth` deep. -/
def readable (depth : Nat) : Json → Bool
  | array items => match depth with
    | 0 => false
    | d + 1 => readableItems d items
  | object members => match depth with
    | 0 => false
    | d + 1 => readableMembers d members
  | unreadable => false
  | _ => true

def readableItems (depth : Nat) : List Json → Bool
  | [] => true
  | v :: rest => readable depth v && readableItems depth rest

def readableMembers (depth : Nat) : Members → Bool
  | [] => true
  | (_, v) :: rest => readable depth v && readableMembers depth rest

end

mutual

/-- The value with the members of all its objects arranged. -/
def sorted : Json → Json
  | array items => array (sortedItems items)
  | object members => object (arrange (sortedMembers members))
  | v => v

def sortedItems : List Json → List Json
  | [] => []
  | v :: rest => sorted v :: sortedItems rest

def sortedMembers : Members → Members
  | [] => []
  | (n, v) :: rest => (n, sorted v) :: sortedMembers rest

end

/-- The value as it is read generically. -/
def normal (v : Json) : Option Json := if v.readable maxDepth then some v.sorted else none

end Json

end DeviceFleet
