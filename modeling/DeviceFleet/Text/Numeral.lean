/-! Integers of a fixed number of bits in decimal: ASCII digits after an optional sign,
which must not be a minus for an unsigned integer. -/

namespace DeviceFleet.Text

/-- The number with the given digits, of which there is at least one. -/
def digits? : List Char → Option Nat
  | [] => none
  | cs =>
    if cs.all Char.isDigit then some (cs.foldl (fun n c => 10 * n + (c.toNat - '0'.toNat)) 0)
    else none

/-- The digits after a plus, if there is one. -/
def plain? : List Char → Option Nat
  | '+' :: cs => digits? cs
  | cs => digits? cs

def unsigned? (bits : Nat) (s : String) : Option Nat :=
  (plain? s.toList).filter (· < Nat.pow 2 bits)

def signed? (bits : Nat) (s : String) : Option Int :=
  match s.toList with
  | '-' :: cs => (digits? cs).bind fun n => if n ≤ Nat.pow 2 (bits - 1) then some (-n) else none
  | cs => (plain? cs).bind fun n => if n < Nat.pow 2 (bits - 1) then some n else none

def flag? (s : String) : Option Bool :=
  if s = "true" then some true else if s = "false" then some false else none

end DeviceFleet.Text
