import DeviceFleet.Text.Octets

/-! Hexadecimal: two lower-case digits an octet. -/

namespace DeviceFleet.Hex

/-- The lower-case digit of a number below sixteen. -/
def digit (n : Nat) : Char := if n < 10 then Char.ofNat (48 + n) else Char.ofNat (87 + n)

def value? (c : Char) : Option Nat :=
  let n := c.toNat
  if 48 ≤ n ∧ n ≤ 57 then some (n - 48)
  else if 97 ≤ n ∧ n ≤ 102 then some (n - 87)
  else if 65 ≤ n ∧ n ≤ 70 then some (n - 55)
  else none

def encode : Bytes → List Char
  | [] => []
  | a :: rest => digit (a.toNat / 16) :: digit (a.toNat % 16) :: encode rest

def decode? : List Char → Option Bytes
  | [] => some []
  | p :: q :: rest => do
    let x ← value? p
    let y ← value? q
    let more ← decode? rest
    some (UInt8.ofNat (x * 16 + y) :: more)
  | [_] => none

def text (bs : Bytes) : String := String.ofList (encode bs)

def bytes? (s : String) : Option Bytes := decode? s.toList

/-- A number in the fewest lower-case digits. -/
def ofNat (n : Nat) : List Char := Nat.toDigits 16 n

end DeviceFleet.Hex
