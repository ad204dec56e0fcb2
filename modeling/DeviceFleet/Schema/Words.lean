import DeviceFleet.Text.Octets

/-! Words of a fixed number of octets, the low octet first, and octet strings behind
their length. `take` functions give the value at the front and the rest. -/

namespace DeviceFleet.Words

/-- The low `width` octets of a number. -/
def put : (width : Nat) → Nat → Bytes
  | 0, _ => []
  | width + 1, n => UInt8.ofNat n :: put width (n / 256)

def value : Bytes → Nat
  | [] => 0
  | b :: rest => b.toNat + 256 * value rest

def split? (n : Nat) (bs : Bytes) : Option (Bytes × Bytes) :=
  if n ≤ bs.length then some (bs.take n, bs.drop n) else none

def take? (width : Nat) (bs : Bytes) : Option (Nat × Bytes) :=
  (split? width bs).map fun (w, rest) => (value w, rest)

/-- Octets behind their length in eight octets. -/
def putBlock (bs : Bytes) : Bytes := put 8 bs.length ++ bs

def takeBlock? (bs : Bytes) : Option (Bytes × Bytes) := do
  let (n, rest) ← take? 8 bs
  split? n rest

end DeviceFleet.Words
