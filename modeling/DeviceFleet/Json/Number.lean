import DeviceFleet.Text.Octets
import DeviceFleet.Json.Basic

/-! Numbers in JSON text: an integer if it is written as one and fits 64 bits, signed
or unsigned, and otherwise a double. The significand of a double takes digits as long
as it fits 64 bits; later digits count only as places. -/

namespace DeviceFleet.Json

/-- A number as it is written. -/
structure Numeral where
  negative : Bool
  whole : List Nat
  /-- The digits after the point, if there is one. -/
  fraction : Option (List Nat)
  /-- The sign and the digits of the exponent, if there is one. -/
  exponent : Option (Bool × List Nat)

def ofDigits (digits : List Nat) : Nat := digits.foldl (fun n d => 10 * n + d) 0

def maxSignificand : Nat := 18446744073709551615

def maxNegative : Nat := 9223372036854775808

/-- The significand continued by the digits that fit, and the digits left over. -/
def takeDigits (n : Nat) : List Nat → Nat × List Nat
  | [] => (n, [])
  | d :: rest =>
    if 10 * n + d ≤ maxSignificand then takeDigits (10 * n + d) rest else (n, d :: rest)

/-- The double for a numeral; none where it is too large. -/
def Numeral.double? (x : Numeral) : Option Double :=
  let (n, left) := takeDigits 0 x.whole
  let digits := x.fraction.getD []
  let (n, rest) := takeDigits n digits
  let shift : Int := match x.exponent with
    | none => 0
    | some (negative, e) => if negative then -(ofDigits e : Int) else ofDigits e
  Double.ofDecimal x.negative n (left.length - (digits.length - rest.length : Nat) + shift)

/-- The integer that a numeral writes, if it is written as one and fits. `-0` is a
double, since no integer is negative zero. -/
def Numeral.int? (x : Numeral) : Option Int :=
  if x.fraction.isSome || x.exponent.isSome then none
  else
    let n := ofDigits x.whole
    if x.negative then if 0 < n ∧ n ≤ maxNegative then some (-n) else none
    else if n ≤ maxSignificand then some n
    else none

def Numeral.value (x : Numeral) : Json :=
  match x.int? with
  | some n => .int n
  | none => match x.double? with
    | some d => .double d
    | none => .unreadable

def digit? (b : UInt8) : Option Nat :=
  if 0x30 ≤ b ∧ b ≤ 0x39 then some (b.toNat - 0x30) else none

def digits : Bytes → List Nat × Bytes
  | [] => ([], [])
  | b :: rest => match digit? b with
    | some d => let (ds, rest) := digits rest; (d :: ds, rest)
    | none => ([], b :: rest)

def digits1? (bs : Bytes) : Option (List Nat × Bytes) :=
  match digits bs with
  | ([], _) => none
  | found => some found

/-- The digits before the point: a zero stands alone. -/
def whole? (bs : Bytes) : Option (List Nat × Bytes) := do
  let found ← digits1? bs
  match found.1 with
  | 0 :: _ :: _ => none
  | _ => some found

def fraction? (bs : Bytes) : Option (Option (List Nat) × Bytes) :=
  match bs with
  | b :: rest =>
    if Char.ofUInt8 b = '.' then (digits1? rest).map fun (ds, rest) => (some ds, rest)
    else some (none, bs)
  | [] => some (none, bs)

/-- The sign, if there is one: whether it is `-`, and the rest. -/
def sign (bs : Bytes) : Bool × Bytes :=
  match bs with
  | b :: rest => match Char.ofUInt8 b with
    | '-' => (true, rest)
    | '+' => (false, rest)
    | _ => (false, bs)
  | [] => (false, bs)

def exponent? (bs : Bytes) : Option (Option (Bool × List Nat) × Bytes) :=
  match bs with
  | b :: rest =>
    if Char.ofUInt8 b = 'e' ∨ Char.ofUInt8 b = 'E' then
      let (negative, rest) := sign rest
      (digits1? rest).map fun (ds, rest) => (some (negative, ds), rest)
    else some (none, bs)
  | [] => some (none, bs)

def unsigned? (negative : Bool) (bs : Bytes) : Option (Json × Bytes) := do
  let (whole, bs) ← whole? bs
  let (fraction, bs) ← fraction? bs
  let (exponent, bs) ← exponent? bs
  some (({ negative, whole, fraction, exponent } : Numeral).value, bs)

end DeviceFleet.Json
