/-! Numbers of the binary64 format, in exact arithmetic on their mantissa and
exponent. `nearest` rounds a quotient, ties to even, and has no value beyond the
largest double. `ofDecimal` reads a decimal in one rounding for the significand and
one for the power of ten. `text` writes the fewest digits that read back, positional
between 10⁻⁵ and 10¹⁶ and with an exponent elsewhere. -/

namespace DeviceFleet

/-- The number `± mantissa · 2 ^ exponent`. -/
structure Double where
  negative : Bool
  mantissa : Nat
  exponent : Int
  deriving DecidableEq, Repr

namespace Double

/-- The quotient rounded to an integer, a half to the even neighbour. -/
def roundDiv (num den : Nat) : Nat :=
  let q := num / den
  let r := num % den
  if 2 * r > den ∨ (2 * r = den ∧ q % 2 = 1) then q + 1 else q

/-- The quotient `num / (den · 2 ^ e)` as numerator and denominator. -/
def scaled (num den : Nat) (e : Int) : Nat × Nat :=
  if 0 ≤ e then (num, den * Nat.pow 2 e.toNat) else (num * Nat.pow 2 (-e).toNat, den)

def minExponent : Int := -1074

def maxExponent : Int := 971

/-- Mantissas are below this, and from half of it on unless the exponent is the least. -/
def limit : Nat := 9007199254740992

/-- Mantissa and exponent of the double nearest to `num / den`; none past the largest. -/
def nearest (num den : Nat) : Option (Nat × Int) :=
  if num = 0 then some (0, 0)
  else
    let low : Int := (Nat.log2 num : Int) - (Nat.log2 den : Int) - 53
    let (n, d) := scaled num den low
    let e := max (if n / d < limit then low else low + 1) minExponent
    let (n, d) := scaled num den e
    let q := roundDiv n d
    let (q, e) := if q = limit then (limit / 2, e + 1) else (q, e)
    if q = 0 then some (0, 0) else if e > maxExponent then none else some (q, e)

def mul (a b : Nat × Int) : Option (Nat × Int) :=
  let e := a.2 + b.2
  if 0 ≤ e then nearest (a.1 * b.1 * Nat.pow 2 e.toNat) 1
  else nearest (a.1 * b.1) (Nat.pow 2 (-e).toNat)

/-- The nearest double to the quotient, with a positive divisor. -/
def div (a b : Nat × Int) : Option (Nat × Int) :=
  let e := a.2 - b.2
  if 0 ≤ e then nearest (a.1 * Nat.pow 2 e.toNat) b.1
  else nearest a.1 (b.1 * Nat.pow 2 (-e).toNat)

/-- The largest power of ten below the largest double. -/
def maxPower : Nat := 308

/-- A double over `10 ^ k`, divided by the largest power of ten while `k` is larger.
Three such divisions leave nothing of a significand. -/
def shrink (f : Nat × Int) (k : Nat) : Nat → Option (Nat × Int)
  | 0 => some (0, 0)
  | rounds + 1 => do
    if f.1 = 0 then some f
    else if k ≤ maxPower then div f (← nearest (Nat.pow 10 k) 1)
    else shrink (← div f (← nearest (Nat.pow 10 maxPower) 1)) (k - maxPower) rounds

/-- The double for `significand · 10 ^ e`; none where that is too large. -/
def ofDecimal (negative : Bool) (significand : Nat) (e : Int) : Option Double := do
  let f ← nearest significand 1
  let (m, x) ←
    if f.1 = 0 then some f
    else if e < 0 then shrink f (-e).toNat 4
    else if e ≤ (maxPower : Int) then mul f (← nearest (Nat.pow 10 e.toNat) 1)
    else none
  some ⟨negative, m, x⟩

/-- Whether `a / b ≤ c · 10 ^ k`. -/
def leDecimal (a b c : Nat) (k : Int) : Bool :=
  if 0 ≤ k then a ≤ c * Nat.pow 10 k.toNat * b else a * Nat.pow 10 (-k).toNat ≤ c * b

def decimalLe (c : Nat) (k : Int) (a b : Nat) : Bool :=
  if 0 ≤ k then c * Nat.pow 10 k.toNat * b ≤ a else c * b ≤ a * Nat.pow 10 (-k).toNat

/-- The number `k` with `10 ^ k ≤ num / den < 10 ^ (k + 1)`, for positive arguments;
`rounds` bounds the search below one. -/
def magnitude (num den : Nat) : Int :=
  if den ≤ num then ((Nat.toDigits 10 (num / den)).length : Int) - 1
  else
    let rec below (num : Nat) : Nat → Int
      | 0 => 0
      | rounds + 1 => if den ≤ num then 0 else below (num * 10) rounds - 1
    below num 400

/-- The shortest decimal `c · 10 ^ k` strictly between the midpoints to the
neighbours, the midpoints included for an even mantissa: the first number of digits
with such a decimal, and of two the nearer, of equally near ones the even. -/
def shortest (m : Nat) (e : Int) : Nat × Int :=
  let lowGap := if m = limit / 2 ∧ e > minExponent then 1 else 2
  let e := e - 2
  let up (n : Nat) := if 0 ≤ e then n * Nat.pow 2 e.toNat else n
  let den := if 0 ≤ e then 1 else Nat.pow 2 (-e).toNat
  let (lo, mid, hi) := (up (4 * m - lowGap), up (4 * m), up (4 * m + 2))
  let inside (c : Nat) (k : Int) : Bool :=
    if m % 2 = 0 then leDecimal lo den c k && decimalLe c k hi den
    else !decimalLe c k lo den && !leDecimal hi den c k
  let top := magnitude mid den
  let rec search (k : Int) : Nat → Nat × Int
    | 0 => (0, 0)
    | rounds + 1 =>
      let c := if 0 ≤ k then mid / (den * Nat.pow 10 k.toNat) else mid * Nat.pow 10 (-k).toNat / den
      match inside c k, inside (c + 1) k with
      | false, false => search (k - 1) rounds
      | true, false => (c, k)
      | false, true => (c + 1, k)
      | true, true =>
        let twice := 2 * c + 1
        let (a, b) :=
          if 0 ≤ k then (2 * mid, den * Nat.pow 10 k.toNat)
          else (2 * mid * Nat.pow 10 (-k).toNat, den)
        if a < twice * b then (c, k)
        else if twice * b < a then (c + 1, k)
        else if c % 2 = 0 then (c, k) else (c + 1, k)
  search top 18

def dropZeros (digits : List Char) : List Char × Nat :=
  let kept := (digits.reverse.dropWhile (· = '0')).reverse
  (kept, digits.length - kept.length)

/-- The digits of `c · 10 ^ k` with a point or an exponent. -/
def layout (digits : List Char) (k : Int) : List Char :=
  let point : Int := digits.length + k
  if 0 ≤ k ∧ point ≤ 16 then digits ++ List.replicate k.toNat '0' ++ ['.', '0']
  else if 0 < point ∧ point ≤ 16 then
    digits.take point.toNat ++ '.' :: digits.drop point.toNat
  else if -5 < point ∧ point ≤ 0 then
    '0' :: '.' :: List.replicate (-point).toNat '0' ++ digits
  else
    let exponent := 'e' :: (toString (point - 1)).toList
    match digits with
    | [d] => d :: exponent
    | d :: rest => d :: '.' :: rest ++ exponent
    | [] => exponent

def text (x : Double) : List Char :=
  let body :=
    if x.mantissa = 0 then ['0', '.', '0']
    else
      let (c, k) := shortest x.mantissa x.exponent
      let (digits, zeros) := dropZeros (Nat.toDigits 10 c)
      layout digits (k + zeros)
  if x.negative then '-' :: body else body

end Double

end DeviceFleet
