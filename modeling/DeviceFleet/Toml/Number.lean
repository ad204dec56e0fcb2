import DeviceFleet.Json.Double
import DeviceFleet.Text.Hex
import DeviceFleet.Toml.Basic

/-! Numbers and dates in a TOML text. Integers have 64 bits; a float must not be larger
than the largest double. Of dates only the form is of interest. -/

namespace DeviceFleet.Toml

def digit? (base : Nat) (c : Char) : Option Nat := (Hex.value? c).filter (· < base)

/-- Digits, with single underscores between them. -/
def digits (base : Nat) : List Char → List Nat × List Char
  | '_' :: c :: rest => match digit? base c with
    | some d =>
      let (ds, rest) := digits base rest
      (d :: ds, rest)
    | none => ([], '_' :: c :: rest)
  | c :: rest => match digit? base c with
    | some d =>
      let (ds, rest) := digits base rest
      (d :: ds, rest)
    | none => ([], c :: rest)
  | [] => ([], [])

def digits1? (base : Nat) : List Char → Option (List Nat × List Char)
  | c :: rest => do
    let d ← digit? base c
    let (ds, rest) := digits base rest
    some (d :: ds, rest)
  | [] => none

def ofDigits (base : Nat) (ds : List Nat) : Nat := ds.foldl (fun n d => base * n + d) 0

/-- The digits of a decimal integer, which does not start with a zero unless it is one. -/
def whole? : List Char → Option (List Nat × List Char)
  | '0' :: rest => some ([0], rest)
  | cs => digits1? 10 cs

/-- A sign, and whether it is that of a negative number. -/
def sign : List Char → Bool × List Char
  | '+' :: rest => (false, rest)
  | '-' :: rest => (true, rest)
  | cs => (false, cs)

def ofInt? (n : Int) : Option Toml :=
  if Int64.minValue.toInt ≤ n ∧ n ≤ Int64.maxValue.toInt then some (.integer n) else none

/-- An integer in another base, after its mark. -/
def based? (base : Nat) (cs : List Char) : Option (Toml × List Char) := do
  let (ds, rest) ← digits1? base cs
  let v ← ofInt? (ofDigits base ds)
  some (v, rest)

def integer? (cs : List Char) : Option (Toml × List Char) :=
  match cs with
  | '0' :: 'x' :: rest => based? 16 rest
  | '0' :: 'o' :: rest => based? 8 rest
  | '0' :: 'b' :: rest => based? 2 rest
  | _ => do
    let (negative, rest) := sign cs
    let (ds, rest) ← whole? rest
    let n : Int := ofDigits 10 ds
    let v ← ofInt? (if negative then -n else n)
    some (v, rest)

/-- Whether `n · 10 ^ e` is nearer to the power of two past the largest double than to
the largest double. The number of digits decides unless it is that of the largest. -/
def overflows (n : Nat) (e : Int) : Bool :=
  let places : Int := (Nat.toDigits 10 n).length + e
  if n = 0 ∨ places < 309 then false
  else if 309 < places then true
  else if 0 ≤ e then (Double.nearest (n * Nat.pow 10 e.toNat) 1).isNone
  else (Double.nearest n (Nat.pow 10 (-e).toNat)).isNone

def fraction? : List Char → Option (Option (List Nat) × List Char)
  | '.' :: rest => (digits1? 10 rest).map fun (ds, rest) => (some ds, rest)
  | cs => some (none, cs)

def exponent? : List Char → Option (Option Int × List Char)
  | c :: rest =>
    if c = 'e' ∨ c = 'E' then do
      let (negative, rest) := sign rest
      let (ds, rest) ← digits1? 10 rest
      let n : Int := ofDigits 10 ds
      some (some (if negative then -n else n), rest)
    else some (none, c :: rest)
  | [] => some (none, [])

/-- The names of infinity and of what is no number. -/
def special? (cs : List Char) : Option (Toml × List Char) :=
  match cs with
  | 'i' :: 'n' :: 'f' :: rest => some (.float, rest)
  | 'n' :: 'a' :: 'n' :: rest => some (.float, rest)
  | _ => none

/-- A float has a point or an exponent, or is named. -/
def float? (cs : List Char) : Option (Toml × List Char) := do
  let (negative, rest) := sign cs
  match special? rest with
  | some r => some r
  | none =>
    let (whole, rest) ← whole? rest
    let (fraction, rest) ← fraction? rest
    let (exponent, rest) ← exponent? rest
    if fraction.isNone ∧ exponent.isNone then none
    else
      let places := fraction.getD []
      let tooLarge := overflows (ofDigits 10 (whole ++ places)) (exponent.getD 0 - places.length)
      if tooLarge ∧ !negative then none else some (.float, rest)

/-- A number of exactly `width` digits between two bounds. -/
def field? (width low high : Nat) (cs : List Char) : Option (Nat × List Char) := do
  let ds ← (cs.take width).mapM (digit? 10)
  let n := ofDigits 10 ds
  if ds.length = width ∧ low ≤ n ∧ n ≤ high then some (n, cs.drop width) else none

def mark? (c : Char) : List Char → Option (List Char)
  | d :: rest => if d = c then some rest else none
  | [] => none

def monthLength (year month : Nat) : Nat :=
  if month = 2 then if year % 4 = 0 ∧ (year % 100 ≠ 0 ∨ year % 400 = 0) then 29 else 28
  else if month = 4 ∨ month = 6 ∨ month = 9 ∨ month = 11 then 30
  else 31

def day? (cs : List Char) : Option (List Char) := do
  let (year, cs) ← field? 4 0 9999 cs
  let cs ← mark? '-' cs
  let (month, cs) ← field? 2 1 12 cs
  let cs ← mark? '-' cs
  let (_, cs) ← field? 2 1 (monthLength year month) cs
  some cs

def skipFraction : List Char → List Char
  | '.' :: c :: rest =>
    if c.isDigit then rest.dropWhile Char.isDigit else '.' :: c :: rest
  | cs => cs

def time? (cs : List Char) : Option (List Char) := do
  let (_, cs) ← field? 2 0 23 cs
  let cs ← mark? ':' cs
  let (_, cs) ← field? 2 0 59 cs
  let cs ← mark? ':' cs
  let (_, cs) ← field? 2 0 60 cs
  some (skipFraction cs)

/-- What is left after a distance from UTC, if there is one. -/
def skipOffset (cs : List Char) : List Char :=
  match cs with
  | [] => []
  | c :: rest =>
    if c = 'Z' ∨ c = 'z' then rest
    else if c = '+' ∨ c = '-' then
      (do
        let (_, rest) ← field? 2 0 23 rest
        let rest ← mark? ':' rest
        let (_, rest) ← field? 2 0 59 rest
        some rest).getD cs
    else cs

/-- A day, with a time or without, or a time. -/
def date? (cs : List Char) : Option (Toml × List Char) :=
  match day? cs with
  | none => (time? cs).map (.date, ·)
  | some rest =>
    let timed := match rest with
      | c :: more => if c = 'T' ∨ c = 't' ∨ c = ' ' then time? more else none
      | [] => none
    match timed with
    | some more => some (.date, skipOffset more)
    | none => some (.date, rest)

def number? (cs : List Char) : Option (Toml × List Char) :=
  date? cs <|> float? cs <|> integer? cs

end DeviceFleet.Toml
