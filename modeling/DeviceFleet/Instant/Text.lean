import DeviceFleet.Text.Blank
import DeviceFleet.Instant.Basic

/-! Times as text, after RFC 3339. Written times are in UTC, with no fraction or one of
three, six or nine digits. Reading is relaxed: white space may stand before each
number and around the separators, numbers may be short, the offset may be named, and
digits of the fraction beyond the ninth are cut. -/

namespace DeviceFleet.Instant

/-- A number in at least `width` digits. -/
def padded (width n : Nat) : List Char :=
  let ds := Nat.toDigits 10 n
  List.replicate (width - ds.length) '0' ++ ds

/-- A year: four digits, and a sign where they do not suffice. -/
def yearText (y : Int) : List Char :=
  if 0 ≤ y ∧ y ≤ 9999 then padded 4 y.toNat
  else (if y < 0 then '-' else '+') :: padded 4 y.natAbs

/-- A fraction of a second in the fewest groups of three digits. -/
def fractionText (nanos : Nat) : List Char :=
  if nanos = 0 then []
  else if nanos % 1000000 = 0 then '.' :: padded 3 (nanos / 1000000)
  else if nanos % 1000 = 0 then '.' :: padded 6 (nanos / 1000)
  else '.' :: padded 9 nanos

def toChars (t : Instant) : List Char :=
  let d := Calendar.ofDays t.day
  let s := t.secondOfDay.toNat
  let (sec, nanos) :=
    if t.isLeapSecond then (s % 60 + 1, t.nanos - 1000000000) else (s % 60, t.nanos)
  yearText d.year ++ '-' :: padded 2 d.month ++ '-' :: padded 2 d.day ++ 'T' ::
    padded 2 (s / 3600) ++ ':' :: padded 2 (s / 60 % 60) ++ ':' :: padded 2 sec ++
    fractionText nanos ++ ['Z']

def text (t : Instant) : String := String.ofList t.toChars

def isDigit (c : Char) : Bool := '0' ≤ c && c ≤ '9'

def ofDigits (ds : List Char) : Nat := ds.foldl (fun n c => 10 * n + (c.toNat - 48)) 0

/-- A number of one to `width` digits at the front, and the rest. -/
def number? (width : Nat) (cs : List Char) : Option (Nat × List Char) :=
  match (cs.take width).takeWhile isDigit with
  | [] => none
  | ds => some (ofDigits ds, cs.drop ds.length)

def field? (width : Nat) (cs : List Char) : Option (Nat × List Char) :=
  number? width (Text.trimStart cs)

/-- A year after white space; a sign lets it have any number of digits. -/
def year? (cs : List Char) : Option (Int × List Char) :=
  match Text.trimStart cs with
  | '-' :: rest => (number? rest.length rest).map fun (n, rest) => (-(n : Int), rest)
  | '+' :: rest => (number? rest.length rest).map fun (n, rest) => ((n : Int), rest)
  | rest => (number? 4 rest).map fun (n, rest) => ((n : Int), rest)

/-- What is left after the character, with white space before it. -/
def mark? (c : Char) (cs : List Char) : Option (List Char) :=
  match Text.trimStart cs with
  | d :: rest => if d = c then some rest else none
  | [] => none

def fraction? (cs : List Char) : Option (Nat × List Char) :=
  match cs with
  | '.' :: rest =>
    match rest.takeWhile isDigit with
    | [] => none
    | ds =>
      let kept := ds.take 9
      some (ofDigits kept * Nat.pow 10 (9 - kept.length), rest.drop ds.length)
  | _ => some (0, cs)

def pair? : List Char → Option (Nat × List Char)
  | a :: b :: rest => if isDigit a && isDigit b then some (ofDigits [a, b], rest) else none
  | _ => none

/-- The offset from UTC in seconds: `Z`, `UTC` or a sign, hours and minutes. -/
def offset? (cs : List Char) : Option (Int × List Char) :=
  let name := (cs.take 3).map Char.toUpper
  if name = ['U', 'T', 'C'] then some (0, cs.drop 3)
  else
    match cs with
    | c :: rest =>
      if c = 'Z' ∨ c = 'z' then some (0, rest)
      else if c = '+' ∨ c = '-' ∨ c = '−' then do
        let (hours, rest) ← pair? rest
        let (minutes, rest) ← pair? (rest.dropWhile fun c => c = ':' || Text.isBlank c)
        if minutes < 60 ∧ hours < 24 then
          let n : Int := hours * 3600 + minutes * 60
          some (if c = '+' then n else -n, rest)
        else none
      else none
    | [] => none

/-- The instant with the given fields in the offset's time. Second 60 is the leap
second of its minute. -/
def ofFields? (date : Calendar.Date) (hour minute second nanos : Nat) (offset : Int) :
    Option Instant :=
  if date.Valid ∧ minYear ≤ date.year ∧ date.year ≤ maxYear ∧
      hour < 24 ∧ minute < 60 ∧ second ≤ 60 then
    let s := Calendar.toDays date * 86400 + hour * 3600 + minute * 60 + min second 59 - offset
    of? s (if second = 60 then nanos + 1000000000 else nanos)
  else none

def ofChars? (cs : List Char) : Option Instant := do
  let (year, cs) ← year? cs
  let cs ← mark? '-' cs
  let (month, cs) ← field? 2 cs
  let cs ← mark? '-' cs
  let (day, cs) ← field? 2 cs
  let cs ← match cs with
    | c :: rest => if c = 'T' ∨ c = 't' ∨ c = ' ' then some rest else none
    | [] => none
  let (hour, cs) ← field? 2 cs
  let cs ← mark? ':' cs
  let (minute, cs) ← field? 2 cs
  let cs ← mark? ':' cs
  let (second, cs) ← field? 2 cs
  let (nanos, cs) ← fraction? cs
  let (offset, cs) ← offset? (Text.trimStart cs)
  if (Text.trimStart cs).isEmpty then
    ofFields? { year, month, day } hour minute second nanos offset
  else none

def ofText? (s : String) : Option Instant := ofChars? s.toList

end DeviceFleet.Instant
