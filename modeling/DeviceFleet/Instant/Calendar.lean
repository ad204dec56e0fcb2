/-! The Gregorian calendar, extended over all years. Days are counted from
1970-01-01. A year runs from March here, so that the leap day is its last. -/

namespace DeviceFleet.Calendar

structure Date where
  year : Int
  month : Nat
  day : Nat
  deriving DecidableEq, Repr

def isLeap (year : Int) : Bool := year % 4 = 0 && (year % 100 ≠ 0 || year % 400 = 0)

def monthLength (year : Int) (month : Nat) : Nat :=
  match month with
  | 2 => if isLeap year then 29 else 28
  | 4 | 6 | 9 | 11 => 30
  | _ => 31

def Date.Valid (d : Date) : Prop :=
  1 ≤ d.month ∧ d.month ≤ 12 ∧ 1 ≤ d.day ∧ d.day ≤ monthLength d.year d.month

instance (d : Date) : Decidable d.Valid := by unfold Date.Valid; infer_instance

/-- The days from 1970-01-01 to the date. -/
def toDays (d : Date) : Int :=
  let y := if d.month ≤ 2 then d.year - 1 else d.year
  let era := y / 400
  let yoe := y % 400
  let doy : Int := (153 * ((d.month + 9) % 12 : Nat) + 2) / 5 + d.day - 1
  era * 146097 + (yoe * 365 + yoe / 4 - yoe / 100 + doy) - 719468

def ofDays (days : Int) : Date :=
  let z := days + 719468
  let era := z / 146097
  let doe := z % 146097
  let yoe := (doe - doe / 1460 + doe / 36524 - doe / 146096) / 365
  let doy := doe - (365 * yoe + yoe / 4 - yoe / 100)
  let mp := (5 * doy + 2) / 153
  let month := (if mp < 10 then mp + 3 else mp - 9).toNat
  { year := yoe + era * 400 + if month ≤ 2 then 1 else 0
    month
    day := (doy - (153 * mp + 2) / 5 + 1).toNat }

def yearStart (year : Int) : Int := toDays ⟨year, 1, 1⟩

end DeviceFleet.Calendar
