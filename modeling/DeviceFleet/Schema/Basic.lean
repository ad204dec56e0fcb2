import DeviceFleet.Text.Base64
import DeviceFleet.Json.Basic
import DeviceFleet.Schema.Words
import DeviceFleet.Instant.Text

/-! How the values of a type are written: as JSON, in texts that people and devices
read, and as octets, in event envelopes. A schema holds both forms, each with its
reader. Schemas of records and of alternatives are built from those of their parts.
Octets and times are texts in both forms. -/

namespace DeviceFleet

structure Schema (α : Type) where
  write : α → Json
  read? : Json → Option α
  put : α → Bytes
  /-- The value at the front, and the rest. -/
  take? : Bytes → Option (α × Bytes)

namespace Schema

def text : Schema String where
  write := .string
  read?
    | .string s => some s
    | _ => none
  put s := Words.putBlock (Text.encode s)
  take? bs := do
    let (block, rest) ← Words.takeBlock? bs
    let s ← Text.decode? block
    some (s, rest)

/-- Values written as texts; `parse?` gives the value of a text. -/
def spelled {α : Type} (spell : α → String) (parse? : String → Option α) : Schema α where
  write a := .string (spell a)
  read? v := text.read? v >>= parse?
  put a := text.put (spell a)
  take? bs := do
    let (s, rest) ← text.take? bs
    let a ← parse? s
    some (a, rest)

/-- Octets, in base64. -/
def octets : Schema Bytes := spelled Base64.text Base64.bytes?

/-- Times, in RFC 3339. -/
def time : Schema Instant := spelled Instant.text Instant.ofText?

def flag : Schema Bool where
  write := .bool
  read?
    | .bool b => some b
    | _ => none
  put b := [if b then 1 else 0]
  take?
    | [] => none
    | b :: rest => if b = 0 then some (false, rest) else if b = 1 then some (true, rest) else none

def int64 : Schema Int64 where
  write n := .int n.toInt
  read?
    | .int n =>
      if Int64.minValue.toInt ≤ n ∧ n ≤ Int64.maxValue.toInt then some (Int64.ofInt n) else none
    | _ => none
  put n := Words.put 8 n.toUInt64.toNat
  take? bs := (Words.take? 8 bs).map fun (n, rest) => ((UInt64.ofNat n).toInt64, rest)

/-- A value that may be missing: `null`, or an octet that says so. -/
def option {α : Type} (s : Schema α) : Schema (Option α) where
  write
    | none => .null
    | some a => s.write a
  read?
    | .null => some none
    | v => (s.read? v).map some
  put
    | none => [0]
    | some a => 1 :: s.put a
  take?
    | [] => none
    | b :: rest =>
      if b = 0 then some (none, rest)
      else if b = 1 then (s.take? rest).map fun (a, rest) => (some a, rest)
      else none

/-- So many values one after another. -/
def takeMany? {α : Type} (take? : Bytes → Option (α × Bytes)) :
    Nat → Bytes → Option (List α × Bytes)
  | 0, bs => some ([], bs)
  | n + 1, bs => do
    let (a, bs) ← take? bs
    let (as, bs) ← takeMany? take? n bs
    some (a :: as, bs)

def readAll? {α : Type} (read? : Json → Option α) : List Json → Option (List α)
  | [] => some []
  | v :: vs => do
    let a ← read? v
    let as ← readAll? read? vs
    some (a :: as)

def list {α : Type} (s : Schema α) : Schema (List α) where
  write as := .array (as.map s.write)
  read?
    | .array vs => readAll? s.read? vs
    | _ => none
  put as := Words.put 8 as.length ++ as.flatMap s.put
  take? bs := do
    let (n, rest) ← Words.take? 8 bs
    takeMany? s.take? n rest

end Schema

end DeviceFleet
