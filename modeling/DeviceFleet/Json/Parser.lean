import DeviceFleet.Text.Hex
import DeviceFleet.Json.Number

/-! Reading JSON text. `parse?` takes every text that follows the grammar and keeps
members as they are written; `read?` is the reading into a generic value. -/

namespace DeviceFleet.Json

def isSpace (b : UInt8) : Bool := b == 0x20 || b == 0x09 || b == 0x0a || b == 0x0d

def skip (bs : Bytes) : Bytes := bs.dropWhile isSpace

def after? (t : String) (bs : Bytes) : Option Bytes :=
  let form := Text.encode t
  if bs.take form.length = form then some (bs.drop form.length) else none

def hex4? : Bytes → Option (Nat × Bytes)
  | a :: b :: c :: d :: rest => do
    let a ← Hex.value? (Char.ofUInt8 a)
    let b ← Hex.value? (Char.ofUInt8 b)
    let c ← Hex.value? (Char.ofUInt8 c)
    let d ← Hex.value? (Char.ofUInt8 d)
    some (((a * 16 + b) * 16 + c) * 16 + d, rest)
  | _ => none

/-- One piece of a string: octets of its text, or an escape that is no character. -/
abbrev Piece := Option Bytes

def ofCode (n : Nat) : Piece :=
  if n.isValidChar then some (Text.encode (String.singleton (Char.ofNat n))) else none

/-- The piece that starts with the escape of the code `n`, and the rest. A high
surrogate takes the low surrogate escaped after it. -/
def escaped (n : Nat) (rest : Bytes) : Piece × Bytes :=
  if 0xd800 ≤ n ∧ n < 0xdc00 then
    match after? "\\u" rest with
    | none => (none, rest)
    | some more => match hex4? more with
      | none => (none, rest)
      | some (low, last) =>
        if 0xdc00 ≤ low ∧ low < 0xe000 then
          (ofCode (0x10000 + (n - 0xd800) * 0x400 + (low - 0xdc00)), last)
        else (none, rest)
  else (ofCode n, rest)

def escape? : Char → Option UInt8
  | '"' => some 0x22
  | '\\' => some 0x5c
  | '/' => some 0x2f
  | 'b' => some 0x08
  | 'f' => some 0x0c
  | 'n' => some 0x0a
  | 'r' => some 0x0d
  | 't' => some 0x09
  | _ => none

/-- The pieces of a string up to its closing quotation mark, and the rest. -/
def pieces? : Nat → Bytes → Option (List Piece × Bytes)
  | 0, _ => none
  | _, [] => none
  | fuel + 1, b :: rest =>
    match Char.ofUInt8 b with
    | '"' => some ([], rest)
    | '\\' => match rest with
      | [] => none
      | e :: rest =>
        if Char.ofUInt8 e = 'u' then do
          let (n, rest) ← hex4? rest
          let (piece, rest) := escaped n rest
          let (more, rest) ← pieces? fuel rest
          some (piece :: more, rest)
        else do
          let c ← escape? (Char.ofUInt8 e)
          let (more, rest) ← pieces? fuel rest
          some (some [c] :: more, rest)
    | _ =>
      if b < 0x20 then none
      else do
        let (more, rest) ← pieces? fuel rest
        some (some [b] :: more, rest)

/-- The text of a string's pieces, if they are Unicode text. -/
def assemble? (pieces : List Piece) : Option String := do
  let parts ← pieces.mapM id
  Text.decode? parts.flatten

/-- The string after its opening quotation mark: its text, if it has one, and the rest. -/
def string? (bs : Bytes) : Option (Option String × Bytes) :=
  (pieces? bs.length bs).map fun (ps, rest) => (assemble? ps, rest)

def named? (members : List (Option String × Json)) : Option Members :=
  members.mapM fun m => m.1.map (·, m.2)

/-- An object with a name that is no text is unreadable as a whole. -/
def ofMembers (members : List (Option String × Json)) : Json :=
  match named? members with
  | some ms => .object ms
  | none => .unreadable

mutual

/-- The value at the front, after white space, and the rest. -/
def value? : Nat → Bytes → Option (Json × Bytes)
  | 0, _ => none
  | fuel + 1, bs =>
    match skip bs with
    | [] => none
    | b :: rest =>
      match Char.ofUInt8 b with
      | 'n' => (after? "ull" rest).map (.null, ·)
      | 't' => (after? "rue" rest).map (.bool true, ·)
      | 'f' => (after? "alse" rest).map (.bool false, ·)
      | '"' => (string? rest).map fun (s, rest) =>
          (match s with | some s => .string s | none => .unreadable, rest)
      | '[' => match skip rest with
        | [] => none
        | c :: more =>
          if Char.ofUInt8 c = ']' then some (.array [], more)
          else (items? fuel (c :: more)).map fun (vs, rest) => (.array vs, rest)
      | '{' => match skip rest with
        | [] => none
        | c :: more =>
          if Char.ofUInt8 c = '}' then some (.object [], more)
          else (members? fuel (c :: more)).map fun (ms, rest) => (ofMembers ms, rest)
      | '-' => unsigned? true rest
      | _ => unsigned? false (b :: rest)

def items? : Nat → Bytes → Option (List Json × Bytes)
  | 0, _ => none
  | fuel + 1, bs => do
    let (v, rest) ← value? fuel bs
    match skip rest with
    | [] => none
    | c :: more =>
      if Char.ofUInt8 c = ',' then do
        let (vs, rest) ← items? fuel more
        some (v :: vs, rest)
      else if Char.ofUInt8 c = ']' then some ([v], more)
      else none

def members? : Nat → Bytes → Option (List (Option String × Json) × Bytes)
  | 0, _ => none
  | fuel + 1, bs =>
    match skip bs with
    | [] => none
    | q :: rest =>
      if Char.ofUInt8 q = '"' then do
        let (name, rest) ← string? rest
        let rest ← after? ":" (skip rest)
        let (v, rest) ← value? fuel rest
        match skip rest with
        | [] => none
        | c :: more =>
          if Char.ofUInt8 c = ',' then do
            let (ms, rest) ← members? fuel more
            some ((name, v) :: ms, rest)
          else if Char.ofUInt8 c = '}' then some ([(name, v)], more)
          else none
      else none

end

/-- The value that a text writes. Each nested call takes at least one octet, so the
length bounds the nesting. -/
def parse? (bs : Bytes) : Option Json := do
  let (v, rest) ← value? (bs.length + 1) bs
  if (skip rest).isEmpty then some v else none

/-- The value that a text writes, read generically. -/
def read? (bs : Bytes) : Option Json := parse? bs >>= normal

end DeviceFleet.Json
