import DeviceFleet.Toml.Lexical
import DeviceFleet.Toml.Number

/-! Reading TOML 1.0. A document is lines of headers and of keys with values; values
nest, between brackets and braces, up to a limit. Each loop takes at least one character
a round, so the length of the text bounds it. -/

namespace DeviceFleet.Toml

/-- Keys have fewer parts than this, and values nest less deep. -/
def limit : Nat := 80

def isBare (c : Char) : Bool := c.isAlphanum || c = '-' || c = '_'

def part? : List Char → Option (String × List Char)
  | [] => none
  | c :: rest =>
    if c = '"' ∨ c = '\'' then line? c rest
    else
      let name := (c :: rest).takeWhile isBare
      if name = [] then none else some (String.ofList name, (c :: rest).dropWhile isBare)

def parts? : Nat → List Char → Option (List String × List Char)
  | 0, _ => none
  | fuel + 1, cs => do
    let (name, rest) ← part? (skipSpace cs)
    match skipSpace rest with
    | '.' :: rest =>
      let (names, rest) ← parts? fuel rest
      some (name :: names, rest)
    | rest => some ([name], rest)

/-- A key as its path and its last part, and the rest after white space. -/
def key? (cs : List Char) : Option (List String × String × List Char) := do
  let (names, rest) ← parts? (cs.length + 1) cs
  let name ← names.getLast?
  if names.length < limit then some (names.dropLast, name, rest) else none

def pair? (value? : List Char → Option (Toml × List Char)) (cs : List Char) :
    Option (List String × String × Toml × List Char) := do
  let (path, name, rest) ← key? cs
  let rest ← mark? '=' rest
  let (v, rest) ← value? (skipSpace rest)
  some (path, name, v, rest)

/-- The items of an array, after its opening bracket. -/
def items? (value? : List Char → Option (Toml × List Char)) :
    Nat → List Char → Option (List Toml × List Char)
  | 0, _ => none
  | fuel + 1, cs =>
    match skipLines (cs.length + 1) cs with
    | ']' :: rest => some ([], rest)
    | cs => do
      let (v, rest) ← value? cs
      match skipLines (rest.length + 1) rest with
      | ',' :: rest =>
        let (vs, rest) ← items? value? fuel rest
        some (v :: vs, rest)
      | ']' :: rest => some ([v], rest)
      | _ => none

/-- The entries of an inline table, from its first key. -/
def entries? (value? : List Char → Option (Toml × List Char)) :
    Nat → Entries → List Char → Option (Entries × List Char)
  | 0, _, _ => none
  | fuel + 1, es, cs => do
    let (path, name, v, rest) ← pair? value? cs
    let es ← assign? path name v .inline es
    match skipSpace rest with
    | ',' :: rest => entries? value? fuel es rest
    | '\x7d' :: rest => some (es, rest)
    | _ => none

/-- A value at the front that opens at most `depth` brackets and braces around another,
and the rest. -/
def value? : (depth : Nat) → List Char → Option (Toml × List Char)
  | depth, cs =>
    match cs with
    | [] => none
    | '"' :: rest => (string? '"' rest).map fun (s, rest) => (.string s, rest)
    | '\'' :: rest => (string? '\'' rest).map fun (s, rest) => (.string s, rest)
    | 't' :: rest => (after? ['r', 'u', 'e'] rest).map (.bool true, ·)
    | 'f' :: rest => (after? ['a', 'l', 's', 'e'] rest).map (.bool false, ·)
    | '[' :: rest => match depth with
      | 0 => none
      | depth + 1 =>
        (items? (value? depth) (rest.length + 1) rest).map fun (vs, rest) => (.array vs, rest)
    | '\x7b' :: rest => match depth with
      | 0 => none
      | depth + 1 =>
        match skipSpace rest with
        | '\x7d' :: rest => some (.table .inline [], rest)
        | rest => (entries? (value? depth) (rest.length + 1) [] rest).map fun (es, rest) =>
            (.table .inline es, rest)
    | _ => number? cs

/-- The path of a header between `width` brackets, after the opening ones. -/
def header? (width : Nat) (cs : List Char) : Option (List String × String × List Char) := do
  let (path, name, rest) ← key? cs
  let rest ← after? (List.replicate width ']') rest
  let rest ← lineEnd? rest
  some (path, name, rest)

/-- The entries of a document, read from the front of a line with the table of the last
header at the path. -/
def document? : Nat → List String → Entries → List Char → Option Entries
  | 0, _, _, _ => none
  | fuel + 1, current, es, cs =>
    match skipSpace cs with
    | [] => some es
    | '[' :: '[' :: rest => do
      let (path, name, rest) ← header? 2 rest
      let es ← openNext? path name es
      document? fuel (path ++ [name]) es rest
    | '[' :: rest => do
      let (path, name, rest) ← header? 1 rest
      let es ← open? path name es
      document? fuel (path ++ [name]) es rest
    | c :: rest =>
      if c = '#' ∨ c = '\n' ∨ c = '\r' then do
        let rest ← lineEnd? (c :: rest)
        document? fuel current es rest
      else do
        let (path, name, v, rest) ← pair? (value? (limit - 1)) (c :: rest)
        let rest ← lineEnd? rest
        let es ← alter? false (assign? path name v) current .opened es
        document? fuel current es rest

/-- The entries of the document that a text writes. A byte order mark at its front is
passed over. -/
def parse? (text : String) : Option Entries :=
  let cs := text.toList
  let cs := (after? ['\uFEFF'] cs).getD cs
  document? (cs.length + 1) [] [] cs

end DeviceFleet.Toml
