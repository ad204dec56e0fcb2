import DeviceFleet.Text.Hex

/-! The characters of a TOML text: white space, comments, line ends and strings. A
reader gives what it has read and the rest of the text. -/

namespace DeviceFleet.Toml

def isSpace (c : Char) : Bool := c = ' ' || c = '\t'

def skipSpace (cs : List Char) : List Char := cs.dropWhile isSpace

/-- Whether the character may stand in a comment: a tab, or no ASCII control. -/
def isPlain (c : Char) : Bool := c = '\t' || (0x20 ≤ c.toNat && c.toNat ≠ 0x7f)

def newline? : List Char → Option (List Char)
  | '\n' :: rest => some rest
  | '\r' :: '\n' :: rest => some rest
  | _ => none

def skipComment : List Char → List Char
  | '#' :: rest => rest.dropWhile isPlain
  | cs => cs

/-- What is left after the last of a line: white space, a comment, and its end or that
of the text. -/
def lineEnd? (cs : List Char) : Option (List Char) :=
  match skipComment (skipSpace cs) with
  | [] => some []
  | rest => newline? rest

def skipLines : Nat → List Char → List Char
  | 0, cs => cs
  | fuel + 1, cs =>
    match newline? (skipComment (skipSpace cs)) with
    | some rest => skipLines fuel rest
    | none => skipSpace cs

def skipBlank (cs : List Char) : List Char :=
  cs.dropWhile fun c => isSpace c || c = '\n' || c = '\r'

def after? (text : List Char) (cs : List Char) : Option (List Char) :=
  if text.isPrefixOf cs then some (cs.drop text.length) else none

/-- The character whose code is written in `width` hexadecimal digits. -/
def coded? (width : Nat) (cs : List Char) : Option (Char × List Char) := do
  let digits ← (cs.take width).mapM Hex.value?
  let code := digits.foldl (fun n d => 16 * n + d) 0
  if digits.length = width ∧ code.isValidChar then some (Char.ofNat code, cs.drop width) else none

def escape? : List Char → Option (Char × List Char)
  | '"' :: rest => some ('"', rest)
  | '\\' :: rest => some ('\\', rest)
  | 'b' :: rest => some ('\x08', rest)
  | 'f' :: rest => some ('\x0c', rest)
  | 'n' :: rest => some ('\n', rest)
  | 'r' :: rest => some ('\r', rest)
  | 't' :: rest => some ('\t', rest)
  | 'u' :: rest => coded? 4 rest
  | 'U' :: rest => coded? 8 rest
  | _ => none

/-- The text of a string up to the mark `quote`, with escapes or without. -/
def chars? (quote : Char) (escapes : Bool) : Nat → List Char → Option (List Char × List Char)
  | 0, _ => none
  | _, [] => none
  | fuel + 1, c :: rest =>
    if c = quote then some ([], rest)
    else if escapes ∧ c = '\\' then do
      let (c, rest) ← escape? rest
      let (cs, rest) ← chars? quote escapes fuel rest
      some (c :: cs, rest)
    else if isPlain c then do
      let (cs, rest) ← chars? quote escapes fuel rest
      some (c :: cs, rest)
    else none

/-- The text of a string of several lines, up to three marks. Up to two more of them
before the closing ones belong to the text. A backslash at the end of a line takes the
white space and the line ends after it away. -/
def lines? (quote : Char) (escapes : Bool) : Nat → List Char → Option (List Char × List Char)
  | 0, _ => none
  | _, [] => none
  | fuel + 1, c :: rest =>
    if c = quote then
      let run := ((c :: rest).takeWhile (· = quote)).length
      if run < 3 then do
        let (cs, rest) ← lines? quote escapes fuel ((c :: rest).drop run)
        some (List.replicate run quote ++ cs, rest)
      else
        let run := min run 5
        some (List.replicate (run - 3) quote, (c :: rest).drop run)
    else if escapes ∧ c = '\\' then
      match newline? (skipSpace rest) with
      | some rest => lines? quote escapes fuel (skipBlank rest)
      | none => do
        let (c, rest) ← escape? rest
        let (cs, rest) ← lines? quote escapes fuel rest
        some (c :: cs, rest)
    else match newline? (c :: rest) with
      | some rest => do
        let (cs, rest) ← lines? quote escapes fuel rest
        some ('\n' :: cs, rest)
      | none =>
        if isPlain c then do
          let (cs, rest) ← lines? quote escapes fuel rest
          some (c :: cs, rest)
        else none

def hasEscapes (quote : Char) : Bool := quote = '"'

def line? (quote : Char) (cs : List Char) : Option (String × List Char) :=
  (chars? quote (hasEscapes quote) (cs.length + 1) cs).map fun (s, rest) => (String.ofList s, rest)

/-- A string of either sort, after its opening mark. A line end right after three marks
is left out. -/
def string? (quote : Char) (cs : List Char) : Option (String × List Char) :=
  match after? [quote, quote] cs with
  | none => line? quote cs
  | some body =>
    let body := (newline? body).getD body
    (lines? quote (hasEscapes quote) (body.length + 1) body).map fun (s, rest) =>
      (String.ofList s, rest)

end DeviceFleet.Toml
