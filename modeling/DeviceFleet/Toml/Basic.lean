/-! TOML documents as trees of tables. A table knows how it came about, since that
decides who may add to it: a header may open an implied table once, dotted keys may add
to tables made by dotted keys, and an inline table takes nothing more. -/

namespace DeviceFleet

/-- How a table came about. -/
inductive Toml.Form where
  /-- By a header of its own, or as the document. -/
  | opened
  /-- On the way to the table of a header. -/
  | implied
  /-- By a dotted key. -/
  | dotted
  /-- Between braces. -/
  | inline
  deriving DecidableEq, Repr

/-- A TOML value. Nothing is kept of floats and dates. -/
inductive Toml where
  | string (s : String)
  | integer (n : Int)
  | float
  | bool (b : Bool)
  | date
  | array (items : List Toml)
  /-- The tables with a header in double brackets, one after another. -/
  | tables (items : List Toml)
  | table (form : Toml.Form) (entries : List (String × Toml))

namespace Toml

abbrev Entries := List (String × Toml)

def find? (name : String) (es : Entries) : Option Toml := (es.find? (·.1 = name)).map (·.2)

/-- The entries with another value under a name that they have. -/
def replace (name : String) (v : Toml) (es : Entries) : Entries :=
  es.map fun e => if e.1 = name then (name, v) else e

/-- Whether a table was made without a header of its own. -/
def Form.isImplicit (form : Form) : Bool := form = .implied || form = .dotted

mutual

/-- Changes the table at a path below a table with the given form and entries. Missing
tables are made. The path is that of a dotted key or else that of a header; only a
header goes through tables with a header and into the last of an array of tables. -/
def alter? (byKey : Bool) (change : Form → Entries → Option Entries) :
    List String → Form → Entries → Option Entries
  | [], form, es => change form es
  | name :: path, _, es =>
    match find? name es with
    | none => do
      let form := if byKey then Form.dotted else .implied
      let below ← alter? byKey change path form []
      some (es ++ [(name, .table form below)])
    | some v => do
      let v ← alterValue? byKey change path v
      some (replace name v es)

def alterValue? (byKey : Bool) (change : Form → Entries → Option Entries) (path : List String) :
    Toml → Option Toml
  | .table form es =>
    if form = .inline ∨ byKey ∧ !form.isImplicit then none
    else do
      let es ← alter? byKey change path form es
      some (.table form es)
  | .tables items => do
    let last ← items.getLast?
    match last with
    | .table form es =>
      let es ← alter? byKey change path form es
      some (.tables (items.dropLast ++ [.table form es]))
    | _ => none
  | _ => none

end

/-- Gives a value to a dotted key; no name is given twice, and dotted keys do not add to
a table with a header. -/
def assign? (path : List String) (name : String) (v : Toml) : Form → Entries → Option Entries :=
  alter? true (fun form es =>
    if decide (form = .dotted) = path.isEmpty then none
    else if (find? name es).isSome then none
    else some (es ++ [(name, v)])) path

/-- Opens the table of a header, which no header has opened before. -/
def open? (path : List String) (name : String) (es : Entries) : Option Entries :=
  alter? false (fun _ es =>
    match find? name es with
    | none => some (es ++ [(name, .table .opened [])])
    | some (.table .implied below) => some (replace name (.table .opened below) es)
    | some _ => none) path .opened es

/-- Adds a table to the array of tables of a header. -/
def openNext? (path : List String) (name : String) (es : Entries) : Option Entries :=
  alter? false (fun _ es =>
    match find? name es with
    | none => some (es ++ [(name, .tables [.table .opened []])])
    | some (.tables items) => some (replace name (.tables (items ++ [.table .opened []])) es)
    | some _ => none) path .opened es

end Toml

end DeviceFleet
