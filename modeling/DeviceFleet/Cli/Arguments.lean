/-! The arguments of the command line: an action, with the UDID of a device for some, and
the path of the settings, before or after the action. An option takes its value from the
rest of its argument or from the next one, which must not look like an option. -/

namespace DeviceFleet.Cli

inductive Action where
  | serve
  /-- Prints the record of a device. -/
  | device (udid : String)
  /-- Prints the commands that wait for a device. -/
  | queue (udid : String)
  deriving DecidableEq, Repr

inductive Request where
  /-- An action, and the path of the settings given before and after its name. -/
  | run (action : Action) (before after : Option String)
  | version
  | help
  /-- It cannot be understood. -/
  | unclear
  deriving DecidableEq, Repr

inductive Argument where
  | word (s : String)
  /-- An option of one letter, and what is attached to it. -/
  | letter (c : Char) (attached : Option String)
  | option (name : String) (attached : Option String)
  /-- The mark after which no options come. -/
  | lastOption
  deriving DecidableEq, Repr

/-- What is attached to a letter, after an equality sign or without. -/
def attachedTo : List Char → Option String
  | [] => none
  | '=' :: value => some (String.ofList value)
  | value => some (String.ofList value)

/-- The name of an option, and the value after an equality sign. -/
def splitOption (cs : List Char) : String × Option String :=
  let name := cs.takeWhile (· ≠ '=')
  match cs.drop name.length with
  | [] => (String.ofList name, none)
  | _ :: value => (String.ofList name, some (String.ofList value))

def Argument.ofText (s : String) : Argument :=
  match s.toList with
  | ['-', '-'] => .lastOption
  | '-' :: '-' :: cs =>
    let (name, attached) := splitOption cs
    .option name attached
  | '-' :: c :: cs => .letter c (attachedTo cs)
  | _ => .word s

/-- The value of an option, attached or the next argument, and the arguments after it. -/
def value? (attached : Option String) (rest : List String) : Option (String × List String) :=
  match attached, rest with
  | some v, rest => some (v, rest)
  | none, [] => none
  | none, s :: rest => match Argument.ofText s with
    | .word v => some (v, rest)
    | _ => none

def once? (present : Option String) (value : String) : Option (Option String) :=
  match present with
  | none => some (some value)
  | some _ => none

/-- The path of the settings must not be empty. -/
def config? (present : Option String) (value : String) : Option (Option String) :=
  if value = "" then none else once? present value

/-- The actions by name; the flag says whether a UDID is needed. -/
def needsUdid? : String → Option Bool
  | "serve" => some false
  | "device" => some true
  | "queue" => some true
  | _ => none

def action? (name : String) (udid : Option String) : Option Action :=
  match name, udid with
  | "serve", none => some .serve
  | "device", some udid => some (.device udid)
  | "queue", some udid => some (.queue udid)
  | _, _ => none

def afterAction (name : String) (takesUdid : Bool) (outer : Option String) :
    (fuel : Nat) → (config udid : Option String) → List String → Request
  | 0, _, _, _ => .unclear
  | fuel + 1, config, udid, args =>
    let finish : Request := match action? name udid with
      | some action => .run action outer config
      | none => .unclear
    let configured (attached : Option String) (rest : List String) : Request :=
      match value? attached rest with
      | none => .unclear
      | some (v, rest) => match config? config v with
        | none => .unclear
        | some config => afterAction name takesUdid outer fuel config udid rest
    match args with
    | [] => finish
    | s :: rest => match Argument.ofText s with
      | .lastOption => if rest = [] then finish else .unclear
      | .letter 'h' _ => .help
      | .option "help" none => .help
      | .letter 'c' attached => configured attached rest
      | .option "config" attached => configured attached rest
      | .option "udid" attached =>
        if !takesUdid then .unclear
        else match value? attached rest with
          | none => .unclear
          | some (v, rest) => match once? udid v with
            | none => .unclear
            | some udid => afterAction name takesUdid outer fuel config udid rest
      | _ => .unclear

def beforeAction : (fuel : Nat) → (config : Option String) → List String → Request
  | 0, _, _ => .unclear
  | fuel + 1, config, args =>
    let configured (attached : Option String) (rest : List String) : Request :=
      match value? attached rest with
      | none => .unclear
      | some (v, rest) => match config? config v with
        | none => .unclear
        | some config => beforeAction fuel config rest
    match args with
    | [] => .unclear
    | s :: rest => match Argument.ofText s with
      | .word name => match needsUdid? name with
        | some takesUdid => afterAction name takesUdid config (rest.length + 1) none none rest
        | none => if name = "help" then .help else .unclear
      | .letter 'V' _ => .version
      | .option "version" none => .version
      | .letter 'h' _ => .help
      | .option "help" none => .help
      | .letter 'c' attached => configured attached rest
      | .option "config" attached => configured attached rest
      | _ => .unclear

def Request.ofArgs (args : List String) : Request := beforeAction (args.length + 1) none args

end DeviceFleet.Cli
