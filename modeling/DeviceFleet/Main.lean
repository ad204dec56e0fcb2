import DeviceFleet.Cli.Run
import DeviceFleet.Fleet.Run
import DeviceFleet.Fleet.Server
import DeviceFleet.Store.File

/-! The program `fleetmdm`. It reads the files that a command line names, lets `Cli.run`
decide, and prints. The services run until the standard input ends. -/

namespace DeviceFleet

/-- The content of a file, if there is one; what is there and no file is an error. -/
def readFile (path : String) : IO (Option Bytes) := do
  try
    let content ← IO.FS.readBinFile path
    return some content.data.toList
  catch
    | .noFileOrDirectory .. => return none
    | e => throw e

def readSource (path : String) : IO Settings.Source := do
  try
    match ← readFile path with
    | none => return .missing
    | some content => return .file content
  catch _ => return .unreadable

def readStore (path : String) : IO (Except StoreError Store) := do
  try
    return Store.ofSource path (← readFile path)
  catch e => return .error ⟨.io, toString e⟩

/-- The directory of a path, if it names one. -/
def directory? (path : String) : Option String :=
  match path.toList.reverse.dropWhile (· ≠ '/') with
  | [] => none
  | ['/'] => none
  | _ :: directory => some (String.ofList directory.reverse)

def writeStore (path : String) (s : Store) : IO Unit := do
  if let some directory := directory? path then IO.FS.createDirAll directory
  IO.FS.writeBinFile path ⟨s.toFile.toArray⟩

def readEnvironment : IO Environment := do
  let names := [Environment.configPath, Environment.storePath, Environment.capacity,
    Environment.policy, Environment.timeout, Environment.redeliverAfter, Environment.pushTopic]
  let values ← names.mapM fun name => return (name, ← IO.getEnv name)
  return fun name => (values.find? (·.1 = name)).bind (·.2)

def report (w : Warning) : IO Unit := do
  let fields := w.fields.map fun f => f.1 ++ "=" ++ f.2
  IO.eprintln (" ".intercalate (("WARN " ++ w.message) :: fields))

def reportAll (ns : List Notice) : IO Unit :=
  ns.forM fun
    | .warning w => report w
    | .wake udid _ => IO.eprintln ("INFO Wake " ++ udid)

/-- A transport that only takes note of the message. -/
def noting : Push.Sender := fun p => .ok p.token

/-- Runs the services on the store of the settings. Nothing is published while they
wait, so the stamps are never looked at. -/
def serve (s : Settings) : IO UInt32 := do
  let store ← if s.isPersistent then readStore s.storePath else pure (.ok .empty)
  match store with
  | .error e => IO.eprintln ("Error: " ++ e.message); return 1
  | .ok store =>
    match Fleet.boot s noting store with
    | (_, .error e) => IO.eprintln ("Error: " ++ e.message); return 1
    | ((f, ns), .ok _) =>
      reportAll ns
      let _ ← (← IO.getStdin).readToEnd
      let (_, f, ns) := f.shutdown.settle (fun n => ⟨toString n, .ofMillis 0⟩) 0
      reportAll ns
      if s.isPersistent then writeStore s.storePath f.store
      return 0

/-- The stores and sources that the arguments may name, read beforehand. -/
def readWorld (args : List String) : IO Cli.World := do
  let env ← readEnvironment
  let path := match Cli.Request.ofArgs args with
    | .run _ before after => Cli.configPath? before after (env Environment.configPath)
    | _ => none
  let some path := path | return ⟨env, fun _ => .missing, fun _ => .ok .empty⟩
  let source ← readSource path
  match (Settings.load path source env).1 with
  | .error _ => return ⟨env, fun _ => source, fun _ => .ok .empty⟩
  | .ok s =>
    let store ← if s.isPersistent then readStore s.storePath else pure (.ok .empty)
    return ⟨env, fun _ => source, fun _ => store⟩

end DeviceFleet

open DeviceFleet in
def main (args : List String) : IO UInt32 := do
  let (ending, warnings) := Cli.run (← readWorld args) args
  warnings.forM report
  match ending with
  | .success text => (← IO.getStdout).write ⟨text.toArray⟩
  | .failure f => IO.eprintln ("Error: " ++ f.message)
  | .unclear => (← IO.getStderr).write ⟨Cli.helpText.toArray⟩
  | .serving s => return ← serve s
  return UInt32.ofNat ending.code
