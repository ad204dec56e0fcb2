import DeviceFleet.Cli.Arguments
import DeviceFleet.Settings.Environment
import DeviceFleet.Store.Basic

/-! What the command line answers. The two questions about a device read the store and
change nothing. -/

namespace DeviceFleet.Cli

structure World where
  env : Environment
  /-- What stands under a path. -/
  source : String → Settings.Source
  /-- The store with a path. -/
  openStore : String → Except StoreError Store

inductive Failure where
  | config (e : Error)
  | store (e : StoreError)
  | noDevice (udid : String)
  /-- A queued command is no JSON text. -/
  | unreadableCommand
  deriving DecidableEq, Repr

def Failure.message : Failure → String
  | config e => e.message
  | store e => e.message
  | noDevice udid => "device " ++ udid ++ " not found"
  | unreadableCommand => "unreadable command"

def showDevice (s : Store) (udid : String) : Except Failure Bytes :=
  match s.device? udid with
  | .error e => .error (.store e)
  | .ok none => .error (.noDevice udid)
  | .ok (some d) => .ok (Device.schema.write d).pretty

def showQueue (s : Store) (udid : String) : Except Failure Bytes :=
  match s.queue udid with
  | .error e => .error (.store e)
  | .ok q => match q.commands.mapM fun c => Json.read? c.payload with
    | none => .error .unreadableCommand
    | some commands =>
      let inFlight := match q.inFlightUuid? with
        | some uuid => Json.string uuid
        | none => .null
      .ok (Json.object [("commands", .array commands), ("in_flight", inFlight),
        ("udid", .string udid)]).pretty

def defaultConfigPath : String := "config.toml"

inductive Ending where
  /-- A text is printed. -/
  | success (text : Bytes)
  | failure (f : Failure)
  | unclear
  /-- The services run until they are stopped. -/
  | serving (s : Settings)

def Ending.code : Ending → Nat
  | success _ => 0
  | failure _ => 1
  | unclear => 2
  | serving _ => 0

def versionText : Bytes := Text.encode "fleetmdm 0.1.0\n"

def helpText : Bytes :=
  Text.encode "Usage: fleetmdm [--config PATH] (serve | device --udid UDID | queue --udid UDID)\n"

def line (text : Bytes) : Bytes := text ++ [0x0a]

def Ending.ofAnswer : Except Failure Bytes → Ending
  | .ok text => .success (line text)
  | .error f => .failure f

def World.storeOf (w : World) (s : Settings) : Except StoreError Store :=
  if s.isPersistent then w.openStore s.storePath else .ok .empty

def Action.run (w : World) (s : Settings) : Action → Ending
  | serve => .serving s
  | device udid => match w.storeOf s with
    | .error e => .failure (.store e)
    | .ok store => .ofAnswer (showDevice store udid)
  | queue udid => match w.storeOf s with
    | .error e => .failure (.store e)
    | .ok store => .ofAnswer (showQueue store udid)

/-- The path of the settings: what is given after the action goes before what is given
ahead of it, and the environment comes last. An empty path in the environment is an
error unless both are given. -/
def configPath? (before after fromEnv : Option String) : Option String :=
  if fromEnv = some "" ∧ (before.isNone ∨ after.isNone) then none
  else some ((after <|> before <|> fromEnv).getD defaultConfigPath)

def run (w : World) (args : List String) : Ending × List Warning :=
  match Request.ofArgs args with
  | .version => (.success versionText, [])
  | .help => (.success helpText, [])
  | .unclear => (.unclear, [])
  | .run action before after =>
    match configPath? before after (w.env Environment.configPath) with
    | none => (.unclear, [])
    | some path => match Settings.load path (w.source path) w.env with
      | (.error e, ws) => (.failure (.config e), ws)
      | (.ok s, ws) => (action.run w s, ws)

end DeviceFleet.Cli
