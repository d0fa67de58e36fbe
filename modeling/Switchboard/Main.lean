import Switchboard.Program
import Switchboard.Sample.Server

/-!
# The command line

`main` gathers what surrounds the program, runs it, and prints. The user's configuration and the log
lie in the directory for configurations. No library can be opened from here and no server reached,
so every path is without a library and every exchange is refused.
-/
open Switchboard

/-- The directory for configurations, or the present one. -/
def configDirectory : IO String := do
  match ← IO.getEnv "XDG_CONFIG_HOME" with
  | some d => return d
  | none =>
    match ← IO.getEnv "HOME" with
    | some home => return home ++ "/.config"
    | none => return "."

def fileAt (path : String) : IO Config.File := do
  try
    let bytes ← IO.FS.readBinFile path
    return .content bytes.toList
  catch
    | .noFileOrDirectory .. => return .missing
    | _ => return .unreadable

/-- Creates a log at a path, and says why if that fails. -/
def createLog (path : String) : IO (Option String) := do
  try
    IO.FS.writeFile path ""
    return none
  catch e => return some (toString e)

/-- Finds a place for the log, and its path there. -/
def findLog (directory : String) : IO (Program.LogPlace × String) := do
  try IO.FS.createDirAll directory catch _ => pure ()
  let path := directory ++ "/svcbridge.log"
  match ← createLog path with
  | none => return (.configDirectory, path)
  | some _ =>
    let path := "/tmp/svcbridge.log"
    match ← createLog path with
    | none => return (.temporaryDirectory, path)
    | some why => return (.nowhere why, path)

def main (args : List String) : IO UInt32 := do
  let directory := (← configDirectory) ++ "/svcbridge"
  let (logPlace, logPath) ← findLog directory
  let config ← fileAt (directory ++ "/config.toml")
  let result := Program.run {
    args, config, logPlace
    disk := fun _ => (.absent : Native.Image Unit)
    link := Sample.silence
    web := []
    elapsed := fun _ => 0 }
  if logPlace matches .configDirectory | .temporaryDirectory then
    let lines := result.log.map fun e => "[" ++ e.level.name ++ "] " ++ e.message ++ "\n"
    IO.FS.writeFile logPath (String.join lines)
  IO.print result.stdout
  IO.eprint result.stderr
  return result.code.toUInt32
