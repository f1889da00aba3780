import DeviceStandby.Config.Report
import DeviceStandby.Daemon.Program
import Std.Time.DateTime.Timestamp

/-!
# The command line

Two commands: `validate-config` reports on a configuration file, and `standbyd` runs the service on
the events of a file or of standard input, with timers that fire while it waits for the next event.
The service ends with its event source and then lists its state; it keeps its store in memory.
-/

namespace DeviceStandby.CommandLine

/-- The variables of the environment that matter. -/
def environment : IO Environment := do
  return {
    configFile := ← IO.getEnv "STANDBY_CONFIG"
    dataDir := ← IO.getEnv "STANDBY_DATA_DIR"
    configHome := ← IO.getEnv "XDG_CONFIG_HOME"
    dataHome := ← IO.getEnv "XDG_DATA_HOME"
    home := ← IO.getEnv "HOME" }

/-- What a file holds, if it exists. -/
def fileBytes? (path : String) : IO (Option (List UInt8)) := do
  try
    return some (← IO.FS.readBinFile path).toList
  catch
    | .noFileOrDirectory .. => return none
    | error => throw error

/-- What the wall clock shows. -/
def wallClock : IO Moment := do
  return { seconds := (← Std.Time.Timestamp.now).toSecondsSinceUnixEpoch.toInt }

/-- Prints a report and ends with its code. -/
def print (report : Report) : IO UInt32 := do
  IO.print report.output
  IO.eprint report.errors
  return UInt32.ofNat report.code

/-- Reports on the configuration file that is named. -/
def validateConfig (words : List String) : IO UInt32 := do
  let env ← environment
  match words with
  | [] => print (Report.usage env)
  | path :: _ =>
    match ← fileBytes? path with
    | none => print (Report.onMissing path)
    | some bytes => print (Report.onFile env bytes)

/-- Brings the clocks up to date and fires the timers that are due. -/
def keepTime (d : Daemon) (elapsed : Nat) : IO Daemon := do
  let wall ← wallClock
  let session := d.session.onHost (fun host => { host with wall })
  return { d with session := session.advance elapsed true }

/-- Handles the events of a source, line by line, until it ends. -/
partial def serve (source : IO.FS.Stream) (d : Daemon) (since : Nat) : IO Daemon := do
  let line ← try source.getLine catch _ => pure ""
  let now ← IO.monoMsNow
  let d ← keepTime d (now - since)
  if line.isEmpty then return d else serve source (d.feed line.toUTF8.toList) now

/-- The event source: a file, or standard input. -/
def eventSource (path : Option String) : IO IO.FS.Stream :=
  match path with
  | some path => do return IO.FS.Stream.ofHandle (← IO.FS.Handle.mk path .read)
  | none => IO.getStdin

/-- Runs the service. -/
def runService (arguments : Arguments) : IO UInt32 := do
  let env ← environment
  let source ← eventSource arguments.events
  let configFile ← fileBytes? (Daemon.configPath env arguments)
  let around : Surroundings := { configFile := configFile.elim .missing .content }
  match Daemon.start? env around { wall := ← wallClock } [] with
  | none =>
    IO.eprintln "standbyd: cannot start with this configuration"
    return UInt32.ofNat Daemon.startFailed
  | some d =>
    let d ← serve source d (← IO.monoMsNow)
    IO.print d.stop.dump
    return UInt32.ofNat Daemon.stopped

/-- How the service is called. -/
def serviceUsage : String :=
  "Usage: standbyd [--config <CONFIG>] [--data-dir <DATA_DIR>] [--events <EVENTS>] "
    ++ "[--log-level <LOG_LEVEL>]"

/-- Runs the service as its command line says. -/
def service (words : List String) : IO UInt32 := do
  match Command.read words with
  | .help =>
    IO.println serviceUsage
    return UInt32.ofNat Daemon.stopped
  | .usage =>
    IO.eprintln serviceUsage
    return UInt32.ofNat Daemon.usageError
  | .run arguments =>
    try runService arguments
    catch error =>
      IO.eprintln (toString error)
      return UInt32.ofNat Daemon.startFailed

end DeviceStandby.CommandLine

/-- Runs the command that the first word names. -/
def main (words : List String) : IO UInt32 :=
  match words with
  | "validate-config" :: rest => DeviceStandby.CommandLine.validateConfig rest
  | "standbyd" :: rest => DeviceStandby.CommandLine.service rest
  | _ => do
    IO.eprintln "Usage: (validate-config | standbyd) [arguments]"
    return 2
