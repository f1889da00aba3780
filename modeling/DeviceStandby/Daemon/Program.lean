import DeviceStandby.Daemon.Arguments
import DeviceStandby.Host.EventStream
import DeviceStandby.Host.FileTree
import DeviceStandby.Simulation.Session

/-!
# The service as a program

The program reads its command line, opens the event source, loads the configuration, opens the store
and makes the engine ready; what fails first ends it.  Then it handles events, reloads the
configuration and lists its state when it is told to, until it is stopped.  Here it runs on a host
that is moved by hand, and only timers without delay fire.
-/

namespace DeviceStandby

/-- What the program finds around itself when it starts. -/
structure Surroundings where
  /-- Whether the event source can be opened. -/
  eventsFound : Bool := true
  /-- What is found as the configuration file. -/
  configFile : FoundFile := .missing
  /-- Whether the data directory can be made and the store opened in it. -/
  storeUsable : Bool := true

/-- The running program. -/
structure Daemon where
  session : Session
  env : Environment

namespace Daemon

/-- The code of a program that was stopped. -/
def stopped : Nat := 0

/-- The code of a program that could not start. -/
def startFailed : Nat := 1

/-- The code of a program whose command line was wrong. -/
def usageError : Nat := 2

/-- The name of the file that the store is kept in. -/
def storeFile : String := "standbyd.db"

/-- The path of the configuration file. -/
def configPath (env : Environment) (arguments : Arguments) : String :=
  arguments.config.getD env.configPath

/-- The policy that the program starts with; without a configuration file it is the default. -/
def startPolicy (env : Environment) (file : FoundFile) : Except ConfigError Policy :=
  if file = .missing then .ok (Policy.default env) else Policy.load env file.bytes?

/-- The data directory: that of the command line, of the environment, or of the policy. -/
def dataPath (env : Environment) (arguments : Arguments) (policy : Policy) : String :=
  (arguments.dataDir.or env.dataDir).getD policy.dataDir

/-- The place of the store, if there is a policy and the data directory can be made. -/
def storePlace? (env : Environment) (arguments : Arguments) (files : FileTree) : Option String :=
  match startPolicy env (files.find (configPath env arguments)) with
  | .ok policy => files.fileIn? (dataPath env arguments policy) storeFile
  | .error _ => none

/-- What the program finds among some files. -/
def surroundings (env : Environment) (arguments : Arguments) (files : FileTree) : Surroundings :=
  { eventsFound := arguments.events.all (fun path => files.find path ≠ .missing)
    configFile := files.find (configPath env arguments)
    storeUsable := (storePlace? env arguments files).isSome }

/-- Starts the program, if that is possible, given the running processes. -/
def start? (env : Environment) (around : Surroundings) (host : Host) (running : Processes) :
    Option Daemon :=
  if !around.eventsFound then none
  else match startPolicy env around.configFile with
    | .error _ => none
    | .ok policy =>
      if !around.storeUsable then none
      else match Engine.create? Registry.standard policy host with
        | .error _ => none
        | .ok engine =>
          match engine.init (some running) with
          | (.error _, _) => none
          | (.ok _, engine) => some { session := { engine }, env }

/-- How many timers without delay can follow on each other: each one brings the state machine to
another state or phase. -/
def settlingRounds : Nat := State.all.length + Machine.finalPhase

/-- Fires the timers without delay until there are none. -/
def settleFor : Nat → Session → Session
  | 0, s => s
  | rounds + 1, s =>
    if s.engine.host.timers.pending.any (fun timer => timer.due ≤ s.engine.host.now) then
      settleFor rounds (s.advance 0 true)
    else s

/-- Fires the timers without delay until there are none. -/
def settle (d : Daemon) : Daemon := { d with session := settleFor settlingRounds d.session }

/-- Takes note of an event.  One that cannot be taken is passed over. -/
def receive (d : Daemon) (event : SystemEvent) : Daemon :=
  let (_, engine) := d.session.engine.receive event
  { d with session := { d.session with engine }.pump }

/-- Takes note of the events in a piece of the event source.  Timers without delay fire after the
last one. -/
def feed (d : Daemon) (bytes : List UInt8) : Daemon :=
  ((EventStream.events bytes).foldl Daemon.receive d).settle

/-- Reloads the configuration file, and says whether that was possible; if not, the policy stays. -/
def reload (d : Daemon) (file : FoundFile) : Bool × Daemon :=
  match Policy.load d.env file.bytes? with
  | .ok policy => (true, { d with session := { d.session with engine := d.session.engine.reload policy } })
  | .error _ => (false, d)

/-- The listing of the state. -/
def dump (d : Daemon) : String := d.session.engine.dump

/-- Stops the program. -/
def stop (d : Daemon) : Daemon :=
  { d with session := { d.session with engine := d.session.engine.uninit } }

end Daemon

end DeviceStandby
