import DeviceStandby.Host.Basic
import DeviceStandby.Number.Width
import DeviceStandby.Text.Blank
import DeviceStandby.Text.Utf8

/-!
# The process table

The running processes are found in a directory that has an entry for each process, named by its
number.  A process is called by the last part of the path in the first word of its command line, or
else by its short name.  Entries that are not named by a number are no processes, and a process
without a name is left out.
-/

namespace DeviceStandby

/-- An entry of the process directory, with what its files hold. -/
structure ProcessEntry where
  name : String
  /-- The words of the command line, each with a zero byte at its end. -/
  commandLine : Option (List UInt8)
  /-- The short name. -/
  shortName : Option (List UInt8)
deriving DecidableEq, Repr

namespace ProcessEntry

/-- A text without the blanks around it, unless nothing is left. -/
def nonBlank? (text : List Char) : Option String :=
  let trimmed := trimChars text
  if trimmed.isEmpty then none else some (String.ofList trimmed)

/-- The last part of a path. -/
def lastPart (path : List Char) : List Char := (path.reverse.takeWhile (· ≠ '/')).reverse

/-- The name in a command line. -/
def commandName? (commandLine : List UInt8) : Option String :=
  nonBlank? (lastPart (Utf8.decodeLossy (commandLine.takeWhile (· ≠ 0))))

/-- The name of the process. -/
def processName? (entry : ProcessEntry) : Option String :=
  match entry.commandLine.bind commandName? with
  | some name => some name
  | none => (entry.shortName.bind Utf8.decode?).bind nonBlank?

/-- The process with its number, if the entry is one. -/
def process? (entry : ProcessEntry) : Option (Pid × String) :=
  match Width.int32.read? entry.name.toList, entry.processName? with
  | some pid, some name => some (pid, name)
  | _, _ => none

end ProcessEntry

namespace Processes

/-- Puts a process in its place by number, in place of an older one. -/
def put (process : Pid × String) : Processes → Processes
  | [] => [process]
  | other :: rest =>
    if process.1 < other.1 then process :: other :: rest
    else if process.1 = other.1 then process :: rest
    else other :: put process rest

/-- The processes of a directory, in the order of their numbers; without the directory there is no
answer. -/
def ofDirectory : Option (List ProcessEntry) → Except HostError Processes
  | none => .error (.processDirectory "no such directory")
  | some entries =>
    .ok ((entries.filterMap ProcessEntry.process?).foldl (fun table process => put process table) [])

end Processes

end DeviceStandby
