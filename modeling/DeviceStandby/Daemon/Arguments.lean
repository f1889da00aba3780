/-!
# The command line of the service

The service takes four options, each with a value and each at most once: the configuration file, the
data directory, the event source and the log level.  Arguments are read from left to right; the first
one that asks for help, or that is wrong, decides.
-/

namespace DeviceStandby

/-- What the command line says. -/
structure Arguments where
  config : Option String := none
  dataDir : Option String := none
  events : Option String := none
  logLevel : Option String := none
deriving DecidableEq, Repr, Inhabited

/-- What a command line asks for. -/
inductive Command where
  | run (arguments : Arguments)
  | help
  /-- The command line is wrong. -/
  | usage
deriving DecidableEq, Repr

/-- The options that take a value. -/
inductive ServiceOption where
  | config
  | dataDir
  | events
  | logLevel
deriving DecidableEq, Repr

namespace ServiceOption

/-- All options. -/
def all : List ServiceOption := [config, dataDir, events, logLevel]

/-- The long name of an option. -/
def longName : ServiceOption → String
  | config => "config"
  | dataDir => "data-dir"
  | events => "events"
  | logLevel => "log-level"

/-- The letter of an option. -/
def letter : ServiceOption → Char
  | config => 'c'
  | dataDir => 'd'
  | events => 'e'
  | logLevel => 'l'

/-- Whether the value is a path, which cannot be empty. -/
def isPath : ServiceOption → Bool
  | config | dataDir | events => true
  | logLevel => false

end ServiceOption

namespace Arguments

/-- The value of an option. -/
def get (arguments : Arguments) : ServiceOption → Option String
  | .config => arguments.config
  | .dataDir => arguments.dataDir
  | .events => arguments.events
  | .logLevel => arguments.logLevel

/-- The arguments with the value of an option. -/
def set (arguments : Arguments) (option : ServiceOption) (value : String) : Arguments :=
  match option with
  | .config => { arguments with config := some value }
  | .dataDir => { arguments with dataDir := some value }
  | .events => { arguments with events := some value }
  | .logLevel => { arguments with logLevel := some value }

/-- Takes over the value of an option, which must not have one yet. -/
def set? (arguments : Arguments) (option : ServiceOption) (value : String) : Option Arguments :=
  if (arguments.get option).isSome || (option.isPath && value.isEmpty) then none
  else some (arguments.set option value)

end Arguments

/-- What a single argument is. -/
inductive Word where
  | help
  /-- An option with its value, if that is part of the argument. -/
  | setting (option : ServiceOption) (value : Option String)
  /-- The end of the options. -/
  | endOfOptions
  | wrong
deriving DecidableEq, Repr

namespace Word

/-- Reads an argument that begins with two dashes. -/
def readLong (text : List Char) : Word :=
  let name := String.ofList (text.takeWhile (· ≠ '='))
  let value := match text.dropWhile (· ≠ '=') with
    | [] => none
    | _ :: value => some (String.ofList value)
  if name.isEmpty then if value.isNone then .endOfOptions else .wrong
  else if name = "help" then if value.isNone then .help else .wrong
  else match ServiceOption.all.find? (fun option => option.longName = name) with
    | some option => .setting option value
    | none => .wrong

/-- Reads an argument that begins with one dash, given what follows it. -/
def readShort : List Char → Word
  | [] => .wrong
  | letter :: rest =>
    if letter = 'h' then .help
    else match ServiceOption.all.find? (fun option => option.letter = letter) with
      | none => .wrong
      | some option =>
        match rest with
        | [] => .setting option none
        | '=' :: value => .setting option (some (String.ofList value))
        | value => .setting option (some (String.ofList value))

/-- Reads an argument where an option is expected. -/
def read (text : String) : Word :=
  match text.toList with
  | '-' :: '-' :: rest => readLong rest
  | '-' :: rest => readShort rest
  | _ => .wrong

end Word

/-- Whether an argument can be the value of the option before it. -/
def isValueWord (text : String) : Bool :=
  match text.toList with
  | '-' :: _ :: _ => false
  | _ => true

namespace Command

/-- Reads the arguments that are left. -/
def readFrom (arguments : Arguments) : List String → Command
  | [] => .run arguments
  | word :: rest =>
    match Word.read word with
    | .help => .help
    | .wrong => .usage
    | .endOfOptions => if rest.isEmpty then .run arguments else .usage
    | .setting option (some value) =>
      match arguments.set? option value with
      | some arguments => readFrom arguments rest
      | none => .usage
    | .setting option none =>
      match rest with
      | [] => .usage
      | value :: rest =>
        if isValueWord value then
          match arguments.set? option value with
          | some arguments => readFrom arguments rest
          | none => .usage
        else .usage

/-- Reads a command line. -/
def read (words : List String) : Command := readFrom {} words

end Command

end DeviceStandby
