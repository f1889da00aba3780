/-!
# Where files are

The configuration file and the data directory have default places, which depend on the environment:
a place named outright, a directory for user files, the home directory, or a fixed place.
-/

namespace DeviceStandby

/-- The variables of the environment that matter, where they are set. -/
structure Environment where
  /-- The configuration file. -/
  configFile : Option String := none
  /-- The data directory. -/
  dataDir : Option String := none
  /-- The directory for the configurations of all programs. -/
  configHome : Option String := none
  /-- The directory for the data of all programs. -/
  dataHome : Option String := none
  home : Option String := none
deriving DecidableEq, Repr, Inhabited

/-- The path of `name` inside the directory `base`; an absolute name stands for itself. -/
def joinPath (base name : String) : String :=
  if name.startsWith "/" then name
  else if base.isEmpty || base.endsWith "/" then base ++ name
  else base ++ "/" ++ name

namespace Environment

/-- The path below `base` that the parts name. -/
def below (base : String) (parts : List String) : String := parts.foldl joinPath base

/-- Where the configuration file is unless the command line says otherwise. -/
def configPath (env : Environment) : String :=
  match env.configFile, env.configHome, env.home with
  | some path, _, _ => path
  | none, some base, _ => below base ["standbyd", "config.toml"]
  | none, none, some home => below home [".config", "standbyd", "config.toml"]
  | none, none, none => below "/etc" ["standbyd", "config.toml"]

/-- Where data are kept if the environment names no data directory. -/
def userDataPath (env : Environment) : String :=
  match env.dataHome, env.home with
  | some base, _ => below base ["standbyd"]
  | none, some home => below home [".local", "share", "standbyd"]
  | none, none => "/tmp/standbyd/data"

/-- Where data are kept unless the configuration says otherwise. -/
def dataPath (env : Environment) : String := env.dataDir.getD env.userDataPath

end Environment

end DeviceStandby
