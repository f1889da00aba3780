import DeviceStandby.Config.Load
import DeviceStandby.State
import DeviceStandby.Time.Span

/-!
# Reports on a configuration file

What the command that checks a configuration file prints, and the code it ends with: 0 for a file
that can be used, 1 for one that cannot or does not exist, 2 if no file is named.
-/

namespace DeviceStandby

/-- What a command prints and the code it ends with. -/
structure Report where
  code : Nat
  output : String := ""
  errors : String := ""
deriving DecidableEq, Repr

namespace Report

/-- The lines, each with its line end. -/
def lines (texts : List String) : String := String.join (texts.map (· ++ "\n"))

/-- The line on one rule of a resource. -/
def ruleLine (kind : Resource) (rule : Rule) : String :=
  "  - " ++ kind.name ++ " [" ++ (if rule.isAllow then "allow" else "restrict") ++ "]: "
    ++ toString rule.processes.size ++ " processes, " ++ toString rule.apps.size ++ " apps, "
    ++ toString (rule.limitedProcesses.length + rule.limitedApps.length) ++ " time-limited"

/-- A list of spans. -/
def spans (seconds : List Nat) : String := joinWith ", " (seconds.map spanText)

/-- What is said of a policy. -/
def summary (policy : Policy) : List String :=
  [ "Summary:",
    "  Config version: " ++ toString supportedFormat,
    "  Content version: " ++ policy.version.getD "(none)",
    "  Plugin: " ++ policy.plugin,
    "  Switches: nap=" ++ boolText policy.napSwitch ++ " sleep=" ++ boolText policy.sleepSwitch,
    "  Dark timeout: " ++ spanText policy.timeouts.dark,
    "  Nap timeout: " ++ spanText policy.timeouts.nap,
    "  Nap intervals: [" ++ spans policy.napIntervals ++ "]",
    "  Sleep intervals: [" ++ spans policy.sleepIntervals ++ "]",
    "  Night: " ++ policy.night.start.text ++ " - " ++ policy.night.stop.text,
    "  Strategies: " ++ joinWith ", " policy.strategies ]
  ++ (if policy.resources.isEmpty then []
    else ["", "Resources:"]
      ++ policy.resources.flatMap (fun (kind, rules) => rules.map (ruleLine kind)))

/-- What is said of a configuration that is refused.  What is wrong with its text is not told
apart. -/
def refusal : ConfigError → List String
  | .unreadable => ["Failed to read file: stream did not contain valid UTF-8"]
  | .malformed => ["TOML parse error:"]
  | .unsupportedFormat format =>
    [ConfigError.unsupportedMessage format ++ " (expected " ++ toString supportedFormat ++ ")"]
  | .faulty faults =>
    ("Validation errors (" ++ toString faults.length ++ "):")
      :: faults.map (fun fault => "  - " ++ fault.message)

/-- The report on the bytes of a configuration file. -/
def onFile (env : Environment) (bytes : List UInt8) : Report :=
  match Policy.load env (some bytes) with
  | .ok policy => { code := 0, output := lines (["✓ Configuration is valid", ""] ++ summary policy) }
  | .error error =>
    { code := 1, errors := lines (["✗ Configuration validation failed", ""] ++ refusal error) }

/-- The report on a file that does not exist. -/
def onMissing (path : String) : Report :=
  { code := 1, errors := lines ["Error: Configuration file not found: " ++ path] }

/-- What is printed if no file is named. -/
def usage (env : Environment) : Report :=
  { code := 2
    errors := lines ["Usage: validate-config [config-file]", "",
      "Validates a standbyd configuration file.", "",
      "If no path is provided, uses: " ++ env.configPath] }

end Report

end DeviceStandby
