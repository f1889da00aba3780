import DeviceStandby.Config.Policy
import DeviceStandby.Text.Utf8
import DeviceStandby.Toml.Reader

/-!
# Loading a configuration

A configuration is refused for one of four reasons, looked for in this order: the file cannot be
read as text; the text is not TOML or not of the right shape; its format version is not supported;
its content has faults.
-/

namespace DeviceStandby

/-- The version of the file format that is supported. -/
def supportedFormat : Nat := 1

/-- Why a configuration is refused. -/
inductive ConfigError where
  | unreadable
  | malformed
  | unsupportedFormat (format : Nat)
  | faulty (faults : List ConfigFault)
deriving DecidableEq, Repr

namespace ConfigError

/-- The wording of an unsupported format. -/
def unsupportedMessage (format : Nat) : String := "Unsupported config version: " ++ toString format

end ConfigError

namespace Policy

/-- The policy of a configuration text. -/
def parse (env : Environment) (text : String) : Except ConfigError Policy :=
  match (Toml.parse? text).bind (ConfigFile.ofValue? false) with
  | none => .error .malformed
  | some file =>
    if file.format ≠ supportedFormat then .error (.unsupportedFormat file.format)
    else match file.faults with
      | [] => .ok (ofFile env file)
      | faults => .error (.faulty faults)

/-- The policy of the bytes of a configuration file, if there is one. -/
def load (env : Environment) : Option (List UInt8) → Except ConfigError Policy
  | none => .error .unreadable
  | some bytes =>
    match Utf8.decode? bytes with
    | none => .error .unreadable
    | some chars => parse env (String.ofList chars)

end Policy

end DeviceStandby
