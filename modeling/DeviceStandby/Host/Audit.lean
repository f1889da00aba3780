import DeviceStandby.Json.Decode
import DeviceStandby.Owner
import DeviceStandby.Request
import DeviceStandby.State
import DeviceStandby.Time.Calendar

/-!
# The audit trail

What the service puts on record about itself, to be read later.
-/

namespace DeviceStandby

/-- What the service puts on record. -/
inductive AuditEvent where
  | serviceStarted (plugin : String)
  | serviceStopped
  | stateTransited (source target : State)
  /-- Kinds of resource were added to what an owner is exempted from. -/
  | allowGranted (uid : Uid) (name : String) (mask : Mask)
  /-- Kinds of resource were taken from what an owner is exempted from. -/
  | allowRevoked (uid : Uid) (name : String) (mask : Mask)
  | recordsRecovered (recovered dropped : Nat)
deriving DecidableEq, Repr

namespace AuditEvent

/-- The document of an audit event. -/
def toValue : AuditEvent → Value
  | serviceStarted plugin => .withTag "type" "service_started" [("plugin", .text plugin)]
  | serviceStopped => .withTag "type" "service_stopped" []
  | stateTransited source target =>
    .withTag "type" "state_transited" [("from", source.toValue), ("to", target.toValue)]
  | allowGranted uid name mask =>
    .withTag "type" "allow_granted"
      [("uid", .int uid), ("name", .text name), ("allow_type", mask.toValue)]
  | allowRevoked uid name mask =>
    .withTag "type" "allow_revoked"
      [("uid", .int uid), ("name", .text name), ("allow_type", mask.toValue)]
  | recordsRecovered recovered dropped =>
    .withTag "type" "records_recovered" [("recovered", .nat recovered), ("dropped", .nat dropped)]

/-- Reads what was granted or revoked. -/
def ownedOfValue? (rest : Value) (make : Uid → String → Mask → AuditEvent) : Option AuditEvent := do
  let members ← rest.members? [("uid", .required), ("name", .required), ("allow_type", .required)]
  return make (← Value.need? members "uid" (Value.int? .int32))
    (← Value.need? members "name" Value.text?) (← Value.need? members "allow_type" Mask.ofValue?)

/-- Reads an audit event. -/
def ofValue? (value : Value) : Option AuditEvent := do
  let (name, rest) ← value.tagged? "type"
  if name = "service_started" then
    let members ← rest.members? [("plugin", .required)]
    return .serviceStarted (← Value.need? members "plugin" Value.text?)
  else if name = "service_stopped" then if rest.isBare then return .serviceStopped else none
  else if name = "state_transited" then
    let members ← rest.members? [("from", .required), ("to", .required)]
    return .stateTransited (← Value.need? members "from" State.ofInnerValue?)
      (← Value.need? members "to" State.ofInnerValue?)
  else if name = "allow_granted" then ownedOfValue? rest .allowGranted
  else if name = "allow_revoked" then ownedOfValue? rest .allowRevoked
  else if name = "records_recovered" then
    let members ← rest.members? [("recovered", .required), ("dropped", .required)]
    return .recordsRecovered (← Value.need? members "recovered" (Value.nat? .word64))
      (← Value.need? members "dropped" (Value.nat? .word64))
  else none

end AuditEvent

end DeviceStandby
