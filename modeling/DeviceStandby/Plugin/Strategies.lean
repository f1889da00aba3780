import DeviceStandby.Config.Policy
import DeviceStandby.Message

/-!
# The active strategies

The strategies of the policy are active while the device sleeps, maintenance in between included,
and are lifted when it leaves sleep for any other state.  The strategies that became active stay the
same until they are lifted, whatever becomes of the policy.
-/

namespace DeviceStandby

/-- The strategies that are active after the device has come to a state. -/
def strategiesIn (policy : Policy) (active : List String) : State → List String
  | .sleep => if active.isEmpty then policy.strategies else active
  | .maintenance => active
  | .working | .dark | .nap => []

/-- The strategies that are active after a message. -/
def strategiesAfter (policy : Policy) (active : List String) (message : Message) : List String :=
  if message.kind = .stateTransit then
    match (message.int? "current_state").bind State.ofIndex? with
    | some state => strategiesIn policy active state
    | none => active
  else active

end DeviceStandby
