/-!
# Errors

`ServiceError` is what an operation of the service answers when it fails, `HostError` what a
collaborator of the service answers.  Both carry the cause and are worded by `message`.
-/

namespace DeviceStandby

/-- Why an operation of the service failed. -/
inductive ServiceError where
  | validation (detail : String)
  | notReady
  | permissionDenied (detail : String)
  | notSystemApp (uid : Int)
  | pluginLoad (detail : String)
  | stateInitFailed (detail : String)
  | timerService (detail : String)
  | timerNotFound (detail : String)
  | transitionVetoed (detail : String)
  | strategyNotDeployed (detail : String)
  | config (detail : String)
  | store (detail : String)
  | host (detail : String)
  | timeout (awaited : String)
  | internal (detail : String)
deriving DecidableEq, Repr, Inhabited

namespace ServiceError

/-- The wording of an error. -/
def message : ServiceError → String
  | validation detail => "Validation error: " ++ detail
  | notReady => "Standby service is not ready"
  | permissionDenied detail => "Permission denied: " ++ detail
  | notSystemApp uid => s!"Caller is not a system app (uid {uid})"
  | pluginLoad detail => "Plugin load error: " ++ detail
  | stateInitFailed detail => "State init failed: " ++ detail
  | timerService detail => "Timer service error: " ++ detail
  | timerNotFound detail => "Timed task not found: " ++ detail
  | transitionVetoed detail => "Transition vetoed: " ++ detail
  | strategyNotDeployed detail => "Strategy not deployed: " ++ detail
  | config detail => "Configuration error: " ++ detail
  | store detail => "Store error: " ++ detail
  | host detail => "Host error: " ++ detail
  | timeout awaited => "Timed out waiting for " ++ awaited
  | internal detail => "Internal error: " ++ detail

/-- Whether the operation was refused before it touched anything. -/
def isRejection : ServiceError → Bool
  | validation _ | notReady | permissionDenied _ | notSystemApp _ => true
  | _ => false

end ServiceError

/-- Why a collaborator of the service failed. -/
inductive HostError where
  | timerArm (detail : String)
  | queueClosed
  | processDirectory (detail : String)
  | wakeLock (detail : String)
  | io (detail : String)
  | internal (detail : String)
deriving DecidableEq, Repr, Inhabited

namespace HostError

/-- The wording of an error. -/
def message : HostError → String
  | timerArm detail => "Timer arm failed: " ++ detail
  | queueClosed => "Task queue closed"
  | processDirectory detail => "Process directory unavailable: " ++ detail
  | wakeLock detail => "Wake lock failed: " ++ detail
  | io detail => "IO error: " ++ detail
  | internal detail => "Internal error: " ++ detail

end HostError

end DeviceStandby
