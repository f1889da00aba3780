import DeviceStandby.Error
import DeviceStandby.Request

/-!
# Callers and what they may do

Native callers may do everything.  An app needs the exemption permission, must be a system app, must
use the app interface, and gets only the kinds of resource that it declared.
-/

namespace DeviceStandby

/-- Who calls: a native process, or an app with what is known of it. -/
inductive CallerKind where
  | native
  | app (exemptionPermission systemApp : Bool) (declared : List Nat)
deriving DecidableEq, Repr

/-- The caller of an operation. -/
structure Caller where
  uid : Uid
  pid : Pid
  kind : CallerKind
deriving DecidableEq, Repr

namespace Caller

/-- A native caller. -/
def native (uid : Uid) (pid : Pid) : Caller := ⟨uid, pid, .native⟩

/-- A system app with the exemption permission. -/
def systemApp (uid : Uid) (pid : Pid) (declared : List Nat) : Caller :=
  ⟨uid, pid, .app true true declared⟩

/-- The code by which an app declares every kind of resource; the code of one kind is the place of
its bit above it. -/
def everyKind : Nat := 100

/-- The kinds that an app declared by single codes. -/
def declaredMask (declared : List Nat) : Mask :=
  ((declared.filter (everyKind < ·)).filterMap (fun code => Resource.ofIndex? (code - everyKind))).foldl
    (fun mask kind => mask ||| kind.bit) 0

/-- What is left of a request: all of it for native callers and for apps that declared every kind,
else the kinds that the app declared. -/
def exempted (caller : Caller) (requested : Mask) : Mask :=
  match caller.kind with
  | .native => requested
  | .app _ _ declared =>
    if declared.contains everyKind then requested else declaredMask declared &&& requested

/-- Whether the caller may act, and with this reason code where one is given. -/
def permitted (caller : Caller) (code : Option ReasonCode) : Except ServiceError Unit :=
  match caller.kind with
  | .native => .ok ()
  | .app exemptionPermission systemApp _ =>
    if !exemptionPermission then
      .error (.permissionDenied s!"uid {caller.uid} lacks the exemption permission")
    else if !systemApp then .error (.notSystemApp caller.uid)
    else if code = some .native then .error (.permissionDenied "apps must use the app API")
    else .ok ()

/-- The document of a caller. -/
def toValue (caller : Caller) : Value :=
  let kind := match caller.kind with
    | .native => Value.withTag "type" "native" []
    | .app exemptionPermission systemApp declared =>
      Value.withTag "type" "app" [("exemption_permission", .bool exemptionPermission),
        ("system_app", .bool systemApp), ("resources_apply", .list (declared.map Value.nat))]
  .record [("uid", .int caller.uid), ("pid", .int caller.pid), ("kind", kind)]

/-- Reads who calls. -/
def kindOfValue? (value : Value) : Option CallerKind := do
  let (name, rest) ← value.tagged? "type"
  if name = "native" then if rest.isBare then return .native else none
  else if name = "app" then
    let members ← rest.members? [("exemption_permission", .required), ("system_app", .required),
      ("resources_apply", .defaulted)]
    return .app (← Value.need? members "exemption_permission" Value.bool?)
      (← Value.need? members "system_app" Value.bool?)
      (← Value.wantOr? members "resources_apply" [] (Value.items? (Value.nat? .word32)))
  else none

/-- Reads a caller. -/
def ofValue? (value : Value) : Option Caller := do
  let members ← value.members? [("uid", .required), ("pid", .required), ("kind", .required)]
  return {
    uid := ← Value.need? members "uid" (Value.int? .int32)
    pid := ← Value.need? members "pid" (Value.int? .int32)
    kind := ← Value.need? members "kind" kindOfValue? }

end Caller

end DeviceStandby
