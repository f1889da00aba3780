import DeviceStandby.Json.Decode
import DeviceStandby.Owner
import DeviceStandby.Resource

/-!
# Requests, answers and reason codes

A `Request` asks to grant or to take back exemptions; an `Allowance` is one line of the answer to a
query.  The reason code says through which interface a request came; records keep it and queries
select by it.
-/

namespace DeviceStandby

/-- The interface through which a request came. -/
inductive ReasonCode where
  | native
  | app
deriving DecidableEq, Repr, Inhabited

namespace ReasonCode

/-- The number of a reason code. -/
def number : ReasonCode → Nat
  | native => 0
  | app => 1

/-- The reason code with a number. -/
def ofNumber? : Nat → Option ReasonCode
  | 0 => some native
  | 1 => some app
  | _ => none

/-- The name of a reason code. -/
def name : ReasonCode → String
  | native => "native_api"
  | app => "app_api"

/-- Whether the request came from an app. -/
def isApp (code : ReasonCode) : Bool := code = app

/-- The document of a reason code. -/
def toValue (code : ReasonCode) : Value := .text code.name

/-- Reads a reason code. -/
def ofValue? (value : Value) : Option ReasonCode :=
  value.choice?.bind (fun name => [native, app].find? (fun code => code.name = name))

end ReasonCode

/-- The document of a mask. -/
def Mask.toValue (mask : Mask) : Value := .nat mask.toNat

/-- Reads a mask. -/
def Mask.ofValue? (value : Value) : Option Mask :=
  (value.nat? .word32).map (BitVec.ofNat 32)

/-- A request to grant or to take back exemptions. -/
structure Request where
  /-- The mask as it was asked for. -/
  mask : Mask
  uid : Uid
  name : String
  durationSecs : Int
  reason : String
  reasonCode : ReasonCode
deriving DecidableEq, Repr

namespace Request

/-- The document of a request. -/
def toValue (request : Request) : Value :=
  .record [("allow_type", request.mask.toValue), ("uid", .int request.uid),
    ("name", .text request.name), ("duration_secs", .int request.durationSecs),
    ("reason", .text request.reason), ("reason_code", request.reasonCode.toValue)]

/-- Reads a request. -/
def ofValue? (value : Value) : Option Request := do
  let members ← value.members? [("allow_type", .required), ("uid", .required),
    ("name", .required), ("duration_secs", .required), ("reason", .required),
    ("reason_code", .required)]
  return {
    mask := ← Value.need? members "allow_type" Mask.ofValue?
    uid := ← Value.need? members "uid" (Value.int? .int32)
    name := ← Value.need? members "name" Value.text?
    durationSecs := ← Value.need? members "duration_secs" (Value.int? .int32)
    reason := ← Value.need? members "reason" Value.text?
    reasonCode := ← Value.need? members "reason_code" ReasonCode.ofValue? }

end Request

/-- One line of an allow or restrict list. -/
structure Allowance where
  mask : Mask
  name : String
  /-- The milliseconds left, or `Allowance.persistent`. -/
  durationMs : Int
deriving DecidableEq, Repr

namespace Allowance

/-- What stands for the duration of a line that has no end. -/
def persistent : Int := -1

/-- The line of one kind. -/
def of (kind : Resource) (name : String) (durationMs : Int) : Allowance :=
  ⟨kind.bit, name, durationMs⟩

/-- Whether the line has no end. -/
def isPersistent (allowance : Allowance) : Bool := allowance.durationMs = persistent

/-- The document of a line. -/
def toValue (allowance : Allowance) : Value :=
  .record [("allow_type", allowance.mask.toValue), ("name", .text allowance.name),
    ("duration_ms", .int allowance.durationMs)]

/-- Reads a line. -/
def ofValue? (value : Value) : Option Allowance := do
  let members ← value.members? [("allow_type", .required), ("name", .required),
    ("duration_ms", .required)]
  return {
    mask := ← Value.need? members "allow_type" Mask.ofValue?
    name := ← Value.need? members "name" Value.text?
    durationMs := ← Value.need? members "duration_ms" (Value.int? .int64) }

end Allowance

end DeviceStandby
