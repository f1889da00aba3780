import DeviceStandby.Exemption.Admission

/-!
# Granting exemptions

A request is granted kind by kind, for the time it asks for or the time that the policy allows its
name, whichever is less; scheduled work alone is not limited by the policy.  A kind for which no
time is left is passed over.  For every kind that is granted a timer is armed that will revoke what
has expired by then.
-/

namespace DeviceStandby

/-- How many seconds of a kind a request gets. -/
def Policy.grantedSecs (policy : Policy) (condition : Mask) (request : Request) (kind : Resource) :
    Int :=
  if kind = .workScheduler then request.durationSecs
  else min request.durationSecs
    (policy.maxDuration request.name kind.name condition request.reasonCode.isApp)

/-- The kinds that a request gets, with the milliseconds of each. -/
def Policy.grants (policy : Policy) (condition : Mask) (request : Request) (mask : Mask) :
    List (Resource × Nat) :=
  mask.kinds.filterMap (fun kind =>
    let seconds := policy.grantedSecs condition request kind
    if seconds ≤ 0 then none else some (kind, seconds.toNat * 1000))

/-- The record after some grants. -/
def Record.extendAll (record : Record) (now : Int) (reason : String) (grants : List (Resource × Nat)) :
    Record :=
  grants.foldl (fun record grant => record.extend grant.1 (now + grant.2) reason) record

namespace Admission

/-- Arms the timers that revoke what was granted; one that cannot be armed is left out. -/
def armRevokes (host : Host) (request : Request) (mask : Mask) (grants : List (Resource × Nat)) :
    Host :=
  grants.foldl (fun host grant =>
    (host.arm grant.2 (.revokeExpired request.uid request.name mask)).2) host

/-- Grants the kinds in `mask`. -/
def grantKinds (a : Admission) (request : Request) (mask : Mask) (pid : Pid) : Admission :=
  let key := recordKey request.uid request.name
  let old := (a.table.get? key).getD (Record.blank request.uid pid request.name request.reasonCode)
  let grants := a.policy.grants a.condition request mask
  let extended := old.extendAll a.host.now request.reason grants
  let new := if grants.isEmpty then extended else { extended with pid }
  let table := if new.mask = 0 then a.table.erase key else a.table.insert key new
  let a := { a with table, host := armRevokes a.host request mask grants }
  let a := if grants.isEmpty then a else a.persist
  let added := new.mask ^^^ (old.mask &&& new.mask)
  if added = 0 then a else a.notify request.uid request.name added true

/-- Grants what a request asks for, as far as the policy allows. -/
def grant (a : Admission) (request : Request) (pid : Pid) : Except ServiceError Unit × Admission :=
  match requested request.mask with
  | .error error => (.error error, a)
  | .ok mask =>
    if !Uid.isValid request.uid then (.error (.validation "uid must not be negative"), a)
    else if request.durationSecs < 0 then
      (.error (.validation "duration must not be negative"), a)
    else (.ok (), a.grantKinds request mask pid)

end Admission

end DeviceStandby
