import DeviceStandby.Exemption.Admission

/-!
# Revoking exemptions

Exemptions are revoked when a caller takes them back, when an app goes away, and when a timer says
that they may have expired.  The last of these takes out only what has expired.
-/

namespace DeviceStandby.Admission

/-- Takes the exemptions of the kinds in `mask` from an owner, the expired ones only unless `force`
is set. -/
def revoke (a : Admission) (uid : Uid) (name : String) (mask : Mask) (force : Bool) : Admission :=
  match revokeEntries a.table (recordKey uid name) mask force a.host.now with
  | (none, _) => a
  | (some revoked, table) =>
    ({ a with table }).persist.notify revoked.uid revoked.name revoked.removed false

/-- Takes back what a request names, expired or not. -/
def unapply (a : Admission) (request : Request) : Except ServiceError Unit × Admission :=
  match requested request.mask with
  | .error error => (.error error, a)
  | .ok _ =>
    if !Uid.isValid request.uid then (.error (.validation "uid must not be negative"), a)
    else (.ok (), a.revoke request.uid request.name request.mask true)

/-- The kinds that an app loses when it goes away: all, or all but timers and scheduled work. -/
def removalMask (resetAll : Bool) : Mask :=
  if resetAll then Mask.known
  else Mask.known.without (Resource.timer.bit ||| Resource.workScheduler.bit)

/-- Takes its exemptions from an app that went away. -/
def removeApp (a : Admission) (uid : Uid) (name : String) (resetAll : Bool) : Admission :=
  a.revoke uid name (removalMask resetAll) true

end DeviceStandby.Admission
