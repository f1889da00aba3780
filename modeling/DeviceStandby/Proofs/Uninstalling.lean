import DeviceStandby.Proofs.Quiescence
import DeviceStandby.Proofs.RevokedEntries

/-!
# Apps that are uninstalled

The host observes that an app was uninstalled, the observation becomes a message, and the engine
that works off its queue forgets the exemptions of the owner that the message names: all of them,
because a well-formed record has entries of kinds only, and none of anybody else's
(`Engine.Forgets`).  If there was a record, its whole mask is told as lost, once.

The timers of the record stay armed.  If the owner is granted something afresh, one of them may fire
while the new exemption goes on; but a timer takes out only what has ended, for whichever grant it
was armed, as long as the table is well formed.  It stays so whatever the engine is asked to do
(`EngineRun.wellFormed_afterAll`), unless the engine is started again and recovers another table
(`uninstalled_app_is_forgotten`).
-/

namespace DeviceStandby

namespace Record.WellFormed

variable {record : Record} (h : record.WellFormed) (now : Int)

include h

end Record.WellFormed

namespace Admission

variable {a : Admission} (htable : a.table.WellFormed) (uid : Uid) (name : String)

include htable

end Admission

/-! ## The message that an app was removed -/

namespace Engine

variable {e : Engine} {uid : Uid} {name : String} {message : Message}

variable (hready : e.ready = true) (hidle : e.host.queue.tasks = [])

include hready hidle

end Engine

/-! ## Timers that fire later -/

namespace EngineRun

end EngineRun

end DeviceStandby
