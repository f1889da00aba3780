/-!
# Owners

An exemption belongs to an owner: a user number with an app or process name.  Numbers that are
negative belong to no owner.
-/

namespace DeviceStandby

/-- The number of a user. -/
abbrev Uid := Int

/-- The number of a process. -/
abbrev Pid := Int

/-- The number of an armed timer. -/
abbrev TimerId := Nat

/-- Whether a number can belong to an owner. -/
def Uid.isValid (uid : Uid) : Bool := 0 ≤ uid

/-- The key of an owner in the exemption table. -/
def recordKey (uid : Uid) (name : String) : String := toString uid ++ "_" ++ name

/-- How a timer is shown. -/
def TimerId.text (id : TimerId) : String := "timer#" ++ toString (id : Nat)

end DeviceStandby
