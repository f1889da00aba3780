import DeviceStandby.Json.Decode
import DeviceStandby.Request

/-!
# Exemption records

A record holds what one owner is exempted from: for each kind of resource an entry with the time at
which it ends.  The mask of a record is the union of the bits of its entries; `isConsistent` says
so, and that there is one.
-/

namespace DeviceStandby

/-- An exemption from one kind of resource. -/
structure Entry where
  /-- The place of the bit of the kind. -/
  index : Nat
  /-- When the exemption ends, on the clock of the timers, in milliseconds. -/
  endTime : Int
  reason : String
deriving DecidableEq, Repr

/-- The exemptions of one owner. -/
structure Record where
  uid : Uid
  /-- The process that was granted something last. -/
  pid : Pid
  name : String
  /-- The union of the bits of the entries. -/
  mask : Mask
  /-- The number of the reason code with which the record was made. -/
  reasonCode : Nat
  entries : List Entry
deriving DecidableEq, Repr

namespace Entry

/-- The bit of the entry. -/
def bit (entry : Entry) : Mask := Mask.bit entry.index

/-- Whether the exemption has ended. -/
def expired (entry : Entry) (now : Int) : Bool := entry.endTime ≤ now

/-- The milliseconds until the exemption ends, as a signed number of 64 bits: it is cut if the two
times are further apart than that. -/
def timeLeft (entry : Entry) (now : Int) : Int := wrap64 (entry.endTime - now)

/-- The document of an entry. -/
def toValue (entry : Entry) : Value :=
  .record [("allowTypeIndex", .nat entry.index), ("endTime", .int entry.endTime),
    ("reason", .text entry.reason)]

/-- Reads an entry. -/
def ofValue? (value : Value) : Option Entry := do
  let members ← value.members? [("allowTypeIndex", .required), ("endTime", .required),
    ("reason", .required)]
  return {
    index := ← Value.need? members "allowTypeIndex" (Value.nat? .word32)
    endTime := ← Value.need? members "endTime" (Value.int? .int64)
    reason := ← Value.need? members "reason" Value.text? }

end Entry

/-- The union of the bits of some entries. -/
def entriesMask (entries : List Entry) : Mask :=
  entries.foldl (fun mask entry => mask ||| entry.bit) 0

/-- The entries after the exemption at `index` was made or prolonged.  An end is never moved
forward; the reason is the new one. -/
def extendEntries (index : Nat) (endTime : Int) (reason : String) : List Entry → List Entry
  | [] => [⟨index, endTime, reason⟩]
  | entry :: rest =>
    if entry.index = index then
      { entry with endTime := max entry.endTime endTime, reason } :: rest
    else entry :: extendEntries index endTime reason rest

namespace Record

/-- A record without exemptions. -/
def blank (uid : Uid) (pid : Pid) (name : String) (code : ReasonCode) : Record where
  uid := uid
  pid := pid
  name := name
  mask := 0
  reasonCode := code.number
  entries := []

/-- The union of the bits of the entries. -/
def entriesMask (record : Record) : Mask := DeviceStandby.entriesMask record.entries

/-- Whether the mask is that of the entries, and not empty. -/
def isConsistent (record : Record) : Bool :=
  record.mask != 0 && record.mask == record.entriesMask

/-- The exemption at `index`, if there is one. -/
def entry? (record : Record) (index : Nat) : Option Entry :=
  record.entries.find? (fun entry => entry.index = index)

/-- The record after an exemption was made or prolonged. -/
def extend (record : Record) (kind : Resource) (endTime : Int) (reason : String) : Record :=
  { record with
    entries := extendEntries kind.index endTime reason record.entries
    mask := record.mask ||| kind.bit }

/-- The document of a record. -/
def toValue (record : Record) : Value :=
  .record [("allowTimeList", .list (record.entries.map Entry.toValue)),
    ("allowType", record.mask.toValue), ("name", .text record.name), ("pid", .int record.pid),
    ("reasonCode", .nat record.reasonCode), ("uid", .int record.uid)]

/-- Reads a record. -/
def ofValue? (value : Value) : Option Record := do
  let members ← value.members? [("uid", .required), ("pid", .required), ("name", .required),
    ("allowType", .required), ("reasonCode", .required), ("allowTimeList", .required)]
  return {
    uid := ← Value.need? members "uid" (Value.int? .int32)
    pid := ← Value.need? members "pid" (Value.int? .int32)
    name := ← Value.need? members "name" Value.text?
    mask := ← Value.need? members "allowType" Mask.ofValue?
    reasonCode := ← Value.need? members "reasonCode" (Value.nat? .word32)
    entries := ← Value.need? members "allowTimeList" (Value.items? Entry.ofValue?) }

end Record

end DeviceStandby
