import DeviceStandby.Config.Policy
import DeviceStandby.Error
import DeviceStandby.Exemption.Record
import DeviceStandby.Host.Basic

/-!
# The exemption table and what it acts on

`Admission` holds the table of exemption records, the policy and the host.  Every change of the
table goes through a few steps that are defined here: `revokeEntries` takes exemptions out of one
record, `Admission.persist` writes the table to the store, and `Admission.notify` tells the other
roles and the audit trail what an owner gained or lost.
-/

namespace DeviceStandby

/-- The exemption records under the keys of their owners. -/
abbrev RecordTable := Table Record

/-- The name of the stored exemption table. -/
def recordsDocument : String := "allow_record"

/-- The document of an exemption table. -/
def RecordTable.toValue (table : RecordTable) : Value :=
  .record (table.entries.map (fun entry => (entry.1, entry.2.toValue)))

/-- What an owner lost. -/
structure Revoked where
  uid : Uid
  name : String
  removed : Mask
deriving DecidableEq, Repr

/-! ## Taking exemptions out of a record -/

/-- Whether revoking `mask` takes an entry out: its kind is meant, and it has expired or need not
have. -/
def Entry.isRevoked (entry : Entry) (mask : Mask) (force : Bool) (now : Int) : Bool :=
  mask.meets entry.bit && (force || entry.expired now)

/-- Takes the exemptions of the kinds in `mask` out of the record under `key`, the expired ones only
unless `force` is set.  A record that is left empty goes too. -/
def revokeEntries (table : RecordTable) (key : String) (mask : Mask) (force : Bool) (now : Int) :
    Option Revoked × RecordTable :=
  match table.get? key with
  | none => (none, table)
  | some record =>
    if !mask.meets record.mask then (none, table)
    else
      let removed := entriesMask (record.entries.filter (fun entry => entry.isRevoked mask force now))
      let kept := record.entries.filter (fun entry => !entry.isRevoked mask force now)
      if removed = 0 then (none, table)
      else
        (some ⟨record.uid, record.name, removed⟩,
          if removed = record.mask then table.erase key
          else table.insert key
            { record with entries := kept, mask := record.mask.without removed })

/-! ## The table in its surroundings -/

/-- The exemption table with the policy and the host it acts on. -/
structure Admission where
  table : RecordTable
  policy : Policy
  host : Host

namespace Admission

/-- The condition in effect. -/
def condition (a : Admission) : Mask := a.policy.conditionAt a.host.wall.secondOfDay

/-- Writes the table to the store. -/
def persist (a : Admission) : Admission :=
  { a with host := a.host.save recordsDocument a.table.toValue }

/-- Tells what an owner gained or lost. -/
def notify (a : Admission) (uid : Uid) (name : String) (mask : Mask) (added : Bool) : Admission :=
  let event := if added then AuditEvent.allowGranted uid name mask
    else AuditEvent.allowRevoked uid name mask
  { a with host := (a.host.announce (.allowListChanged uid name mask added)).audit event }

/-- The record of an owner. -/
def record? (a : Admission) (uid : Uid) (name : String) : Option Record :=
  a.table.get? (recordKey uid name)

/-- The kinds that a request asks for. -/
def requested (raw : Mask) : Except ServiceError Mask :=
  match Mask.ofRequest? raw with
  | some mask => .ok mask
  | none =>
    .error (.validation ("invalid resource mask 0x" ++ String.ofList (Nat.toDigits 16 raw.toNat)))

/-! ## Listing -/

/-- The lines on one entry. -/
def entryLines (now : Int) (entry : Entry) : String :=
  "\t\t\tallow type: " ++ ((Resource.ofIndex? entry.index).map Resource.name).getD "unknown" ++ "\n"
    ++ "\t\t\tremainTime: " ++ toString (entry.timeLeft now) ++ "\n"
    ++ "\t\t\treason: " ++ entry.reason ++ "\n"

/-- The lines on one record. -/
def recordLines (now : Int) (number : Nat) (record : Record) : String :=
  "No." ++ toString number ++ "\n"
    ++ "\tuid: " ++ toString record.uid ++ "\n"
    ++ "\tallow record: \n"
    ++ "\t\tname: " ++ record.name ++ "\n"
    ++ "\t\tpid: " ++ toString record.pid ++ "\n"
    ++ "\t\tallow type: " ++ toString record.mask.toNat ++ "\n"
    ++ "\t\treason code: " ++ toString record.reasonCode ++ "\n"
    ++ String.join (record.entries.map (entryLines now))
    ++ "\n"

/-- The listing of the table. -/
def dump (a : Admission) : String :=
  if a.table.isEmpty then "allow resources record is empty\n"
  else String.join (a.table.values.zipIdx.map
    (fun (record, index) => recordLines a.host.now (index + 1) record))

end Admission

end DeviceStandby
