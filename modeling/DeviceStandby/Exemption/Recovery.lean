import DeviceStandby.Exemption.Admission

/-!
# Recovering exemptions

When the service starts it reads the stored exemption table.  Members that are no records, and
records whose mask does not fit their entries, are dropped, and so are records whose process is not
running under the same number any more.  For every exemption of the others a timer is armed.
-/

namespace DeviceStandby

/-- The consistent records of a stored table under their keys, and how many members are none. -/
def storedRecords : Value → List (String × Record) × Nat
  | .record members =>
    members.foldr (fun member (records, dropped) =>
      match Record.ofValue? member.2 with
      | some record =>
        if record.isConsistent then ((member.1, record) :: records, dropped)
        else (records, dropped + 1)
      | none => (records, dropped + 1)) ([], 0)
  | _ => ([], 0)

namespace Admission

/-- Arms a timer for every exemption of a record; one that cannot be armed is left out. -/
def armExpiries (host : Host) (record : Record) : Host :=
  record.entries.foldl (fun host entry =>
    (host.arm (entry.timeLeft host.now).toNat
      (.revokeExpired record.uid record.name Mask.known)).2) host

/-- Takes over one record. -/
def adopt (a : Admission) (key : String) (record : Record) : Admission :=
  { a with table := a.table.insert key record, host := armExpiries a.host record }

/-- Takes over the records whose processes are running, and puts on record how many there were. -/
def recoverRecords (a : Admission) (running : Processes) (document : Value) : Admission :=
  let (records, malformed) := storedRecords document
  let kept := records.filter (fun entry => running.name? entry.2.pid = some entry.2.name)
  let a := kept.foldl (fun a entry => a.adopt entry.1 entry.2) a
  let a := a.persist
  let dropped := malformed + (records.length - kept.length)
  { a with host := a.host.audit (.recordsRecovered kept.length dropped) }

/-- Recovers the stored table, given the running processes if they could be listed.  Without any
process, or without a document, nothing happens. -/
def recover (a : Admission) (running : Option Processes) : Admission :=
  match running with
  | none => a
  | some [] => a
  | some running =>
    match a.host.store.load recordsDocument with
    | .ok (some document) => a.recoverRecords running document
    | _ => a

end Admission

end DeviceStandby
