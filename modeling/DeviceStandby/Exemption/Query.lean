import DeviceStandby.Exemption.Admission

/-!
# Asking for exemptions

The allow list names who is exempted now, kind by kind, first for a time and then for good.  Expired
exemptions that are found on the way are taken out; this is the only way in which asking changes the
table.
-/

namespace DeviceStandby

/-- What a record says about one kind: nothing, the time left, or that it has expired. -/
inductive Standing where
  | absent
  | remaining (millis : Int)
  | expired
deriving DecidableEq, Repr

/-- What a record says about a kind to those who ask with a reason code.  Here an exemption counts
as expired if no time is left, whereas it is taken out by its end (`Entry.isRevoked`). -/
def Record.standing (record : Record) (kind : Resource) (code : ReasonCode) (now : Int) : Standing :=
  if record.reasonCode ≠ code.number || !record.mask.meets kind.bit then .absent
  else match record.entry? kind.index with
    | none => .absent
    | some entry =>
      if 0 < entry.timeLeft now then .remaining (entry.timeLeft now) else .expired

namespace RecordTable

/-- The exemptions from a kind that go on, in the order of the keys. -/
def live (table : RecordTable) (kind : Resource) (code : ReasonCode) (now : Int) : List Allowance :=
  table.entries.filterMap (fun entry =>
    match entry.2.standing kind code now with
    | .remaining millis => some (Allowance.of kind entry.2.name millis)
    | _ => none)

/-- The keys of the records whose exemption from a kind has expired, in order. -/
def expiredKeys (table : RecordTable) (kind : Resource) (code : ReasonCode) (now : Int) :
    List String :=
  table.entries.filterMap (fun entry =>
    if entry.2.standing kind code now = .expired then some entry.1 else none)

/-- Takes the expired exemptions of the kinds in `mask` out of the records under some keys. -/
def reapKeys (table : RecordTable) (mask : Mask) (now : Int) (keys : List String) :
    List Revoked × RecordTable :=
  keys.foldl (fun (reaped, table) key =>
    let (revoked, table) := revokeEntries table key mask false now
    (reaped ++ revoked.toList, table)) ([], table)

/-- Goes through some kinds: who is exempted from each, and what was taken out on the way. -/
def scan (code : ReasonCode) (now : Int) :
    List Resource → RecordTable → List Allowance × List Revoked × RecordTable
  | [], table => ([], [], table)
  | kind :: kinds, table =>
    let (reaped, next) := reapKeys table kind.bit now (table.expiredKeys kind code now)
    let (list, more, last) := scan code now kinds next
    (table.live kind code now ++ list, reaped ++ more, last)

end RecordTable

namespace Admission

/-- The names that are allowed, or restricted, for good, kind by kind. -/
def persistentList (a : Admission) (mask : Mask) (code : ReasonCode) (isAllow : Bool) :
    List Allowance :=
  mask.kinds.flatMap (fun kind =>
    (a.policy.persistent kind.name a.condition isAllow code.isApp).map
      (fun name => Allowance.of kind name Allowance.persistent))

/-- Who is exempted from the kinds in `raw`; expired exemptions are taken out. -/
def allowList (a : Admission) (raw : Mask) (code : ReasonCode) :
    Except ServiceError (List Allowance) × Admission :=
  match requested raw with
  | .error error => (.error error, a)
  | .ok mask =>
    let (list, reaped, table) := RecordTable.scan code a.host.now mask.kinds a.table
    let a := { a with table }
    let a := if reaped.isEmpty then a else a.persist
    let a := reaped.foldl
      (fun a revoked => a.notify revoked.uid revoked.name revoked.removed false) a
    (.ok (list ++ a.persistentList mask code true), a)

/-- Who is restricted for good from the kinds in `raw`. -/
def restrictList (a : Admission) (raw : Mask) (code : ReasonCode) :
    Except ServiceError (List Allowance) :=
  match requested raw with
  | .error error => .error error
  | .ok mask => .ok (a.persistentList mask code false)

/-- The names that a strategy has to restrict: those configured under its name, without those that
are exempted from the kinds in `raw`. -/
def restrictSet (a : Admission) (raw : Mask) (strategy : String) (code : ReasonCode) :
    Except ServiceError (List String) × Admission :=
  let restricted := a.policy.persistent strategy a.condition false code.isApp
  match a.allowList raw code with
  | (.error error, a) => (.error error, a)
  | (.ok list, a) =>
    (.ok (restricted.filter (fun name => !list.any (fun allowance => allowance.name = name))), a)

end Admission

end DeviceStandby
