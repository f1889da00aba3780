import DeviceStandby.Host.Audit
import DeviceStandby.Json.Stored

/-!
# The store

The store keeps documents under names, and a trail of audit entries that only grows.  Both are kept
as texts, and here as what can be read of these: a document in its canonical form, and an entry
without its moment if that lies beyond the years that the text of a moment can tell.  Texts that found
their way into the store by other means may be unreadable: then the document, or the entry, is `none`.
Loading, saving and appending can be made to fail.
-/

namespace DeviceStandby

/-- Why the store could not answer. -/
inductive StoreError where
  | unavailable
  /-- What is stored is not what should be there. -/
  | unreadable
deriving DecidableEq, Repr

/-- An entry of the audit trail; what cannot be read of it is `none`. -/
structure AuditEntry where
  moment : Option Moment
  event : Option AuditEvent
deriving DecidableEq, Repr

/-- An entry as it is shown: its number in the trail, its moment and its event. -/
structure AuditView where
  id : Nat
  moment : Moment
  event : AuditEvent
deriving DecidableEq, Repr

/-- The documents and the audit trail. -/
structure Store where
  documents : Table (Option Value) := Table.empty
  /-- The audit entries, the oldest first. -/
  trail : List AuditEntry := []
  /-- How often a document was to be saved. -/
  saves : Nat := 0
  failLoad : Bool := false
  failSave : Bool := false
  failAudit : Bool := false
deriving DecidableEq

namespace Store

/-- The document under a name, whether or not loading is made to fail. -/
def document? (store : Store) (name : String) : Option (Option Value) := store.documents.get? name

/-- Loads a document; there may be none under the name. -/
def load (store : Store) (name : String) : Except StoreError (Option Value) :=
  if store.failLoad then .error .unavailable
  else match store.document? name with
    | none => .ok none
    | some (some value) => .ok (some value)
    | some none => .error .unreadable

/-- Puts a document under a name, in place of an older one. -/
def put (store : Store) (name : String) (value : Value) : Store :=
  { store with documents := store.documents.insert name (some value.canonical.restored) }

/-- Saves a document, and says whether that was possible. -/
def save (store : Store) (name : String) (value : Value) : Bool × Store :=
  let store := { store with saves := store.saves + 1 }
  if store.failSave then (false, store) else (true, store.put name value)

/-- Puts a text under a name as it is. -/
def putText (store : Store) (name text : String) : Store :=
  { store with
    documents := store.documents.insert name ((Json.parse? text).map Value.canonical) }

/-- Appends an audit event, and says whether that was possible. -/
def append (store : Store) (moment : Moment) (event : AuditEvent) : Bool × Store :=
  if store.failAudit then (false, store)
  else (true, { store with
    trail := store.trail ++ [⟨Moment.readStamped? moment.stamped, some event⟩] })

/-- Appends an audit entry of texts as they are. -/
def appendTexts (store : Store) (moment event : String) : Store :=
  { store with
    trail := store.trail ++
      [⟨Moment.readStamped? moment, (Json.parse? event).bind AuditEvent.ofValue?⟩] }

/-- The entry with its number in the trail.  An entry without a moment is shown as of now. -/
def view (now : Moment) (entry : AuditEntry) (index : Nat) : Option AuditView :=
  entry.event.map (fun event => ⟨index + 1, entry.moment.getD now, event⟩)

/-- The latest audit entries, the newest first: at most `limit`, or all if that is a negative number
of 64 bits. -/
def recent (store : Store) (now : Moment) (limit : Nat) : Except StoreError (List AuditView) :=
  let numbered := store.trail.zipIdx.reverse
  let wanted := wrap64 limit
  let chosen := if wanted < 0 then numbered else numbered.take wanted.toNat
  match chosen.mapM (fun (entry, index) => view now entry index) with
  | some views => .ok views
  | none => .error .unreadable

/-- The audit events that can be read, the oldest first. -/
def events (store : Store) : List AuditEvent := store.trail.filterMap AuditEntry.event

end Store

end DeviceStandby
