import DeviceStandby.Proofs.OwnerIsolation

/-!
# Apps act only on kinds that they declared

An app that did not declare every kind may name any kinds in a request, but what it asks for is
first narrowed to the kinds that it declared one by one (`Caller.mayChange`), and nothing is a
reason to widen it again: a request that is empty then is refused.  So a grant, and taking back as
well, changes no other exemptions than those of the owner in the request and of these kinds
(`Admission.ChangesOnly`), and codes that are no code of a kind, below or above, open nothing.

Both operations are first described by the places in the mask of a request; who calls matters only
for the mask that is left (`Engine.getLsbD_narrowed`).
-/

namespace DeviceStandby

/-! ## The kinds that an app may change -/

lemma Resource.ofIndex?_eq_some_iff {index : Nat} {kind : Resource} :
    ofIndex? index = some kind ↔ kind.index = index := by
  constructor
  · intro h
    simpa using List.find?_some h
  · rintro rfl
    exact ofIndex?_index kind

/-- There is a kind at every place from 1 to 7. -/
lemma Resource.exists_index {index : Nat} (h : 1 ≤ index ∧ index ≤ 7) :
    ∃ kind : Resource, kind.index = index := by
  have hall : ∀ i : Fin 8, 1 ≤ i.val → ∃ kind ∈ Resource.all, kind.index = i.val := by decide
  obtain ⟨kind, -, hkind⟩ := hall ⟨index, by omega⟩ h.1
  exact ⟨kind, hkind⟩

namespace Caller

/-- Whether an app that declared these codes may change the exemption at a place when it asks for
`mask`: it declared the code of the kind at this place, one from 101 to 107, and it asks for this
kind. -/
def mayChange (declared : List Nat) (mask : Mask) (index : Nat) : Bool :=
  declared.any (fun code => 101 ≤ code && code ≤ 107 && code - 100 = index) && mask.getLsbD index

/-- Codes count as far as they are codes of kinds. -/
lemma getLsbD_declaredMask (declared : List Nat) (i : Nat) : (declaredMask declared).getLsbD i
    = declared.any (fun code => 101 ≤ code && code ≤ 107 && code - 100 = i) := by
  refine (Mask.getLsbD_foldl_bit_zero Resource.index _ i).trans ?_
  rw [Bool.eq_iff_iff, Bool.and_eq_true, decide_eq_true_iff, decide_eq_true_iff, List.any_eq_true]
  simp only [List.mem_map, List.mem_filterMap, List.mem_filter, decide_eq_true_iff,
    Resource.ofIndex?_eq_some_iff, Bool.and_eq_true, everyKind]
  constructor
  · rintro ⟨-, kind, ⟨code, ⟨hcode, -⟩, hkind⟩, rfl⟩
    have := kind.index_mem
    exact ⟨code, hcode, ⟨by omega, by omega⟩, hkind.symm⟩
  · rintro ⟨code, hcode, ⟨hleast, hgreatest⟩, rfl⟩
    obtain ⟨kind, hkind⟩ : ∃ kind : Resource, kind.index = code - 100 :=
      Resource.exists_index (by omega)
    exact ⟨by omega, kind, ⟨code, ⟨hcode, decide_eq_true (by omega)⟩, hkind⟩, hkind⟩

variable {caller : Caller} {permission systemApp : Bool} {declared : List Nat}

lemma getLsbD_exempted (hkind : caller.kind = .app permission systemApp declared)
    (hdeclared : everyKind ∉ declared) (mask : Mask) (i : Nat) :
    (caller.exempted mask).getLsbD i = mayChange declared mask i := by
  have hsingle : declared.contains everyKind = false := by simpa using hdeclared
  rw [exempted, hkind]
  dsimp only
  rw [if_neg (by rw [hsingle]; exact Bool.false_ne_true), BitVec.getLsbD_and, getLsbD_declaredMask,
    mayChange]

end Caller

/-! ## Exemptions at other places -/

/-- Prolonging the exemption at one of some places leaves those at all others as they are. -/
lemma filter_extendEntries (places : Nat → Bool) {index : Nat} (h : places index = true)
    (endTime : Int) (reason : String) (entries : List Entry) :
    (extendEntries index endTime reason entries).filter (fun entry => !places entry.index)
      = entries.filter (fun entry => !places entry.index) := by
  induction entries with
  | nil => simp [extendEntries, h]
  | cons entry rest ih =>
    unfold extendEntries
    split
    case isTrue heq => simp [heq, h]
    case isFalse => rw [List.filter_cons, List.filter_cons, ih]

lemma Record.filter_extendAll (places : Nat → Bool) {grants : List (Resource × Nat)}
    (h : ∀ grant ∈ grants, places grant.1.index = true) (record : Record) (now : Int)
    (reason : String) :
    (record.extendAll now reason grants).entries.filter (fun entry => !places entry.index)
      = record.entries.filter (fun entry => !places entry.index) := by
  unfold extendAll
  induction grants generalizing record with
  | nil => rfl
  | cons grant grants ih =>
    obtain ⟨hfirst, hrest⟩ := List.forall_mem_cons.1 h
    exact (ih hrest _).trans (filter_extendEntries places hfirst _ _ _)

namespace Admission

/-- The exemptions of an owner. -/
def entriesOf (a : Admission) (uid : Uid) (name : String) : List Entry :=
  ((a.record? uid name).map Record.entries).getD []

/-- From `a` to `b` nothing was changed but exemptions of the owner `name` of the user `uid` at the
places that pass a test. -/
structure ChangesOnly (uid : Uid) (name : String) (places : Nat → Bool) (a b : Admission) :
    Prop where
  others : ∀ uid' name', (uid', name') ≠ (uid, name) → b.record? uid' name' = a.record? uid' name'
  rest : (b.entriesOf uid name).filter (fun entry => !places entry.index)
    = (a.entriesOf uid name).filter (fun entry => !places entry.index)

variable {a : Admission} {request : Request} {mask : Mask} {pid : Pid} {uid : Uid} {name : String}
  {places : Nat → Bool}

lemma ChangesOnly.refl (uid : Uid) (name : String) (places : Nat → Bool) (a : Admission) :
    ChangesOnly uid name places a a := ⟨fun _ _ _ => rfl, rfl⟩

/-- What stays at all places but some stays at all but more. -/
lemma ChangesOnly.mono {b : Admission} {more : Nat → Bool}
    (h : ChangesOnly uid name places a b) (hmore : ∀ i, places i = true → more i = true) :
    ChangesOnly uid name more a b where
  others := h.others
  rest := by
    have hrest := congrArg (List.filter (fun entry : Entry => !more entry.index)) h.rest
    have hboth : ∀ entry : Entry,
        (!more entry.index && !places entry.index) = !more entry.index := by
      intro entry
      cases hplace : places entry.index with
      | true => simp [hmore _ hplace]
      | false => simp
    simpa [List.filter_filter, hboth] using hrest

/-! ## Grants -/

lemma entries_recordBefore (a : Admission) (request : Request) (pid : Pid) :
    (a.recordBefore request pid).entries = a.entriesOf request.uid request.name := by
  unfold recordBefore entriesOf record?
  cases a.table.get? (recordKey request.uid request.name) <;> rfl

/-- After a grant the owner has the exemptions of the new record, also if there are none. -/
lemma entriesOf_grantKinds (htable : a.table.WellFormed) :
    (a.grantKinds request mask pid).entriesOf request.uid request.name
      = (a.recordAfter request mask pid).entries := by
  rw [entriesOf, record?, grantKinds_table]
  by_cases hmask : (a.recordAfter request mask pid).mask = 0
  · rw [tableAfter, if_pos hmask, Table.get?_erase, if_pos rfl,
      (recordAfter_sound htable.sound).mask_eq_zero_iff.1 hmask]
    rfl
  · rw [get?_tableAfter_owner hmask]
    rfl

lemma changesOnly_grantKinds (htable : a.table.WellFormed) (request : Request) (mask : Mask)
    (pid : Pid) :
    ChangesOnly request.uid request.name mask.getLsbD a (a.grantKinds request mask pid) where
  others := (a.confined_grantKinds request mask pid).others
  rest := by
    have hgrants : ∀ grant ∈ a.grantsOf request mask, mask.getLsbD grant.1.index = true :=
      fun grant hgrant => (Policy.mem_grants hgrant).1
    rw [entriesOf_grantKinds htable, recordAfter_entries, ← a.entries_recordBefore request pid]
    exact Record.filter_extendAll mask.getLsbD hgrants _ _ _

/-- A grant changes nothing but exemptions of the kinds that it is asked for. -/
lemma changesOnly_grant (htable : a.table.WellFormed) (request : Request) (pid : Pid) :
    ChangesOnly request.uid request.name request.mask.getLsbD a (a.grant request pid).2 := by
  rcases a.grant_cases request pid with ⟨error, hrefused⟩ | ⟨mask, hmask, -, -, hgrant⟩
  · rw [hrefused]
    exact .refl _ _ _ a
  · rw [hgrant]
    refine (changesOnly_grantKinds htable request mask pid).mono (fun i hi => ?_)
    rw [(requested_eq_ok hmask).1, BitVec.getLsbD_and, Bool.and_eq_true] at hi
    exact hi.1

/-- A grant takes nothing from the owner. -/
lemma exists_mem_entriesOf_grant (htable : a.table.WellFormed) (request : Request) (pid : Pid)
    {entry : Entry} (h : entry ∈ a.entriesOf request.uid request.name) :
    ∃ last ∈ (a.grant request pid).2.entriesOf request.uid request.name,
      last.index = entry.index ∧ entry.endTime ≤ last.endTime := by
  rcases a.grant_cases request pid with ⟨error, hrefused⟩ | ⟨mask, -, -, -, hgrant⟩
  · rw [hrefused]
    exact ⟨entry, h, rfl, Int.le_refl _⟩
  · rw [hgrant, entriesOf_grantKinds htable, recordAfter_entries]
    rw [← a.entries_recordBefore request pid] at h
    exact Record.exists_mem_extendAll_of_mem _ _ _ h

/-! ## Revocations -/

/-- After a revocation the owner has the exemptions that were not to be taken out, also if there are
none. -/
lemma entriesOf_revoke (htable : a.table.WellFormed) (uid : Uid) (name : String) (mask : Mask)
    (force : Bool) : (a.revoke uid name mask force).entriesOf uid name
      = (a.entriesOf uid name).filter (fun entry => !entry.isRevoked mask force a.host.now) := by
  rw [entriesOf, entriesOf, record?, record?, revoke_table]
  rcases h : revokeEntries a.table (recordKey uid name) mask force a.host.now with
    ⟨_ | revoked, table⟩
  · obtain rfl := revokeEntries_eq_of_none h
    cases hget : a.table.get? (recordKey uid name) with
    | none => rfl
    | some record =>
      have hkept := revokeEntries_none hget (htable.sound _ record hget).2.mask_eq h
      refine (List.filter_eq_self.2 (fun entry hmem => ?_)).symm
      rw [hkept entry hmem, Bool.not_false]
  · obtain ⟨record, hget, -, -, rfl⟩ :=
      revokeEntries_some (fun record hget => (htable.sound _ record hget).2) h
    rw [hget]
    split
    case isTrue hnil =>
      rw [Table.get?_erase, if_pos rfl]
      exact hnil.symm
    case isFalse =>
      rw [Table.get?_insert, if_pos rfl]
      rfl

/-- A revocation changes nothing but exemptions of the kinds that it is asked for. -/
lemma changesOnly_revoke (htable : a.table.WellFormed) (uid : Uid) (name : String) (mask : Mask)
    (force : Bool) : ChangesOnly uid name mask.getLsbD a (a.revoke uid name mask force) where
  others := (confined_revoke htable uid name mask force).others
  rest := by
    rw [entriesOf_revoke htable, List.filter_filter]
    refine List.filter_congr (fun entry _ => ?_)
    -- An entry at another place is not revoked.
    cases hplace : mask.getLsbD entry.index with
    | true => rfl
    | false =>
      have hkept : entry.isRevoked mask force a.host.now = false := by
        rw [← Bool.not_eq_true, Entry.isRevoked_iff, hplace]
        exact fun hrevoked => Bool.false_ne_true hrevoked.1
      rw [hkept]
      rfl

lemma changesOnly_unapply (htable : a.table.WellFormed) (request : Request) :
    ChangesOnly request.uid request.name request.mask.getLsbD a (a.unapply request).2 := by
  rcases a.unapply_cases request with ⟨error, hrefused⟩ | ⟨-, hrevoke⟩
  · rw [hrefused]
    exact .refl _ _ _ a
  · rw [hrevoke]
    exact changesOnly_revoke htable _ _ _ true

/-- Taking back gives nothing to the owner. -/
lemma entriesOf_unapply_sublist (htable : a.table.WellFormed) (request : Request) :
    ((a.unapply request).2.entriesOf request.uid request.name).Sublist
      (a.entriesOf request.uid request.name) := by
  rcases a.unapply_cases request with ⟨error, hrefused⟩ | ⟨-, hrevoke⟩
  · rw [hrefused]
  · rw [hrevoke, entriesOf_revoke htable]
    exact List.filter_sublist

/-! ## Refusals -/

lemma not_requested_zero : ¬ ∃ mask, requested 0 = .ok mask := by
  rintro ⟨mask, hmask⟩
  exact (requested_eq_ok hmask).2 BitVec.zero_and

/-- A request that names nothing is refused. -/
lemma grant_refused (a : Admission) (h : request.mask = 0) (pid : Pid) :
    ∃ error, a.grant request pid = (.error error, a) := by
  refine (a.grant_cases request pid).resolve_right ?_
  rintro ⟨mask, hmask, -⟩
  exact not_requested_zero ⟨mask, h ▸ hmask⟩

lemma unapply_refused (a : Admission) (h : request.mask = 0) :
    ∃ error, a.unapply request = (.error error, a) := by
  refine (a.unapply_cases request).resolve_right ?_
  rintro ⟨hmask, -⟩
  exact not_requested_zero (h ▸ hmask)

end Admission

/-! ## Calls of apps -/

namespace Engine

variable {e : Engine} {caller : Caller} {permission systemApp : Bool} {declared : List Nat}
  {request : Request} {α : Type} {admitted : Except ServiceError Unit}
  {act : Admission → Except ServiceError α × Admission}

/-- What an operation on the table does, a call does, unless it is not admitted. -/
lemma onTable_induct {P : Admission → Prop} (hrefused : P e.toAdmission)
    (hadmitted : P (act e.toAdmission).2) : P (e.onTable admitted act).2.toAdmission := by
  unfold onTable
  split
  · exact hrefused
  · exact hadmitted

/-- A call that is not admitted, or whose operation is refused, changes nothing. -/
lemma onTable_refused (h : (∃ error, admitted = .error error) ∨
      ∃ error, act e.toAdmission = (.error error, e.toAdmission)) :
    ∃ error, e.onTable admitted act = (.error error, e) := by
  cases admitted with
  | error error => exact ⟨error, rfl⟩
  | ok =>
    rcases h with ⟨error, herror⟩ | ⟨error, herror⟩
    · cases herror
    · refine ⟨error, ?_⟩
      rw [onTable, herror]
      rfl

/-- An app is not admitted without the permission, if it is no system app, or through the interface
for native callers. -/
lemma authorize_refused (hkind : caller.kind = .app permission systemApp declared)
    {code : ReasonCode} (h : permission = false ∨ systemApp = false ∨ code ≠ .app) :
    ∃ error, e.authorize caller (some code) = .error error := by
  have hcaller : ∃ error, caller.permitted (some code) = .error error := by
    unfold Caller.permitted
    rw [hkind]
    rcases h with rfl | rfl | hcode
    · exact ⟨_, rfl⟩
    · cases permission <;> exact ⟨_, rfl⟩
    · cases code with
      | native => cases permission <;> cases systemApp <;> exact ⟨_, rfl⟩
      | app => exact absurd rfl hcode
  obtain ⟨error, herror⟩ := hcaller
  unfold authorize ensureReady
  split
  · exact ⟨error, herror⟩
  · exact ⟨_, rfl⟩

/-- What is left of a request are the kinds that the app may change. -/
lemma getLsbD_narrowed (hkind : caller.kind = .app permission systemApp declared)
    (hdeclared : Caller.everyKind ∉ declared) :
    (narrowed caller request).mask.getLsbD = Caller.mayChange declared request.mask :=
  funext (Caller.getLsbD_exempted hkind hdeclared request.mask)

end Engine

/-- An app that did not declare every kind, and that asks for exemptions or takes them back, changes
at most those exemptions of the owner in its request whose kinds it declared by codes of their own
and asks for.  A grant takes no exemption away and shortens none, and taking back adds none.  If
there is no such kind, or the app may not act, both are refused and change nothing at all. -/
theorem apps_change_declared_kinds_only (e : Engine) (caller : Caller) (request : Request)
    (permission systemApp : Bool) (declared : List Nat) (htable : e.table.WellFormed)
    (hkind : caller.kind = .app permission systemApp declared)
    (hdeclared : Caller.everyKind ∉ declared) :
    let places := Caller.mayChange declared request.mask
    let granted := (e.apply caller request).2
    let taken := (e.unapply caller request).2
    Admission.ChangesOnly request.uid request.name places e.toAdmission granted.toAdmission ∧
    (∀ entry ∈ e.entriesOf request.uid request.name,
      ∃ last ∈ granted.entriesOf request.uid request.name,
        last.index = entry.index ∧ entry.endTime ≤ last.endTime) ∧
    Admission.ChangesOnly request.uid request.name places e.toAdmission taken.toAdmission ∧
    (taken.entriesOf request.uid request.name).Sublist (e.entriesOf request.uid request.name) ∧
    (permission = false ∨ systemApp = false ∨ request.reasonCode ≠ .app ∨
        (∀ index, places index = false) →
      (∃ error, e.apply caller request = (.error error, e)) ∧
        ∃ error, e.unapply caller request = (.error error, e)) := by
  intro places granted taken
  have hplaces : (Engine.narrowed caller request).mask.getLsbD = places :=
    Engine.getLsbD_narrowed hkind hdeclared
  refine ⟨?_, ?_, ?_, ?_, ?_⟩
  · rw [← hplaces]
    exact Engine.onTable_induct (.refl _ _ _ _)
      (Admission.changesOnly_grant htable (Engine.narrowed caller request) caller.pid)
  · intro entry hmem
    refine Engine.onTable_induct (P := fun a => ∃ last ∈ a.entriesOf request.uid request.name,
      last.index = entry.index ∧ entry.endTime ≤ last.endTime) ?_ ?_
    · exact ⟨entry, hmem, rfl, Int.le_refl _⟩
    · exact Admission.exists_mem_entriesOf_grant htable (Engine.narrowed caller request) _ hmem
  · rw [← hplaces]
    exact Engine.onTable_induct (.refl _ _ _ _)
      (Admission.changesOnly_unapply htable (Engine.narrowed caller request))
  · refine Engine.onTable_induct (P := fun a => (a.entriesOf request.uid request.name).Sublist
      (e.entriesOf request.uid request.name)) ?_ ?_
    · exact List.Sublist.refl _
    · exact Admission.entriesOf_unapply_sublist htable (Engine.narrowed caller request)
  · intro hrefused
    have hcause : (∃ error, e.authorize caller (some request.reasonCode) = .error error) ∨
        (Engine.narrowed caller request).mask = 0 := by
      rcases hrefused with hmay | hmay | hmay | hnone
      · exact Or.inl (Engine.authorize_refused hkind (Or.inl hmay))
      · exact Or.inl (Engine.authorize_refused hkind (Or.inr (Or.inl hmay)))
      · exact Or.inl (Engine.authorize_refused hkind (Or.inr (Or.inr hmay)))
      · refine Or.inr (Mask.eq_zero_iff.2 (fun i => ?_))
        rw [hplaces]
        exact hnone i
    constructor
    · exact Engine.onTable_refused (hcause.imp_right (fun hzero => e.grant_refused hzero _))
    · exact Engine.onTable_refused (hcause.imp_right e.unapply_refused)

/-- The engine for `mail`, a second after it was granted its exemptions. -/
def Engine.servingMail : Engine :=
  { Engine.forMail {} with
    toAdmission := Admission.forMail.run [.operate (.grant mailRequest 77), .advance 1000]
    ready := true }

/-- An app that declared the network alone, besides codes that mean nothing, prolongs the exemption
from the network and takes it back, and cannot reach that for scheduled work. -/
theorem app_with_network_only_changes_network_only :
    let e := Engine.servingMail
    let caller := Caller.systemApp 10001 77 [99, 101, 108, 4294967295]
    let ends := fun after : Engine =>
      (after.entriesOf 10001 "mail").map (fun entry => (entry.index, entry.endTime))
    ends e = [(1, 60000), (4, 600000)] ∧
      ends (e.apply caller mailRequest).2 = [(1, 61000), (4, 600000)] ∧
      ends (e.unapply caller mailRequest).2 = [(4, 600000)] ∧
      Admission.ChangesOnly 10001 "mail"
        (Caller.mayChange [99, 101, 108, 4294967295] mailRequest.mask)
        e.toAdmission (e.unapply caller mailRequest).2.toAdmission ∧
      ∃ error, e.unapply caller { mailRequest with mask := Resource.workScheduler.bit }
        = (.error error, e) := by
  intro e caller ends
  have htable : e.table.WellFormed := Admission.run_wellFormed _ _ .empty
  obtain ⟨-, -, htaken, -, -⟩ := apps_change_declared_kinds_only e caller mailRequest true true _
    htable rfl (by decide)
  obtain ⟨-, -, -, -, hrefused⟩ := apps_change_declared_kinds_only e caller
    { mailRequest with mask := Resource.workScheduler.bit } true true _ htable rfl (by decide)
  refine ⟨by decide +kernel, by decide +kernel, by decide +kernel, htaken, ?_⟩
  refine (hrefused (Or.inr (Or.inr (Or.inr (fun index => ?_))))).2
  rw [← Bool.not_eq_true]
  intro hmay
  obtain ⟨rfl, hbit⟩ : 1 = index ∧ Resource.workScheduler.bit.getLsbD index = true := by
    simpa [Caller.mayChange] using hmay
  exact absurd hbit (by decide)

end DeviceStandby
