import DeviceStandby.Proofs.Recoveries

/-!
# The stored document mirrors the exemption table

As long as the store works, what is stored is the document of the table, and reading it gives the
table back (`Admission.Mirrored`).  An operation that does not save changes nothing, so it keeps
this.

The numbers of the table have to fit the fields that they are read from.  They do if the numbers of
every request do and no exemption ends later than the clock can tell (`Operation.Fits`).
-/

namespace DeviceStandby

/-! ## Numbers that fit -/

/-- The numbers that an operation is given have the widths of the service, and no end of an
exemption that it grants is beyond the clock. -/
def Operation.Fits (a : Admission) : Operation → Prop
  | .grant request pid =>
    Width.int32.holds request.uid = true ∧ Width.int32.holds pid = true ∧
      ∀ mask, Admission.requested request.mask = .ok mask →
        ∀ grant ∈ a.grantsOf request mask, Width.int64.holds (a.host.now + grant.2) = true
  | _ => True

/-- If the move is an operation, its numbers fit. -/
def Move.Fits (a : Admission) : Move → Prop
  | .operate operation => operation.Fits a
  | _ => True

/-- The numbers of every operation of a run fit when it is its turn. -/
def Admission.RunFits : Admission → List Move → Prop
  | _, [] => True
  | a, move :: moves => move.Fits a ∧ (a.move move).RunFits moves

namespace Record.Storable

variable {record : Record}

lemma keepOnly (h : record.Storable) (keep : Entry → Bool)
    (hleft : record.entries.filter keep ≠ []) : (record.keepOnly keep).Storable := by
  refine ⟨h.1.keepOnly keep hleft, ?_⟩
  have hfits := h.2
  simp only [fits, Record.keepOnly, Bool.and_eq_true, List.all_eq_true] at hfits ⊢
  exact ⟨hfits.1, fun entry hmem => hfits.2 entry (List.mem_of_mem_filter hmem)⟩

end Record.Storable

/-! ## What a grant makes of the numbers -/

namespace Record

variable {record : Record} {now : Int} {reason : String} {grants : List (Resource × Nat)}

lemma reasonCode_fits (code : ReasonCode) : Width.word32.holds code.number = true := by
  cases code <;> decide

lemma index_fits (kind : Resource) : Width.word32.holds kind.index = true := by
  cases kind <;> decide

/-- If a record fits, and the ends of the exemptions that are granted do, then it fits after they
were granted. -/
lemma fits_extendAll (reason : String) (h : record.fits = true)
    (hgrants : ∀ grant ∈ grants, Width.int64.holds (now + grant.2) = true) :
    (record.extendAll now reason grants).fits = true := by
  obtain ⟨huid, hpid, hcode, hentries⟩ := fits_iff.1 h
  refine fits_iff.2 ⟨by simpa using huid, by simpa using hpid, by simpa using hcode, ?_⟩
  intro entry hmem
  rcases mem_extendAll hmem with ⟨old, hold, hindex, hend⟩ | ⟨grant, hgrant, hindex, hend⟩
  · rw [← hindex, ← hend]
    exact hentries old hold
  · rw [← hindex, ← hend]
    exact ⟨index_fits grant.1, hgrants grant hgrant⟩

end Record

namespace Admission

variable {a : Admission}

/-- The record after a grant is storable, unless it is empty. -/
lemma recordAfter_storable {request : Request} {mask : Mask} {pid : Pid}
    (htable : a.table.Holds Record.Storable) (huid : 0 ≤ request.uid)
    (hfits : (Operation.grant request pid).Fits a)
    (hrequested : requested request.mask = .ok mask)
    (hmask : (a.recordAfter request mask pid).mask ≠ 0) :
    (a.recordAfter request mask pid).Storable := by
  refine ⟨recordAfter_wellFormed (htable.mono (fun _ h => h.1)) huid hmask, ?_⟩
  obtain ⟨huid32, hpid32, hgrants⟩ := hfits
  have hbefore : (a.recordBefore request pid).fits = true := by
    unfold recordBefore
    cases hget : a.table.get? (recordKey request.uid request.name) with
    | none =>
      exact Record.fits_iff.2 ⟨huid32, hpid32, Record.reasonCode_fits _, by simp [Record.blank]⟩
    | some record => exact (htable _ record hget).2.2
  have hextended := Record.fits_extendAll request.reason hbefore (hgrants mask hrequested)
  unfold recordAfter
  split
  case isTrue => exact hextended
  case isFalse =>
    obtain ⟨huid', -, hcode, hentries⟩ := Record.fits_iff.1 hextended
    exact Record.fits_iff.2 ⟨huid', hpid32, hcode, hentries⟩

/-! ## The invariant -/

/-- The store works, the table can be read back from its document, and its document is what is
stored; there may be none while the table is empty. -/
structure Mirrored (a : Admission) : Prop where
  storable : a.table.Holds Record.Storable
  saving : a.host.store.failSave = false
  document : a.document? = some (some a.table.toValue) ∨ a.document? = none ∧ a.table = Table.empty

lemma Mirrored.wellFormed (h : a.Mirrored) : a.table.WellFormed :=
  h.storable.mono (fun _ hrecord => hrecord.1)

lemma perform_storable (operation : Operation) (hfits : operation.Fits a)
    (h : a.table.Holds Record.Storable) : (a.perform operation).table.Holds Record.Storable := by
  refine perform_holds (fun _ hrecord => hrecord.1.toSound)
    (fun _ keep hrecord => hrecord.keepOnly keep) operation ?_ h
  rintro request pid mask rfl hrequested huid hmask
  exact recordAfter_storable h huid hfits hrequested hmask

/-- Every move whose numbers fit keeps the invariant, if it does not make the store fail. -/
lemma Mirrored.move (h : a.Mirrored) {move : Move} (hfits : move.Fits a)
    (hsaves : move ≠ .fail .save true) : (a.move move).Mirrored := by
  cases move with
  | operate operation =>
    refine ⟨perform_storable operation hfits h.storable,
      (a.perform_failSave operation).trans h.saving, ?_⟩
    show (a.perform operation).document? = some (some (a.perform operation).table.toValue) ∨
      (a.perform operation).document? = none ∧ (a.perform operation).table = Table.empty
    rcases a.perform_saves operation h.wellFormed with hsaved | ⟨hdoc, htable⟩
    · exact Or.inl hsaved
    · rw [hdoc, htable h.saving]
      exact h.document
  | advance | setWall | reload => exact ⟨h.storable, h.saving, h.document⟩
  | fail failing on =>
    cases failing with
    | save =>
      cases on with
      | true => exact absurd rfl hsaves
      | false => exact ⟨h.storable, rfl, h.document⟩
    | arm | post | acquire | release | load | audit => exact ⟨h.storable, h.saving, h.document⟩

lemma Mirrored.run (h : a.Mirrored) {moves : List Move} (hfits : a.RunFits moves)
    (hsaves : Move.fail .save true ∉ moves) : (a.run moves).Mirrored := by
  induction moves generalizing a with
  | nil => exact h
  | cons move moves ih =>
    have hnext : (a.move move).Mirrored :=
      h.move hfits.1 (fun heq => hsaves (heq ▸ List.mem_cons_self))
    exact ih hnext hfits.2 (fun hmem => hsaves (List.mem_cons_of_mem _ hmem))

end Admission

end DeviceStandby
