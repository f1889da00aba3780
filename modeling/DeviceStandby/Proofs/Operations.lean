import DeviceStandby.Exemption.Revoke
import DeviceStandby.Proofs.Grants
import DeviceStandby.Simulation.Session

/-!
# Operations on the exemption table, and runs of them

An `Operation` is anything that callers, the engine and its timers can do to the exemption table; a
`Move` is an operation or a change of what surrounds the table.  `Admission.run` makes a list of
moves one after the other.

However many operations there are, they change the table in two ways only
(`Admission.perform_cases`): one grants kinds to an owner, and all others take exemptions out, owner
by owner: they make a `Revocation`, and then `Admission.settle` saves the table, unless nothing was
taken out, and tells of every loss.  What holds of these two ways holds of all operations.
-/

namespace DeviceStandby

/-- What can be done to an exemption table. -/
inductive Operation where
  | grant (request : Request) (pid : Pid)
  | unapply (request : Request)
  | revoke (uid : Uid) (name : String) (mask : Mask) (force : Bool)
  | removeApp (uid : Uid) (name : String) (resetAll : Bool)
  | allowList (mask : Mask) (code : ReasonCode)
  | restrictSet (mask : Mask) (strategy : String) (code : ReasonCode)
  /-- A timer of the table has fired. -/
  | expire (uid : Uid) (name : String) (mask : Mask)

/-- What can happen to an exemption table and to what surrounds it. -/
inductive Move where
  | operate (operation : Operation)
  /-- Time goes by; the timers that fire are heeded by later operations. -/
  | advance (millis : Nat)
  | setWall (moment : Moment)
  | reload (policy : Policy)
  /-- A collaborator begins to fail, or works again. -/
  | fail (failing : Failing) (on : Bool)

namespace Admission

/-- The table and its surroundings after an operation, whether or not it succeeded. -/
def perform (a : Admission) : Operation → Admission
  | .grant request pid => (a.grant request pid).2
  | .unapply request => (a.unapply request).2
  | .revoke uid name mask force => a.revoke uid name mask force
  | .removeApp uid name resetAll => a.removeApp uid name resetAll
  | .allowList mask code => (a.allowList mask code).2
  | .restrictSet mask strategy code => (a.restrictSet mask strategy code).2
  | .expire uid name mask => a.revoke uid name mask false

/-- The table and its surroundings after a move. -/
def move (a : Admission) : Move → Admission
  | .operate operation => a.perform operation
  | .advance millis => { a with host := { a.host with timers := (a.host.timers.advance millis).2 } }
  | .setWall moment => { a with host := { a.host with wall := moment } }
  | .reload policy => { a with policy }
  | .fail failing on => { a with host := a.host.setFailing failing on }

/-- The table and its surroundings after some moves. -/
def run (a : Admission) (moves : List Move) : Admission := moves.foldl move a

@[simp] lemma run_nil (a : Admission) : a.run [] = a := rfl

@[simp] lemma run_cons (a : Admission) (move : Move) (moves : List Move) :
    a.run (move :: moves) = (a.move move).run moves := rfl

lemma run_append (a : Admission) (moves more : List Move) :
    a.run (moves ++ more) = (a.run moves).run more := List.foldl_append

end Admission

/-! ## What operations come to -/

namespace Admission

/-- Takes over a table from which something was taken out: it is saved, unless nothing was, and the
owners' losses are told one by one. -/
def settle (a : Admission) (table : RecordTable) (reaped : List Revoked) : Admission :=
  let a := { a with table }
  let a := if reaped.isEmpty then a else a.persist
  reaped.foldl (fun a revoked => a.notify revoked.uid revoked.name revoked.removed false) a

/-- The table that was taken over, before the losses are told. -/
def settled (a : Admission) (table : RecordTable) (reaped : List Revoked) : Admission :=
  if reaped.isEmpty then { a with table } else ({ a with table } : Admission).persist

/-- Telling of the losses leaves alone whatever telling of one loss does. -/
lemma settle_frame {α : Type} (view : Admission → α)
    (hnotify : ∀ (a : Admission) (uid : Uid) (name : String) (mask : Mask),
      view (a.notify uid name mask false) = view a)
    (a : Admission) (table : RecordTable) (reaped : List Revoked) :
    view (a.settle table reaped) = view (a.settled table reaped) := by
  have htold : ∀ (reaped : List Revoked) (b : Admission), view (reaped.foldl (fun b revoked =>
      b.notify revoked.uid revoked.name revoked.removed false) b) = view b := by
    intro reaped
    induction reaped with
    | nil => exact fun _ => rfl
    | cons revoked reaped ih => exact fun b => (ih _).trans (hnotify _ _ _ _)
  exact htold reaped _

@[simp] lemma settle_table (a : Admission) (table : RecordTable) (reaped : List Revoked) :
    (a.settle table reaped).table = table := by
  rw [settle_frame Admission.table (fun _ _ _ _ => rfl), settled]
  split <;> rfl

lemma revoke_table (a : Admission) (uid : Uid) (name : String) (mask : Mask) (force : Bool) :
    (a.revoke uid name mask force).table
      = (revokeEntries a.table (recordKey uid name) mask force a.host.now).2 := by
  unfold revoke
  rcases h : revokeEntries a.table (recordKey uid name) mask force a.host.now with
    ⟨_ | revoked, table⟩
  · exact (revokeEntries_eq_of_none h).symm
  · rfl

/-- Revoking settles a chain of revocations. -/
lemma revoke_settles (a : Admission) (uid : Uid) (name : String) (mask : Mask) (force : Bool) :
    ∃ reaped table, Revocation a.host.now a.table reaped table ∧
      a.revoke uid name mask force = a.settle table reaped := by
  have hchain := Revocation.of_revokeEntries a.table (recordKey uid name) mask force a.host.now
  rcases h : revokeEntries a.table (recordKey uid name) mask force a.host.now with ⟨revoked, table⟩
  rw [h] at hchain
  cases revoked with
  | none => exact ⟨[], a.table, .done a.table, by rw [revoke, h]; rfl⟩
  | some revoked => exact ⟨[revoked], table, hchain, by rw [revoke, h]; rfl⟩

/-- Asking for exemptions settles a chain of revocations. -/
lemma allowList_settles (a : Admission) (raw : Mask) (code : ReasonCode) :
    ∃ reaped table, Revocation a.host.now a.table reaped table ∧
      (a.allowList raw code).2 = a.settle table reaped := by
  unfold allowList
  split
  · exact ⟨[], a.table, .done a.table, rfl⟩
  · exact ⟨_, _, .of_scan code a.host.now _ a.table, rfl⟩

/-- A grant is refused, and then it changes nothing, or it grants the kinds that it names to a valid
owner. -/
lemma grant_cases (a : Admission) (request : Request) (pid : Pid) :
    (∃ error, a.grant request pid = (.error error, a)) ∨
    ∃ mask, requested request.mask = .ok mask ∧ 0 ≤ request.uid ∧ 0 ≤ request.durationSecs ∧
      a.grant request pid = (.ok (), a.grantKinds request mask pid) := by
  unfold grant
  split
  case h_1 => exact Or.inl ⟨_, rfl⟩
  case h_2 mask hmask =>
    split
    case isTrue => exact Or.inl ⟨_, rfl⟩
    case isFalse huid =>
      split
      case isTrue => exact Or.inl ⟨_, rfl⟩
      case isFalse hduration =>
        exact Or.inr ⟨mask, hmask, by simpa [Uid.isValid] using huid, by omega, rfl⟩

/-- Taking back is refused, and then it changes nothing, or it revokes what the request names. -/
lemma unapply_cases (a : Admission) (request : Request) :
    (∃ error, a.unapply request = (.error error, a)) ∨
    (∃ mask, requested request.mask = .ok mask) ∧
      a.unapply request = (.ok (), a.revoke request.uid request.name request.mask true) := by
  unfold unapply
  split
  case h_1 => exact Or.inl ⟨_, rfl⟩
  case h_2 mask hmask =>
    split
    case isTrue => exact Or.inl ⟨_, rfl⟩
    case isFalse => exact Or.inr ⟨⟨mask, hmask⟩, rfl⟩

/-- An operation either grants kinds to a valid owner, or it settles a chain of revocations, which
may be empty. -/
theorem perform_cases (a : Admission) (operation : Operation) :
    (∃ request pid mask, operation = .grant request pid ∧ requested request.mask = .ok mask ∧
      0 ≤ request.uid ∧ 0 ≤ request.durationSecs ∧
      a.perform operation = a.grantKinds request mask pid) ∨
    (∃ reaped table, Revocation a.host.now a.table reaped table ∧
      a.perform operation = a.settle table reaped) := by
  have unchanged : ∃ reaped table, Revocation a.host.now a.table reaped table ∧
      a = a.settle table reaped := ⟨[], a.table, .done a.table, rfl⟩
  cases operation with
  | grant request pid =>
    rw [perform]
    rcases a.grant_cases request pid with ⟨error, hrefused⟩ | ⟨mask, hmask, huid, hduration, hgrant⟩
    · rw [hrefused]
      exact Or.inr unchanged
    · rw [hgrant]
      exact Or.inl ⟨request, pid, mask, rfl, hmask, huid, hduration, rfl⟩
  | unapply request =>
    rw [perform]
    rcases a.unapply_cases request with ⟨error, hrefused⟩ | ⟨-, hrevoke⟩
    · rw [hrefused]
      exact Or.inr unchanged
    · rw [hrevoke]
      exact Or.inr (a.revoke_settles _ _ _ _)
  | revoke uid name mask force => exact Or.inr (a.revoke_settles uid name mask force)
  | removeApp uid name resetAll => exact Or.inr (a.revoke_settles uid name _ true)
  | allowList mask code => exact Or.inr (a.allowList_settles mask code)
  | restrictSet mask strategy code =>
    have hsame : (a.restrictSet mask strategy code).2 = (a.allowList mask code).2 := by
      rcases h : a.allowList mask code with ⟨_ | list, b⟩ <;> simp [restrictSet, h]
    rw [perform, hsame]
    exact Or.inr (a.allowList_settles mask code)
  | expire uid name mask => exact Or.inr (a.revoke_settles uid name mask false)

/-- An operation keeps a property of sound records that passes to the records that are left, and
that the new record has if it is a grant, unless that is empty. -/
lemma perform_holds {a : Admission} {P : Record → Prop}
    (hsound : ∀ record, P record → record.Sound)
    (hkeep : ∀ record keep, P record → record.entries.filter keep ≠ [] →
      P (record.keepOnly keep))
    (operation : Operation)
    (hafter : ∀ request pid mask, operation = .grant request pid →
      requested request.mask = .ok mask → 0 ≤ request.uid →
      (a.recordAfter request mask pid).mask ≠ 0 → P (a.recordAfter request mask pid))
    (h : a.table.Holds P) : (a.perform operation).table.Holds P := by
  rcases a.perform_cases operation with
    ⟨request, pid, mask, hgrant, hmask, huid, -, hperform⟩ | ⟨reaped, table, hchain, hperform⟩
  · rw [hperform]
    exact grantKinds_holds hsound h (hafter request pid mask hgrant hmask huid)
  · rw [hperform, settle_table]
    exact hchain.holds hsound hkeep h

/-- What every operation keeps of the records, every run keeps. -/
lemma run_holds {P : Record → Prop} (hperform : ∀ (a : Admission) (operation : Operation),
      a.table.Holds P → (a.perform operation).table.Holds P)
    {a : Admission} (h : a.table.Holds P) (moves : List Move) : (a.run moves).table.Holds P := by
  induction moves generalizing a with
  | nil => exact h
  | cons move moves ih =>
    refine ih ?_
    cases move with
    | operate operation => exact hperform a operation h
    | advance | setWall | reload | fail => exact h

/-- No operation changes the policy. -/
lemma perform_policy (a : Admission) (operation : Operation) :
    (a.perform operation).policy = a.policy := by
  rcases a.perform_cases operation with
    ⟨request, pid, mask, -, -, -, -, hperform⟩ | ⟨reaped, table, -, hperform⟩
  · rw [hperform, grantKinds_eq]
    unfold grantSaved
    split <;> split <;> rfl
  · rw [hperform, settle_frame Admission.policy (fun _ _ _ _ => rfl)]
    unfold settled
    split <;> rfl

/-- No operation takes time. -/
lemma perform_now (a : Admission) (operation : Operation) :
    (a.perform operation).host.now = a.host.now := by
  rcases a.perform_cases operation with
    ⟨request, pid, mask, -, -, -, -, hperform⟩ | ⟨reaped, table, -, hperform⟩
  · rw [hperform, grantKinds_now]
  · rw [hperform, settle_frame (fun a => a.host.now) (fun _ _ _ _ => notify_now _ _ _ _ _)]
    unfold settled
    split <;> rfl

end Admission

/-! ## An example -/

/-- A policy that lets the app `mail` use the network for a minute, by day and by night. -/
def mailPolicy : Policy where
  version := none
  plugin := defaultPluginName
  dataDir := "/data"
  napSwitch := true
  sleepSwitch := true
  timeouts := {}
  napIntervals := [900]
  sleepIntervals := [3600]
  night := defaultNight
  strategies := []
  resources := [(.network, [{
    isAllow := true
    conditions := [Condition.known]
    processes := Table.empty
    apps := Table.empty
    limitedProcesses := []
    limitedApps := [⟨"mail", 60⟩] }])]

/-- The app `mail` asks for the network and for scheduled work, both for ten minutes. -/
def mailRequest : Request where
  mask := Resource.network.bit ||| Resource.workScheduler.bit
  uid := 10001
  name := "mail"
  durationSecs := 600
  reason := "sync"
  reasonCode := .app

/-- An empty exemption table under the policy for `mail`. -/
def Admission.forMail : Admission := ⟨Table.empty, mailPolicy, {}⟩

end DeviceStandby
