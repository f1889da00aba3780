import DeviceStandby.Host.Basic
import Mathlib.Tactic.Lemma

/-!
# What each operation of the host leaves alone

An operation of the host changes one of its parts: `Host.arm` and `Host.cancel` the timers,
`Host.post` and `Host.announce` the queue, `Host.audit` and `Host.save` the store.  Here is, for
each of them, that the other parts stay, and of the part that changes what does not.
-/

namespace DeviceStandby

namespace TimerSource

lemma mem_insertByDue {timer other : ArmedTimer} {timers : List ArmedTimer} :
    other ∈ insertByDue timer timers ↔ other = timer ∨ other ∈ timers := by
  induction timers with
  | nil => simp [insertByDue]
  | cons head rest ih =>
    rw [insertByDue]
    split
    · exact List.mem_cons
    · rw [List.mem_cons, ih, List.mem_cons, or_left_comm]

lemma mem_byDue {timer : ArmedTimer} {timers : List ArmedTimer} :
    timer ∈ byDue timers ↔ timer ∈ timers := by
  unfold byDue
  induction timers with
  | nil => simp
  | cons head rest ih => rw [List.foldr_cons, mem_insertByDue, ih, List.mem_cons]

end TimerSource

namespace Host

variable (host : Host)

/-! ## Timers -/

@[simp] lemma arm_timers (delay : Nat) (task : TimerTask) :
    (host.arm delay task).2.timers = (host.timers.arm delay task).2 := rfl

@[simp] lemma arm_now (delay : Nat) (task : TimerTask) :
    (host.arm delay task).2.now = host.now := by
  simp only [now, arm_timers, TimerSource.arm, TimerSource.armAt]
  split <;> rfl

@[simp] lemma arm_failing (delay : Nat) (task : TimerTask) :
    (host.arm delay task).2.timers.failing = host.timers.failing := by
  simp only [arm_timers, TimerSource.arm, TimerSource.armAt]
  split <;> rfl

@[simp] lemma arm_queue (delay : Nat) (task : TimerTask) :
    (host.arm delay task).2.queue = host.queue := rfl

@[simp] lemma arm_store (delay : Nat) (task : TimerTask) :
    (host.arm delay task).2.store = host.store := rfl

@[simp] lemma arm_wakeLock (delay : Nat) (task : TimerTask) :
    (host.arm delay task).2.wakeLock = host.wakeLock := rfl

@[simp] lemma arm_wall (delay : Nat) (task : TimerTask) :
    (host.arm delay task).2.wall = host.wall := rfl

/-- A source that fails arms nothing. -/
lemma arm_of_failing (delay : Nat) (task : TimerTask) (h : host.timers.failing = true) :
    host.arm delay task = (none, host) := by
  simp only [arm, TimerSource.arm, TimerSource.armAt, h, if_true]

/-- A source that works arms a timer under the next number. -/
lemma arm_of_works (delay : Nat) (task : TimerTask) (h : host.timers.failing = false) :
    (host.arm delay task).1 = some host.timers.nextId ∧
      (host.arm delay task).2.timers.pending = host.timers.pending
        ++ [⟨host.timers.nextId, host.now + wrap64 delay, task⟩] := by
  simp [arm, TimerSource.arm, TimerSource.armAt, h, now]

@[simp] lemma cancel?_queue (number : Option TimerId) :
    (host.cancel? number).queue = host.queue := by cases number <;> rfl

@[simp] lemma cancel?_store (number : Option TimerId) :
    (host.cancel? number).store = host.store := by cases number <;> rfl

@[simp] lemma cancel?_wakeLock (number : Option TimerId) :
    (host.cancel? number).wakeLock = host.wakeLock := by cases number <;> rfl

@[simp] lemma cancel?_wall (number : Option TimerId) :
    (host.cancel? number).wall = host.wall := by cases number <;> rfl

@[simp] lemma cancel?_failing (number : Option TimerId) :
    (host.cancel? number).timers.failing = host.timers.failing := by cases number <;> rfl

/-- Cancelling takes out the timers with the number, and no others. -/
lemma mem_cancel?_pending {number : Option TimerId} {timer : ArmedTimer} :
    timer ∈ (host.cancel? number).timers.pending ↔
      timer ∈ host.timers.pending ∧ number ≠ some timer.id := by
  cases number with
  | none => simp [cancel?]
  | some id => simp [cancel?, cancel, TimerSource.cancel, @eq_comm _ id]

/-! ## The queue -/

/-- A queue that does not fail takes a message as its last task. -/
lemma announce_tasks (message : Message) (h : host.queue.failing = false) :
    (host.announce message).queue.tasks = host.queue.tasks ++ [.message message] := by
  simp [announce, post, h]

@[simp] lemma announce_failing (message : Message) :
    (host.announce message).queue.failing = host.queue.failing := by
  unfold announce post
  split <;> rfl

@[simp] lemma post_timers (task : Task) : (host.post task).2.timers = host.timers := by
  unfold post
  split <;> rfl

@[simp] lemma post_store (task : Task) : (host.post task).2.store = host.store := by
  unfold post
  split <;> rfl

@[simp] lemma post_wakeLock (task : Task) : (host.post task).2.wakeLock = host.wakeLock := by
  unfold post
  split <;> rfl

@[simp] lemma announce_timers (message : Message) :
    (host.announce message).timers = host.timers := host.post_timers _

@[simp] lemma announce_store (message : Message) :
    (host.announce message).store = host.store := host.post_store _

@[simp] lemma announce_wakeLock (message : Message) :
    (host.announce message).wakeLock = host.wakeLock := host.post_wakeLock _

@[simp] lemma announce_wall (message : Message) :
    (host.announce message).wall = host.wall := by
  unfold announce post
  split <;> rfl

lemma announce_queue_congr {other : Host} (message : Message) (h : host.queue = other.queue) :
    (host.announce message).queue = (other.announce message).queue := by
  unfold announce post
  rw [h]
  split
  · exact h
  · rfl

/-! ## The store -/

lemma audit_store_congr {other : Host} (event : AuditEvent) (hstore : host.store = other.store)
    (hwall : host.wall = other.wall) :
    (host.audit event).store = (other.audit event).store := by
  unfold audit
  rw [hstore, hwall]

@[simp] lemma audit_wakeLock (event : AuditEvent) :
    (host.audit event).wakeLock = host.wakeLock := rfl

@[simp] lemma audit_queue (event : AuditEvent) : (host.audit event).queue = host.queue := rfl

@[simp] lemma audit_timers (event : AuditEvent) : (host.audit event).timers = host.timers := rfl

@[simp] lemma audit_documents (event : AuditEvent) :
    (host.audit event).store.documents = host.store.documents := by
  simp only [audit, Store.append]
  split <;> rfl

@[simp] lemma audit_failSave (event : AuditEvent) :
    (host.audit event).store.failSave = host.store.failSave := by
  simp only [audit, Store.append]
  split <;> rfl

@[simp] lemma audit_failAudit (event : AuditEvent) :
    (host.audit event).store.failAudit = host.store.failAudit := by
  simp only [audit, Store.append]
  split <;> rfl

@[simp] lemma audit_saves (event : AuditEvent) :
    (host.audit event).store.saves = host.store.saves := by
  simp only [audit, Store.append]
  split <;> rfl

/-- A trail takes an event as its last one, unless it fails. -/
lemma audit_events (event : AuditEvent) : (host.audit event).store.events
    = host.store.events ++ if host.store.failAudit then [] else [event] := by
  simp only [audit, Store.append, Store.events]
  split <;> simp

@[simp] lemma save_queue (name : String) (value : Value) :
    (host.save name value).queue = host.queue := rfl

@[simp] lemma save_timers (name : String) (value : Value) :
    (host.save name value).timers = host.timers := rfl

@[simp] lemma save_wakeLock (name : String) (value : Value) :
    (host.save name value).wakeLock = host.wakeLock := rfl

@[simp] lemma save_trail (name : String) (value : Value) :
    (host.save name value).store.trail = host.store.trail := by
  simp only [save, Store.save]
  split <;> rfl

@[simp] lemma save_failSave (name : String) (value : Value) :
    (host.save name value).store.failSave = host.store.failSave := by
  simp only [save, Store.save]
  split <;> rfl

@[simp] lemma save_failAudit (name : String) (value : Value) :
    (host.save name value).store.failAudit = host.store.failAudit := by
  simp only [save, Store.save]
  split <;> rfl

/-- What is to be saved counts, also if it cannot be saved. -/
lemma save_saves (name : String) (value : Value) :
    (host.save name value).store.saves = host.store.saves + 1 := by
  simp only [save, Store.save]
  split <;> rfl

lemma save_documents (name : String) (value : Value) : (host.save name value).store.documents
    = if host.store.failSave then host.store.documents
      else host.store.documents.insert name (some value.canonical.restored) := by
  simp only [save, Store.save, Store.put]
  split <;> rfl

/-- A store that does not fail keeps the document that was saved, in its canonical form. -/
lemma save_document? (name : String) (value : Value) (h : host.store.failSave = false) :
    (host.save name value).store.document? name = some (some value.canonical.restored) := by
  simp [save, Store.save, Store.put, Store.document?, Table.get?_insert, h]

end Host

end DeviceStandby
