import DeviceStandby.Proofs.HostFrames

/-!
# Work on the host

While the clock stands still, all that is done to a host comes to a few things: tasks are posted,
timers are armed under new numbers or cancelled, and something is written to the store or asked of
the wake lock.  `Host.Worked` says which tasks were posted from one host to the other, and what sort
of timers were armed.  One piece of work after the other is work again (`Host.Worked.trans`).

No armed timer has a number that is still to be given (`TimerSource.Counted`), so the timer that is
armed next is told from all others by its number.
-/

namespace DeviceStandby

/-- The numbers of the armed timers are not given again. -/
def TimerSource.Counted (source : TimerSource) : Prop :=
  ∀ timer ∈ source.pending, timer.id < source.nextId

namespace Host

/-- The tasks that the queue takes when a message is announced. -/
def heard (host : Host) (message : Message) : List Task :=
  if host.queue.failing then [] else [.message message]

/-- From one host to the other the clock has not moved, the tasks in `more` were posted, and if
timers were armed they are as `arms` says. -/
structure Worked (arms : ArmedTimer → Prop) (before : Host) (more : List Task) (after : Host) :
    Prop where
  now : after.now = before.now
  posting : after.queue.failing = before.queue.failing
  posted : after.queue.tasks = before.queue.tasks ++ more
  numbers : before.timers.nextId ≤ after.timers.nextId
  pending : ∀ timer ∈ after.timers.pending, timer ∈ before.timers.pending ∨
    arms timer ∧ before.timers.nextId ≤ timer.id ∧ timer.id < after.timers.nextId

namespace Worked

variable {arms others : ArmedTimer → Prop} {host next last : Host} {more later : List Task}

/-- Timers may be taken out. -/
lemma of_fewer (hnow : next.timers.now = host.timers.now) (hqueue : next.queue = host.queue)
    (hnumbers : next.timers.nextId = host.timers.nextId)
    (hpending : ∀ timer ∈ next.timers.pending, timer ∈ host.timers.pending) :
    Worked arms host [] next where
  now := hnow
  posting := by rw [hqueue]
  posted := by rw [hqueue, List.append_nil]
  numbers := Nat.le_of_eq hnumbers.symm
  pending := fun timer hmem => Or.inl (hpending timer hmem)

lemma of_same (htimers : next.timers = host.timers) (hqueue : next.queue = host.queue) :
    Worked arms host [] next := by
  refine of_fewer (by rw [htimers]) hqueue (by rw [htimers]) (fun timer hmem => ?_)
  rwa [htimers] at hmem

lemma refl (host : Host) : Worked arms host [] host := of_same rfl rfl

lemma trans (first : Worked arms host more next) (second : Worked arms next later last) :
    Worked arms host (more ++ later) last where
  now := second.now.trans first.now
  posting := second.posting.trans first.posting
  posted := by rw [second.posted, first.posted, List.append_assoc]
  numbers := Nat.le_trans first.numbers second.numbers
  pending := by
    intro timer hmem
    rcases second.pending timer hmem with hmem | ⟨harms, hleast, hless⟩
    · rcases first.pending timer hmem with hold | ⟨harms, hleast, hless⟩
      · exact Or.inl hold
      · exact Or.inr ⟨harms, hleast, Nat.lt_of_lt_of_le hless second.numbers⟩
    · exact Or.inr ⟨harms, Nat.le_trans first.numbers hleast, hless⟩

/-- Nothing is posted at the end. -/
lemma still (first : Worked arms host more next) (second : Worked arms next [] last) :
    Worked arms host more last := by
  have hwhole := first.trans second
  rwa [List.append_nil] at hwhole

lemma weaken (h : Worked arms host more next)
    (hothers : ∀ timer, arms timer → others timer) : Worked others host more next where
  now := h.now
  posting := h.posting
  posted := h.posted
  numbers := h.numbers
  pending := by
    intro timer hmem
    exact (h.pending timer hmem).imp_right (fun ⟨harms, hnumber⟩ => ⟨hothers timer harms, hnumber⟩)

lemma counted (h : Worked arms host more next) (hcounted : host.timers.Counted) :
    next.timers.Counted := by
  intro timer hmem
  rcases h.pending timer hmem with hold | ⟨-, -, hless⟩
  · exact Nat.lt_of_lt_of_le (hcounted timer hold) h.numbers
  · exact hless

/-! ## Operations -/

lemma arm (host : Host) {delay : Nat} {task : TimerTask}
    (harms : arms ⟨host.timers.nextId, host.now + wrap64 delay, task⟩) :
    Worked arms host [] (host.arm delay task).2 := by
  cases hworks : host.timers.failing with
  | true =>
    rw [host.arm_of_failing delay task hworks]
    exact refl host
  | false =>
    obtain ⟨-, hpending⟩ := host.arm_of_works delay task hworks
    have hnumber : (host.arm delay task).2.timers.nextId = host.timers.nextId + 1 := by
      simp [TimerSource.arm, TimerSource.armAt, hworks]
    refine ⟨host.arm_now delay task, rfl, (List.append_nil _).symm, ?_, fun timer hmem => ?_⟩
    · rw [hnumber]
      exact Nat.le_succ _
    · rw [hpending, List.mem_append, List.mem_singleton] at hmem
      rcases hmem with hold | rfl
      · exact Or.inl hold
      · refine Or.inr ⟨harms, Nat.le_refl _, ?_⟩
        rw [hnumber]
        exact Nat.lt_succ_self _

lemma cancel? (host : Host) (number : Option TimerId) :
    Worked arms host [] (host.cancel? number) := by
  refine of_fewer ?_ (host.cancel?_queue number) ?_ (fun timer hmem => ?_)
  · cases number <;> rfl
  · cases number <;> rfl
  · exact (host.mem_cancel?_pending.1 hmem).1

lemma post (host : Host) (task : Task) :
    Worked arms host (if host.queue.failing then [] else [task]) (host.post task).2 := by
  unfold Host.post
  split
  · exact refl host
  · exact ⟨rfl, rfl, rfl, Nat.le_refl _, fun timer hmem => Or.inl hmem⟩

lemma announce (host : Host) (message : Message) :
    Worked arms host (host.heard message) (host.announce message) :=
  post host (.message message)

lemma audit (host : Host) (event : AuditEvent) : Worked arms host [] (host.audit event) :=
  of_same (host.audit_timers event) (host.audit_queue event)

lemma save (host : Host) (name : String) (value : Value) :
    Worked arms host [] (host.save name value) :=
  of_same (host.save_timers name value) (host.save_queue name value)

/-- Arming one timer after the other. -/
lemma foldl {α : Type} (act : Host → α → Host)
    (hact : ∀ host x, Worked arms host [] (act host x)) (list : List α) (host : Host) :
    Worked arms host [] (list.foldl act host) := by
  induction list generalizing host with
  | nil => exact refl host
  | cons x list ih => exact (hact host x).trans (ih _)

end Worked

end Host

end DeviceStandby
