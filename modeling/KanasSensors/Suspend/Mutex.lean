import KanasSensors.Suspend.Model

/-! What each step can do, and what the mutex keeps in every run whatever the callers do.

The thread that owns the mutex is the one inside its critical section, the waiters of the
condition are the calls blocked on it, and a call about to unlock has found the state it wants
and finds it still: only the owner of the mutex could have changed it.
-/

set_option autoImplicit false

namespace Libsuspend

open Foundation

variable {ι : Type} [DecidableEq ι]

namespace Suspend

inductive Steps (s : Suspend ι) : Action ι → Suspend ι → Prop where
  | call (i : ι) (want : EarlysuspendState) (idle : s.caller i = .idle) :
    Steps s (.call i want) (s.move i (.calling want .writing))
  | write (i : ι) (want : EarlysuspendState) (done : Bool) (stands : s.caller i = .calling want .writing) :
    Steps s (.write i done) (s.written i want done)
  | lock (i : ι) (want : EarlysuspendState) (pc : CallPc) (stands : s.caller i = .calling want pc)
    (outside : pc = .locking ∨ pc = .woken) (free : s.earlysuspend_mutex = none) :
    Steps s (.advance i) { s.move i (.calling want .testing) with earlysuspend_mutex := some (some i) }
  | pass (i : ι) (want : EarlysuspendState) (stands : s.caller i = .calling want .testing)
    (came : s.earlysuspend_state = want) : Steps s (.advance i) (s.move i (.calling want .unlocking))
  | block (i : ι) (want : EarlysuspendState) (stands : s.caller i = .calling want .testing)
    (apart : s.earlysuspend_state ≠ want) :
    Steps s (.advance i) { s.move i (.calling want .waiting) with
      earlysuspend_mutex := none
      earlysuspend_cond := insert i s.earlysuspend_cond }
  | unlock (i : ι) (want : EarlysuspendState) (stands : s.caller i = .calling want .unlocking) :
    Steps s (.advance i) { s.move i .idle with earlysuspend_mutex := none }
  | spurious (i : ι) (want : EarlysuspendState) (stands : s.caller i = .calling want .waiting) :
    Steps s (.spurious i) (s.wake i want)
  | seen (target : EarlysuspendState) (stands : s.monitor = .running target .reading)
    (follows : s.kernel.fb = target) : Steps s (.read true) { s with monitor := .running target .locking }
  | exit (target : EarlysuspendState) (stands : s.monitor = .running target .reading) :
    Steps s (.read false) { s with monitor := .absent }
  | acquire (target : EarlysuspendState) (stands : s.monitor = .running target .locking)
    (free : s.earlysuspend_mutex = none) :
    Steps s .monitor { s with earlysuspend_mutex := some none, monitor := .running target .storing }
  | store (target : EarlysuspendState) (stands : s.monitor = .running target .storing) :
    Steps s .monitor { s with earlysuspend_state := target, monitor := .running target .signalling }
  | release (target : EarlysuspendState) (stands : s.monitor = .running target .unlocking) :
    Steps s .monitor { s with earlysuspend_mutex := none, monitor := .running target.other .reading }
  | signalNone (target : EarlysuspendState) (stands : s.monitor = .running target .signalling)
    (nobody : s.earlysuspend_cond = ∅) :
    Steps s (.signal none) { s with monitor := .running target .unlocking }
  | signalSome (target : EarlysuspendState) (stands : s.monitor = .running target .signalling)
    (i : ι) (want : EarlysuspendState) (blocked : s.caller i = .calling want .waiting) :
    Steps s (.signal (some i)) { s.wake i want with monitor := .running target .unlocking }
  | settle (behind : s.kernel.fb ≠ s.kernel.power) :
    Steps s .settle { s with kernel := { s.kernel with fb := s.kernel.power } }

theorem advance_steps {s t : Suspend ι} {i : ι} {want : EarlysuspendState} {pc : CallPc}
    (stands : s.caller i = .calling want pc) (moved : s.advance i want pc = some t) :
    Steps s (.advance i) t := by
  cases pc with
  | writing => cases moved
  | waiting => cases moved
  | locking =>
    obtain ⟨free, same⟩ := Option.ite_none_right_eq_some.mp moved
    exact Option.some.inj same ▸ .lock i want .locking stands (.inl rfl) free
  | woken =>
    obtain ⟨free, same⟩ := Option.ite_none_right_eq_some.mp moved
    exact Option.some.inj same ▸ .lock i want .woken stands (.inr rfl) free
  | testing =>
    rw [advance] at moved
    split at moved
    · next came => exact Option.some.inj moved ▸ .pass i want stands came
    · next apart => exact Option.some.inj moved ▸ .block i want stands apart
  | unlocking => exact Option.some.inj moved ▸ .unlock i want stands

theorem publish_steps {s t : Suspend ι} {target : EarlysuspendState} {pc : MonitorPc}
    (stands : s.monitor = .running target pc) (moved : s.publish target pc = some t) :
    Steps s .monitor t := by
  cases pc with
  | reading => cases moved
  | signalling => cases moved
  | locking =>
    obtain ⟨free, same⟩ := Option.ite_none_right_eq_some.mp moved
    exact Option.some.inj same ▸ .acquire target stands free
  | storing => exact Option.some.inj moved ▸ .store target stands
  | unlocking => exact Option.some.inj moved ▸ .release target stands

theorem step_steps {s t : Suspend ι} {a : Action ι} (moved : s.step a = some t) : Steps s a t := by
  cases a with
  | call i want =>
    simp only [step] at moved
    split at moved
    · next idle => exact Option.some.inj moved ▸ .call i want idle
    · cases moved
  | write i done =>
    simp only [step] at moved
    split at moved
    · next want stands => exact Option.some.inj moved ▸ .write i want done stands
    · cases moved
  | advance i =>
    simp only [step] at moved
    split at moved
    · next want pc stands => exact advance_steps stands moved
    · cases moved
  | spurious i =>
    simp only [step] at moved
    split at moved
    · next want stands => exact Option.some.inj moved ▸ .spurious i want stands
    · cases moved
  | read done =>
    simp only [step] at moved
    split at moved
    · next target stands =>
      cases done with
      | true =>
        obtain ⟨follows, same⟩ := Option.ite_none_right_eq_some.mp moved
        exact Option.some.inj same ▸ .seen target stands follows
      | false => exact Option.some.inj moved ▸ .exit target stands
    · cases moved
  | monitor =>
    simp only [step] at moved
    split at moved
    · next target pc stands => exact publish_steps stands moved
    · cases moved
  | signal woken =>
    simp only [step] at moved
    split at moved
    · next target stands =>
      cases woken with
      | none =>
        obtain ⟨nobody, same⟩ := Option.ite_none_right_eq_some.mp moved
        exact Option.some.inj same ▸ .signalNone target stands nobody
      | some i =>
        simp only [signal] at moved
        split at moved
        · next want blocked => exact Option.some.inj moved ▸ .signalSome target stands i want blocked
        · cases moved
    · cases moved
  | settle =>
    obtain ⟨behind, same⟩ := Option.ite_none_left_eq_some.mp moved
    exact Option.some.inj same ▸ .settle behind

end Suspend

def Caller.holds : Caller → Bool
  | .calling _ .testing => true
  | .calling _ .unlocking => true
  | _ => false

def Monitor.holds : Monitor → Bool
  | .running _ .storing => true
  | .running _ .signalling => true
  | .running _ .unlocking => true
  | _ => false

def Caller.blocked : Caller → Bool
  | .calling _ .waiting => true
  | _ => false

namespace Suspend

def holds (s : Suspend ι) : Thread ι → Bool
  | none => s.monitor.holds
  | some i => (s.caller i).holds

@[simp] theorem move_caller (s : Suspend ι) (i j : ι) (c : Caller) :
    (s.move i c).caller j = if j = i then c else s.caller j := Function.update_apply ..

@[simp] theorem move_state (s : Suspend ι) (i : ι) (c : Caller) :
    (s.move i c).earlysuspend_state = s.earlysuspend_state := rfl

@[simp] theorem move_cond (s : Suspend ι) (i : ι) (c : Caller) :
    (s.move i c).earlysuspend_cond = s.earlysuspend_cond := rfl

@[simp] theorem move_monitor (s : Suspend ι) (i : ι) (c : Caller) : (s.move i c).monitor = s.monitor := rfl

@[simp] theorem move_kernel (s : Suspend ι) (i : ι) (c : Caller) : (s.move i c).kernel = s.kernel := rfl

theorem written_frame (s : Suspend ι) (i : ι) (want : EarlysuspendState) (done : Bool) :
    (s.written i want done).wait_for_earlysuspend = s.wait_for_earlysuspend ∧
      (s.written i want done).earlysuspend_state = s.earlysuspend_state ∧
      (s.written i want done).monitor = s.monitor := by
  unfold written
  split <;> exact ⟨rfl, rfl, rfl⟩

structure Exclusive (s : Suspend ι) : Prop where
  owner : Owned (fun thread => s.holds thread = true) s.earlysuspend_mutex
  waiters : ∀ i, i ∈ s.earlysuspend_cond ↔ (s.caller i).blocked = true
  tested : ∀ i want, s.caller i = .calling want .unlocking → s.earlysuspend_state = want

namespace Exclusive

variable {s : Suspend ι}

theorem move (exclusive : s.Exclusive) {i : ι} {c : Caller} (holds : c.holds = (s.caller i).holds)
    (blocked : c.blocked = (s.caller i).blocked)
    (tested : ∀ want, c = .calling want .unlocking → s.earlysuspend_state = want) (kernel : Kernel) :
    Exclusive { s.move i c with kernel } := by
  constructor
  · refine exclusive.owner.congr fun thread => ?_
    cases thread with
    | none => rfl
    | some j => by_cases own : j = i <;> simp [Suspend.holds, own, holds]
  · intro j
    refine (exclusive.waiters j).trans ?_
    by_cases own : j = i <;> simp [own, blocked]
  · intro j want
    by_cases own : j = i
    · simpa [own] using tested want
    · simpa [own] using exclusive.tested j want

omit [DecidableEq ι] in
theorem monitor (exclusive : s.Exclusive) {m : Monitor} (holds : m.holds = s.monitor.holds) :
    Exclusive { s with monitor := m } := by
  refine ⟨exclusive.owner.congr fun thread => ?_, exclusive.waiters, exclusive.tested⟩
  cases thread with
  | none => simp [Suspend.holds, holds]
  | some j => rfl

theorem wake (exclusive : s.Exclusive) {i : ι} {want : EarlysuspendState}
    (stands : s.caller i = .calling want .waiting) : (s.wake i want).Exclusive := by
  constructor
  · refine exclusive.owner.congr fun thread => ?_
    cases thread with
    | none => rfl
    | some j => by_cases own : j = i <;> simp [Suspend.holds, Suspend.wake, own, stands, Caller.holds]
  · intro j
    have others := exclusive.waiters j
    by_cases own : j = i <;> simp [Suspend.wake, own, Caller.blocked, others]
  · intro j other
    by_cases own : j = i
    · simp [Suspend.wake, own]
    · simpa [Suspend.wake, own] using exclusive.tested j other

theorem lock (exclusive : s.Exclusive) {i : ι} {want : EarlysuspendState} {pc : CallPc}
    (stands : s.caller i = .calling want pc) (outside : pc = .locking ∨ pc = .woken)
    (free : s.earlysuspend_mutex = none) :
    Exclusive { s.move i (.calling want .testing) with earlysuspend_mutex := some (some i) } := by
  have owner := exclusive.owner
  rw [free] at owner
  constructor
  · refine owner.acquire (by simp [Suspend.holds, Caller.holds]) fun thread apart => ?_
    cases thread with
    | none => rfl
    | some j =>
      have own : j ≠ i := fun same => apart (congrArg some same)
      simp [Suspend.holds, own]
  · intro j
    have others := exclusive.waiters j
    by_cases own : j = i
    · rcases outside with rfl | rfl <;> simp_all [Caller.blocked]
    · simpa [own] using others
  · intro j other
    by_cases own : j = i
    · simp [own]
    · simpa [own] using exclusive.tested j other

theorem leave (exclusive : s.Exclusive) {i : ι} {c : Caller} {cond : Finset ι}
    (held : (s.caller i).holds = true) (outside : c.holds = false)
    (waiters : ∀ j, j ∈ cond ↔ ((s.move i c).caller j).blocked = true) :
    Exclusive { s.move i c with earlysuspend_mutex := none, earlysuspend_cond := cond } := by
  have owner := exclusive.owner
  constructor
  · refine owner.release (t := some i) held (by simp [Suspend.holds, outside]) fun thread apart => ?_
    cases thread with
    | none => rfl
    | some j =>
      have own : j ≠ i := fun same => apart (congrArg some same)
      simp [Suspend.holds, own]
  · exact waiters
  · intro j other
    by_cases own : j = i
    · rintro same
      simp only [move_caller, own, if_true] at same
      rw [same] at outside
      cases outside
    · simpa [own] using exclusive.tested j other

theorem block (exclusive : s.Exclusive) {i : ι} {want : EarlysuspendState}
    (stands : s.caller i = .calling want .testing) :
    Exclusive { s.move i (.calling want .waiting) with
      earlysuspend_mutex := none
      earlysuspend_cond := insert i s.earlysuspend_cond } := by
  refine exclusive.leave (by rw [stands]; rfl) rfl fun j => ?_
  have others := exclusive.waiters j
  by_cases own : j = i <;> simp [own, Caller.blocked, others]

theorem unlock (exclusive : s.Exclusive) {i : ι} {want : EarlysuspendState}
    (stands : s.caller i = .calling want .unlocking) :
    Exclusive { s.move i .idle with earlysuspend_mutex := none } := by
  refine exclusive.leave (by rw [stands]; rfl) rfl fun j => ?_
  have others := exclusive.waiters j
  by_cases own : j = i
  · subst own
    simp [others, stands, Caller.blocked]
  · simp [own, others]

omit [DecidableEq ι] in
theorem store (exclusive : s.Exclusive) {target : EarlysuspendState}
    (stands : s.monitor = .running target .storing) :
    Exclusive { s with earlysuspend_state := target, monitor := .running target .signalling } := by
  have inside : s.holds none = true := by simp [Suspend.holds, stands, Monitor.holds]
  constructor
  · refine exclusive.owner.congr fun thread => ?_
    cases thread with
    | none => simp [Suspend.holds, stands, Monitor.holds]
    | some j => rfl
  · exact exclusive.waiters
  · intro i want unlocking
    have held : s.holds (some i) = true := by
      change (s.caller i).holds = true
      rw [show s.caller i = .calling want .unlocking from unlocking]
      rfl
    cases exclusive.owner.unique inside held

theorem step (exclusive : s.Exclusive) {a : Action ι} {t : Suspend ι} (moved : s.step a = some t) :
    t.Exclusive := by
  cases step_steps moved with
  | call i want idle =>
    exact exclusive.move (by rw [idle]; rfl) (by rw [idle]; rfl) (by simp) s.kernel
  | write i want done stands =>
    have outside : ∀ c : Caller, c = .idle ∨ c = .calling want .locking → ∀ kernel,
        Exclusive { s.move i c with kernel } := by
      rintro c (rfl | rfl) kernel
      · exact exclusive.move (by rw [stands]; rfl) (by rw [stands]; rfl) (by simp) kernel
      · exact exclusive.move (by rw [stands]; rfl) (by rw [stands]; rfl) (by simp) kernel
    unfold written
    split
    · split
      · exact outside _ (.inr rfl) _
      · exact outside _ (.inl rfl) _
    · exact outside _ (.inl rfl) s.kernel
  | lock i want pc stands outside free => exact exclusive.lock stands outside free
  | pass i want stands came =>
    refine exclusive.move (by rw [stands]; rfl) (by rw [stands]; rfl) ?_ s.kernel
    rintro other same
    cases same
    exact came
  | block i want stands apart => exact exclusive.block stands
  | unlock i want stands => exact exclusive.unlock stands
  | spurious i want stands => exact exclusive.wake stands
  | seen target stands follows => exact exclusive.monitor (by rw [stands]; rfl)
  | exit target stands => exact exclusive.monitor (by rw [stands]; rfl)
  | acquire target stands free =>
    have owner := exclusive.owner
    rw [free] at owner
    refine ⟨owner.acquire (by simp [Suspend.holds, Monitor.holds]) fun thread apart => ?_,
      exclusive.waiters, exclusive.tested⟩
    cases thread with
    | none => exact absurd rfl apart
    | some j => rfl
  | store target stands => exact exclusive.store stands
  | release target stands =>
    refine ⟨exclusive.owner.release (t := none) ?_ (by simp [Suspend.holds, Monitor.holds])
      fun thread apart => ?_, exclusive.waiters, exclusive.tested⟩
    · simp [Suspend.holds, stands, Monitor.holds]
    · cases thread with
      | none => exact absurd rfl apart
      | some j => rfl
  | signalNone target stands nobody => exact exclusive.monitor (by rw [stands]; rfl)
  | signalSome target stands i want blocked =>
    exact (exclusive.wake blocked).monitor (by rw [show (s.wake i want).monitor = _ from stands]; rfl)
  | settle behind => exact ⟨exclusive.owner, exclusive.waiters, exclusive.tested⟩

end Exclusive
end Suspend
end Libsuspend
