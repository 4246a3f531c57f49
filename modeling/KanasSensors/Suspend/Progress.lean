import KanasSensors.Suspend.Agreement

/-! One call at a time: it always gets through, in a bounded number of steps.

With a single waiter on the condition no signal goes astray. Every step but a spurious wake-up
brings the call nearer to its end, and until it has ended some step can be taken; so whatever
order the threads and the frame buffer take their steps in, the call returns. All this holds
wherever the frame buffer was when the thread started.
-/

set_option autoImplicit false

namespace Libsuspend

open Foundation

variable {ι : Type}

/-- Neither a new call, nor a spurious wake-up, nor a failing read. -/
def Action.isPlain : Action ι → Bool
  | .call _ _ => false
  | .spurious _ => false
  | .read done => done
  | _ => true

/-- A bound on the steps the frame buffer, the thread and a call have before them. -/
def Kernel.left (k : Kernel) : Nat := if k.fb = k.power then 0 else 1

def MonitorPc.left : MonitorPc → Nat
  | .reading => 6
  | .locking => 5
  | .storing => 4
  -- a signal may wake a call, which then has to test once more
  | .signalling => 3
  | .unlocking => 1

def MonitorPc.astray : MonitorPc → Nat
  | .reading => 12
  | .locking => 11
  -- the store can take away the state a call is about to find
  | .storing => 10
  | .signalling => 8
  | .unlocking => 7

/-- Beyond the `read`, a frame buffer that is behind leads the thread into the other half first. -/
def Monitor.left (k : Kernel) : Monitor → Nat
  | .absent => 0
  | .running target pc =>
    if target = k.power then pc.left + (if k.fb = k.power ∨ pc = .reading then 0 else 12)
    else if pc = .reading ∧ k.fb = k.power then 0 else pc.astray

theorem Monitor.left_turn (k : Kernel) (want : EarlysuspendState) (m : Monitor) :
    m.left ⟨want, k.fb⟩ + Kernel.left ⟨want, k.fb⟩ ≤ m.left k + k.left + 8 := by
  obtain ⟨power, fb⟩ := k
  cases m with
  | absent => simp only [Monitor.left, Kernel.left]; split <;> omega
  | running target pc => cases power <;> cases fb <;> cases want <;> cases target <;> cases pc <;> decide

theorem Monitor.left_le (k : Kernel) (m : Monitor) : m.left k + k.left ≤ 18 := by
  obtain ⟨power, fb⟩ := k
  cases m with
  | absent => simp only [Monitor.left, Kernel.left]; split <;> omega
  | running target pc => cases power <;> cases fb <;> cases target <;> cases pc <;> decide

theorem Monitor.left_le_of_chased (k : Kernel) (m : Monitor)
    (chased : ∀ pc, m = .running k.power pc → pc ≠ .reading → k.fb = k.power) : m.left k + k.left ≤ 13 := by
  obtain ⟨power, fb⟩ := k
  cases m with
  | absent => simp only [Monitor.left, Kernel.left]; split <;> omega
  | running target pc =>
    by_cases own : target = power ∧ pc ≠ .reading
    · obtain ⟨rfl, beyond⟩ := own
      obtain rfl : fb = target := chased pc rfl beyond
      cases fb <;> cases pc <;> decide
    · clear chased
      revert own
      cases power <;> cases fb <;> cases target <;> cases pc <;> decide

theorem Monitor.left_settle (k : Kernel) (m : Monitor) : m.left ⟨k.power, k.power⟩ ≤ m.left k := by
  obtain ⟨power, fb⟩ := k
  cases m with
  | absent => exact Nat.le_refl 0
  | running target pc => cases power <;> cases fb <;> cases target <;> cases pc <;> decide

def Caller.left (earlysuspend_state : EarlysuspendState) : Caller → Nat
  | .idle => 0
  | .calling _ .writing => 14
  | .calling _ .locking => 5
  | .calling want .testing => if earlysuspend_state = want then 2 else 3
  | .calling _ .waiting => 2
  | .calling want .woken => if earlysuspend_state = want then 3 else 4
  | .calling _ .unlocking => 1

theorem Caller.left_le (v : EarlysuspendState) (c : Caller) : c.left v ≤ 14 := by
  unfold left
  split <;> (try split) <;> omega

theorem Caller.left_past (v want : EarlysuspendState) {pc : CallPc} (past : pc ≠ .writing) :
    (Caller.calling want pc).left v ≤ 5 := by
  cases pc with
  | writing => exact absurd rfl past
  | _ => simp only [left]; (try split) <;> omega

theorem Caller.left_store (v w : EarlysuspendState) (c : Caller) : c.left v ≤ c.left w + 1 := by
  cases c with
  | idle => exact Nat.zero_le _
  | calling want pc => cases pc <;> simp only [left] <;> (try split_ifs) <;> omega

namespace Suspend

/-- A new call begins when no call is in progress. -/
def Alone (s : Suspend ι) : Action ι → Prop
  | .call _ _ => ∀ i, s.caller i = .idle
  | _ => True

def left (s : Suspend ι) (i : ι) : Nat :=
  s.kernel.left + s.monitor.left s.kernel + (s.caller i).left s.earlysuspend_state

structure Lone (s : Suspend ι) : Prop where
  single : ∀ i j, s.caller i ≠ .idle → s.caller j ≠ .idle → i = j
  told : ∀ i want, s.caller i = .calling want .waiting →
    s.earlysuspend_state ≠ want ∨ s.monitor = .running want .signalling

variable [DecidableEq ι] {s : Suspend ι}

namespace Lone

theorem move (lone : s.Lone) {i : ι} {c : Caller} (busy : s.caller i ≠ .idle)
    (awake : ∀ want, c ≠ .calling want .waiting) : (s.move i c).Lone := by
  constructor
  · have own : ∀ j, (s.move i c).caller j ≠ .idle → j = i := by
      intro j
      rw [move_caller]
      split
      · exact fun _ => ‹j = i›
      · exact fun other => lone.single j i other busy
    exact fun j k first second => (own j first).trans (own k second).symm
  · intro j want
    rw [move_caller]
    split
    · exact fun stands => absurd stands (awake want)
    · exact lone.told j want

omit [DecidableEq ι] in
theorem frame (lone : s.Lone) (earlysuspend_mutex : Option (Thread ι)) (earlysuspend_cond : Finset ι)
    (kernel : Kernel) : Lone { s with earlysuspend_mutex, earlysuspend_cond, kernel } :=
  ⟨lone.single, lone.told⟩

omit [DecidableEq ι] in
theorem monitor (lone : s.Lone) (m : Monitor)
    (silent : ∀ i want, s.caller i = .calling want .waiting → s.monitor ≠ .running want .signalling) :
    Lone { s with monitor := m } := by
  refine ⟨lone.single, fun i want blocked => ?_⟩
  exact .inl ((lone.told i want blocked).resolve_right (silent i want blocked))

theorem step (lone : s.Lone) (exclusive : s.Exclusive) {a : Action ι} {t : Suspend ι} (alone : s.Alone a)
    (moved : s.step a = some t) : t.Lone := by
  cases step_steps moved with
  | call i want idle =>
    constructor
    · have own : ∀ j, (s.move i (.calling want .writing)).caller j ≠ .idle → j = i := by
        intro j busy
        by_contra other
        simp [other, alone j] at busy
      exact fun j k first second => (own j first).trans (own k second).symm
    · intro j other
      rw [move_caller]
      split
      · simp
      · simp [alone j]
  | write i want done stands =>
    have busy : s.caller i ≠ .idle := by simp [stands]
    unfold written
    split
    · refine (lone.move busy fun other => ?_).frame _ _ _
      split <;> simp
    · exact lone.move busy (by simp)
  | lock i want pc stands outside free => exact (lone.move (by simp [stands]) (by simp)).frame _ _ _
  | pass i want stands came => exact lone.move (by simp [stands]) (by simp)
  | block i want stands apart =>
    constructor
    · have own : ∀ j, (s.move i (.calling want .waiting)).caller j ≠ .idle → j = i := by
        intro j
        rw [move_caller]
        split
        · exact fun _ => ‹j = i›
        · exact fun other => lone.single j i other (by simp [stands])
      exact fun j k first second => (own j first).trans (own k second).symm
    · intro j other blocked
      change (s.move i (.calling want .waiting)).caller j = _ at blocked
      rw [move_caller] at blocked
      split at blocked
      · cases blocked
        exact .inl apart
      · exact lone.told j other blocked
  | unlock i want stands => exact (lone.move (by simp [stands]) (by simp)).frame _ _ _
  | spurious i want stands => exact (lone.move (by simp [stands]) (by simp)).frame _ _ _
  | seen target stands follows => exact lone.monitor _ (by simp [stands])
  | exit target stands => exact lone.monitor _ (by simp [stands])
  | acquire target stands free =>
    exact (lone.monitor (.running target .storing) (by simp [stands])).frame (some none) _ _
  | store target stands =>
    refine ⟨lone.single, fun i want blocked => ?_⟩
    by_cases came : target = want
    · exact .inr (came ▸ rfl)
    · exact .inl came
  | release target stands =>
    exact (lone.monitor (.running target.other .reading) (by simp [stands])).frame none _ _
  | signalNone target stands nobody =>
    refine lone.monitor _ fun i want blocked => ?_
    have waits : i ∈ s.earlysuspend_cond := (exclusive.waiters i).mpr (by rw [blocked]; rfl)
    rw [nobody] at waits
    cases waits
  | signalSome target stands i want blocked =>
    -- the only call there is is the one that was woken
    have woken : (s.wake i want).Lone := (lone.move (by simp [blocked]) (by simp)).frame _ _ _
    refine woken.monitor _ fun j other still => ?_
    change (s.move i (.calling want .woken)).caller j = _ at still
    rw [move_caller] at still
    split at still
    · cases still
    · next apart => exact absurd (lone.single j i (by simp [still]) (by simp [blocked])) apart
  | settle behind => exact lone.frame _ _ _

end Lone

def Past (s : Suspend ι) (i : ι) (want : EarlysuspendState) : Prop :=
  ∃ pc, s.caller i = .calling want pc ∧ pc ≠ .writing

/-- What runs of calls that do not overlap keep, whatever the frame buffer was in at first. -/
structure Paced (s : Suspend ι) : Prop where
  exclusive : s.Exclusive
  lone : s.Lone
  waits : s.monitor ≠ .absent → s.wait_for_earlysuspend = true
  paired : ∀ target pc, s.monitor = .running target pc →
    s.earlysuspend_state = if pc = .signalling ∨ pc = .unlocking then target else target.other
  asked : ∀ i want, s.Past i want → s.kernel.power = want
  heard : ∀ i want target, s.caller i = .calling want .waiting → s.monitor = .running target .signalling →
    want = target
  chased : ∀ pc, s.monitor = .running s.kernel.power pc → pc ≠ .reading →
    s.kernel.fb = s.kernel.power ∨ ∃ i want, s.Past i want

theorem past_move {i j : ι} {want : EarlysuspendState} {c : Caller} :
    (s.move i c).Past j want ↔ if j = i then ∃ pc, c = .calling want pc ∧ pc ≠ .writing else s.Past j want := by
  unfold Past
  rw [move_caller]
  split <;> rfl

theorem Paced.caller_step (paced : s.Paced) {i : ι} {c : Caller} {t : Suspend ι} (exclusive : t.Exclusive)
    (lone : t.Lone) (caller : t.caller = (s.move i c).caller) (kernel : t.kernel = s.kernel)
    (monitor : t.monitor = s.monitor) (state : t.earlysuspend_state = s.earlysuspend_state)
    (waits : t.wait_for_earlysuspend = s.wait_for_earlysuspend)
    (asked : ∀ want pc, c = .calling want pc → pc ≠ .writing → s.Past i want)
    (heard : ∀ want target, c = .calling want .waiting → s.monitor ≠ .running target .signalling)
    (chased : ∀ pc, s.monitor = .running s.kernel.power pc → pc ≠ .reading →
      (∃ want, s.Past i want) → ∃ want pc, c = .calling want pc ∧ pc ≠ .writing) : t.Paced := by
  have past : ∀ j want, t.Past j want ↔ (s.move i c).Past j want := by
    intro j want
    unfold Past
    rw [caller]
  refine ⟨exclusive, lone, ?_, ?_, ?_, ?_, ?_⟩
  · rw [monitor, waits]
    exact paced.waits
  · rw [monitor, state]
    exact paced.paired
  · intro j want
    rw [past, past_move, kernel]
    split
    · rintro ⟨pc, own, further⟩
      exact paced.asked i want (asked want pc own further)
    · exact paced.asked j want
  · intro j want target
    rw [caller, move_caller, monitor]
    split
    · exact fun own signalling => absurd signalling (heard want target own)
    · exact paced.heard j want target
  · intro pc
    rw [kernel, monitor]
    intro running beyond
    refine (paced.chased pc running beyond).imp id ?_
    rintro ⟨j, want, still⟩
    by_cases own : j = i
    · subst own
      obtain ⟨now, qc, same, further⟩ := chased pc running beyond ⟨want, still⟩
      exact ⟨j, now, (past j now).mpr (past_move.mpr (by simpa using ⟨qc, same, further⟩))⟩
    · exact ⟨j, want, (past j want).mpr (past_move.mpr (by simpa [own] using still))⟩

omit [DecidableEq ι] in
theorem Paced.monitor_step (paced : s.Paced) {t : Suspend ι} {target : EarlysuspendState} {pc : MonitorPc}
    (exclusive : t.Exclusive) (lone : t.Lone) (present : s.monitor ≠ .absent)
    (caller : ∀ i want, t.Past i want ↔ s.Past i want) (kernel : t.kernel = s.kernel)
    (waits : t.wait_for_earlysuspend = s.wait_for_earlysuspend) (monitor : t.monitor = .running target pc)
    (paired : t.earlysuspend_state = if pc = .signalling ∨ pc = .unlocking then target else target.other)
    (heard : pc = .signalling → ∀ i want, t.caller i = .calling want .waiting → want = target)
    (chased : pc ≠ .reading → s.kernel.fb = target ∨ ∃ qc, s.monitor = .running target qc ∧ qc ≠ .reading) :
    t.Paced := by
  refine ⟨exclusive, lone, fun _ => waits.trans (paced.waits present), ?_, ?_, ?_, ?_⟩
  · intro other qc running
    obtain ⟨rfl, rfl⟩ := Monitor.running.inj (monitor.symm.trans running)
    exact paired
  · intro i want past
    rw [kernel]
    exact paced.asked i want ((caller i want).mp past)
  · intro i want other blocked running
    obtain ⟨rfl, rfl⟩ := Monitor.running.inj (monitor.symm.trans running)
    exact heard rfl i want blocked
  · intro qc running beyond
    rw [kernel] at running ⊢
    obtain ⟨rfl, rfl⟩ := Monitor.running.inj (monitor.symm.trans running)
    rcases chased beyond with follows | ⟨rc, before, beyond⟩
    · exact .inl follows
    · refine (paced.chased rc before beyond).imp id ?_
      rintro ⟨i, want, past⟩
      exact ⟨i, want, (caller i want).mpr past⟩

theorem past_wake {i : ι} {want : EarlysuspendState} (blocked : s.caller i = .calling want .waiting)
    (j : ι) (other : EarlysuspendState) : (s.wake i want).Past j other ↔ s.Past j other := by
  have same : (s.wake i want).Past j other ↔ (s.move i (.calling want .woken)).Past j other := Iff.rfl
  rw [same, past_move]
  split
  · next own =>
    subst own
    simp [Past, blocked]
  · exact Iff.rfl

namespace Paced

theorem onward (paced : s.Paced) {i : ι} {want : EarlysuspendState} {pc qc : CallPc} {t : Suspend ι}
    (stands : s.caller i = .calling want pc) (past : pc ≠ .writing) (next : qc ≠ .writing)
    (silent : qc = .waiting → ∀ target, s.monitor ≠ .running target .signalling)
    (exclusive : t.Exclusive) (lone : t.Lone) (caller : t.caller = (s.move i (.calling want qc)).caller)
    (kernel : t.kernel = s.kernel) (monitor : t.monitor = s.monitor)
    (state : t.earlysuspend_state = s.earlysuspend_state)
    (waits : t.wait_for_earlysuspend = s.wait_for_earlysuspend) : t.Paced := by
  refine paced.caller_step exclusive lone caller kernel monitor state waits ?_ ?_ ?_
  · rintro other rc own -
    cases own
    exact ⟨pc, stands, past⟩
  · intro other target own
    cases own
    exact silent rfl target
  · exact fun _ _ _ _ => ⟨want, qc, rfl, next⟩

omit [DecidableEq ι] in
theorem unlocking_rests (paced : s.Paced) {i : ι} {want : EarlysuspendState}
    (stands : s.caller i = .calling want .unlocking) {pc : MonitorPc}
    (running : s.monitor = .running s.kernel.power pc) : pc = .reading := by
  have asked := paced.asked i want ⟨.unlocking, stands, by decide⟩
  have found := paced.exclusive.tested i want stands
  have paired := paced.paired _ pc running
  have inside : s.holds (some i) = true := by simp [Suspend.holds, stands, Caller.holds]
  cases pc with
  | reading => rfl
  | locking => exact absurd (asked.trans (found.symm.trans paired)) (EarlysuspendState.ne_other _)
  | storing => exact absurd (asked.trans (found.symm.trans paired)) (EarlysuspendState.ne_other _)
  | signalling =>
    cases paced.exclusive.owner.unique inside (show s.holds none = true by simp [Suspend.holds, running, Monitor.holds])
  | unlocking =>
    cases paced.exclusive.owner.unique inside (show s.holds none = true by simp [Suspend.holds, running, Monitor.holds])

theorem written (paced : s.Paced) {i : ι} {want : EarlysuspendState} {done : Bool}
    (stands : s.caller i = .calling want .writing) (exclusive : (s.written i want done).Exclusive)
    (lone : (s.written i want done).Lone) : (s.written i want done).Paced := by
  have unwritten : ∀ {other}, ¬s.Past i other := by
    rintro other ⟨pc, own, past⟩
    rw [stands] at own
    cases own
    exact past rfl
  cases done with
  | false =>
    refine paced.caller_step exclusive lone rfl rfl rfl rfl rfl ?_ ?_ ?_
    · exact fun other pc own => (by cases own)
    · exact fun other target own => (by cases own)
    · exact fun _ _ _ ⟨other, past⟩ => absurd past unwritten
  | true =>
    refine ⟨exclusive, lone, paced.waits, paced.paired, ?_, ?_, ?_⟩
    · rintro j other past
      have mine : (s.move i (if s.wait_for_earlysuspend then .calling want .locking else .idle)).Past j other := past
      rw [past_move] at mine
      split at mine
      · obtain ⟨pc, own, -⟩ := mine
        split at own
        · cases own
          rfl
        · cases own
      -- there is no other call
      · next apart =>
        obtain ⟨pc, busy, -⟩ := mine
        exact absurd (paced.lone.single j i (by simp [busy]) (by simp [stands])) apart
    · intro j other target blocked
      change (s.move i (if s.wait_for_earlysuspend then .calling want .locking else .idle)).caller j = _ at blocked
      rw [move_caller] at blocked
      split at blocked
      · split at blocked <;> cases blocked
      · exact paced.heard j other target blocked
    · intro pc running _
      have present : s.monitor ≠ .absent := by
        change s.monitor = _ at running
        simp [running]
      refine .inr ⟨i, want, .locking, ?_, by decide⟩
      simp [Suspend.written, paced.waits present]

theorem step (paced : s.Paced) {a : Action ι} {t : Suspend ι} (alone : s.Alone a)
    (moved : s.step a = some t) : t.Paced := by
  have exclusive := paced.exclusive.step moved
  have lone := paced.lone.step paced.exclusive alone moved
  have same : ∀ i want, s.Past i want ↔ s.Past i want := fun _ _ => Iff.rfl
  cases step_steps moved with
  | call i want idle =>
    refine paced.caller_step exclusive lone rfl rfl rfl rfl rfl ?_ ?_ ?_
    · intro other pc own past
      cases own
      exact absurd rfl past
    · exact fun other target own => (by cases own)
    · rintro pc - - ⟨other, rc, own, -⟩
      rw [idle] at own
      cases own
  | write i want done stands => exact paced.written stands exclusive lone
  | lock i want pc stands outside free =>
    have past : pc ≠ .writing := by rcases outside with rfl | rfl <;> decide
    exact paced.onward stands past (by decide) (fun waits => by cases waits) exclusive lone rfl rfl rfl rfl rfl
  | pass i want stands came =>
    exact paced.onward stands (by decide) (by decide) (fun waits => by cases waits) exclusive lone rfl rfl rfl rfl rfl
  | block i want stands apart =>
    refine paced.onward stands (by decide) (by decide) (fun _ target running => ?_) exclusive lone rfl rfl rfl rfl rfl
    -- the mutex is the call's own
    have inside : s.holds (some i) = true := by simp [Suspend.holds, stands, Caller.holds]
    cases paced.exclusive.owner.unique inside (show s.holds none = true by simp [Suspend.holds, running, Monitor.holds])
  | unlock i want stands =>
    refine paced.caller_step exclusive lone rfl rfl rfl rfl rfl ?_ ?_ ?_
    · exact fun other pc own => (by cases own)
    · exact fun other target own => (by cases own)
    · exact fun pc running beyond => absurd (paced.unlocking_rests stands running) beyond
  | spurious i want stands =>
    exact paced.onward stands (by decide) (by decide) (fun waits => by cases waits) exclusive lone rfl rfl rfl rfl rfl
  | seen target stands follows =>
    exact paced.monitor_step exclusive lone (by simp [stands]) same rfl rfl rfl (paced.paired target .reading stands)
      (by simp) fun _ => .inl follows
  | exit target stands =>
    exact ⟨exclusive, lone, by simp, by simp, paced.asked, by simp, by simp⟩
  | acquire target stands free =>
    exact paced.monitor_step exclusive lone (by simp [stands]) same rfl rfl rfl (paced.paired target .locking stands)
      (by simp) fun _ => .inr ⟨.locking, stands, by decide⟩
  | store target stands =>
    refine paced.monitor_step exclusive lone (by simp [stands]) same rfl rfl rfl rfl (fun _ i want blocked => ?_)
      fun _ => .inr ⟨.storing, stands, by decide⟩
    -- a call that sleeps has not found the state there was
    have apart := (paced.lone.told i want blocked).resolve_right (by simp [stands])
    rw [paced.paired target .storing stands] at apart
    exact (EarlysuspendState.eq_other_of_ne (Ne.symm apart)).trans target.other_other
  | release target stands =>
    refine paced.monitor_step exclusive lone (by simp [stands]) same rfl rfl rfl ?_ (by simp) (by simp)
    exact (paced.paired target .unlocking stands).trans target.other_other.symm
  | signalNone target stands nobody =>
    exact paced.monitor_step exclusive lone (by simp [stands]) same rfl rfl rfl
      (paced.paired target .signalling stands) (by simp) fun _ => .inr ⟨.signalling, stands, by decide⟩
  | signalSome target stands i want blocked =>
    exact paced.monitor_step exclusive lone (by simp [stands]) (past_wake blocked) rfl rfl rfl
      (paced.paired target .signalling stands) (by simp) fun _ => .inr ⟨.signalling, stands, by decide⟩
  | settle behind =>
    exact ⟨exclusive, lone, paced.waits, paced.paired, paced.asked, paced.heard, fun _ _ _ => .inl rfl⟩

theorem reaches (paced : s.Paced) {t : Suspend ι} (reaches : (protocol ι).Reaches Alone s t) : t.Paced :=
  Protocol.Reaches.keeps (protocol ι) Paced (fun _ _ _ held alone moved => step held alone moved) paced reaches

end Paced

def Only (s : Suspend ι) (i : ι) : Prop := ∀ j, s.caller j ≠ .idle → j = i

theorem left_move (s : Suspend ι) (i : ι) (c : Caller) :
    (s.move i c).left i = s.kernel.left + s.monitor.left s.kernel + c.left s.earlysuspend_state := by
  simp [left]

theorem left_move_lt {i : ι} {c d : Caller} (stands : s.caller i = c)
    (fewer : d.left s.earlysuspend_state < c.left s.earlysuspend_state) : (s.move i d).left i < s.left i := by
  rw [left_move, left, stands]
  omega

namespace Paced

omit [DecidableEq ι] in
theorem left_le (paced : s.Paced) {i : ι} (only : s.Only i) : s.left i ≤ 27 := by
  have whole : s.left i = s.kernel.left + s.monitor.left s.kernel + (s.caller i).left s.earlysuspend_state := rfl
  have room := Monitor.left_le s.kernel s.monitor
  by_cases past : ∃ want, s.Past i want
  · obtain ⟨want, pc, stands, past⟩ := past
    have call := Caller.left_past s.earlysuspend_state want past
    rw [whole, stands]
    omega
  · -- before the call has written, the frame buffer is behind only as it was at the start
    have near := Monitor.left_le_of_chased s.kernel s.monitor fun pc running beyond => by
      refine (paced.chased pc running beyond).resolve_right ?_
      rintro ⟨j, want, pc, stands, later⟩
      have own := only j (by simp [stands])
      exact past ⟨want, pc, own ▸ stands, later⟩
    have call := (s.caller i).left_le s.earlysuspend_state
    rw [whole]
    omega

/-- Every plain step brings the one call in progress nearer to its end. -/
theorem left_lt (paced : s.Paced) {i : ι} (only : s.Only i) {a : Action ι} {t : Suspend ι}
    (plain : a.isPlain = true) (moved : s.step a = some t) : t.left i < s.left i := by
  have whole : s.left i = s.kernel.left + s.monitor.left s.kernel +
      (s.caller i).left s.earlysuspend_state := rfl
  have own : ∀ {j : ι} {want : EarlysuspendState} {pc : CallPc}, s.caller j = .calling want pc → j = i :=
    fun stands => only _ (by simp [stands])
  cases step_steps moved with
  | call j want idle => cases plain
  | write j want done stands =>
    have same := own stands
    subst same
    rw [whole, stands]
    cases done with
    | false =>
      simp only [Suspend.written, Bool.false_eq_true, if_false, left_move, Caller.left]
      omega
    | true =>
      have turned := Monitor.left_turn s.kernel want s.monitor
      cases waits : s.wait_for_earlysuspend <;>
        simp only [Suspend.written, waits, left, move_caller, move_monitor, move_state, if_true, if_false,
          Bool.false_eq_true, Caller.left] <;> omega
  | lock j want pc stands outside free =>
    have same := own stands
    subst same
    apply left_move_lt (d := .calling want .testing) stands
    rcases outside with rfl | rfl <;> simp only [Caller.left] <;> split <;> omega
  | pass j want stands came =>
    have same := own stands
    subst same
    apply left_move_lt stands
    simp only [Caller.left, came, if_true]
    omega
  | block j want stands apart =>
    have same := own stands
    subst same
    apply left_move_lt (d := .calling want .waiting) stands
    simp only [Caller.left, if_neg apart]
    omega
  | unlock j want stands =>
    have same := own stands
    subst same
    apply left_move_lt (d := .idle) stands
    simp only [Caller.left]
    omega
  | spurious j want stands => cases plain
  | exit target stands => cases plain
  | seen target stands follows =>
    rw [whole, stands]
    simp only [left, Monitor.left, MonitorPc.left, MonitorPc.astray]
    by_cases asked : target = s.kernel.power
    · -- the frame buffer has caught up
      simp only [asked, follows.trans asked, true_or, if_true]
      omega
    · have behind : ¬s.kernel.fb = s.kernel.power := follows ▸ asked
      simp only [asked, behind, and_false, reduceCtorEq, if_false]
      omega
  | acquire target stands free =>
    rw [whole, stands]
    simp only [left, Monitor.left, MonitorPc.left, MonitorPc.astray, reduceCtorEq, or_false, false_and, if_false]
    split <;> omega
  | store target stands =>
    rw [whole, stands]
    simp only [left, Monitor.left, MonitorPc.left, MonitorPc.astray, reduceCtorEq, or_false, false_and, if_false]
    split
    · next asked =>
      have fewer : (s.caller i).left target ≤ (s.caller i).left s.earlysuspend_state := by
        cases at_i : s.caller i with
        | idle => exact Nat.le_refl 0
        | calling want pc =>
          -- a call that has written waits for the state that is stored here
          cases pc with
          | writing => exact Nat.le_refl 14
          | testing =>
            have wanted := asked.trans (paced.asked i want ⟨.testing, at_i, by decide⟩)
            simp only [Caller.left, if_pos wanted]
            split <;> omega
          | woken =>
            have wanted := asked.trans (paced.asked i want ⟨.woken, at_i, by decide⟩)
            simp only [Caller.left, if_pos wanted]
            split <;> omega
          | _ => exact Nat.le_refl _
      omega
    · have more := Caller.left_store target s.earlysuspend_state (s.caller i)
      omega
  | release target stands =>
    rw [whole, stands]
    simp only [left, Monitor.left, MonitorPc.left, MonitorPc.astray, reduceCtorEq, or_false, or_true, false_and,
      true_and, if_true, if_false]
    by_cases asked : target = s.kernel.power
    · have leaves : ¬target.other = s.kernel.power := asked ▸ target.other_ne
      simp only [if_pos asked, if_neg leaves]
      omega
    · have turned : target.other = s.kernel.power := (EarlysuspendState.eq_other_of_ne (Ne.symm asked)).symm
      simp only [if_neg asked, if_pos turned]
      omega
  | signalNone target stands nobody =>
    rw [whole, stands]
    simp only [left, Monitor.left, MonitorPc.left, MonitorPc.astray, reduceCtorEq, or_false, false_and, if_false]
    split <;> omega
  | signalSome target stands j want blocked =>
    have same := own blocked
    subst same
    -- the call that is woken has been waiting for what is signalled, and for what was asked for
    have heard := paced.heard j want target blocked stands
    subst heard
    have asked := paced.asked j want ⟨.waiting, blocked, by decide⟩
    have found := paced.paired want .signalling stands
    rw [whole, stands, blocked]
    change s.kernel.left + Monitor.left s.kernel (.running want .unlocking) +
      ((s.move j (.calling want .woken)).caller j).left s.earlysuspend_state < _
    rw [move_caller, if_pos rfl]
    simp only [true_or, if_true] at found
    simp only [Monitor.left, MonitorPc.left, Caller.left, found, asked, if_true, reduceCtorEq, or_false]
    omega
  | settle behind =>
    have fewer := Monitor.left_settle s.kernel s.monitor
    rw [whole]
    simp only [left, Kernel.left, if_true, if_neg behind]
    omega

end Paced

omit [DecidableEq ι] in
theorem Only.of_plain {i : ι} [DecidableEq ι] (only : s.Only i) {a : Action ι} {t : Suspend ι}
    (plain : a.isPlain = true) (moved : s.step a = some t) : t.Only i := by
  have kept : ∀ j c, s.caller j ≠ .idle → (s.move j c).Only i := by
    intro j c busy k
    rw [move_caller]
    split
    · next same => exact fun _ => same ▸ only j busy
    · exact only k
  cases step_steps moved with
  | call j want idle => cases plain
  | write j want done stands =>
    unfold written
    split
    · exact kept j _ (by simp [stands])
    · exact kept j _ (by simp [stands])
  | lock j want pc stands outside free => exact kept j _ (by simp [stands])
  | pass j want stands came => exact kept j _ (by simp [stands])
  | block j want stands apart => exact kept j _ (by simp [stands])
  | unlock j want stands => exact kept j _ (by simp [stands])
  | spurious j want stands => cases plain
  | signalSome target stands j want blocked => exact kept j _ (by simp [blocked])
  | _ => exact only

omit [DecidableEq ι] in
theorem present_of_plain [DecidableEq ι] {a : Action ι} {t : Suspend ι} (present : s.monitor ≠ .absent)
    (plain : a.isPlain = true) (moved : s.step a = some t) : t.monitor ≠ .absent := by
  cases step_steps moved with
  | exit target stands => cases plain
  | write j want done stands => exact (s.written_frame j want done).2.2 ▸ present
  | call => exact present
  | lock => exact present
  | pass => exact present
  | block => exact present
  | unlock => exact present
  | spurious => exact present
  | settle => exact present
  | _ => simp

theorem Exclusive.exists_step (exclusive : s.Exclusive) (held : s.monitor.holds = true) :
    ∃ a : Action ι, a.isPlain = true ∧ ∃ t, s.step a = some t := by
  cases stands : s.monitor with
  | absent => simp [stands, Monitor.holds] at held
  | running target pc =>
    cases pc with
    | reading => simp [stands, Monitor.holds] at held
    | locking => simp [stands, Monitor.holds] at held
    | storing => exact ⟨.monitor, rfl, by simp [Suspend.step, stands, publish]⟩
    | unlocking => exact ⟨.monitor, rfl, by simp [Suspend.step, stands, publish]⟩
    | signalling =>
      rcases s.earlysuspend_cond.eq_empty_or_nonempty with nobody | ⟨j, waits⟩
      · exact ⟨.signal none, rfl, by simp [Suspend.step, stands, signal, nobody]⟩
      · have blocked := (exclusive.waiters j).mp waits
        cases at_j : s.caller j with
        | idle => simp [at_j, Caller.blocked] at blocked
        | calling want pc =>
          cases pc with
          | waiting => exact ⟨.signal (some j), rfl, by simp [Suspend.step, stands, signal, at_j]⟩
          | _ => simp [at_j, Caller.blocked] at blocked

omit [DecidableEq ι] in
theorem Only.mutex {i : ι} (only : s.Only i) (exclusive : s.Exclusive) (outside : (s.caller i).holds = false) :
    s.earlysuspend_mutex = none ∨ s.monitor.holds = true := by
  cases owner : s.earlysuspend_mutex with
  | none => exact .inl rfl
  | some thread =>
    have held := (exclusive.owner thread).mpr owner
    cases thread with
    | none => exact .inr held
    | some j =>
      change (s.caller j).holds = true at held
      have same : j = i := only j fun idle => by simp [idle, Caller.holds] at held
      rw [same, outside] at held
      cases held

theorem Paced.blocked_step (paced : s.Paced) {i : ι} {want : EarlysuspendState}
    (blocked : s.caller i = .calling want .waiting) (free : s.earlysuspend_mutex = none)
    (outside : ¬s.monitor.holds = true) (present : s.monitor ≠ .absent) :
    ∃ a : Action ι, a.isPlain = true ∧ ∃ t, s.step a = some t := by
  have apart : s.earlysuspend_state ≠ want := by
    rcases paced.lone.told i want blocked with apart | telling
    · exact apart
    · simp [telling, Monitor.holds] at outside
  have asked := paced.asked i want ⟨.waiting, blocked, by decide⟩
  cases stands : s.monitor with
  | absent => exact absurd stands present
  | running target pc =>
    rw [stands] at outside
    cases pc with
    | reading =>
      -- the thread is in the half that waits for what the call waits for
      have own : target = want := by
        have paired : s.earlysuspend_state = target.other := paced.paired target .reading stands
        rw [paired] at apart
        exact ((EarlysuspendState.eq_other_of_ne (Ne.symm apart)).trans target.other_other).symm
      subst own
      by_cases follows : s.kernel.fb = target
      · exact ⟨.read true, rfl, by simp [Suspend.step, stands, waitForFb, follows]⟩
      · exact ⟨.settle, rfl, by simp [Suspend.step, asked, follows]⟩
    | locking => exact ⟨.monitor, rfl, by simp [Suspend.step, stands, publish, free]⟩
    | storing => simp [Monitor.holds] at outside
    | signalling => simp [Monitor.holds] at outside
    | unlocking => simp [Monitor.holds] at outside

theorem exists_step (paced : s.Paced) {i : ι} (only : s.Only i) (busy : s.caller i ≠ .idle)
    (present : s.monitor ≠ .absent) : ∃ a : Action ι, a.isPlain = true ∧ ∃ t, s.step a = some t := by
  have exclusive := paced.exclusive
  by_cases inside : s.monitor.holds = true
  · exact exclusive.exists_step inside
  have free : (s.caller i).holds = false → s.earlysuspend_mutex = none := fun outside =>
    (only.mutex exclusive outside).resolve_right inside
  cases stands : s.caller i with
  | idle => exact absurd stands busy
  | calling want pc =>
    rw [stands] at free
    cases pc with
    | writing => exact ⟨.write i true, rfl, by simp [step, stands]⟩
    | locking => exact ⟨.advance i, rfl, by simp [step, stands, advance, free rfl]⟩
    | woken => exact ⟨.advance i, rfl, by simp [step, stands, advance, free rfl]⟩
    | testing =>
      refine ⟨.advance i, rfl, ?_⟩
      by_cases came : s.earlysuspend_state = want <;> simp [step, stands, advance, came]
    | unlocking => exact ⟨.advance i, rfl, by simp [step, stands, advance]⟩
    | waiting => exact paced.blocked_step stands (free rfl) inside present

theorem schedule_completes {t : Suspend ι} (paced : s.Paced) {i : ι} (only : s.Only i)
    (present : s.monitor ≠ .absent) {actions : List (Action ι)}
    (plain : ∀ a ∈ actions, a.isPlain = true) (ends : (protocol ι).schedule s actions = some t) :
    actions.length ≤ 27 ∧ ((∀ a : Action ι, a.isPlain = true → t.step a = none) → t.caller i = .idle) := by
  have ranked := (protocol ι).schedule_length_le
    (fun s => s.Paced ∧ s.Only i ∧ s.monitor ≠ .absent)
    (fun a => a.isPlain = true) (fun s => s.left i) ?_ ⟨paced, only, present⟩ plain ends
  · obtain ⟨⟨still, single, there⟩, bound⟩ := ranked
    refine ⟨by have := paced.left_le only; omega, fun stuck => ?_⟩
    by_contra busy
    obtain ⟨a, allowed, u, moved⟩ := exists_step still single busy there
    rw [stuck a allowed] at moved
    cases moved
  · rintro s a t ⟨paced, only, present⟩ plain moved
    have alone : s.Alone a := by
      cases a with
      | call i want => cases plain
      | _ => trivial
    exact ⟨⟨paced.step alone moved, only.of_plain plain moved, present_of_plain present plain moved⟩,
      paced.left_lt only plain moved⟩

omit [DecidableEq ι] in
theorem init_paced {k : Kernel} {answers : InitAnswers}
    (started : autosuspend_earlysuspend_init k answers = some s) : s.Paced := by
  have exclusive := init_exclusive started
  have idle : ∀ i, s.caller i = .idle := init_idle started
  have lone : s.Lone :=
    ⟨fun i j busy => absurd (idle i) busy, fun i want blocked => by simp [idle i] at blocked⟩
  have nobody : ∀ i want, ¬s.Past i want := fun i want ⟨pc, stands, _⟩ => by simp [idle i] at stands
  refine ⟨exclusive, lone, ?_, ?_, fun i want past => absurd past (nobody i want),
    fun i want target blocked => by simp [idle i] at blocked, ?_⟩ <;>
    obtain ⟨kernel, rfl⟩ | rfl := init_cases started
  · simp
  · exact fun _ => rfl
  · simp
  · rintro target pc ⟨⟩
    rfl
  · simp
  · rintro pc running beyond
    exact absurd (Monitor.running.inj running).2.symm beyond

variable {k : Kernel} {answers : InitAnswers} {t u : Suspend ι}

/-- Of calls that do not overlap, no call sleeps on the condition once the state it waits for
has come: the thread is about to signal it. -/
theorem no_wakeup_lost (started : autosuspend_earlysuspend_init k answers = some s)
    (reaches : (protocol ι).Reaches Alone s t) {i : ι} {want : EarlysuspendState}
    (blocked : t.caller i = .calling want .waiting) (came : t.earlysuspend_state = want) :
    t.monitor = .running want .signalling :=
  (((init_paced started).reaches reaches).lone.told i want blocked).resolve_left (not_not.mpr came)

theorem no_wakeup_lost_enabling :
    ∃ t : Suspend Unit, t.caller () = .calling .mem .waiting ∧ t.earlysuspend_state = .mem ∧
      t.monitor = .running .mem .signalling := by
  let t := ((protocol Unit).schedule called (enabling.take 7)).getD booted
  have reaches : (protocol Unit).Reaches Alone booted t :=
    enabling_reaches (fun _ => rfl) (by simp [enabling, Alone]) (n := 7) rfl
  exact ⟨t, rfl, rfl, no_wakeup_lost (i := ()) init_booted reaches rfl rfl⟩

/-- Of two calls that agree the one signal there is wakes one. -/
theorem wakeup_lost_overlapping :
    ∃ t : Suspend Bool, (protocol Bool).Reaches Agrees bootedTwo t ∧
      t.caller false = .calling .mem .waiting ∧ t.earlysuspend_state = .mem ∧
      t.monitor = .running .on .reading := by
  let actions : List (Action Bool) :=
    [.write true true, .write false true, .advance true, .advance true, .advance false, .advance false,
      .settle, .read true, .monitor, .monitor, .signal (some true), .monitor]
  let t := ((protocol Bool).schedule calledTwice actions).getD bootedTwo
  exact ⟨t, calledTwice_reaches actions (by simp [actions, Agrees]) rfl, rfl, rfl, rfl⟩

/-- A call that does not overlap another returns: whatever order the frame buffer, the thread
and the call take their steps in, there are at most 27 of them, and none is left to take only
when the call has returned. -/
theorem call_completes (started : autosuspend_earlysuspend_init k answers = some s)
    (reaches : (protocol ι).Reaches Alone s t) {i : ι} (busy : t.caller i ≠ .idle)
    (present : t.monitor ≠ .absent) {actions : List (Action ι)}
    (plain : ∀ a ∈ actions, a.isPlain = true) (ends : (protocol ι).schedule t actions = some u) :
    actions.length ≤ 27 ∧ ((∀ a : Action ι, a.isPlain = true → u.step a = none) → u.caller i = .idle) := by
  have paced := (init_paced started).reaches reaches
  exact schedule_completes paced (fun j other => paced.lone.single j i other busy) present plain ends

/-- The thread finds the frame buffer still asleep, it comes on, and an `enable` waits through
both halves of the loop: 25 steps. -/
theorem call_completes_asleep :
    let asleep : Suspend Unit := ⟨true, .on, none, ∅, .running .mem .reading, fun _ => .idle, ⟨.on, .mem⟩⟩
    let actions : List (Action Unit) := [.read true, .settle, .write () true, .advance (), .advance (),
      .monitor, .monitor, .signal (some ()), .monitor, .read true, .monitor, .monitor, .signal none, .monitor,
      .advance (), .advance (), .settle, .read true, .monitor, .monitor, .signal (some ()), .monitor,
      .advance (), .advance (), .advance ()]
    ∃ u, (protocol Unit).schedule (asleep.move () (.calling .mem .writing)) actions = some u ∧
      actions.length ≤ 27 ∧ ((∀ a : Action Unit, a.isPlain = true → u.step a = none) → u.caller () = .idle) := by
  intro asleep actions
  have started : autosuspend_earlysuspend_init ⟨.mem, .mem⟩ ⟨true, true, true, true, .failed false, true⟩ =
      some asleep := rfl
  have calls : (protocol Unit).Reaches Alone asleep (asleep.move () (.calling .mem .writing)) :=
    .single ⟨autosuspend_earlysuspend_enable (), fun _ => rfl, rfl⟩
  obtain ⟨u, ends⟩ : ∃ u, (protocol Unit).schedule (asleep.move () (.calling .mem .writing)) actions = some u :=
    ⟨_, rfl⟩
  exact ⟨u, ends, call_completes (i := ()) started calls (by simp [move]) (by simp [asleep, move])
    (by simp [actions, Action.isPlain]) ends⟩

end Suspend
end Libsuspend
