import KanasSensors.Suspend.Mutex

/-! Calls in progress that all want the same state.

Between two changes of mind the system is at rest in a state, or on its way to it. At rest the
frame buffer, `/sys/power/state` and `earlysuspend_state` agree; on the way a call is pending
that cannot return before they do. So a call that returns without an error has got what it
asked for, and it lasts until the next write.
-/

set_option autoImplicit false

namespace Libsuspend

open Foundation

variable {ι : Type}

/-- The thread waits for the state to be left, or has yet to tell that it was reached. -/
def Monitor.Rests (w : EarlysuspendState) (m : Monitor) : Prop :=
  m = .absent ∨ m = .running w.other .reading ∨ m = .running w .signalling ∨ m = .running w .unlocking

namespace Suspend

def Want (s : Suspend ι) (v : EarlysuspendState) : Prop := ∀ i want pc, s.caller i = .calling want pc → want = v

/-- A new call wants what the calls in progress want. -/
def Agrees (s : Suspend ι) : Action ι → Prop
  | .call _ want => s.Want want
  | _ => True

structure Stable (w : EarlysuspendState) (s : Suspend ι) : Prop where
  kernel : s.kernel = ⟨w, w⟩
  state : s.earlysuspend_state = w
  monitor : s.monitor.Rests w
  callers : ∀ i want pc, s.caller i = .calling want pc → pc ≠ .writing → want = w

structure Turning (w : EarlysuspendState) (s : Suspend ι) : Prop where
  power : s.kernel.power = w
  state : s.earlysuspend_state = w.other
  monitor : s.monitor.Rests w.other ∨
    s.kernel.fb = w ∧ (s.monitor = .running w .locking ∨ s.monitor = .running w .storing)
  pending : ∃ i pc, s.caller i = .calling w pc ∧ pc ≠ .writing

structure Coordinated (s : Suspend ι) : Prop where
  waits : s.wait_for_earlysuspend = true
  exclusive : s.Exclusive
  agreed : ∃ v, s.Want v
  phase : ∃ w, s.Stable w ∨ s.Turning w

variable {s : Suspend ι} {v w : EarlysuspendState}

theorem Turning.want (turning : s.Turning w) (agreed : s.Want v) : v = w := by
  obtain ⟨i, pc, stands, -⟩ := turning.pending
  exact (agreed i w pc stands).symm

variable [DecidableEq ι]

theorem Want.move (agreed : s.Want v) {i : ι} {c : Caller} (own : ∀ want pc, c = .calling want pc → want = v) :
    (s.move i c).Want v := by
  intro j want pc
  rw [move_caller]
  split
  · exact own want pc
  · exact agreed j want pc

theorem Stable.move (stable : s.Stable w) {i : ι} {c : Caller}
    (own : ∀ want pc, c = .calling want pc → pc ≠ .writing → want = w) : (s.move i c).Stable w := by
  refine ⟨stable.kernel, stable.state, stable.monitor, fun j want pc => ?_⟩
  rw [move_caller]
  split
  · exact own want pc
  · exact stable.callers j want pc

theorem Turning.move (turning : s.Turning w) {i : ι} {c : Caller}
    (own : ∀ pc, s.caller i = .calling w pc → pc ≠ .writing → ∃ qc, c = .calling w qc ∧ qc ≠ .writing) :
    (s.move i c).Turning w := by
  refine ⟨turning.power, turning.state, turning.monitor, ?_⟩
  obtain ⟨j, pc, stands, past⟩ := turning.pending
  by_cases same : j = i
  · subst same
    obtain ⟨qc, next, further⟩ := own pc stands past
    exact ⟨j, qc, by simp [next], further⟩
  · exact ⟨j, pc, by simp [same, stands], past⟩

theorem phase_move (phase : s.Stable w ∨ s.Turning w) {i : ι} {want : EarlysuspendState} {pc qc : CallPc}
    (stands : s.caller i = .calling want pc) (past : pc ≠ .writing) (next : qc ≠ .writing) :
    (s.move i (.calling want qc)).Stable w ∨ (s.move i (.calling want qc)).Turning w := by
  refine phase.imp (fun stable => stable.move ?_) (fun turning => turning.move ?_)
  · rintro other rc same -
    cases same
    exact stable.callers i want pc stands past
  · intro rc own _
    rw [stands] at own
    cases own
    exact ⟨qc, rfl, next⟩

omit [DecidableEq ι] in
theorem phase_frame (phase : s.Stable w ∨ s.Turning w) (earlysuspend_mutex : Option (Thread ι))
    (earlysuspend_cond : Finset ι) :
    let t := { s with earlysuspend_mutex, earlysuspend_cond }
    t.Stable w ∨ t.Turning w :=
  phase.imp (fun stable => ⟨stable.kernel, stable.state, stable.monitor, stable.callers⟩)
    fun turning => ⟨turning.power, turning.state, turning.monitor, turning.pending⟩

theorem phase_written (phase : s.Stable w ∨ s.Turning w) {want : EarlysuspendState}
    (agreed : s.Want want) (i : ι) :
    let t := { s.move i (.calling want .locking) with kernel := { s.kernel with power := want } }
    ∃ w, t.Stable w ∨ t.Turning w := by
  intro t
  have pending : ∃ i pc, t.caller i = .calling want pc ∧ pc ≠ .writing := ⟨i, .locking, by simp [t], by decide⟩
  rcases phase with stable | turning
  · by_cases same : want = w
    · subst same
      refine ⟨want, .inl ⟨?_, stable.state, stable.monitor, fun j other pc at_j _ => ?_⟩⟩
      · simp [t, stable.kernel]
      · exact agreed.move (fun other pc same => by cases same; rfl) j other pc at_j
    · have turned := EarlysuspendState.eq_other_of_ne (Ne.symm same)
      refine ⟨want, .inr ⟨rfl, stable.state.trans turned, .inl ?_, pending⟩⟩
      exact turned ▸ stable.monitor
  · have same := turning.want agreed
    subst same
    exact ⟨want, .inr ⟨rfl, turning.state, turning.monitor, pending⟩⟩

omit [DecidableEq ι] in
theorem phase_monitor (phase : s.Stable w ∨ s.Turning w) {m : Monitor}
    (rests : ∀ u, s.monitor.Rests u → m.Rests u)
    (outside : s.monitor ≠ .running w .locking ∧ s.monitor ≠ .running w .storing) :
    Stable w { s with monitor := m } ∨ Turning w { s with monitor := m } := by
  refine phase.imp (fun stable => ?_) fun turning => ?_
  · exact ⟨stable.kernel, stable.state, rests w stable.monitor, stable.callers⟩
  · refine ⟨turning.power, turning.state, .inl ?_, turning.pending⟩
    rcases turning.monitor with near | ⟨-, locking | storing⟩
    · exact rests _ near
    · exact absurd locking outside.1
    · exact absurd storing outside.2

theorem phase_wake (phase : s.Stable w ∨ s.Turning w) {i : ι} {want : EarlysuspendState}
    (stands : s.caller i = .calling want .waiting) : (s.wake i want).Stable w ∨ (s.wake i want).Turning w :=
  phase_frame (phase_move phase stands (by decide) (by decide)) s.earlysuspend_mutex _

omit [DecidableEq ι] in
theorem phase_seen (phase : s.Stable w ∨ s.Turning w) {target : EarlysuspendState}
    (stands : s.monitor = .running target .reading) (follows : s.kernel.fb = target) :
    Turning w { s with monitor := .running target .locking } := by
  rcases phase with stable | turning
  · obtain gone | reading | telling | telling := stable.monitor
    · simp [gone] at stands
    · rw [reading, Monitor.running.injEq] at stands
      rw [stable.kernel, ← stands.1] at follows
      exact absurd follows w.ne_other
    · simp [telling] at stands
    · simp [telling] at stands
  · have own : target = w := by
      rcases turning.monitor with (gone | reading | telling | telling) | ⟨-, locking | storing⟩ <;>
        simp_all
    subst own
    exact ⟨turning.power, turning.state, .inr ⟨follows, .inl rfl⟩, turning.pending⟩

omit [DecidableEq ι] in
theorem phase_inside (phase : s.Stable w ∨ s.Turning w) {target : EarlysuspendState}
    (stands : s.monitor = .running target .locking ∨ s.monitor = .running target .storing) :
    target = w ∧ s.Turning w ∧ s.kernel.fb = w := by
  rcases phase with stable | turning
  · obtain gone | reading | telling | telling := stable.monitor <;> simp_all
  · rcases turning.monitor with (gone | reading | telling | telling) | ⟨follows, locking | storing⟩ <;>
      simp_all

namespace Coordinated

theorem step (coordinated : s.Coordinated) {a : Action ι} {t : Suspend ι} (agrees : s.Agrees a)
    (moved : s.step a = some t) : t.Coordinated := by
  obtain ⟨waits, exclusive, ⟨v, agreed⟩, w, phase⟩ := coordinated
  have still := exclusive.step moved
  cases step_steps moved with
  | call i want idle =>
    refine ⟨waits, still, ⟨want, Want.move agrees fun other pc same => by cases same; rfl⟩, w, ?_⟩
    refine phase.imp (fun stable => stable.move ?_) (fun turning => turning.move ?_)
    · rintro other pc same writing
      cases same
      exact absurd rfl writing
    · intro pc own _
      rw [idle] at own
      cases own
  | write i want done stands =>
    have same := agreed i want .writing stands
    subst same
    have goes : ∀ c : Caller, c = .idle ∨ c = .calling want .locking → (s.move i c).Want want := by
      rintro c (rfl | rfl)
      · exact agreed.move (by simp)
      · exact agreed.move fun other pc same => by cases same; rfl
    cases done with
    | true =>
      simp only [written, waits, if_true] at still ⊢
      exact ⟨waits, still, ⟨want, goes _ (.inr rfl)⟩, phase_written phase agreed i⟩
    | false =>
      refine ⟨waits, still, ⟨want, goes _ (.inl rfl)⟩, w, ?_⟩
      refine phase.imp (fun stable => stable.move (by simp)) (fun turning => turning.move ?_)
      intro pc own past
      rw [stands] at own
      cases own
      exact absurd rfl past
  | lock i want pc stands outside free =>
    have past : pc ≠ .writing := by rcases outside with rfl | rfl <;> decide
    have same := agreed i want pc stands
    refine ⟨waits, still, ⟨v, ?_⟩, w, phase_frame (phase_move phase stands past (by decide)) _ _⟩
    exact agreed.move fun other qc own => by cases own; exact same
  | pass i want stands came =>
    have same := agreed i want .testing stands
    refine ⟨waits, still, ⟨v, ?_⟩, w, phase_move phase stands (by decide) (by decide)⟩
    exact agreed.move fun other qc own => by cases own; exact same
  | block i want stands apart =>
    have same := agreed i want .testing stands
    refine ⟨waits, still, ⟨v, ?_⟩, w, phase_frame (phase_move phase stands (by decide) (by decide)) _ _⟩
    exact agreed.move fun other qc own => by cases own; exact same
  | unlock i want stands =>
    refine ⟨waits, still, ⟨v, agreed.move (c := .idle) (by simp)⟩, w, phase_frame (s := s.move i .idle) ?_ _ _⟩
    refine phase.imp (fun stable => stable.move (by simp)) (fun turning => turning.move ?_)
    -- a call on its way has not found the state it wants
    intro pc own _
    rw [stands] at own
    cases own
    exact absurd (turning.state.symm.trans (exclusive.tested i w stands)) w.other_ne
  | spurious i want stands =>
    have same := agreed i want .waiting stands
    refine ⟨waits, still, ⟨v, ?_⟩, w, phase_wake phase stands⟩
    exact agreed.move fun other qc own => by cases own; exact same
  | seen target stands follows =>
    exact ⟨waits, still, ⟨v, agreed⟩, w, .inr (phase_seen phase stands follows)⟩
  | exit target stands =>
    refine ⟨waits, still, ⟨v, agreed⟩, w, phase_monitor phase (fun u _ => .inl rfl) ?_⟩
    simp [stands]
  | acquire target stands free =>
    obtain ⟨rfl, turning, follows⟩ := phase_inside phase (.inl stands)
    exact ⟨waits, still, ⟨v, agreed⟩, target,
      .inr ⟨turning.power, turning.state, .inr ⟨follows, .inr rfl⟩, turning.pending⟩⟩
  | store target stands =>
    obtain ⟨rfl, turning, follows⟩ := phase_inside phase (.inr stands)
    have reached : s.kernel = ⟨target, target⟩ :=
      calc s.kernel = ⟨s.kernel.power, s.kernel.fb⟩ := rfl
        _ = ⟨target, target⟩ := by rw [turning.power, follows]
    refine ⟨waits, still, ⟨v, agreed⟩, target, .inl ⟨reached, rfl, .inr (.inr (.inl rfl)), ?_⟩⟩
    intro i want pc at_i _
    rw [← turning.want agreed]
    exact agreed i want pc at_i
  | release target stands =>
    refine ⟨waits, still, ⟨v, agreed⟩, w,
      phase_frame (s := { s with monitor := .running target.other .reading }) ?_ none s.earlysuspend_cond⟩
    refine phase_monitor phase (fun u rests => ?_) (by simp [stands])
    rcases rests with gone | reading | telling | telling <;> simp_all [Monitor.Rests]
  | signalNone target stands nobody =>
    refine ⟨waits, still, ⟨v, agreed⟩, w, phase_monitor phase (fun u rests => ?_) (by simp [stands])⟩
    rcases rests with gone | reading | telling | telling <;> simp_all [Monitor.Rests]
  | signalSome target stands i want blocked =>
    have same := agreed i want .waiting blocked
    refine ⟨waits, still, ⟨v, ?_⟩, w, phase_monitor (phase_wake phase blocked) (fun u rests => ?_) ?_⟩
    · exact agreed.move fun other qc own => by cases own; exact same
    · change s.monitor.Rests u at rests
      rcases rests with gone | reading | telling | telling <;> simp_all [Monitor.Rests]
    · change s.monitor ≠ _ ∧ s.monitor ≠ _
      simp [stands]
  | settle behind =>
    rcases phase with stable | turning
    · exact absurd (by rw [stable.kernel]) behind
    · refine ⟨waits, still, ⟨v, agreed⟩, w, .inr ⟨turning.power, turning.state, ?_, turning.pending⟩⟩
      exact turning.monitor.imp id fun inside => ⟨turning.power, inside.2⟩

theorem reaches (coordinated : s.Coordinated) {t : Suspend ι} (reaches : (protocol ι).Reaches Agrees s t) :
    t.Coordinated :=
  Protocol.Reaches.keeps (protocol ι) Coordinated
    (fun _ _ _ held agrees moved => step held agrees moved) coordinated reaches

omit [DecidableEq ι] in
theorem rests (coordinated : s.Coordinated)
    (quiet : ∀ i want pc, s.caller i = .calling want pc → pc = .writing) :
    ∃ w, s.kernel = ⟨w, w⟩ ∧ s.earlysuspend_state = w := by
  obtain ⟨w, stable | turning⟩ := coordinated.phase
  · exact ⟨w, stable.kernel, stable.state⟩
  · obtain ⟨i, pc, stands, past⟩ := turning.pending
    exact absurd (quiet i w pc stands) past

theorem returned (coordinated : s.Coordinated) {a : Action ι} {t : Suspend ι}
    {want : EarlysuspendState} (moved : s.step a = some t) (returned : s.returns a = some (want, 0)) :
    t.kernel = ⟨want, want⟩ ∧ t.earlysuspend_state = want := by
  have at_rest : ∀ i, s.caller i = .calling want .unlocking →
      s.kernel = ⟨want, want⟩ ∧ s.earlysuspend_state = want := by
    intro i stands
    have own := coordinated.exclusive.tested i want stands
    obtain ⟨w, stable | turning⟩ := coordinated.phase
    · have same : w = want := stable.state.symm.trans own
      exact ⟨same ▸ stable.kernel, own⟩
    · obtain ⟨v, agreed⟩ := coordinated.agreed
      have same : want = w := (agreed i want .unlocking stands).trans (turning.want agreed)
      exact absurd (same ▸ turning.state.symm.trans own) w.other_ne
  cases step_steps moved with
  | write i other done stands =>
    simp only [returns, stands, coordinated.waits] at returned
    cases done <;> simp at returned
  | unlock i other stands =>
    simp only [returns, stands, Option.some.injEq, Prod.mk.injEq, and_true] at returned
    exact at_rest i (returned ▸ stands)
  | lock i other pc stands outside free =>
    rcases outside with rfl | rfl <;> simp [returns, stands] at returned
  | pass i other stands came => simp [returns, stands] at returned
  | block i other stands apart => simp [returns, stands] at returned
  | _ => simp [returns] at returned

end Coordinated

omit [DecidableEq ι] in
theorem init_cases {k : Kernel} {answers : InitAnswers}
    (started : autosuspend_earlysuspend_init k answers = some s) :
    (∃ kernel, s = ⟨false, .on, none, ∅, .absent, fun _ => .idle, kernel⟩) ∨
    s = ⟨true, .on, none, ∅, .running .mem .reading, fun _ => .idle,
      Kernel.waited ⟨.on, k.fb⟩ answers.wait⟩ := by
  unfold autosuspend_earlysuspend_init start_earlysuspend_thread at started
  split_ifs at started
  · exact .inl ⟨_, (Option.some.inj started).symm⟩
  · exact .inl ⟨_, (Option.some.inj started).symm⟩
  · exact .inr (Option.some.inj started).symm
  · exact .inl ⟨_, (Option.some.inj started).symm⟩

omit [DecidableEq ι] in
theorem init_idle {k : Kernel} {answers : InitAnswers}
    (started : autosuspend_earlysuspend_init k answers = some s) (i : ι) : s.caller i = .idle := by
  obtain ⟨kernel, rfl⟩ | rfl := init_cases started <;> rfl

omit [DecidableEq ι] in
theorem init_exclusive {k : Kernel} {answers : InitAnswers}
    (started : autosuspend_earlysuspend_init k answers = some s) : s.Exclusive := by
  obtain ⟨kernel, rfl⟩ | rfl := init_cases started
  · refine ⟨fun thread => ?_, by simp [Caller.blocked], by simp⟩
    cases thread <;> simp [holds, Monitor.holds, Caller.holds]
  · refine ⟨fun thread => ?_, by simp [Caller.blocked], by simp⟩
    cases thread <;> simp [holds, Monitor.holds, Caller.holds]

omit [DecidableEq ι] in
theorem init_coordinated {k : Kernel} {answers : InitAnswers}
    (started : autosuspend_earlysuspend_init k answers = some s) (waits : s.wait_for_earlysuspend = true)
    (woke : answers.wait = .succeeded) : s.Coordinated := by
  have exclusive := init_exclusive started
  obtain ⟨kernel, rfl⟩ | rfl := init_cases started
  · cases waits
  · refine ⟨rfl, exclusive, ⟨.on, by simp [Want]⟩, .on, .inl ⟨?_, rfl, .inr (.inl rfl), by simp⟩⟩
    rw [woke]
    rfl

/-- Once the thread is started, in every run in which no two calls in progress want different
states: wherever no call is past its `write`, frame buffer and state are as last asked for, and
a call that returns without an error returns with both in the state it wanted. -/
theorem calls_settle {k : Kernel} {answers : InitAnswers} {t : Suspend ι}
    (started : autosuspend_earlysuspend_init k answers = some s) (waits : s.wait_for_earlysuspend = true)
    (woke : answers.wait = .succeeded) (reaches : (protocol ι).Reaches Agrees s t) :
    ((∀ i want pc, t.caller i = .calling want pc → pc = .writing) →
      ∃ w, t.kernel = ⟨w, w⟩ ∧ t.earlysuspend_state = w) ∧
    ∀ a u want, t.step a = some u → t.returns a = some (want, 0) →
      u.kernel = ⟨want, want⟩ ∧ u.earlysuspend_state = want := by
  have coordinated := (init_coordinated started waits woke).reaches reaches
  exact ⟨coordinated.rests, fun a u want moved returned => coordinated.returned moved returned⟩

def booted : Suspend Unit := ⟨true, .on, none, ∅, .running .mem .reading, fun _ => .idle, ⟨.on, .on⟩⟩
def called : Suspend Unit := booted.move () (.calling .mem .writing)

theorem init_booted :
    autosuspend_earlysuspend_init ⟨.mem, .mem⟩ ⟨true, true, true, true, .succeeded, true⟩ = some booted := rfl

def enabling : List (Action Unit) :=
  [.write () true, .advance (), .advance (), .settle, .read true, .monitor, .monitor, .signal (some ()),
    .monitor, .advance (), .advance ()]

theorem enabling_reaches {guard : Suspend Unit → Action Unit → Prop}
    (calls : guard booted (autosuspend_earlysuspend_enable ())) (others : ∀ s, ∀ a ∈ enabling, guard s a)
    {n : Nat} {t : Suspend Unit} (ends : (protocol Unit).schedule called (enabling.take n) = some t) :
    (protocol Unit).Reaches guard booted t := by
  refine .head ⟨autosuspend_earlysuspend_enable (), calls, rfl⟩ ?_
  exact (protocol Unit).schedule_reaches _ (fun s a member => others s a (List.mem_of_mem_take member)) ends

def bootedTwo : Suspend Bool := ⟨true, .on, none, ∅, .running .mem .reading, fun _ => .idle, ⟨.on, .on⟩⟩
def calledTwice : Suspend Bool :=
  (bootedTwo.move true (.calling .mem .writing)).move false (.calling .mem .writing)

theorem calledTwice_reaches (actions : List (Action Bool)) (allowed : ∀ s, ∀ a ∈ actions, Agrees s a)
    {t : Suspend Bool} (ends : (protocol Bool).schedule calledTwice actions = some t) :
    (protocol Bool).Reaches Agrees bootedTwo t := by
  have calls : (protocol Bool).Moves Agrees bootedTwo (bootedTwo.move true (.calling .mem .writing)) :=
    ⟨autosuspend_earlysuspend_enable true, by simp [Agrees, Want, bootedTwo, autosuspend_earlysuspend_enable], rfl⟩
  have joins : (protocol Bool).Moves Agrees (bootedTwo.move true (.calling .mem .writing)) calledTwice := by
    refine ⟨autosuspend_earlysuspend_enable false, fun i want pc stands => ?_, rfl⟩
    cases i with
    | false => cases stands
    | true => cases stands; rfl
  exact .head calls (.head joins ((protocol Bool).schedule_reaches actions allowed ends))

/-- The second call writes when the first has been woken, and returns before it. -/
theorem calls_settle_agreeing :
    ∃ t u : Suspend Bool, t.returns (.advance false) = some (.mem, 0) ∧ t.step (.advance false) = some u ∧
      u.kernel = ⟨.mem, .mem⟩ ∧ u.earlysuspend_state = .mem := by
  let actions : List (Action Bool) :=
    [.write true true, .advance true, .advance true, .settle, .read true, .monitor, .monitor,
      .signal (some true), .monitor, .write false true, .advance false, .advance false]
  let t := ((protocol Bool).schedule calledTwice actions).getD bootedTwo
  have started : autosuspend_earlysuspend_init ⟨.mem, .mem⟩ ⟨true, true, true, true, .succeeded, true⟩ =
      some bootedTwo := rfl
  have reaches : (protocol Bool).Reaches Agrees bootedTwo t :=
    calledTwice_reaches actions (by simp [actions, Agrees]) rfl
  obtain ⟨u, moved⟩ : ∃ u, t.step (.advance false) = some u := ⟨_, rfl⟩
  have settled := calls_settle started rfl rfl reaches
  exact ⟨t, u, rfl, moved, settled.2 _ u .mem moved rfl⟩

/-- A frame buffer still asleep when the thread starts, after a `wait_for_fb_wake` that failed:
the thread takes it for asleep, it comes on, and an `enable` returns at once. -/
theorem enable_returns_awake :
    ∃ s t u : Suspend Unit,
      autosuspend_earlysuspend_init ⟨.mem, .mem⟩ ⟨true, true, true, true, .failed false, true⟩ = some s ∧
      (protocol Unit).Reaches Agrees s t ∧ t.step (.advance ()) = some u ∧
      t.returns (.advance ()) = some (.mem, 0) ∧ u.kernel = ⟨.mem, .on⟩ := by
  let s : Suspend Unit := ⟨true, .on, none, ∅, .running .mem .reading, fun _ => .idle, ⟨.on, .mem⟩⟩
  let early : List (Action Unit) := [.read true, .monitor, .monitor, .signal none, .monitor, .settle]
  let late : List (Action Unit) := [.write () true, .advance (), .advance ()]
  let woken := ((protocol Unit).schedule s early).getD s
  let asked := woken.move () (.calling .mem .writing)
  let t := ((protocol Unit).schedule asked late).getD s
  have before : (protocol Unit).Reaches Agrees s woken :=
    (protocol Unit).schedule_reaches early (by simp [early, Agrees]) rfl
  have calls : (protocol Unit).Moves Agrees woken asked := by
    refine ⟨autosuspend_earlysuspend_enable (), fun i want pc stands => ?_, rfl⟩
    cases stands
  have after : (protocol Unit).Reaches Agrees asked t :=
    (protocol Unit).schedule_reaches late (by simp [late, Agrees]) rfl
  exact ⟨s, t, _, rfl, before.trans (.head calls after), rfl, rfl, rfl⟩

end Suspend
end Libsuspend
