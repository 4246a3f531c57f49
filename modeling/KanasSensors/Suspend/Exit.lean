import KanasSensors.Suspend.Progress

/-! The early suspend thread after a failed read: it has returned, and nobody notices.

From then on `earlysuspend_state` stays what it is. Calls that want it go on to return at once;
a call that wants the other state waits for ever behind its `write`, and none of them, whatever
the callers do, returns without an error.
-/

set_option autoImplicit false

namespace Libsuspend

open Foundation

namespace Suspend

variable {ι : Type} [DecidableEq ι]

structure Deserted (v : EarlysuspendState) (s : Suspend ι) : Prop where
  waits : s.wait_for_earlysuspend = true
  gone : s.monitor = .absent
  state : s.earlysuspend_state = v
  exclusive : s.Exclusive

def Stuck (want : EarlysuspendState) (i : ι) (s : Suspend ι) : Prop :=
  ∃ pc, s.caller i = .calling want pc ∧ pc ≠ .writing

variable {s : Suspend ι} {v want : EarlysuspendState} {i : ι}

namespace Deserted

theorem step (deserted : s.Deserted v) {a : Action ι} {t : Suspend ι} (moved : s.step a = some t) :
    t.Deserted v := by
  obtain ⟨waits, gone, state, exclusive⟩ := deserted
  have still := exclusive.step moved
  have nowhere : ∀ target pc, s.monitor ≠ .running target pc := by simp [gone]
  cases step_steps moved with
  | write j other done stands =>
    obtain ⟨waits', state', monitor'⟩ := s.written_frame j other done
    exact ⟨waits'.trans waits, monitor'.trans gone, state'.trans state, still⟩
  | seen target stands follows => exact absurd stands (nowhere _ _)
  | exit target stands => exact absurd stands (nowhere _ _)
  | acquire target stands free => exact absurd stands (nowhere _ _)
  | store target stands => exact absurd stands (nowhere _ _)
  | release target stands => exact absurd stands (nowhere _ _)
  | signalNone target stands nobody => exact absurd stands (nowhere _ _)
  | signalSome target stands j other blocked => exact absurd stands (nowhere _ _)
  | _ => exact ⟨waits, gone, state, still⟩

theorem stuck (deserted : s.Deserted v) (apart : want ≠ v) (stuck : s.Stuck want i) {a : Action ι}
    {t : Suspend ι} (moved : s.step a = some t) : t.Stuck want i := by
  obtain ⟨pc, at_i, past⟩ := stuck
  have kept : ∀ (j : ι) (other : EarlysuspendState) (qc rc : CallPc), s.caller j = .calling other qc →
      rc ≠ .writing → (s.move j (.calling other rc)).Stuck want i := by
    intro j other qc rc stands further
    by_cases own : i = j
    · subst own
      rw [at_i] at stands
      cases stands
      exact ⟨rc, by simp, further⟩
    · exact ⟨pc, by simp [own, at_i], past⟩
  cases step_steps moved with
  | call j other idle =>
    have own : i ≠ j := by
      rintro rfl
      simp [at_i] at idle
    exact ⟨pc, by simp [own, at_i], past⟩
  | write j other done stands =>
    have own : i ≠ j := by
      rintro rfl
      rw [at_i] at stands
      cases stands
      exact past rfl
    unfold written
    split
    · exact ⟨pc, by simp [own, at_i], past⟩
    · exact ⟨pc, by simp [own, at_i], past⟩
  | lock j other qc stands outside free => exact kept j other qc .testing stands (by decide)
  | pass j other stands came => exact kept j other .testing .unlocking stands (by decide)
  | block j other stands differs => exact kept j other .testing .waiting stands (by decide)
  | unlock j other stands =>
    -- the call does not get here: it would have found the state it wants
    have own : i ≠ j := by
      rintro rfl
      have found := deserted.exclusive.tested i other stands
      rw [at_i] at stands
      cases stands
      exact apart (found.symm.trans deserted.state)
    exact ⟨pc, by simp [own, at_i], past⟩
  | spurious j other stands => exact kept j other .waiting .woken stands (by decide)
  | signalSome target stands j other blocked => exact kept j other .waiting .woken blocked (by decide)
  | _ => exact ⟨pc, at_i, past⟩

omit [DecidableEq ι] in
theorem returned (deserted : s.Deserted v) {a : Action ι} (returned : s.returns a = some (want, 0)) :
    want = v := by
  cases a with
  | write j done =>
    simp only [returns, deserted.waits] at returned
    split at returned
    · cases done <;> simp at returned
    · cases returned
  | advance j =>
    simp only [returns] at returned
    split at returned
    · next other stands =>
      cases returned
      exact (deserted.exclusive.tested j want stands).symm.trans deserted.state
    · cases returned
  | _ => cases returned

end Deserted

variable {k : Kernel} {answers : InitAnswers} {t u : Suspend ι}

theorem init_waits (reaches : (protocol ι).Reaches (fun _ _ => True) s t)
    (waits : s.wait_for_earlysuspend = true) (exclusive : s.Exclusive) :
    t.wait_for_earlysuspend = true ∧ t.Exclusive := by
  refine Protocol.Reaches.keeps (protocol ι)
    (fun s => s.wait_for_earlysuspend = true ∧ s.Exclusive) ?_ ⟨waits, exclusive⟩ reaches
  rintro s a t ⟨waits, exclusive⟩ - moved
  refine ⟨?_, exclusive.step moved⟩
  cases step_steps moved with
  | write j other done stands => exact (s.written_frame j other done).1.trans waits
  | _ => exact waits

/-- Once the thread has returned, in every run whatever the callers do: the state it has left
stays, a call returns without an error only if that is what it wants, and a call that wants the
other state and has written it never returns. -/
theorem exit_deserts (started : autosuspend_earlysuspend_init k answers = some s)
    (waits : s.wait_for_earlysuspend = true) (reaches : (protocol ι).Reaches (fun _ _ => True) s t)
    (gone : t.monitor = .absent) (later : (protocol ι).Reaches (fun _ _ => True) t u) :
    u.earlysuspend_state = t.earlysuspend_state ∧
      (∀ a want, u.returns a = some (want, 0) → want = t.earlysuspend_state) ∧
      ∀ i want, want ≠ t.earlysuspend_state → t.Stuck want i → u.Stuck want i := by
  obtain ⟨still, exclusive⟩ := init_waits reaches waits (init_exclusive started)
  have deserted : t.Deserted t.earlysuspend_state := ⟨still, gone, rfl, exclusive⟩
  have after := Protocol.Reaches.keeps (protocol ι) (Deserted t.earlysuspend_state)
    (fun _ _ _ held _ moved => held.step moved) deserted later
  refine ⟨after.state, fun a want returned => after.returned returned, fun i want apart stuck => ?_⟩
  exact (Protocol.Reaches.keeps (protocol ι)
    (fun s => s.Deserted t.earlysuspend_state ∧ s.Stuck want i)
    (fun _ _ _ held _ moved => ⟨held.1.step moved, held.1.stuck apart held.2 moved⟩)
    ⟨deserted, stuck⟩ later).2

/-- The read for the frame buffer to sleep fails while an `enable` waits for it. -/
theorem exit_deserts_enabling :
    ∃ u : Suspend Unit, u.earlysuspend_state = .on ∧ u.Stuck .mem () := by
  let fails : List (Action Unit) := [.write () true, .read false]
  let waits : List (Action Unit) := [.advance (), .advance ()]
  let t := ((protocol Unit).schedule called fails).getD booted
  let u := ((protocol Unit).schedule t waits).getD booted
  have first : (protocol Unit).Moves (fun _ _ => True) booted called :=
    ⟨autosuspend_earlysuspend_enable (), trivial, rfl⟩
  have before : (protocol Unit).Reaches (fun _ _ => True) called t :=
    (protocol Unit).schedule_reaches fails (fun _ _ _ => trivial) rfl
  have after : (protocol Unit).Reaches (fun _ _ => True) t u :=
    (protocol Unit).schedule_reaches waits (fun _ _ _ => trivial) rfl
  obtain ⟨state, -, stuck⟩ := exit_deserts init_booted rfl (.head first before) rfl after
  exact ⟨u, state, stuck () .mem (by decide) ⟨.locking, rfl, by decide⟩⟩

end Suspend
end Libsuspend
