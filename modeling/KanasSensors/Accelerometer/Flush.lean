import KanasSensors.Accelerometer.Control
import KanasSensors.Accelerometer.Driver

/-! Flush requests against flush completions.

A pending flush is one bit of `mFlushed`, so requests that come in while an earlier
one waits are answered together with it. What a run conserves is the number of such
groups: those answered, and the one the bit still stands for.
-/

set_option autoImplicit false

namespace KanasSensors

open Foundation

variable {F : Type}

def accepts (sensor : Sensor) (t : Transition (Accelerometer F) Call (Reply F)) : Bool :=
  match t.input with
  | .flush handle => handle == sensor.handle && t.output.value == 0
  | _ => false

def readsOk (t : Transition (Accelerometer F) Call (Reply F)) : Bool :=
  match t.input with
  | .readEvents _ _ => decide (0 ≤ t.output.value)
  | _ => false

def answered (sensor : Sensor) (history : List (Transition (Accelerometer F) Call (Reply F))) : Nat :=
  (history.map fun t => t.output.stored.countP (·.completes sensor.handle)).sum

def accepted (sensor : Sensor) (history : List (Transition (Accelerometer F) Call (Reply F))) : Nat :=
  history.countP (accepts sensor)

/-- The accepted requests that came in while no earlier one of the sensor waited for
the next successful `readEvents`. -/
def groups (sensor : Sensor) :
    Bool → List (Transition (Accelerometer F) Call (Reply F)) → Nat
  | _, [] => 0
  | waiting, t :: rest =>
    if accepts sensor t then (!waiting).toNat + groups sensor true rest
    else if readsOk t then groups sensor false rest
    else groups sensor waiting rest

namespace FlushState

theorem completions_count (mFlushed : BitVec 32) (sensor : Sensor) :
    (completions (F := F) mFlushed).countP (·.completes sensor.handle) =
      (BitMask.test mFlushed sensor.index).toNat := by
  have same : (fun i => (flushComplete (F := F) i).completes sensor.handle) = (· == sensor.index) := by
    funext i
    rw [Bool.eq_iff_iff, beq_iff_eq]
    simp only [flushComplete, SensorsEvent.completes, sensor.handle_eq_index, beq_iff_eq]
    exact Int.natCast_inj
  rw [completions, List.countP_map, Function.comp_def, same]
  change (BitMask.positions mFlushed).count sensor.index = _
  by_cases pending : BitMask.test mFlushed sensor.index = true
  · rw [(BitMask.positions_nodup _).count, if_pos ((BitMask.mem_positions _ _).mpr pending), pending]
    rfl
  · rw [List.count_eq_zero.mpr (fun member => pending ((BitMask.mem_positions _ _).mp member)),
      Bool.eq_false_iff.mpr pending]
    rfl

end FlushState

namespace Accelerometer

variable [FloatArith F]

theorem consume_data (a : Accelerometer F) (event : InputEvent) :
    ∀ e ∈ (a.consume event).2, ∃ data, e = .data data := by
  have acknowledged : ∀ (b : Accelerometer F) (sensor : Sensor),
      ∀ e ∈ (b.acknowledge sensor event.time).2, ∃ data, e = .data data := by
    intro b sensor e member
    unfold acknowledge at member
    split at member
    · exact ⟨_, List.mem_singleton.mp member⟩
    · cases member
  intro e member
  obtain ⟨-, -, same⟩ | ⟨-, -, axis, same⟩ | ⟨-, same⟩ | ⟨-, -, same⟩ := a.consume_cases event
  · rw [same] at member; cases member
  · rw [same] at member; cases member
  · rw [same] at member
    exact ⟨_, List.mem_singleton.mp member⟩
  · rw [same] at member
    rcases List.mem_append.mp member with first | second
    · exact acknowledged _ _ e first
    · exact acknowledged _ _ e second

theorem emitted_no_completion (a : Accelerometer F) (events : List InputEvent) (handle : Int) :
    (a.emitted events).countP (·.completes handle) = 0 := by
  induction events generalizing a with
  | nil => rfl
  | cons event rest ih =>
    rw [emitted_cons, List.countP_append, ih, Nat.add_zero, List.countP_eq_zero]
    intro e member
    obtain ⟨data, rfl⟩ := a.consume_data event e member
    simp [SensorsEvent.completes]

def OwnFlushes (calls : List Call) : Prop :=
  ∀ handle, Call.flush handle ∈ calls → ∃ sensor : Sensor, handle = sensor.handle

omit [FloatArith F] in
theorem flush_test (a : Accelerometer F) (target sensor : Sensor) :
    BitMask.test (a.flush target.handle).1.mFlushed sensor.index =
      if target.handle == sensor.handle && (a.flush target.handle).2 == 0 then true
      else BitMask.test a.mFlushed sensor.index := by
  have inside : target.handle.toNat < 32 := by cases target <;> decide
  have same : sensor.index = target.handle.toNat ↔ target.handle = sensor.handle := by
    cases target <;> cases sensor <;> decide
  unfold flush
  split
  · simp only [BitMask.test_set _ inside, same]
    by_cases own : target.handle = sensor.handle <;> simp [own]
  · simp [Errno.einval]

theorem readsOk_fire {a : Accelerometer F} {count : Int} {data_fd : SysRead InputEvent} :
    readsOk (driver.fire a (.readEvents count data_fd)) = true ↔ a.Reads count data_fd := by
  refine decide_eq_true_iff.trans ⟨fun ok => ?_, fun reads => ?_⟩
  · by_contra idle
    exact absurd (readEvents_not_ok idle).2.1 (Int.not_lt.mpr ok)
  · obtain ⟨ring, -, result⟩ := readEvents_ok reads
    have value := congrArg (·.2.value) result
    exact value ▸ Int.natCast_nonneg _

theorem answer_mFlushed (a : Accelerometer F) {call : Call} (unasked : ∀ handle, call ≠ .flush handle)
    (unread : ∀ count data_fd, call ≠ .readEvents count data_fd) :
    (a.answer call).1.mFlushed = a.mFlushed := by
  cases call with
  | setEnable handle enabled outcome =>
    obtain ⟨files, same⟩ := a.setEnable_frame handle enabled outcome
    rw [answer, same]
  | setDelay handle delay_ns outcome =>
    obtain ⟨mDelay, files, same⟩ := a.setDelay_frame handle delay_ns outcome
    rw [answer, same]
  | batch handle flags period_ns timeout outcome =>
    obtain ⟨mDelay, files, same⟩ := a.batch_frame handle flags period_ns timeout outcome
    rw [answer, same]
  | flush handle => exact absurd rfl (unasked handle)
  | readEvents count data_fd => exact absurd rfl (unread count data_fd)

theorem answer_test (a : Accelerometer F) (call : Call) (own : OwnFlushes [call]) (sensor : Sensor) :
    BitMask.test (a.answer call).1.mFlushed sensor.index =
      if accepts sensor (driver.fire a call) then true
      else if readsOk (driver.fire a call) then false
      else BitMask.test a.mFlushed sensor.index := by
  cases call with
  | flush handle =>
    obtain ⟨target, rfl⟩ := own handle List.mem_cons_self
    exact a.flush_test target sensor
  | readEvents count data_fd =>
    have unasked : accepts sensor (driver.fire a (.readEvents count data_fd)) = false := rfl
    rw [if_neg (Bool.not_eq_true _ ▸ unasked)]
    by_cases reads : a.Reads count data_fd
    · obtain ⟨ring, -, result⟩ := readEvents_ok reads
      rw [if_pos (readsOk_fire.mpr reads), answer, result]
      exact BitMask.test_zero _
    · obtain ⟨⟨ring, -, unchanged⟩, -, -⟩ := readEvents_not_ok reads
      rw [if_neg (fun ok => reads (readsOk_fire.mp ok)), answer, unchanged]
  | _ =>
    change BitMask.test _ _ = BitMask.test a.mFlushed sensor.index
    rw [answer_mFlushed]
    · intro handle same
      cases same
    · intro count data_fd same
      cases same

theorem answer_completions (a : Accelerometer F) (call : Call) (sensor : Sensor) :
    (a.answer call).2.stored.countP (·.completes sensor.handle) =
      if readsOk (driver.fire a call) then (BitMask.test a.mFlushed sensor.index).toNat else 0 := by
  cases call with
  | readEvents count data_fd =>
    by_cases reads : a.Reads count data_fd
    · obtain ⟨ring, -, result⟩ := readEvents_ok reads
      rw [if_pos (readsOk_fire.mpr reads), answer, result, List.countP_append, emitted_no_completion,
        FlushState.completions_count]
      rfl
    · obtain ⟨-, -, nothing⟩ := readEvents_not_ok reads
      rw [if_neg (fun ok => reads (readsOk_fire.mp ok)), answer, nothing]
      rfl
  | _ => rfl

omit [FloatArith F] in
theorem readsOk_not_accepts {sensor : Sensor} {t : Transition (Accelerometer F) Call (Reply F)}
    (ok : readsOk t = true) : accepts sensor t = false := by
  obtain ⟨source, input, output, target⟩ := t
  cases input <;> first | rfl | cases ok

theorem groups_fire (a : Accelerometer F) (call : Call) (own : OwnFlushes [call]) (sensor : Sensor)
    (rest : List (Transition (Accelerometer F) Call (Reply F))) :
    (BitMask.test a.mFlushed sensor.index).toNat +
        groups sensor (BitMask.test a.mFlushed sensor.index) (driver.fire a call :: rest) =
      (a.answer call).2.stored.countP (·.completes sensor.handle) +
        ((BitMask.test (a.answer call).1.mFlushed sensor.index).toNat +
          groups sensor (BitMask.test (a.answer call).1.mFlushed sensor.index) rest) := by
  have bit := a.answer_test call own sensor
  have stored := a.answer_completions call sensor
  rw [groups]
  by_cases request : accepts sensor (driver.fire a call) = true
  · -- a request opens a group unless one is open
    have unread : ¬readsOk (driver.fire a call) = true := by
      intro reads
      rw [readsOk_not_accepts reads] at request
      cases request
    rw [if_pos request] at bit ⊢
    rw [if_neg unread] at stored
    rw [bit, stored, Bool.toNat_true]
    cases BitMask.test a.mFlushed sensor.index <;> simp
  · by_cases reads : readsOk (driver.fire a call) = true
    · -- a successful read answers the open group
      rw [if_neg request, if_pos reads] at bit ⊢
      rw [if_pos reads] at stored
      rw [bit, stored, Bool.toNat_false, Nat.zero_add]
    · -- any other call leaves the bit alone and stores no completion
      rw [if_neg request, if_neg reads] at bit ⊢
      rw [if_neg reads] at stored
      rw [bit, stored, Nat.zero_add]

theorem groups_conserved (a : Accelerometer F) (calls : List Call) (own : OwnFlushes calls)
    (sensor : Sensor) :
    answered sensor (driver.trace a calls) +
        (BitMask.test (driver.run a calls).mFlushed sensor.index).toNat =
      (BitMask.test a.mFlushed sensor.index).toNat +
        groups sensor (BitMask.test a.mFlushed sensor.index) (driver.trace a calls) := by
  induction calls generalizing a with
  | nil => simp [answered, groups]
  | cons call rest ih =>
    have first : answered sensor (driver.trace a (call :: rest)) =
        (a.answer call).2.stored.countP (·.completes sensor.handle) +
          answered sensor (driver.trace (a.answer call).1 rest) := rfl
    have last : driver.run a (call :: rest) = driver.run (a.answer call).1 rest := rfl
    have history : driver.trace a (call :: rest) =
        driver.fire a call :: driver.trace (a.answer call).1 rest := rfl
    have now : OwnFlushes [call] := by
      intro handle member
      exact own handle (List.mem_singleton.mp member ▸ List.mem_cons_self)
    have later := ih (a.answer call).1 (fun h member => own h (List.mem_cons_of_mem _ member))
    rw [first, last, history, a.groups_fire call now sensor, ← later, Nat.add_assoc]

/-- After every `readEvents` that returns no error, each sensor has had one completion
for each of its accepted requests that found no earlier one waiting. -/
theorem flush_groups_answered (a : Accelerometer F) (clear : a.mFlushed = 0) (calls : List Call)
    (own : OwnFlushes calls) (count : Int) (data_fd : SysRead InputEvent)
    (ok : 0 ≤ ((driver.run a calls).readEvents count data_fd).2.value) (sensor : Sensor) :
    answered sensor (driver.trace a (calls ++ [.readEvents count data_fd])) =
      groups sensor false (driver.trace a (calls ++ [.readEvents count data_fd])) := by
  have reads : (driver.run a calls).Reads count data_fd := by
    by_contra idle
    have negative := (readEvents_not_ok idle).2.1
    omega
  have own' : OwnFlushes (calls ++ [.readEvents count data_fd]) := by
    intro handle member
    rcases List.mem_append.mp member with member | member
    · exact own handle member
    · cases List.mem_singleton.mp member
  obtain ⟨ring, -, result⟩ := readEvents_ok reads
  have emptied : (driver.run a (calls ++ [.readEvents count data_fd])).mFlushed = 0 := by
    rw [driver.run_append]
    exact congrArg (·.1.mFlushed) result
  have balance := groups_conserved a (calls ++ [.readEvents count data_fd]) own' sensor
  rw [emptied, clear] at balance
  simpa using balance

theorem flush_groups_answered_twice :
    answered .main (driver.trace blank ([.setEnable idA 1 .written, .flush idA, .flush idA] ++
        [.readEvents 8 (.ofQueue [] 0)])) =
      groups .main false (driver.trace blank ([.setEnable idA 1 .written, .flush idA, .flush idA] ++
        [.readEvents 8 (.ofQueue [] 0)])) := by
  refine flush_groups_answered blank rfl _ ?_ 8 (.ofQueue [] 0) (by decide +kernel) .main
  intro handle member
  refine ⟨.main, ?_⟩
  simpa [Sensor.handle] using member

/-- Two requests before one read are answered by one completion. -/
theorem flushes_coalesce : ¬∀ (calls : List Call) (count : Int) (data_fd : SysRead InputEvent)
    (sensor : Sensor), OwnFlushes calls →
    0 ≤ ((driver.run blank calls).readEvents count data_fd).2.value →
    answered sensor (driver.trace blank (calls ++ [.readEvents count data_fd])) =
      accepted sensor (driver.trace blank (calls ++ [.readEvents count data_fd])) := by
  intro always
  have counted := always [.setEnable idA 1 .written, .flush idA, .flush idA] 8 (.ofQueue [] 0) .main
    (fun handle member => ⟨.main, by simpa [Sensor.handle] using member⟩) (by decide +kernel)
  revert counted
  decide +kernel

end Accelerometer
end KanasSensors
