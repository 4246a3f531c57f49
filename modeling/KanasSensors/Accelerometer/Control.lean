import KanasSensors.Accelerometer.Model

/-! What `setEnable`, `setDelay`, `batch` and `flush` can change of the object.

Each has one frame lemma that says everything it may touch; what holds of the rest is
read off it.
-/

set_option autoImplicit false

namespace KanasSensors

open Foundation

variable {F : Type}

def Sensor.controlFile : Sensor → SysfsFile
  | .significantMotion => .enSigMotion
  | _ => .enable

namespace Sensor

theorem index_eq_iff (first second : Sensor) : first.index = second.index ↔ first = second := by
  cases first <;> cases second <;> decide

theorem index_lt (sensor : Sensor) : sensor.index < 32 := by
  cases sensor <;> decide

theorem handle_eq_iff (first second : Sensor) : first.handle = second.handle ↔ first = second := by
  cases first <;> cases second <;> decide

theorem handle_eq_index (sensor : Sensor) : sensor.handle = (sensor.index : Int) := by
  cases sensor <;> rfl

end Sensor

theorem writeSysAttribute_failed (files : Sysfs) (file : SysfsFile) (value : String)
    {outcome : SysfsOutcome} (failed : outcome ≠ .written) :
    (writeSysAttribute files file value outcome).1 = files ∧
      (writeSysAttribute files file value outcome).2 ≠ 0 := by
  cases outcome with
  | openFailed => exact ⟨rfl, show (-1 : Int) ≠ 0 by decide⟩
  | writeFailed errno =>
    have positive := errno.positive
    exact ⟨rfl, show -errno.code ≠ 0 by omega⟩
  | written => exact absurd rfl failed

namespace Accelerometer

theorem enableFile_handle (sensor : Sensor) :
    enableFile sensor.handle = some (sensor, sensor.controlFile) := by
  cases sensor <;> rfl

theorem enableFile_cases (handle : Int) :
    (enableFile handle = none ∧ ∀ sensor : Sensor, handle ≠ sensor.handle) ∨
    ∃ sensor : Sensor, handle = sensor.handle ∧ enableFile handle = some (sensor, sensor.controlFile) := by
  by_cases known : ∃ sensor : Sensor, handle = sensor.handle
  · obtain ⟨sensor, rfl⟩ := known
    exact .inr ⟨sensor, rfl, enableFile_handle sensor⟩
  · have other : ∀ sensor : Sensor, handle ≠ sensor.handle := fun sensor same => known ⟨sensor, same⟩
    have main : handle ≠ idA := other .main
    have linear : handle ≠ idLA := other .linearAcceleration
    have motion : handle ≠ idSM := other .significantMotion
    refine .inl ⟨?_, other⟩
    rw [enableFile, if_neg main, if_neg motion, if_neg linear]

def maskSwitched (mEnabled : BitVec 32) (handle enabled : Int) : BitVec 32 :=
  match enableFile handle with
  | none => mEnabled
  | some (sensor, _) =>
    if enabled ≠ 0 then BitMask.set mEnabled sensor.index else BitMask.clear mEnabled sensor.index

theorem test_maskSwitched_handle (mEnabled : BitVec 32) (sensor : Sensor) (enabled : Int) (i : Nat) :
    BitMask.test (maskSwitched mEnabled sensor.handle enabled) i =
      if i = sensor.index then enabled != 0 else BitMask.test mEnabled i := by
  have inside := sensor.index_lt
  rw [maskSwitched, enableFile_handle]
  by_cases own : i = sensor.index <;> by_cases off : enabled = 0 <;>
    simp [own, off, BitMask.test_set _ inside]

theorem test_maskSwitched (mEnabled : BitVec 32) (handle enabled : Int) (sensor : Sensor) :
    BitMask.test (maskSwitched mEnabled handle enabled) sensor.index =
      if handle = sensor.handle then enabled != 0 else BitMask.test mEnabled sensor.index := by
  obtain ⟨unknown, other⟩ | ⟨switched, rfl, -⟩ := enableFile_cases handle
  · rw [maskSwitched, unknown, if_neg (other sensor)]
  · rw [test_maskSwitched_handle]
    have same : sensor.index = switched.index ↔ switched.handle = sensor.handle := by
      rw [Sensor.index_eq_iff, Sensor.handle_eq_iff, eq_comm]
    simp only [same]

theorem setEnable_frame (a : Accelerometer F) (handle enabled : Int) (outcome : SysfsOutcome) :
    ∃ files, (a.setEnable handle enabled outcome).1 =
      { a with mEnabled := maskSwitched a.mEnabled handle enabled, files } := by
  unfold setEnable maskSwitched
  cases enableFile handle <;> exact ⟨_, rfl⟩

/-- The call is for one of the two sensors that share the interval, asks for another one
than is in force, and its write succeeds. -/
structure Retimes (a : Accelerometer F) (handle delay_ns : Int) (outcome : SysfsOutcome) : Prop where
  rated : handle = idLA ∨ handle = idA
  moves : a.mDelay ≠ delay_ns
  written : outcome = .written

theorem setDelay_cases (a : Accelerometer F) (handle delay_ns : Int) (outcome : SysfsOutcome) :
    (a.Retimes handle delay_ns outcome ∧ a.setDelay handle delay_ns outcome =
      ({ a with
        mDelay := delay_ns
        files := a.files.put .pollDelay (delayMillis delay_ns).repr }, 0)) ∨
    (¬a.Retimes handle delay_ns outcome ∧ (a.setDelay handle delay_ns outcome).1 = a) := by
  by_cases rated : handle = idLA ∨ handle = idA
  · have apart : handle ≠ idSM := by rcases rated with rfl | rfl <;> decide
    by_cases moves : a.mDelay = delay_ns
    · refine .inr ⟨fun retimes => retimes.moves moves, ?_⟩
      rw [setDelay, if_neg apart, if_pos rated, if_neg (not_not.mpr moves)]
    · rw [setDelay, if_neg apart, if_pos rated, if_pos moves]
      by_cases written : outcome = .written
      · subst written
        exact .inl ⟨⟨rated, moves, rfl⟩, rfl⟩
      · obtain ⟨files, err⟩ := writeSysAttribute_failed a.files .pollDelay
          (delayMillis delay_ns).repr written
        refine .inr ⟨fun retimes => written retimes.written, ?_⟩
        simp only [files, if_neg err]
  · refine .inr ⟨fun retimes => rated retimes.rated, ?_⟩
    simp only [setDelay, if_neg rated]
    split <;> rfl

theorem setDelay_frame (a : Accelerometer F) (handle delay_ns : Int) (outcome : SysfsOutcome) :
    ∃ mDelay files, (a.setDelay handle delay_ns outcome).1 = { a with mDelay, files } := by
  obtain ⟨-, taken⟩ | ⟨-, kept⟩ := a.setDelay_cases handle delay_ns outcome
  · exact ⟨_, _, congrArg Prod.fst taken⟩
  · exact ⟨_, _, kept⟩

theorem batch_frame (a : Accelerometer F) (handle flags period_ns timeout : Int)
    (outcome : SysfsOutcome) :
    ∃ mDelay files, (a.batch handle flags period_ns timeout outcome).1 = { a with mDelay, files } := by
  unfold batch
  split
  · exact a.setDelay_frame handle period_ns outcome
  · exact ⟨a.mDelay, a.files, rfl⟩

theorem flush_frame (a : Accelerometer F) (handle : Int) :
    ∃ mFlushed, (a.flush handle).1 = { a with mFlushed } := by
  unfold flush
  split
  · exact ⟨_, rfl⟩
  · exact ⟨a.mFlushed, rfl⟩

end Accelerometer
end KanasSensors
