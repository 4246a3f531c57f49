import KanasSensors.Accelerometer.Control
import KanasSensors.Accelerometer.Driver

/-! What a control call leaves behind when it returns an error.

`setDelay` moves its field after the write and `setEnable` before it. A failed `setDelay`
therefore leaves the object as it was, and a failed `setEnable` does so only where the
sensor's bit had the requested value already.
-/

set_option autoImplicit false

namespace KanasSensors

open Foundation

variable {F : Type}

namespace Accelerometer

/-- A later user of the object cannot tell `b` from `a`. -/
structure Intact [FloatArith F] (a b : Accelerometer F) : Prop where
  mEnabled : b.mEnabled = a.mEnabled
  mDelay : b.mDelay = a.mDelay
  getEnable : ∀ handle, b.getEnable handle = a.getEnable handle
  getDelay : ∀ handle, b.getDelay handle = a.getDelay handle
  replies : ∀ calls, (driver.trace b calls).map (·.output) = (driver.trace a calls).map (·.output)

theorem Intact.refl [FloatArith F] (a : Accelerometer F) : a.Intact a :=
  ⟨rfl, rfl, fun _ => rfl, fun _ => rfl, fun _ => rfl⟩

theorem setDelay_failed {a : Accelerometer F} {handle delay_ns : Int} {outcome : SysfsOutcome}
    (failed : (a.setDelay handle delay_ns outcome).2 ≠ 0) :
    (a.setDelay handle delay_ns outcome).1 = a := by
  obtain ⟨-, taken⟩ | ⟨-, kept⟩ := a.setDelay_cases handle delay_ns outcome
  · exact absurd (congrArg Prod.snd taken) failed
  · exact kept

theorem setEnable_written (a : Accelerometer F) {handle : Int} (known : enableFile handle ≠ none)
    (enabled : Int) : (a.setEnable handle enabled .written).2 = 0 := by
  unfold setEnable
  cases file : enableFile handle with
  | none => exact absurd file known
  | some found => rfl

theorem setEnable_failed (a : Accelerometer F) {handle : Int} (known : enableFile handle ≠ none)
    (enabled : Int) {outcome : SysfsOutcome} (failed : outcome ≠ .written) :
    (a.setEnable handle enabled outcome).2 ≠ 0 ∧ (a.setEnable handle enabled outcome).1 =
      { a with mEnabled := maskSwitched a.mEnabled handle enabled } := by
  unfold setEnable maskSwitched
  cases file : enableFile handle with
  | none => exact absurd file known
  | some found =>
    have kept := fun value => writeSysAttribute_failed a.files found.2 value failed
    constructor
    · exact (kept _).2
    · simp only [(kept _).1]

theorem maskSwitched_eq_iff (a : Accelerometer F) {handle : Int} (known : enableFile handle ≠ none)
    (enabled : Int) : maskSwitched a.mEnabled handle enabled = a.mEnabled ↔
      a.getEnable handle = if enabled ≠ 0 then 1 else 0 := by
  obtain ⟨unknown, -⟩ | ⟨sensor, rfl, file⟩ := enableFile_cases handle
  · exact absurd unknown known
  · have bit : a.getEnable sensor.handle = (if enabled ≠ 0 then 1 else 0) ↔
        BitMask.test a.mEnabled sensor.index = (enabled != 0) := by
      simp only [getEnable, file]
      by_cases off : enabled = 0 <;> cases BitMask.test a.mEnabled sensor.index <;> simp [off]
    rw [bit]
    constructor
    · intro same
      have own := test_maskSwitched_handle a.mEnabled sensor enabled sensor.index
      rwa [same, if_pos rfl] at own
    · intro requested
      apply BitMask.eq_of_test
      intro i
      rw [test_maskSwitched_handle]
      split
      · next own => rw [own, requested]
      · rfl

variable [FloatArith F]

/-- A `setEnable` or `setDelay` that returns an error leaves the object as it was exactly
when the write succeeds (and the error is another), the handle is unknown, or the sensor
was already switched as requested. -/
theorem failed_control_intact_iff (a : Accelerometer F) (handle enabled delay_ns : Int)
    (outcome : SysfsOutcome) :
    (((a.setEnable handle enabled outcome).2 ≠ 0 →
          a.Intact (a.setEnable handle enabled outcome).1) ∧
        ((a.setDelay handle delay_ns outcome).2 ≠ 0 →
          a.Intact (a.setDelay handle delay_ns outcome).1)) ↔
      outcome = .written ∨ enableFile handle = none ∨
        a.getEnable handle = if enabled ≠ 0 then 1 else 0 := by
  have delayed : (a.setDelay handle delay_ns outcome).2 ≠ 0 →
      a.Intact (a.setDelay handle delay_ns outcome).1 := by
    intro failed
    rw [setDelay_failed failed]
    exact .refl a
  by_cases known : enableFile handle = none
  · have same : (a.setEnable handle enabled outcome).1 = a := by rw [setEnable, known]
    have enabling : a.Intact (a.setEnable handle enabled outcome).1 := same.symm ▸ Intact.refl a
    exact ⟨fun _ => .inr (.inl known), fun _ => ⟨fun _ => enabling, delayed⟩⟩
  · by_cases written : outcome = .written
    · subst written
      exact ⟨fun _ => .inl rfl, fun _ => ⟨fun failed =>
        absurd (a.setEnable_written known enabled) failed, delayed⟩⟩
    · obtain ⟨failed, left⟩ := a.setEnable_failed known enabled written
      have switched := a.maskSwitched_eq_iff known enabled
      constructor
      · rintro ⟨enabling, -⟩
        have mask := (enabling failed).mEnabled
        rw [left] at mask
        exact .inr (.inr (switched.mp mask))
      · intro condition
        refine ⟨fun _ => ?_, delayed⟩
        rcases condition with done | unknown | already
        · exact absurd done written
        · exact absurd unknown known
        · rw [left, switched.mpr already]
          exact .refl a

/-- The accelerometer of a new object, enabled while its `enable` file cannot be opened. -/
theorem failed_enable_counts : ¬∀ (calls : List Call) (handle enabled delay_ns : Int)
    (outcome : SysfsOutcome),
    (((driver.run blank calls).setEnable handle enabled outcome).2 ≠ 0 →
      (driver.run blank calls).Intact ((driver.run blank calls).setEnable handle enabled outcome).1) ∧
    (((driver.run blank calls).setDelay handle delay_ns outcome).2 ≠ 0 →
      (driver.run blank calls).Intact ((driver.run blank calls).setDelay handle delay_ns outcome).1) := by
  intro always
  have intact := (always [] idA 1 0 .openFailed).1 (by decide +kernel)
  have mask := intact.mEnabled
  revert mask
  decide +kernel

end Accelerometer
end KanasSensors
