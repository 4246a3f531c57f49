import Mathlib.Algebra.Order.Ring.Rat
import Mathlib.Tactic.NormNum
import KanasSensors.Accelerometer.Gravity
import KanasSensors.Context.Rejection

/-! `sSensorList`, and what the sensors it advertises really do.

Of an entry there are the fields that speak of the values a sensor reports. The linear
acceleration entry declares the range of the accelerometer, whose samples it is computed
from; but a sample can lie further from the mean of its past than from zero.
-/

set_option autoImplicit false

namespace KanasSensors

open Foundation Smoothing

section
variable {F : Type} [FloatArith F]

def sensorsAccelerationHandle : Int := 0
def sensorsLinearAccelerationHandle : Int := 1
def sensorsSignificantMotionHandle : Int := 2

structure SensorT (F : Type) where
  handle : Int
  type : SensorType
  maxRange : F
  resolution : F

def sSensorList : List (SensorT F) := [
  { handle := sensorsAccelerationHandle
    type := .accelerometer
    maxRange := FloatArith.gravityEarth * FloatArith.ofInt 2
    resolution := FloatArith.gravityEarth / FloatArith.ofInt 1024 },
  { handle := sensorsLinearAccelerationHandle
    type := .linearAcceleration
    maxRange := FloatArith.gravityEarth * FloatArith.ofInt 2
    resolution := FloatArith.gravityEarth / FloatArith.ofInt 1024 },
  { handle := sensorsSignificantMotionHandle
    type := .significantMotion
    maxRange := FloatArith.ofInt 1
    resolution := FloatArith.ofInt 1 }]

/-- Every sensor of the list has a driver, and an object labels some event of its own with
the handle and the type the list gives. -/
theorem advertised_served (memory : Accelerometer.Uninitialised) (files : Sysfs) :
    ∀ entry ∈ sSensorList (F := F), SensorsPollContext.Mapped entry.handle ∧
      ∃ sensor, (Accelerometer.create memory files : Accelerometer F).labels sensor =
        (entry.handle, entry.type) := by
  have main : SensorsPollContext.Mapped sensorsAccelerationHandle := by decide
  have linear : SensorsPollContext.Mapped sensorsLinearAccelerationHandle := by decide
  have motion : SensorsPollContext.Mapped sensorsSignificantMotionHandle := by decide
  intro entry listed
  rcases List.mem_cons.mp listed with rfl | listed
  · exact ⟨main, .main, rfl⟩
  · rcases List.mem_cons.mp listed with rfl | listed
    · exact ⟨linear, .linearAcceleration, rfl⟩
    · rw [List.mem_singleton.mp listed]
      exact ⟨motion, .significantMotion, rfl⟩

end

def WithinRange (stored : DataEvent ℚ) : Prop :=
  ∀ entry ∈ sSensorList, entry.handle = stored.sensor →
    ∀ axis, |stored.acceleration axis| ≤ entry.maxRange

theorem withinRange_linear_iff {stored : DataEvent ℚ} (linear : stored.sensor = idLA) :
    WithinRange stored ↔
      ∀ axis, |stored.acceleration axis| ≤ FloatArith.gravityEarth * FloatArith.ofInt 2 := by
  unfold WithinRange sSensorList
  rw [linear]
  simp [sensorsAccelerationHandle, sensorsLinearAccelerationHandle, sensorsSignificantMotionHandle, idLA]

namespace Accelerometer

theorem alpha_pos : (0 : ℚ) < FloatArith.alpha := by
  change (0 : ℚ) < 4 / 5
  norm_num

/-- Wherever linear acceleration is reported, the last filtered sample of each axis lies
within 5/2 times the standard gravity, which is 2560 counts, of the mean of the filtered
samples before it. -/
def Calm (history : List (Moment ℚ)) : Prop :=
  ∀ front, ReportsAfter history front →
    ∀ axis, |jump FloatArith.alpha (filtered axis front)| ≤ 5 / 2 * FloatArith.gravityEarth

theorem residual_in_range_iff (values : List ℚ) :
    |residual FloatArith.alpha values| ≤ FloatArith.gravityEarth * FloatArith.ofInt 2 ↔
      |jump FloatArith.alpha values| ≤ 5 / 2 * FloatArith.gravityEarth := by
  have limit : (FloatArith.gravityEarth * FloatArith.ofInt 2 : ℚ) / FloatArith.alpha =
      5 / 2 * FloatArith.gravityEarth := by
    change (980665 / 100000 * ((2 : Int) : ℚ)) / (4 / 5) = 5 / 2 * (980665 / 100000)
    norm_num
  rw [abs_residual_le_iff alpha_pos, limit]

variable (memory : Uninitialised) (files : Sysfs) (calls : List Call)

/-- In any run of a new object, with any switching of the sensors, the linear-acceleration
events handed out keep to their declared range exactly when no sample jumps too far from
the mean of its past. -/
theorem linear_within_range_iff :
    (∀ stored, .data stored ∈ (create memory files).handedOut calls → stored.sensor = idLA →
      WithinRange stored) ↔ Calm ((create memory files).history calls) := by
  constructor
  · intro within front reports axis
    obtain ⟨stored, member, linear, reading⟩ := linear_reported memory files calls reports
    have inside := (withinRange_linear_iff linear).mp (within stored member linear) axis
    rw [reading axis] at inside
    exact (residual_in_range_iff _).mp inside
  · intro calm stored member linear
    obtain ⟨front, reports, reading⟩ := linear_handed memory files calls member linear
    apply (withinRange_linear_iff linear).mpr
    intro axis
    rw [reading axis]
    exact (residual_in_range_iff _).mpr (calm front reports axis)

theorem abs_conversion_le {value : BitVec 32} (bounded : |value.toInt| ≤ 2048) :
    |(accUnitConversion value : ℚ)| ≤ 2 * FloatArith.gravityEarth := by
  have counts : |(value.toInt : ℚ)| ≤ 2048 := by exact_mod_cast bounded
  change |(value.toInt : ℚ) * (980665 / 100000) / ((1024 : Int) : ℚ)| ≤ 2 * (980665 / 100000)
  rw [abs_le] at counts ⊢
  constructor <;> linarith

/-- What is true of samples within the accelerometer's range: no linear component leaves
8/5 of the range declared. -/
theorem linear_within_eight_fifths
    (bounded : ∀ event ∈ (create memory files : Accelerometer ℚ).arrived calls,
      event.type = evRel → |event.value.toInt| ≤ 2048) {stored : DataEvent ℚ}
    (member : .data stored ∈ (create memory files).handedOut calls) (linear : stored.sensor = idLA)
    (axis : Axis) : |stored.acceleration axis| ≤
      8 / 5 * (FloatArith.gravityEarth * FloatArith.ofInt 2) := by
  obtain ⟨front, ⟨mEnabled, event, output, back, split, -⟩, reading⟩ :=
    linear_handed memory files calls member linear
  have values : ∀ value ∈ filtered axis front, |value| ≤ 2 * FloatArith.gravityEarth := by
    intro value filtered
    obtain ⟨event, came, rel, rfl⟩ := filtered_arrived memory files calls ⟨_, split.symm⟩ filtered
    exact abs_conversion_le (bounded event came rel)
  have jumped := abs_jump_le (le_of_lt alpha_pos) (by change (4 / 5 : ℚ) ≤ 1; norm_num)
    (by change (0 : ℚ) ≤ 2 * (980665 / 100000); norm_num) (filtered axis front) values
  have limit : (2 * (2 * FloatArith.gravityEarth) : ℚ) =
      8 / 5 * (FloatArith.gravityEarth * FloatArith.ofInt 2) / FloatArith.alpha := by
    change (2 * (2 * (980665 / 100000)) : ℚ) =
      8 / 5 * (980665 / 100000 * ((2 : Int) : ℚ)) / (4 / 5)
    norm_num
  rw [limit] at jumped
  rw [reading axis]
  exact (abs_residual_le_iff alpha_pos _ _).mpr jumped

/-- Two samples at one end of the range, and one at the other. -/
theorem linear_beyond_range : ¬∀ calls : List Call,
    (∀ event ∈ blank.arrived calls, |event.value.toInt| ≤ 2048) →
    ∀ stored, .data stored ∈ blank.handedOut calls → stored.sensor = idLA → WithinRange stored := by
  intro always
  have within := always [.setEnable idLA 1 .written, .readEvents 8 (.ofQueue [
      ⟨⟨0, 0⟩, evRel, eventTypeAccelX, 2048⟩, ⟨⟨0, 0⟩, evRel, eventTypeAccelX, 2048⟩,
      ⟨⟨0, 0⟩, evRel, eventTypeAccelX, -2048⟩, ⟨⟨0, 0⟩, evSyn, 0, 0⟩] 4)] (by decide +kernel)
  simp only [← SensorsEvent.mem_dataEvents] at within
  have inside : ∀ stored ∈ (blank.handedOut _).filterMap SensorsEvent.dataEvent,
      stored.sensor = idLA →
        |stored.acceleration .x| ≤ FloatArith.gravityEarth * FloatArith.ofInt 2 :=
    fun stored member linear => (withinRange_linear_iff linear).mp (within stored member linear) .x
  revert inside
  decide +kernel

end Accelerometer
end KanasSensors
