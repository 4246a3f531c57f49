import KanasSensors.Context.Rates

/-! The entry points of the device as the inputs of one machine.

A step puts out what the call stores in its caller's array. `setDelay` and `batch` come
to a call of the driver's own, whatever the handle, and where the driver would do
nothing the device does nothing.
-/

set_option autoImplicit false

namespace KanasSensors

open Foundation

variable {F : Type}

inductive DeviceCall where
  | setDelay (handle ns : Int) (outcome : SysfsOutcome)
  | batch (handle flags period_ns timeout : Int) (outcome : SysfsOutcome)
  | other (call : OtherCall)

def DeviceCall.period : DeviceCall → Option Int
  | .setDelay _ ns _ => some ns
  | .batch _ _ period_ns _ _ => some period_ns
  | .other _ => none

namespace SensorsPollContext

variable [FloatArith F]

/-- The device after a call. After an access outside `mSensors`, which is undefined in the code,
it is taken to be as it was: `activate` and `setDelay` do not test the index they use. -/
def settled (c : SensorsPollContext (Accelerometer F))
    (result : Option (SensorsPollContext (Accelerometer F) × Int)) :
    SensorsPollContext (Accelerometer F) :=
  (result.map Prod.fst).getD c

theorem handleToDriver_unknown {handle : Int} (unknown : ∀ sensor : Sensor, handle ≠ sensor.handle) :
    handleToDriver handle = -Errno.einval.code := by
  have main : handle ≠ idA := unknown .main
  have linear : handle ≠ idLA := unknown .linearAcceleration
  have motion : handle ≠ idSM := unknown .significantMotion
  rw [handleToDriver, if_neg]
  rintro (same | same | same)
  · exact linear same
  · exact motion same
  · exact main same

omit [FloatArith F] in
theorem setDelay_unknown (a : Accelerometer F) {handle : Int}
    (unknown : ∀ sensor : Sensor, handle ≠ sensor.handle) (ns : Int) (outcome : SysfsOutcome) :
    (a.setDelay handle ns outcome).1 = a := by
  obtain ⟨retimes, -⟩ | ⟨-, kept⟩ := a.setDelay_cases handle ns outcome
  · rcases retimes.rated with same | same
    · exact absurd same (unknown .linearAcceleration)
    · exact absurd same (unknown .main)
  · exact kept

theorem setDelay_acc (c : SensorsPollContext (Accelerometer F)) (handle ns : Int)
    (outcome : SysfsOutcome) : (c.settled (c.setDelay Accelerometer.base handle ns outcome)).acc =
      (c.acc.setDelay handle ns outcome).1 := by
  obtain ⟨-, unknown⟩ | ⟨sensor, rfl, -⟩ := Accelerometer.enableFile_cases handle
  · rw [setDelay_unknown c.acc unknown, setDelay, setDelaySub, handleToDriver_unknown unknown]
    rfl
  · cases sensor with
    | main =>
      obtain ⟨err, done⟩ := c.setDelay_rated .main ns outcome
      exact congrArg (fun result => (c.settled result).acc) done
    | linearAcceleration =>
      obtain ⟨err, done⟩ := c.setDelay_rated .linearAcceleration ns outcome
      exact congrArg (fun result => (c.settled result).acc) done
    | significantMotion =>
      -- accepted without effect, with or without the detour through the driver
      have independent : Accelerometer.base.getEnable c.acc Sensor.significantMotion.handle ≤ 1 :=
        c.acc.getEnable_le_one Sensor.significantMotion.handle
      have index : c.mSensors (handleToDriver Sensor.significantMotion.handle) = some c.acc := rfl
      simp only [setDelay, setDelaySub, index, Option.map_some, if_pos independent]
      split <;> rfl

theorem batch_acc (c : SensorsPollContext (Accelerometer F)) (handle flags period_ns timeout : Int)
    (outcome : SysfsOutcome) :
    (c.settled (c.batch Accelerometer.base handle flags period_ns timeout outcome)).acc =
      (c.acc.batch handle flags period_ns timeout outcome).1 := by
  obtain ⟨-, unknown⟩ | ⟨sensor, rfl, -⟩ := Accelerometer.enableFile_cases handle
  · have same : (c.acc.batch handle flags period_ns timeout outcome).1 = c.acc := by
      unfold Accelerometer.batch
      split
      · exact setDelay_unknown c.acc unknown period_ns outcome
      · rfl
    rw [same]
    simp only [batch, handleToDriver_unknown unknown]
    rfl
  · cases sensor <;> rfl

def after (c : SensorsPollContext (Accelerometer F)) : DeviceCall → SensorsPollContext (Accelerometer F)
  | .setDelay handle ns outcome => c.settled (c.setDelay Accelerometer.base handle ns outcome)
  | .batch handle flags period_ns timeout outcome =>
    c.settled (c.batch Accelerometer.base handle flags period_ns timeout outcome)
  | .other call => c.afterCall call

def storedBy (c : SensorsPollContext (Accelerometer F)) : DeviceCall → List (SensorsEvent F)
  | .other (.pollEvents count rounds) =>
    ((PollState.start c count).pollEvents Accelerometer.base rounds).state.slots.map Prod.snd
  | _ => []

def device : Machine (SensorsPollContext (Accelerometer F)) DeviceCall (List (SensorsEvent F)) where
  step c call := (c.after call, c.storedBy call)

end SensorsPollContext
end KanasSensors
