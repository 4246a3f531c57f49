import Mathlib.Data.Finset.Erase
import Mathlib.Data.Finset.Insert
import KanasSensors.Accelerometer.Events
import KanasSensors.Foundation.Machine

/-! What the virtual sensors are for, one input at a time.

There are no descriptors here, no masks, no buffers and no calls: a sensor is switched, the
hardware takes a sample on an axis, completes a frame or notices a motion, and what is
reported is reported at once. Numbers and times are of any type.
-/

set_option autoImplicit false

namespace KanasSensors

inductive HubInput (V T : Type) where
  | switch (sensor : Sensor) (on : Bool)
  | sample (axis : Axis) (value : V)
  | frame (time : T)
  | motion (time : T)

structure Report (V T : Type) where
  sensor : Sensor
  time : T
  values : Axis → V

/-- The sensors switched on; of each axis the last sample, the gravity estimated from the
samples, and the part of a sample that was not gravity. -/
structure Hub (V : Type) where
  enabled : Finset Sensor
  reading : Axis → V
  gravity : Axis → V
  linear : Axis → V

namespace Hub

variable {V T : Type}

/-- How the gravity estimate follows a sample, and what is reported of a motion. -/
structure Tuning (V : Type) where
  smooth : V → V → V
  mark : Axis → V

def Filters (h : Hub V) : Prop :=
  Sensor.linearAcceleration ∈ h.enabled ∨ Sensor.significantMotion ∈ h.enabled

instance (h : Hub V) : Decidable h.Filters := inferInstanceAs (Decidable (_ ∨ _))

def values (tuning : Tuning V) (h : Hub V) : Sensor → Axis → V
  | .main => h.reading
  | .linearAcceleration => h.linear
  | .significantMotion => tuning.mark

def report (tuning : Tuning V) (h : Hub V) (sensor : Sensor) (time : T) : Report V T :=
  ⟨sensor, time, h.values tuning sensor⟩

def take [Sub V] (tuning : Tuning V) (h : Hub V) : HubInput V T → Hub V × List (Report V T)
  | .switch sensor on =>
    ({ h with enabled := if on then insert sensor h.enabled else h.enabled.erase sensor }, [])
  | .sample axis value =>
    let h := { h with reading := Function.update h.reading axis value }
    if h.Filters then
      let gravity := tuning.smooth (h.gravity axis) value
      ({ h with
        gravity := Function.update h.gravity axis gravity
        linear := Function.update h.linear axis (value - gravity) }, [])
    else (h, [])
  | .frame time =>
    (h, ([.main, .linearAcceleration].filter (· ∈ h.enabled)).map fun sensor => h.report tuning sensor time)
  | .motion time =>
    -- one shot: a report switches the sensor off
    ({ h with enabled := h.enabled.erase .significantMotion }, [h.report tuning .significantMotion time])

@[simp] theorem take_sample_reports [Sub V] (tuning : Tuning V) (h : Hub V) (axis : Axis) (value : V) :
    (h.take tuning (.sample (T := T) axis value)).2 = [] := by
  simp only [take]
  split <;> rfl

def hub [Sub V] (tuning : Tuning V) : Foundation.Machine (Hub V) (HubInput V T) (List (Report V T)) :=
  ⟨take tuning⟩

end Hub
end KanasSensors
