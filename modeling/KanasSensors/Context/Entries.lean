import KanasSensors.Context.Model

/-! What the entry points of the device can change of it, whatever the driver.

Each either leaves the device as it was or passes one call on to the driver; of the rest
only `activate` touches anything, the wake pipe.
-/

set_option autoImplicit false

namespace KanasSensors.SensorsPollContext

variable {σ F : Type} {base : SensorBase σ F} {c next : SensorsPollContext σ} {err : Int}

theorem mSensors_acc {index : Int} {sensor : σ} (found : c.mSensors index = some sensor) :
    sensor = c.acc := by
  unfold mSensors at found
  split at found
  · exact (Option.some.inj found).symm
  · cases found

theorem activate_frame {handle enabled : Int} {outcome : SysfsOutcome} {wrote : Bool}
    (done : c.activate base handle enabled outcome wrote = some (next, err)) :
    ∃ wakePipe, next = { c with acc := (base.setEnable c.acc handle enabled outcome).1, wakePipe } := by
  obtain ⟨sensor, found, same⟩ := Option.map_eq_some_iff.mp done
  cases mSensors_acc found
  exact ⟨_, (congrArg Prod.fst same).symm⟩

theorem setDelay_frame {handle ns : Int} {outcome : SysfsOutcome}
    (done : c.setDelay base handle ns outcome = some (next, err)) :
    next = c ∨ next = { c with acc := (base.setDelay c.acc handle ns outcome).1 } := by
  obtain ⟨sensor, found, same⟩ := Option.map_eq_some_iff.mp done
  cases mSensors_acc found
  simp only at same
  -- both branches pass the request on, or find nothing to do
  split_ifs at same <;> cases same
  · exact .inr rfl
  · exact .inl rfl
  · exact .inr rfl
  · exact .inl rfl

theorem batch_frame {handle flags period_ns timeout : Int} {outcome : SysfsOutcome}
    (done : c.batch base handle flags period_ns timeout outcome = some (next, err)) :
    next = c ∨ next = { c with acc := (base.batch c.acc handle flags period_ns timeout outcome).1 } := by
  simp only [batch] at done
  split at done
  · cases done
    exact .inl rfl
  · obtain ⟨sensor, found, same⟩ := Option.map_eq_some_iff.mp done
    cases mSensors_acc found
    cases same
    exact .inr rfl

theorem flush_frame {handle : Int} (done : c.flush base handle = some (next, err)) :
    next = c ∨ next = { c with acc := (base.flush c.acc handle).1 } := by
  simp only [flush] at done
  split at done
  · cases done
    exact .inl rfl
  · obtain ⟨sensor, found, same⟩ := Option.map_eq_some_iff.mp done
    cases mSensors_acc found
    cases same
    exact .inr rfl

theorem settled_rule {result : Option (SensorsPollContext σ × Int)} {P : SensorsPollContext σ → Prop}
    (start : P c) (ended : ∀ next err, result = some (next, err) → P next) :
    P ((result.map Prod.fst).getD c) := by
  cases result with
  | none => exact start
  | some result => exact ended result.1 result.2 rfl

end KanasSensors.SensorsPollContext
