import KanasSensors.Context.Model

/-! Handles that no driver serves, at the entry points that take a handle.

For them `handleToDriver` answers `-EINVAL`, and the same number is the index into
`mSensors` unless the entry point looks at its sign first.
-/

set_option autoImplicit false

namespace KanasSensors

variable {σ F : Type}

inductive HandleCall where
  | activate (handle enabled : Int) (outcome : SysfsOutcome) (wrote : Bool)
  | setDelay (handle ns : Int) (outcome : SysfsOutcome)
  | batch (handle flags period_ns timeout : Int) (outcome : SysfsOutcome)
  | flush (handle : Int)

namespace HandleCall

def handle : HandleCall → Int
  | activate handle _ _ _ => handle
  | setDelay handle _ _ => handle
  | batch handle _ _ _ _ => handle
  | flush handle => handle

def testsIndex : HandleCall → Bool
  | activate .. => false
  | setDelay .. => false
  | batch .. => true
  | flush .. => true

end HandleCall

namespace SensorsPollContext

def numSensorDrivers : Int := 1

def Mapped (handle : Int) : Prop :=
  0 ≤ handleToDriver handle ∧ handleToDriver handle < numSensorDrivers

instance (handle : Int) : Decidable (Mapped handle) := inferInstanceAs (Decidable (_ ∧ _))

theorem mSensors_eq_none_iff (c : SensorsPollContext σ) (index : Int) :
    c.mSensors index = none ↔ ¬(0 ≤ index ∧ index < numSensorDrivers) := by
  unfold mSensors numSensorDrivers
  split
  · next first => simp [first]
  · next other =>
    constructor
    · intro _ inside
      omega
    · intro _
      rfl

theorem handleToDriver_unmapped {handle : Int} (unmapped : ¬Mapped handle) :
    handleToDriver handle = -Errno.einval.code := by
  unfold Mapped at unmapped
  unfold handleToDriver at unmapped ⊢
  split
  · next served =>
    rw [if_pos served] at unmapped
    exact absurd ⟨Int.le_refl 0, Int.one_pos⟩ unmapped
  · rfl

theorem mSensors_unmapped (c : SensorsPollContext σ) {handle : Int} (unmapped : ¬Mapped handle) :
    c.mSensors (handleToDriver handle) = none :=
  (c.mSensors_eq_none_iff _).mpr unmapped

variable (base : SensorBase σ F)

def call (c : SensorsPollContext σ) : HandleCall → Option (SensorsPollContext σ × Int)
  | .activate handle enabled outcome wrote => c.activate base handle enabled outcome wrote
  | .setDelay handle ns outcome => c.setDelay base handle ns outcome
  | .batch handle flags period_ns timeout outcome =>
    c.batch base handle flags period_ns timeout outcome
  | .flush handle => c.flush base handle

/-- The call kept inside `mSensors` and returned `-EINVAL`, with the driver and the wake
pipe as they were. -/
def Rejected (c : SensorsPollContext σ) (result : Option (SensorsPollContext σ × Int)) : Prop :=
  ∃ next, result = some (next, -Errno.einval.code) ∧ next.acc = c.acc ∧ next.wakePipe = c.wakePipe

theorem not_rejected_none (c : SensorsPollContext σ) : ¬Rejected c none := by
  rintro ⟨next, inside, -⟩
  cases inside

theorem call_unmapped (c : SensorsPollContext σ) (request : HandleCall)
    (unmapped : ¬Mapped request.handle) :
    c.call base request = if request.testsIndex then some (c, -Errno.einval.code) else none := by
  have index := handleToDriver_unmapped unmapped
  have outside := c.mSensors_unmapped unmapped
  have negative : handleToDriver request.handle < 0 := by
    rw [index]
    decide
  cases request with
  | activate handle enabled outcome wrote =>
    change (c.mSensors (handleToDriver handle)).map _ = none
    exact Option.map_eq_none_iff.mpr outside
  | setDelay handle ns outcome =>
    change (c.mSensors (handleToDriver handle)).map _ = none
    exact Option.map_eq_none_iff.mpr outside
  | batch handle flags period_ns timeout outcome =>
    have returned : some (c, handleToDriver handle) = some (c, -Errno.einval.code) :=
      congrArg (fun value => some (c, value)) index
    exact (if_pos negative).trans returned
  | flush handle =>
    have returned : some (c, handleToDriver handle) = some (c, -Errno.einval.code) :=
      congrArg (fun value => some (c, value)) index
    exact (if_pos negative).trans returned

/-- In every state of every driver, a handle that is not mapped is rejected exactly by the
entry points that test the index. The others go on to `mSensors[-EINVAL]`. -/
theorem unmapped_rejected_iff (c : SensorsPollContext σ) (request : HandleCall)
    (unmapped : ¬Mapped request.handle) :
    Rejected c (c.call base request) ↔ request.testsIndex = true := by
  rw [c.call_unmapped base request unmapped]
  cases request.testsIndex with
  | true => exact iff_of_true ⟨c, rfl, rfl, rfl⟩ rfl
  | false => exact iff_of_false c.not_rejected_none Bool.false_ne_true

theorem unmapped_rejected_flush : Rejected (create Accelerometer.blank)
      ((create Accelerometer.blank).call Accelerometer.base (.flush 3)) ↔
    (HandleCall.flush 3).testsIndex = true :=
  unmapped_rejected_iff Accelerometer.base (create Accelerometer.blank) (.flush 3) (by decide)

/-- Handle 3, switched on in the state after construction. -/
theorem unmapped_activate_outside : ¬∀ request : HandleCall, ¬Mapped request.handle →
    Rejected (create Accelerometer.blank)
      ((create Accelerometer.blank).call Accelerometer.base request) := by
  intro always
  exact not_rejected_none _ (always (.activate 3 1 .written true) (by decide))

end SensorsPollContext
end KanasSensors
