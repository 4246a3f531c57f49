import KanasSensors.Accelerometer.Control
import KanasSensors.Foundation.Machine
import KanasSensors.Foundation.Panel

/-! The control files `enable` and `en_sig_motion` against the mask that drives them.

A call writes the one file of its own sensor, and the digit it writes is read off the
whole mask. With the sensors as switches and the files as lines this is a panel.
-/

set_option autoImplicit false

namespace KanasSensors

open Foundation

structure Switching where
  sensor : Sensor
  enabled : Int

namespace Accelerometer

variable {F : Type}

theorem controlFile_ne (sensor : Sensor) : sensor.controlFile ≠ .pollDelay := by
  cases sensor <;> decide

def switched (mEnabled : BitVec 32) (call : Switching) : BitVec 32 :=
  maskSwitched mEnabled call.sensor.handle call.enabled

def digit (mEnabled : BitVec 32) : String := if mEnabled ≠ 0 then "1" else "0"

theorem test_switched (mEnabled : BitVec 32) (call : Switching) (i : Nat) :
    BitMask.test (switched mEnabled call) i = true ↔
      (i = call.sensor.index ∧ call.enabled ≠ 0) ∨
        (i ≠ call.sensor.index ∧ BitMask.test mEnabled i = true) := by
  rw [switched, test_maskSwitched_handle]
  by_cases own : i = call.sensor.index <;> simp [own]

def switches : Machine (Accelerometer F) Switching Int :=
  ⟨fun a call => a.setEnable call.sensor.handle call.enabled .written⟩

theorem switches_step (a : Accelerometer F) (call : Switching) :
    (switches.step a call).1 = { a with
      mEnabled := switched a.mEnabled call
      files := a.files.put call.sensor.controlFile (digit (switched a.mEnabled call)) } :=
  by
    simp only [switches, setEnable, enableFile_handle, switched, maskSwitched]
    rfl

def panel (a : Accelerometer F) : Panel Sensor SysfsFile where
  on := {sensor | BitMask.test a.mEnabled sensor.index = true}
  lit := {file | file ≠ .pollDelay ∧ a.files.text file = "1"}

structure Wired (a : Accelerometer F) : Prop where
  owned : ∀ i, BitMask.test a.mEnabled i = true → ∃ sensor : Sensor, sensor.index = i
  digits : ∀ file, file ≠ .pollDelay → a.files.text file = "0" ∨ a.files.text file = "1"

theorem Wired.ne_zero_iff {a : Accelerometer F} (wired : a.Wired) :
    a.mEnabled ≠ 0 ↔ ∃ sensor, sensor ∈ a.panel.on := by
  constructor
  · intro nonzero
    by_contra none_on
    refine nonzero ((BitMask.eq_zero_iff a.mEnabled).mpr fun i => Bool.eq_false_iff.mpr fun on => ?_)
    obtain ⟨sensor, rfl⟩ := wired.owned i on
    exact none_on ⟨sensor, on⟩
  · rintro ⟨sensor, on⟩
    exact BitMask.ne_zero_of_test on

theorem text_put (files : Sysfs) (file other : SysfsFile) (value : String) :
    (files.put file value).text other = if other = file then value else files.text other := by
  cases file <;> cases other <;> rfl

theorem Wired.step {a : Accelerometer F} (wired : a.Wired) (call : Switching) :
    (switches.step a call).1.Wired := by
  rw [switches_step]
  refine ⟨fun i on => ?_, fun file control => ?_⟩
  · rcases (test_switched a.mEnabled call i).mp on with ⟨own, -⟩ | ⟨-, kept⟩
    · exact ⟨call.sensor, own.symm⟩
    · exact wired.owned i kept
  · simp only [text_put]
    split
    · unfold digit
      split
      · exact .inr rfl
      · exact .inl rfl
    · exact wired.digits file control

theorem Wired.panel_step {a : Accelerometer F} (wired : a.Wired) (call : Switching) :
    (switches.step a call).1.panel =
      a.panel.throw Sensor.controlFile call.sensor (call.enabled ≠ 0) := by
  have on_iff : ∀ sensor, sensor ∈ (switches.step a call).1.panel.on ↔
      sensor ∈ (a.panel.throw Sensor.controlFile call.sensor (call.enabled ≠ 0)).on := by
    intro sensor
    rw [switches_step]
    apply (test_switched a.mEnabled call sensor.index).trans
    simp only [ne_eq, Sensor.index_eq_iff]
    rfl
  -- the digit written is that of the whole mask, which is what `throw` writes to the line
  have written : (∃ sensor, sensor ∈ (switches.step a call).1.panel.on) ↔
      digit (switches.step a call).1.mEnabled = "1" := by
    rw [← (wired.step call).ne_zero_iff]
    by_cases off : (switches.step a call).1.mEnabled = 0 <;> simp [digit, off]
  have lines : (switches.step a call).1.panel.lit =
      (a.panel.throw Sensor.controlFile call.sensor (call.enabled ≠ 0)).lit := by
    ext file
    simp only [on_iff] at written
    rw [switches_step] at written ⊢
    simp only [panel, Set.mem_ofPred_eq, text_put]
    by_cases own : file = call.sensor.controlFile
    · subst own
      simp only [if_true, controlFile_ne, ne_eq, not_false_eq_true, true_and, ← written]
      simp [Panel.throw, panel]
    · simp [own, Panel.throw]
  have sets : (switches.step a call).1.panel.on =
      (a.panel.throw Sensor.controlFile call.sensor (call.enabled ≠ 0)).on := Set.ext on_iff
  calc (switches.step a call).1.panel
      = ⟨(switches.step a call).1.panel.on, (switches.step a call).1.panel.lit⟩ := rfl
    _ = a.panel.throw Sensor.controlFile call.sensor (call.enabled ≠ 0) := by rw [sets, lines]

def PowerOff (a : Accelerometer F) : Prop := a.files.enable = "0" ∧ a.files.enSigMotion = "0"

instance (a : Accelerometer F) : Decidable a.PowerOff := inferInstanceAs (Decidable (_ ∧ _))

theorem Wired.powerOff_iff {a : Accelerometer F} (wired : a.Wired) :
    a.PowerOff ↔ a.panel.lit = ∅ := by
  constructor
  · rintro ⟨enable, enSigMotion⟩
    apply Set.eq_empty_iff_forall_notMem.mpr
    rintro (_ | _ | _) ⟨control, lit⟩
    · simp [Sysfs.text, enable] at lit
    · simp [Sysfs.text, enSigMotion] at lit
    · exact control rfl
  · intro dark
    have zero : ∀ file, file ≠ .pollDelay → a.files.text file = "0" := by
      intro file control
      rcases wired.digits file control with zero | one
      · exact zero
      · exact absurd (show file ∈ a.panel.lit from ⟨control, one⟩) (by simp [dark])
    exact ⟨zero .enable (by decide), zero .enSigMotion (by decide)⟩

theorem Wired.destroy {a : Accelerometer F} (wired : a.Wired) :
    (a.destroy fun _ => .written).Wired ∧
    Panel.Shutdown Sensor.controlFile a.panel [.main, .linearAcceleration, .significantMotion]
      (a.destroy fun _ => .written).panel := by
  -- one turn: the sensor is skipped when off, and thrown off by a successful call when on
  have turn : ∀ (b : Accelerometer F) (sensor : Sensor) (rest : List Sensor)
      (last : Panel Sensor SysfsFile), b.Wired →
      (b.switchOff sensor .written).Wired ∧
      (Panel.Shutdown Sensor.controlFile (b.switchOff sensor .written).panel rest last →
        Panel.Shutdown Sensor.controlFile b.panel (sensor :: rest) last) := by
    intro b sensor rest last wired
    unfold switchOff
    split
    · next on =>
      refine ⟨wired.step ⟨sensor, 0⟩, fun down => .off on ?_⟩
      have thrown := wired.panel_step ⟨sensor, 0⟩
      simp only [ne_eq, not_true_eq_false] at thrown
      exact thrown ▸ down
    · next off => exact ⟨wired, fun down => .skip off down⟩
  have first := turn a .main [.linearAcceleration, .significantMotion]
    (a.destroy fun _ => .written).panel wired
  have second := turn _ .linearAcceleration [.significantMotion]
    (a.destroy fun _ => .written).panel first.1
  have third := turn _ .significantMotion [] (a.destroy fun _ => .written).panel second.1
  exact ⟨third.1, first.2 (second.2 (third.2 (.nil _)))⟩

/-- A sensor that drives the other control file is on when the call is made. -/
def Crosses (a : Accelerometer F) (call : Switching) : Prop :=
  ∃ other : Sensor, BitMask.test a.mEnabled other.index = true ∧
    other.controlFile ≠ call.sensor.controlFile

theorem Wired.destroy_clean {a : Accelerometer F} (wired : a.Wired)
    (clean : a.panel.Clean Sensor.controlFile) : (a.destroy fun _ => .written).PowerOff := by
  obtain ⟨wired', down⟩ := wired.destroy
  have off := down.empty (by rintro (_ | _ | _) <;> simp)
  exact wired'.powerOff_iff.mpr ((down.clean clean).dark off)

theorem Wired.destroy_stuck {a : Accelerometer F} (wired : a.Wired)
    (stuck : a.panel.Stuck Sensor.controlFile) : ¬(a.destroy fun _ => .written).PowerOff := by
  obtain ⟨wired', down⟩ := wired.destroy
  have off := down.empty (by rintro (_ | _ | _) <;> simp)
  intro dark
  obtain ⟨-, line, lit⟩ := down.stranded (.inl stuck) off
  rw [wired'.powerOff_iff.mp dark] at lit
  exact lit

theorem Wired.powered_down_iff {a : Accelerometer F} (wired : a.Wired)
    (clean : a.panel.Clean Sensor.controlFile) (calls : List Switching) :
    (∀ t ∈ switches.trace a calls, (t.target.mEnabled = 0 → t.target.PowerOff) ∧
      (t.target.destroy fun _ => .written).PowerOff) ↔
    ∀ t ∈ switches.trace a calls, ¬t.source.Crosses t.input := by
  induction calls generalizing a with
  | nil => simp
  | cons call rest ih =>
    have wired' := wired.step call
    have thrown := wired.panel_step call
    by_cases crossed : a.Crosses call
    · -- the destructor run right after this call already leaves a file at `1`
      have crossing : a.panel.Crosses Sensor.controlFile call.sensor := crossed
      have stuck : (switches.step a call).1.panel.Stuck Sensor.controlFile :=
        thrown ▸ crossing.throw
      constructor
      · intro down
        exact absurd (down _ List.mem_cons_self).2 (wired'.destroy_stuck stuck)
      · intro straight
        exact absurd crossed (straight _ List.mem_cons_self)
    · have clean' : (switches.step a call).1.panel.Clean Sensor.controlFile :=
        thrown ▸ clean.throw crossed
      have here : ((switches.step a call).1.mEnabled = 0 → (switches.step a call).1.PowerOff) ∧
          ((switches.step a call).1.destroy fun _ => .written).PowerOff := by
        refine ⟨fun off => wired'.powerOff_iff.mpr (clean'.dark ?_), wired'.destroy_clean clean'⟩
        apply Set.eq_empty_iff_forall_notMem.mpr
        intro sensor on
        exact wired'.ne_zero_iff.mpr ⟨sensor, on⟩ off
      simp only [Machine.trace_cons, List.forall_mem_cons, ih wired' clean', Machine.fire]
      exact and_congr ⟨fun _ => crossed, fun _ => here⟩ Iff.rfl

/-- From a powered-down start, every zero mask finds both control files at `0`, and
the destructor leaves them so from every state, exactly when each call of the run is
made with no sensor of the other control file on. -/
theorem powers_down_iff (a : Accelerometer F) (off : a.mEnabled = 0) (down : a.PowerOff)
    (calls : List Switching) :
    (∀ t ∈ switches.trace a calls, (t.target.mEnabled = 0 → t.target.PowerOff) ∧
      (t.target.destroy fun _ => .written).PowerOff) ↔
    ∀ t ∈ switches.trace a calls, ¬t.source.Crosses t.input := by
  have none_on : ∀ i, ¬BitMask.test a.mEnabled i = true := by simp [off]
  have wired : a.Wired := by
    refine ⟨fun i on => absurd on (none_on i), ?_⟩
    rintro (_ | _ | _) control
    · exact .inl down.1
    · exact .inl down.2
    · exact absurd rfl control
  have dark := wired.powerOff_iff.mp down
  refine wired.powered_down_iff ⟨fun line => ?_, fun s on => absurd on (none_on _)⟩ calls
  simp only [dark, Set.mem_empty_iff_false, false_iff, not_exists, not_and]
  exact fun sensor on => absurd on (none_on _)

theorem powers_down_alone :
    (switches.run blank
      [⟨.main, 1⟩, ⟨.linearAcceleration, 1⟩, ⟨.main, 0⟩, ⟨.linearAcceleration, 0⟩]).mEnabled = 0 ∧
    ∀ t ∈ switches.trace blank
      [⟨.main, 1⟩, ⟨.linearAcceleration, 1⟩, ⟨.main, 0⟩, ⟨.linearAcceleration, 0⟩],
      (t.target.mEnabled = 0 → t.target.PowerOff) ∧
        (t.target.destroy fun _ => .written).PowerOff := by
  refine ⟨by decide +kernel, (powers_down_iff blank rfl ⟨rfl, rfl⟩ _).mpr ?_⟩
  simp only [Machine.trace, List.forall_mem_cons, List.not_mem_nil, false_implies, implies_true,
    and_true]
  refine ⟨?_, ?_, ?_, ?_⟩ <;> rintro ⟨_ | _ | _, on, other⟩ <;> revert on other <;> decide +kernel

/-- Accelerometer and significant motion on, then off in the order they came. -/
theorem powers_down_fails : ¬∀ calls : List Switching, ∀ t ∈ switches.trace blank calls,
    (t.target.mEnabled = 0 → t.target.PowerOff) ∧
      (t.target.destroy fun _ => .written).PowerOff := by
  intro always
  have last := always [⟨.main, 1⟩, ⟨.significantMotion, 1⟩, ⟨.main, 0⟩, ⟨.significantMotion, 0⟩]
  revert last
  decide +kernel

/-- `en_sig_motion` holds `1` exactly when the significant-motion bit is set. -/
def FollowsMotion (a : Accelerometer F) : Prop :=
  a.files.enSigMotion = "1" ↔ BitMask.test a.mEnabled Sensor.significantMotion.index = true

instance (a : Accelerometer F) : Decidable a.FollowsMotion := inferInstanceAs (Decidable (_ ↔ _))

/-- The call switches significant motion off while another bit of the mask is set. -/
def MotionOffAmongOthers (a : Accelerometer F) (call : Switching) : Prop :=
  call.sensor = .significantMotion ∧ call.enabled = 0 ∧
    BitMask.clear a.mEnabled Sensor.significantMotion.index ≠ 0

instance (a : Accelerometer F) (call : Switching) : Decidable (a.MotionOffAmongOthers call) :=
  inferInstanceAs (Decidable (_ ∧ _ ∧ _))

theorem FollowsMotion.step_iff {a : Accelerometer F} (follows : a.FollowsMotion) (call : Switching) :
    (switches.step a call).1.FollowsMotion ↔ ¬a.MotionOffAmongOthers call := by
  unfold FollowsMotion MotionOffAmongOthers at *
  rw [switches_step]
  obtain ⟨sensor, enabled⟩ := call
  cases sensor with
  | main => simpa [test_switched, Sysfs.put, Sensor.controlFile, Sensor.index] using follows
  | linearAcceleration =>
    simpa [test_switched, Sysfs.put, Sensor.controlFile, Sensor.index] using follows
  | significantMotion =>
    by_cases up : enabled = 0
    · simp [switched, maskSwitched, enableFile_handle, up, Sysfs.put, Sensor.controlFile, digit]
    · have on : BitMask.test (switched a.mEnabled ⟨.significantMotion, enabled⟩)
          Sensor.significantMotion.index = true := (test_switched _ _ _).mpr (.inl ⟨rfl, up⟩)
      have nonzero := BitMask.ne_zero_of_test on
      simp [on, up, Sysfs.put, Sensor.controlFile, digit, nonzero]

/-- From a start where the file holds `0` and the bit is clear, the file follows the
bit after every call exactly when no call switches significant motion off while
another bit of the mask is set. -/
theorem follows_motion_iff (a : Accelerometer F) (text : a.files.enSigMotion = "0")
    (off : BitMask.test a.mEnabled Sensor.significantMotion.index = false) (calls : List Switching) :
    (∀ t ∈ switches.trace a calls, t.target.FollowsMotion) ↔
      ∀ t ∈ switches.trace a calls, ¬t.source.MotionOffAmongOthers t.input := by
  have follows : a.FollowsMotion := by simp [FollowsMotion, text, off]
  exact switches.trace_iff FollowsMotion (fun a call => ¬a.MotionOffAmongOthers call)
    (fun _ call follows => follows.step_iff call) a calls follows

theorem follows_motion_off_alone :
    (switches.run blank
      [⟨.significantMotion, 1⟩, ⟨.main, 1⟩, ⟨.main, 0⟩, ⟨.significantMotion, 0⟩]).mEnabled = 0 ∧
    ∀ t ∈ switches.trace blank
      [⟨.significantMotion, 1⟩, ⟨.main, 1⟩, ⟨.main, 0⟩, ⟨.significantMotion, 0⟩],
      t.target.FollowsMotion := by
  refine ⟨by decide +kernel, (follows_motion_iff blank rfl (by decide) _).mpr ?_⟩
  decide +kernel

/-- Accelerometer and significant motion on, then significant motion off again. -/
theorem follows_motion_fails : ¬∀ calls : List Switching, ∀ t ∈ switches.trace blank calls,
    t.target.FollowsMotion := by
  intro always
  have last := always [⟨.main, 1⟩, ⟨.significantMotion, 1⟩, ⟨.significantMotion, 0⟩]
  revert last
  decide +kernel

end Accelerometer
end KanasSensors
