import KanasSensors.Context.Device
import Mathlib

/-! The interval the device remembers against the text it wrote for it.

The period is kept in 64 bits and printed in 32. A write that succeeds stores both, and
a call that finds the period in place writes neither, so the two disagree exactly from a
period on whose milliseconds do not fit.
-/

set_option autoImplicit false

namespace KanasSensors

open Foundation

variable {F : Type}

def FitsInt32 (period : Int) : Prop :=
  -2147483648 ≤ period.tdiv 1000000 ∧ period.tdiv 1000000 < 2147483648

theorem delayMillis_eq_iff (period : Int) :
    Accelerometer.delayMillis period = period.tdiv 1000000 ↔ FitsInt32 period := by
  have above : Accelerometer.delayMillis period < 2147483648 := BitVec.toInt_lt
  have below : -2147483648 ≤ Accelerometer.delayMillis period := BitVec.le_toInt _
  constructor
  · intro same
    rw [same] at above below
    exact ⟨below, above⟩
  · rintro ⟨low, high⟩
    rw [Accelerometer.delayMillis, BitVec.toInt_ofInt]
    apply Int.bmod_eq_of_le <;> omega

/-- The digits of an `int32_t`, with a sign and the terminator, need at most 12 bytes. -/
theorem delayMillis_length (period : Int) : (Accelerometer.delayMillis period).repr.length + 1 ≤ 16 := by
  have above : Accelerometer.delayMillis period < 2147483648 := BitVec.toInt_lt
  have below : -2147483648 ≤ Accelerometer.delayMillis period := BitVec.le_toInt _
  have digits : ∀ n : Nat, n ≤ 2147483648 → n.repr.length ≤ 10 := by
    intro n small
    rw [Nat.length_repr_le_iff (by decide)]
    omega
  cases value : Accelerometer.delayMillis period with
  | ofNat n =>
    rw [value] at above
    have short := digits n (by simp only [Int.ofNat_eq_natCast] at above; omega)
    simp only [Int.repr]
    omega
  | negSucc n =>
    rw [value] at below
    have short := digits n.succ (by omega)
    have sign : "-".length = 1 := rfl
    simp only [Int.repr, String.length_append]
    omega

namespace Accelerometer

def periodWritten (a : Accelerometer F) (handle delay_ns : Int) : SysfsOutcome → Option Int
  | .written => if (handle = idLA ∨ handle = idA) ∧ a.mDelay ≠ delay_ns then some delay_ns else none
  | _ => none

theorem periodWritten_eq (a : Accelerometer F) (handle delay_ns : Int) (outcome : SysfsOutcome) :
    (a.Retimes handle delay_ns outcome → a.periodWritten handle delay_ns outcome = some delay_ns) ∧
      (¬a.Retimes handle delay_ns outcome → a.periodWritten handle delay_ns outcome = none) := by
  constructor
  · rintro ⟨rated, moves, rfl⟩
    exact if_pos ⟨rated, moves⟩
  · intro idle
    cases outcome with
    | written => exact if_neg fun both => idle ⟨both.1, both.2, rfl⟩
    | openFailed => rfl
    | writeFailed errno => rfl

theorem setDelay_interval (a : Accelerometer F) (handle delay_ns : Int) (outcome : SysfsOutcome) :
    (a.periodWritten handle delay_ns outcome = none ∧
      (a.setDelay handle delay_ns outcome).1.interval = a.interval) ∨
    (a.periodWritten handle delay_ns outcome = some delay_ns ∧
      (a.setDelay handle delay_ns outcome).1.interval = (delay_ns, (delayMillis delay_ns).repr)) := by
  obtain ⟨wrote, nothing⟩ := a.periodWritten_eq handle delay_ns outcome
  obtain ⟨retimes, taken⟩ | ⟨idle, kept⟩ := a.setDelay_cases handle delay_ns outcome
  · rw [taken]
    exact .inr ⟨wrote retimes, rfl⟩
  · rw [kept]
    exact .inl ⟨nothing idle, rfl⟩

end Accelerometer

structure DelayLedger (F : Type) where
  ctx : SensorsPollContext (Accelerometer F)
  written : Bool

namespace DelayLedger

variable [FloatArith F]

def periodWritten (c : SensorsPollContext (Accelerometer F)) : DeviceCall → Option Int
  | .setDelay handle ns outcome => c.acc.periodWritten handle ns outcome
  | .batch handle _ period_ns _ outcome =>
    if c.acc.mEnabled ≠ 0 then c.acc.periodWritten handle period_ns outcome else none
  | .other _ => none

def delays : Machine (DelayLedger F) DeviceCall (Option Int) where
  step l call :=
    (⟨l.ctx.after call, l.written || (periodWritten l.ctx call).isSome⟩, periodWritten l.ctx call)

def Agrees (l : DelayLedger F) : Prop :=
  l.written = true → l.ctx.acc.files.pollDelay.toInt? = some (l.ctx.acc.mDelay.tdiv 1000000)

def Fits (l : DelayLedger F) (call : DeviceCall) : Prop :=
  ∀ period, periodWritten l.ctx call = some period → FitsInt32 period

theorem after_cases (c : SensorsPollContext (Accelerometer F)) (call : DeviceCall) :
    (periodWritten c call = none ∧ (c.after call).acc.interval = c.acc.interval) ∨
    ∃ period, periodWritten c call = some period ∧
      (c.after call).acc.interval = (period, (Accelerometer.delayMillis period).repr) := by
  cases call with
  | setDelay handle ns outcome =>
    rw [SensorsPollContext.after, periodWritten, SensorsPollContext.setDelay_acc]
    exact (c.acc.setDelay_interval handle ns outcome).imp id fun moved => ⟨ns, moved⟩
  | batch handle flags period_ns timeout outcome =>
    rw [SensorsPollContext.after, periodWritten, SensorsPollContext.batch_acc, Accelerometer.batch]
    by_cases idle : c.acc.mEnabled = 0
    · rw [if_neg (not_not.mpr idle), if_neg (not_not.mpr idle)]
      exact .inl ⟨rfl, rfl⟩
    · rw [if_pos idle, if_pos idle]
      exact (c.acc.setDelay_interval handle period_ns outcome).imp id fun moved => ⟨period_ns, moved⟩
  | other call => exact .inl ⟨rfl, c.afterCall_interval call⟩

theorem Agrees.step_iff {l : DelayLedger F} (agrees : l.Agrees) (call : DeviceCall) :
    (delays.step l call).1.Agrees ↔ l.Fits call := by
  simp only [delays, Agrees, Fits]
  obtain ⟨nothing, same⟩ | ⟨period, wrote, moved⟩ := after_cases l.ctx call
  · have mDelay := congrArg Prod.fst same
    have text := congrArg Prod.snd same
    simp only [Accelerometer.interval] at mDelay text
    rw [nothing, mDelay, text, Option.isSome_none, Bool.or_false]
    constructor
    · intro _ period impossible
      cases impossible
    · intro _
      exact agrees
  · have mDelay := congrArg Prod.fst moved
    have text := congrArg Prod.snd moved
    simp only [Accelerometer.interval] at mDelay text
    rw [wrote, mDelay, text, Option.isSome_some, Bool.or_true, Int.toInt?_repr]
    simp only [forall_const, Option.some.injEq, forall_eq']
    exact delayMillis_eq_iff period

/-- In every run from any device, whatever the calls and the outcomes of their writes,
once a write of `poll_delay` has succeeded the text written last parses to the interval
in force in milliseconds, exactly when no period written is too long for 32 bits; and
the text always fits its buffer. -/
theorem delay_text_iff (ctx : SensorsPollContext (Accelerometer F)) (calls : List DeviceCall) :
    ((∀ t ∈ delays.trace ⟨ctx, false⟩ calls, t.target.Agrees) ↔
      ∀ t ∈ delays.trace ⟨ctx, false⟩ calls, t.source.Fits t.input) ∧
    ∀ period, (Accelerometer.delayMillis period).repr.length + 1 ≤ 16 := by
  constructor
  · exact delays.trace_iff Agrees Fits (fun _ call agrees => agrees.step_iff call) _ calls
      fun impossible => by cases impossible
  · exact delayMillis_length

/-- A period of 2^31 milliseconds: the text says -2147483648. -/
theorem long_period_narrowed : ¬∀ calls : List DeviceCall,
    (∀ call ∈ calls, ∀ period, call.period = some period → 0 ≤ period) →
    ∀ t ∈ delays.trace ⟨.create Accelerometer.blank, false⟩ calls, t.target.Agrees := by
  intro always
  have agrees := always [.setDelay idA 2147483648000000 .written]
    (by simp [DeviceCall.period]) _ List.mem_cons_self
  have fits := (Agrees.step_iff (fun impossible => by cases impossible) _).mp agrees
    2147483648000000 (by decide +kernel)
  exact absurd fits.2 (by decide)

end DelayLedger
end KanasSensors
