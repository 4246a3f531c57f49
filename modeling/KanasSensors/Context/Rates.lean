import KanasSensors.Accelerometer.Control
import KanasSensors.Accelerometer.Reading
import KanasSensors.Context.Entries
import KanasSensors.Context.Rounds

/-! The driver interval under the rate requests of two sensors.

`getEnable` answers 0 or 1, so `setDelay` never reaches its branch for a driver with
dependencies: a request that gets to the driver replaces the interval, whatever the
other sensor asked for. A `batch` gets there only while a sensor is enabled.
-/

set_option autoImplicit false

namespace KanasSensors

open Foundation

inductive Rated where
  | main
  | linearAcceleration
  deriving DecidableEq

namespace Rated

def sensor : Rated → Sensor
  | main => .main
  | linearAcceleration => .linearAcceleration

def handle (h : Rated) : Int := h.sensor.handle

end Rated

variable {F : Type}

namespace Accelerometer

theorem getEnable_le_one (a : Accelerometer F) (handle : Int) : a.getEnable handle ≤ 1 := by
  unfold getEnable
  split
  · decide
  · split <;> decide

theorem setEnable_mDelay (a : Accelerometer F) (handle enabled : Int) (outcome : SysfsOutcome) :
    (a.setEnable handle enabled outcome).1.mDelay = a.mDelay := by
  obtain ⟨files, same⟩ := a.setEnable_frame handle enabled outcome
  rw [same]

theorem setDelay_mEnabled (a : Accelerometer F) (handle delay_ns : Int) (outcome : SysfsOutcome) :
    (a.setDelay handle delay_ns outcome).1.mEnabled = a.mEnabled := by
  obtain ⟨mDelay, files, same⟩ := a.setDelay_frame handle delay_ns outcome
  rw [same]

theorem setDelay_same (a : Accelerometer F) (h : Rated) (outcome : SysfsOutcome) :
    (a.setDelay h.handle a.mDelay outcome).1 = a := by
  obtain ⟨retimes, -⟩ | ⟨-, kept⟩ := a.setDelay_cases h.handle a.mDelay outcome
  · exact absurd rfl retimes.moves
  · exact kept

theorem setDelay_mDelay (a : Accelerometer F) (h : Rated) (delay_ns : Int) (outcome : SysfsOutcome) :
    (a.setDelay h.handle delay_ns outcome).1.mDelay = delay_ns ↔
      a.mDelay = delay_ns ∨ outcome = .written := by
  have rated : h.handle = idLA ∨ h.handle = idA := by cases h <;> decide
  obtain ⟨retimes, taken⟩ | ⟨idle, kept⟩ := a.setDelay_cases h.handle delay_ns outcome
  · rw [taken]
    exact ⟨fun _ => .inr retimes.written, fun _ => rfl⟩
  · rw [kept]
    constructor
    · exact .inl
    · rintro (same | written)
      · exact same
      · by_contra moves
        exact idle ⟨rated, moves, written⟩

def interval (a : Accelerometer F) : Int × String := (a.mDelay, a.files.pollDelay)

theorem setEnable_interval (a : Accelerometer F) (handle enabled : Int) (outcome : SysfsOutcome) :
    (a.setEnable handle enabled outcome).1.interval = a.interval := by
  obtain ⟨unknown, -⟩ | ⟨sensor, rfl, file⟩ := enableFile_cases handle
  · simp only [setEnable, unknown]
  · simp only [setEnable, file]
    cases outcome with
    | written => cases sensor <;> rfl
    | _ => rfl

theorem readEvents_interval [FloatArith F] (a : Accelerometer F) (count : Int)
    (data_fd : SysRead InputEvent) : (a.readEvents count data_fd).1.interval = a.interval := by
  by_cases reads : a.Reads count data_fd
  · obtain ⟨ring, -, result⟩ := readEvents_ok reads
    have same := a.run_untouched (a.passed count data_fd)
    rw [result]
    simp only [interval, same.mDelay, same.files]
  · obtain ⟨⟨ring, -, unchanged⟩, -⟩ := readEvents_not_ok reads
    rw [unchanged]
    rfl

end Accelerometer

namespace SensorsPollContext

variable [FloatArith F]

def isOn (c : SensorsPollContext (Accelerometer F)) (h : Rated) : Bool :=
  BitMask.test c.acc.mEnabled h.sensor.index

theorem mSensors_rated {σ : Type} (c : SensorsPollContext σ) (h : Rated) :
    c.mSensors (handleToDriver h.handle) = some c.acc := by
  cases h <;> rfl

theorem activate_rated (c : SensorsPollContext (Accelerometer F)) (h : Rated) (enabled : Int)
    (outcome : SysfsOutcome) (wrote : Bool) :
    ∃ wakePipe, c.activate Accelerometer.base h.handle enabled outcome wrote =
      some ({ c with acc := (c.acc.setEnable h.handle enabled outcome).1, wakePipe },
        (c.acc.setEnable h.handle enabled outcome).2) := by
  rw [activate, mSensors_rated]
  exact ⟨_, rfl⟩

theorem setDelay_rated (c : SensorsPollContext (Accelerometer F)) (h : Rated) (ns : Int)
    (outcome : SysfsOutcome) :
    ∃ err, c.setDelay Accelerometer.base h.handle ns outcome =
      some ({ c with acc := (c.acc.setDelay h.handle ns outcome).1 }, err) := by
  have independent : Accelerometer.base.getEnable c.acc h.handle ≤ 1 := c.acc.getEnable_le_one h.handle
  have current : Accelerometer.base.getDelay c.acc h.handle = c.acc.mDelay := by cases h <;> rfl
  rw [setDelay, setDelaySub, mSensors_rated]
  simp only [Option.map_some, if_pos independent, current]
  split
  · exact ⟨_, rfl⟩
  · next same =>
    rw [← not_not.mp same, Accelerometer.setDelay_same]
    exact ⟨0, rfl⟩

theorem batch_rated (c : SensorsPollContext (Accelerometer F)) (h : Rated)
    (flags period_ns timeout : Int) (outcome : SysfsOutcome) :
    c.batch Accelerometer.base h.handle flags period_ns timeout outcome =
      some ({ c with acc := (c.acc.batch h.handle flags period_ns timeout outcome).1 }, 0) := by
  have index : handleToDriver h.handle = 0 := by cases h <;> rfl
  have accepted : (c.acc.batch h.handle flags period_ns timeout outcome).2 = 0 := by
    unfold Accelerometer.batch
    split <;> rfl
  simp only [batch, index, mSensors, Int.lt_irrefl, if_false, if_true, Option.map_some]
  exact congrArg (fun err => some (_, err)) accepted

end SensorsPollContext

/-- A call on one of the two sensors, all of whose writes succeed. -/
inductive RateCall where
  | activate (h : Rated) (enabled : Int) (wrote : Bool)
  | setDelay (h : Rated) (ns : Int)
  | batch (h : Rated) (flags period_ns timeout : Int)

/-- The device, and for each sensor the last period requested since it was enabled. -/
structure RateLedger (F : Type) where
  ctx : SensorsPollContext (Accelerometer F)
  requested : Rated → Option Int

namespace RateLedger

variable [FloatArith F]

def call (c : SensorsPollContext (Accelerometer F)) :
    RateCall → Option (SensorsPollContext (Accelerometer F) × Int)
  | .activate h enabled wrote => c.activate Accelerometer.base h.handle enabled .written wrote
  | .setDelay h ns => c.setDelay Accelerometer.base h.handle ns .written
  | .batch h flags period_ns timeout =>
    c.batch Accelerometer.base h.handle flags period_ns timeout .written

def note (l : RateLedger F) : RateCall → Rated → Option Int
  | .activate h enabled _ =>
    if enabled ≠ 0 ∧ l.ctx.isOn h = false then Function.update l.requested h none else l.requested
  | .setDelay h ns => Function.update l.requested h (some ns)
  | .batch h _ period_ns _ => Function.update l.requested h (some period_ns)

def rates : Machine (RateLedger F) RateCall (Option Int) where
  step l c := (⟨((call l.ctx c).map Prod.fst).getD l.ctx, l.note c⟩, (call l.ctx c).map Prod.snd)

/-- An enabled sensor that asked for a period gets at most that period. -/
def ShortestWins (l : RateLedger F) : Prop :=
  ∀ h, l.ctx.isOn h = true → ∀ period, l.requested h = some period → l.ctx.acc.mDelay ≤ period

/-- The call asks for a longer period than another enabled sensor did. -/
def Overrides (l : RateLedger F) : RateCall → Prop
  | .activate _ _ _ => False
  | .setDelay h ns | .batch h _ ns _ =>
    ∃ other ≠ h, l.ctx.isOn other = true ∧ ∃ period, l.requested other = some period ∧ period < ns

omit [FloatArith F] in
theorem shortestWins_of_taken {l : RateLedger F} {ctx : SensorsPollContext (Accelerometer F)}
    {h : Rated} {ns : Int} (mDelay : ctx.acc.mDelay = ns)
    (mEnabled : ctx.acc.mEnabled = l.ctx.acc.mEnabled) :
    ShortestWins ⟨ctx, Function.update l.requested h (some ns)⟩ ↔
      ¬∃ other ≠ h, l.ctx.isOn other = true ∧
        ∃ period, l.requested other = some period ∧ period < ns := by
  simp only [ShortestWins, SensorsPollContext.isOn, mDelay, mEnabled]
  constructor
  · rintro wins ⟨other, apart, on, period, asked, shorter⟩
    have kept := wins other on period (by rw [Function.update_of_ne apart, asked])
    omega
  · intro none_lost other on period asked
    -- the sensor's own request is the interval now in force
    by_cases own : other = h
    · rw [own, Function.update_self, Option.some.injEq] at asked
      omega
    · rw [Function.update_of_ne own] at asked
      by_contra longer
      exact none_lost ⟨other, own, on, period, asked, by omega⟩

theorem sensor_ne {first second : Rated} (apart : first ≠ second) : first.sensor ≠ second.sensor := by
  cases first <;> cases second <;> first | exact absurd rfl apart | decide

theorem ShortestWins.activate {l : RateLedger F} (wins : l.ShortestWins) (h : Rated) (enabled : Int)
    (wrote : Bool) : (rates.step l (.activate h enabled wrote)).1.ShortestWins := by
  obtain ⟨wakePipe, done⟩ := l.ctx.activate_rated h enabled .written wrote
  obtain ⟨files, same⟩ := l.ctx.acc.setEnable_frame h.handle enabled .written
  intro other on period asked
  simp only [rates, call, done, note, Option.map_some, Option.getD_some] at on asked ⊢
  rw [Accelerometer.setEnable_mDelay]
  rw [SensorsPollContext.isOn, same, Rated.handle, Accelerometer.test_maskSwitched] at on
  simp only [Sensor.handle_eq_iff] at on
  by_cases own : other = h
  · subst own
    rw [if_pos rfl, bne_iff_ne] at on
    by_cases fresh : l.ctx.isOn other = false
    · -- enabled by this call: it has not asked for a period since
      rw [if_pos ⟨on, fresh⟩, Function.update_self] at asked
      cases asked
    · rw [if_neg (fun both => fresh both.2)] at asked
      exact wins other (Bool.not_eq_false _ ▸ fresh) period asked
  · rw [if_neg (sensor_ne own).symm] at on
    apply wins other on period
    split at asked
    · rwa [Function.update_of_ne own] at asked
    · exact asked

theorem ShortestWins.step_iff {l : RateLedger F} (wins : l.ShortestWins) (c : RateCall) :
    (rates.step l c).1.ShortestWins ↔ ¬l.Overrides c := by
  cases c with
  | activate h enabled wrote => exact ⟨fun _ => not_false, fun _ => wins.activate h enabled wrote⟩
  | setDelay h ns =>
    obtain ⟨err, done⟩ := l.ctx.setDelay_rated h ns .written
    simp only [rates, call, done, note, Option.map_some, Option.getD_some]
    exact shortestWins_of_taken ((l.ctx.acc.setDelay_mDelay h ns .written).mpr (.inr rfl))
      (l.ctx.acc.setDelay_mEnabled h.handle ns .written)
  | batch h flags period_ns timeout =>
    simp only [rates, call, SensorsPollContext.batch_rated, note, Option.map_some, Option.getD_some,
      Accelerometer.batch]
    by_cases idle : l.ctx.acc.mEnabled = 0
    · -- dropped, but no sensor is on to miss it
      have off : ∀ other : Rated, ¬l.ctx.isOn other = true := by
        intro other
        simp [SensorsPollContext.isOn, idle]
      refine ⟨fun _ lost => ?_, fun _ other on => ?_⟩
      · obtain ⟨other, -, on, -⟩ := lost
        exact off other on
      · rw [if_neg (not_not.mpr idle)] at on
        exact absurd on (off other)
    · rw [if_pos idle]
      exact shortestWins_of_taken ((l.ctx.acc.setDelay_mDelay h period_ns .written).mpr (.inr rfl))
        (l.ctx.acc.setDelay_mEnabled h.handle period_ns .written)

/-- In every run from a device with no request made yet, the shortest request wins in
every state exactly when no call asks for a longer period than another enabled sensor. -/
theorem shortest_wins_iff (ctx : SensorsPollContext (Accelerometer F)) (calls : List RateCall) :
    (∀ t ∈ rates.trace ⟨ctx, fun _ => none⟩ calls, t.target.ShortestWins) ↔
      ∀ t ∈ rates.trace ⟨ctx, fun _ => none⟩ calls, ¬t.source.Overrides t.input :=
  rates.trace_iff ShortestWins (fun l c => ¬l.Overrides c) (fun _ c wins => wins.step_iff c) _ calls
    (by intro h _ period asked; cases asked)

/-- The accelerometer asks for 20 ms, and linear acceleration then for 200 ms. -/
theorem longer_request_wins : ¬∀ calls : List RateCall,
    ∀ t ∈ rates.trace ⟨.create Accelerometer.blank, fun _ => none⟩ calls, t.target.ShortestWins := by
  intro always
  have wins : ∀ t ∈ rates.trace ⟨.create Accelerometer.blank, fun _ => none⟩
      [.activate .main 1 true, .activate .linearAcceleration 1 true, .setDelay .main 20000000,
        .setDelay .linearAcceleration 200000000],
      t.target.ctx.isOn .main = true → t.target.requested .main = some 20000000 →
      t.target.ctx.acc.mDelay ≤ 20000000 :=
    fun t member on asked => always _ t member .main on 20000000 asked
  revert wins
  decide +kernel

end RateLedger

inductive OtherCall where
  | activate (handle enabled : Int) (outcome : SysfsOutcome) (wrote : Bool)
  | flush (handle : Int)
  | pollEvents (count : Int) (rounds : List Round)

namespace SensorsPollContext

variable [FloatArith F]

/-- The device after a call. After an access outside `mSensors`, which is undefined in the code,
it is taken to be as it was: `activate` on a handle that `handleToDriver` does not map. -/
def afterCall (c : SensorsPollContext (Accelerometer F)) :
    OtherCall → SensorsPollContext (Accelerometer F)
  | .activate handle enabled outcome wrote =>
    ((c.activate Accelerometer.base handle enabled outcome wrote).map Prod.fst).getD c
  | .flush handle => ((c.flush Accelerometer.base handle).map Prod.fst).getD c
  | .pollEvents count rounds =>
    ((PollState.start c count).pollEvents Accelerometer.base rounds).state.ctx

theorem afterCall_interval (c : SensorsPollContext (Accelerometer F)) (call : OtherCall) :
    (c.afterCall call).acc.interval = c.acc.interval := by
  let kept (next : SensorsPollContext (Accelerometer F)) := next.acc.interval = c.acc.interval
  cases call with
  | activate handle enabled outcome wrote =>
    refine settled_rule (P := kept) rfl fun next err done => ?_
    obtain ⟨wakePipe, rfl⟩ := activate_frame done
    exact c.acc.setEnable_interval handle enabled outcome
  | flush handle =>
    refine settled_rule (P := kept) rfl fun next err done => ?_
    rcases flush_frame done with rfl | rfl
    · rfl
    · obtain ⟨mFlushed, same⟩ := c.acc.flush_frame handle
      exact congrArg (·.interval) same
  | pollEvents count rounds =>
    exact PollState.pollEvents_invariant Accelerometer.base
      (fun acc => acc.interval = c.acc.interval)
      (fun acc count fd same => (acc.readEvents_interval count fd).trans same) (.start c count) rounds rfl

theorem afterCall_mDelay (c : SensorsPollContext (Accelerometer F)) (call : OtherCall) :
    (c.afterCall call).acc.mDelay = c.acc.mDelay :=
  congrArg Prod.fst (c.afterCall_interval call)

theorem foldl_afterCall_mDelay (c : SensorsPollContext (Accelerometer F)) (calls : List OtherCall) :
    (calls.foldl afterCall c).acc.mDelay = c.acc.mDelay := by
  induction calls generalizing c with
  | nil => rfl
  | cons call rest ih => exact (ih _).trans (c.afterCall_mDelay call)

/-- A period is in force for a sensor: at once when it is enabled, and else from the
first successful `activate`, whatever other calls come between. -/
structure InForce (c : SensorsPollContext (Accelerometer F)) (h : Rated) (period : Int) : Prop where
  already : c.isOn h = true → c.acc.mDelay = period
  later : ∀ (calls : List OtherCall) (outcome : SysfsOutcome) (wrote : Bool)
    (last : SensorsPollContext (Accelerometer F)),
    (calls.foldl afterCall c).activate Accelerometer.base h.handle 1 outcome wrote = some (last, 0) →
    last.acc.mDelay = period

theorem inForce_iff (c : SensorsPollContext (Accelerometer F)) (h : Rated) (period : Int) :
    c.InForce h period ↔ c.acc.mDelay = period := by
  constructor
  · rintro ⟨-, later⟩
    -- nothing in between, and an `activate` whose write succeeds
    obtain ⟨wakePipe, done⟩ := c.activate_rated h 1 .written true
    have accepted : (c.acc.setEnable h.handle 1 .written).2 = 0 := by cases h <;> rfl
    rw [accepted] at done
    have reached := later [] .written true _ done
    rwa [Accelerometer.setEnable_mDelay] at reached
  · intro same
    refine ⟨fun _ => same, fun calls outcome wrote last done => ?_⟩
    obtain ⟨wakePipe, result⟩ := (calls.foldl afterCall c).activate_rated h 1 outcome wrote
    rw [result, Option.some.injEq, Prod.mk.injEq] at done
    rw [← done.1, Accelerometer.setEnable_mDelay, foldl_afterCall_mDelay, same]

/-- An accepted `batch` takes effect exactly when the interval is the requested one
already, or some sensor is enabled and the write succeeds. -/
theorem batch_in_force_iff (c : SensorsPollContext (Accelerometer F)) (h : Rated)
    (flags period_ns timeout : Int) (outcome : SysfsOutcome) :
    (∀ next, c.batch Accelerometer.base h.handle flags period_ns timeout outcome = some (next, 0) →
      next.InForce h period_ns) ↔
    c.acc.mDelay = period_ns ∨ (c.acc.mEnabled ≠ 0 ∧ outcome = .written) := by
  simp only [batch_rated, Option.some.injEq, Prod.mk.injEq, and_true, forall_eq', inForce_iff,
    Accelerometer.batch]
  by_cases idle : c.acc.mEnabled = 0
  · simp [idle]
  · simp only [idle, ne_eq, not_false_eq_true, if_true, true_and]
    exact c.acc.setDelay_mDelay h period_ns outcome

/-- The usual order, `batch` before `activate`, on a device with nothing enabled. -/
theorem batch_before_activate_lost : ¬∀ (h : Rated) (flags period_ns timeout : Int)
    (outcome : SysfsOutcome) (next : SensorsPollContext (Accelerometer ℚ)), 0 ≤ period_ns →
    (create Accelerometer.blank).batch Accelerometer.base h.handle flags period_ns timeout outcome =
      some (next, 0) → next.InForce h period_ns := by
  intro always
  have lost := always .main 0 20000000 0 .written _ (by decide) (batch_rated _ _ _ _ _ _)
  rw [inForce_iff] at lost
  revert lost
  decide +kernel

end SensorsPollContext
end KanasSensors
