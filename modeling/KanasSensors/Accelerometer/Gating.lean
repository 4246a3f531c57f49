import KanasSensors.Accelerometer.Passes

/-! Which sensor's events come out while which bits of the mask are set.

A run is reduced to the chain of masks its moments pass through. The gesture branch
is the only one that does not look at the mask before it stores, so the events are
gated exactly when every gesture is taken with the significant-motion bit set.
-/

set_option autoImplicit false

namespace KanasSensors

open Foundation

def emits (mEnabled : BitVec 32) (event : InputEvent) : List Sensor :=
  if isGesture event then [.significantMotion]
  else if event.type = evSyn then
    [Sensor.main, .linearAcceleration].filter fun sensor => BitMask.test mEnabled sensor.index
  else []

def maskAfter (mEnabled : BitVec 32) (event : InputEvent) : BitVec 32 :=
  if isGesture event then BitMask.clear mEnabled Sensor.significantMotion.index else mEnabled

variable {F : Type}

/-- The moments lead from one mask to another, each taken event beginning under the
mask the moments before it left and storing events with the labels of `emits`. -/
inductive Chained : BitVec 32 → List (Moment F) → BitVec 32 → Prop where
  | nil (mask : BitVec 32) : Chained mask [] mask
  | enabling {mask last : BitVec 32} {rest : List (Moment F)} (handle enabled : Int) :
      Chained (Accelerometer.maskSwitched mask handle enabled) rest last →
      Chained mask (.enabling handle enabled :: rest) last
  | taken {mask last : BitVec 32} {rest : List (Moment F)} (event : InputEvent)
      (stored : List (SensorsEvent F)) :
      stored.map SensorsEvent.origin = (emits mask event).map some →
      Chained (maskAfter mask event) rest last → Chained mask (.taken mask event stored :: rest) last

theorem Chained.append {mask middle last : BitVec 32} {first rest : List (Moment F)}
    (left : Chained mask first middle) (right : Chained middle rest last) :
    Chained mask (first ++ rest) last := by
  induction left with
  | nil => exact right
  | enabling handle enabled _ ih => exact .enabling handle enabled (ih right)
  | taken event stored labels _ ih => exact .taken event stored labels (ih right)

namespace Accelerometer

def Labelled (a : Accelerometer F) : Prop :=
  ∀ sensor, (a.mPendingEvents sensor).sensor = sensor.handle

theorem Labelled.of_labels {a b : Accelerometer F} (labelled : a.Labelled) (same : b.labels = a.labels) :
    b.Labelled :=
  fun sensor => (congrArg Prod.fst (congrFun same sensor)).trans (labelled sensor)

theorem report_origin {a : Accelerometer F} (labelled : a.Labelled) (sensor : Sensor)
    (time : Timeval) : (a.report sensor time).2.map SensorsEvent.origin = [some sensor] := by
  have label := labelled sensor
  cases sensor <;> simp [report, SensorsEvent.origin, label, Sensor.handle, idA, idLA, idSM]

theorem acknowledge_labelled {a : Accelerometer F} (labelled : a.Labelled) (sensor : Sensor)
    (time : Timeval) : (a.acknowledge sensor time).1.Labelled :=
  labelled.of_labels (a.acknowledge_labels sensor time)

theorem acknowledge_origin {a : Accelerometer F} (labelled : a.Labelled) (sensor : Sensor)
    (time : Timeval) : (a.acknowledge sensor time).2.map SensorsEvent.origin =
      ([sensor].filter fun sensor => BitMask.test a.mEnabled sensor.index).map some := by
  unfold acknowledge
  by_cases enabled : BitMask.test a.mEnabled sensor.index = true
  · simpa [enabled] using report_origin labelled sensor time
  · simp [enabled]

variable [FloatArith F]

theorem consume_labelled {a : Accelerometer F} (labelled : a.Labelled) (event : InputEvent) :
    (a.consume event).1.Labelled :=
  labelled.of_labels (a.consume_labels event)

theorem consume_origin {a : Accelerometer F} (labelled : a.Labelled) (event : InputEvent) :
    (a.consume event).2.map SensorsEvent.origin = (emits a.mEnabled event).map some := by
  unfold emits
  obtain ⟨other, notSyn, same⟩ | ⟨other, notSyn, axis, same⟩ | ⟨gesture, same⟩ | ⟨other, syn, same⟩ :=
    a.consume_cases event
  · rw [same, if_neg other, if_neg notSyn]; rfl
  · rw [same, if_neg other, if_neg notSyn]; rfl
  · rw [same, if_pos gesture]
    exact report_origin (by exact labelled) _ _
  · rw [same, if_neg other, if_pos syn, List.map_append, acknowledge_origin labelled,
      acknowledge_origin (acknowledge_labelled labelled _ _), acknowledge_mEnabled, ← List.map_append,
      ← List.filter_append]
    rfl

theorem takes_chained {a : Accelerometer F} (labelled : a.Labelled) (events : List InputEvent) :
    Chained a.mEnabled (a.takes events) (consumer.run a events).mEnabled := by
  induction events generalizing a with
  | nil => exact .nil _
  | cons event rest ih =>
    have further := ih (consume_labelled labelled event)
    rw [consume_mEnabled] at further
    exact .taken event _ (consume_origin labelled event) further

theorem driver_labelled {a : Accelerometer F} (labelled : a.Labelled) (calls : List Call) :
    (driver.run a calls).Labelled :=
  labelled.of_labels (a.driver_labels calls)

theorem answer_chained {a : Accelerometer F} (labelled : a.Labelled) (call : Call) :
    Chained a.mEnabled (a.moments call) (a.answer call).1.mEnabled := by
  obtain ⟨handle, enabled, outcome, rfl⟩ | ⟨events, passes⟩ := a.answer_cases call
  · obtain ⟨files, same⟩ := a.setEnable_frame handle enabled outcome
    simp only [answer, same]
    exact .enabling handle enabled (.nil _)
  · rw [passes.moments, passes.after.mEnabled]
    exact takes_chained labelled events

theorem history_chained {a : Accelerometer F} (labelled : a.Labelled) (calls : List Call) :
    Chained a.mEnabled (a.history calls) (driver.run a calls).mEnabled := by
  induction calls generalizing a with
  | nil => exact .nil _
  | cons call rest ih =>
    have next : (a.answer call).1.Labelled := labelled.of_labels (a.answer_labels call)
    exact (answer_chained labelled call).append (ih next)

theorem create_labelled (memory : Uninitialised) (files : Sysfs) :
    (create memory files : Accelerometer F).Labelled := by
  intro sensor
  cases sensor <;> rfl

end Accelerometer

/-- Every event stored in a round belongs to a sensor whose bit is set when the
round takes its input event. -/
def Gated (history : List (Moment F)) : Prop :=
  ∀ mEnabled event emitted, .taken mEnabled event emitted ∈ history →
    ∀ stored ∈ emitted, ∀ sensor, stored.origin = some sensor →
      BitMask.test mEnabled sensor.index = true

/-- Significant-motion events stored since the last `setEnable(ID_SM, nonzero)`. -/
def firedSince : Nat → List (Moment F) → Nat
  | fired, [] => fired
  | fired, .enabling handle enabled :: rest =>
    firedSince (if handle = idSM ∧ enabled ≠ 0 then 0 else fired) rest
  | fired, .taken _ _ emitted :: rest =>
    firedSince (fired + (emitted.map SensorsEvent.origin).count (some .significantMotion)) rest

def OneShot (history : List (Moment F)) : Prop := ∀ front, front <+: history → firedSince 0 front ≤ 1

def switchedOff (sensor : Sensor) : Bool → List (Moment F) → Bool
  | off, [] => off
  | off, .enabling handle enabled :: rest =>
    switchedOff sensor (if handle = sensor.handle then enabled == 0 else off) rest
  | off, .taken _ _ _ :: rest => switchedOff sensor off rest

def QuietWhenOff (history : List (Moment F)) : Prop :=
  ∀ front mEnabled event emitted back, history = front ++ .taken mEnabled event emitted :: back →
    ∀ sensor, switchedOff sensor false front = true →
      ∀ stored ∈ emitted, stored.origin ≠ some sensor

def GesturesMasked (history : List (Moment F)) : Prop :=
  ∀ mEnabled event emitted, .taken mEnabled event emitted ∈ history → isGesture event →
    BitMask.test mEnabled Sensor.significantMotion.index = true

namespace Moment

def enablesMotion : Moment F → Prop
  | .enabling handle enabled => handle = idSM ∧ enabled ≠ 0
  | .taken _ _ _ => False

def disablesMotion : Moment F → Prop
  | .enabling handle enabled => handle = idSM ∧ enabled = 0
  | .taken _ _ _ => False

def takesGesture : Moment F → Prop
  | .enabling _ _ => False
  | .taken _ event _ => isGesture event

end Moment

def Untouched (moments : List (Moment F)) : Prop := ∀ m ∈ moments, ¬m.disablesMotion ∧ ¬m.takesGesture

def Armed (front : List (Moment F)) : Prop :=
  ∃ before enabling between, front = before ++ enabling :: between ∧ enabling.enablesMotion ∧ Untouched between

/-- Every gesture has an enabling of significant motion before it, with no disabling and no other
gesture in between. -/
def GesturesArmed (history : List (Moment F)) : Prop :=
  ∀ front gesture back, history = front ++ gesture :: back → gesture.takesGesture → Armed front

theorem Untouched.cons {m : Moment F} {rest : List (Moment F)} :
    Untouched (m :: rest) ↔ (¬m.disablesMotion ∧ ¬m.takesGesture) ∧ Untouched rest :=
  List.forall_mem_cons

theorem Armed.nil : ¬Armed ([] : List (Moment F)) := by
  rintro ⟨before, enabling, between, split, -⟩
  simp at split

theorem Armed.cons {m : Moment F} {rest : List (Moment F)} :
    Armed (m :: rest) ↔ Armed rest ∨ (m.enablesMotion ∧ Untouched rest) := by
  constructor
  · rintro ⟨before, enabling, between, split, enables, untouched⟩
    cases before with
    | nil =>
      obtain ⟨rfl, rfl⟩ := List.cons.inj split
      exact .inr ⟨enables, untouched⟩
    | cons first before =>
      obtain ⟨-, rfl⟩ := List.cons.inj split
      exact .inl ⟨before, enabling, between, rfl, enables, untouched⟩
  · rintro (⟨before, enabling, between, rfl, enables, untouched⟩ | ⟨enables, untouched⟩)
    · exact ⟨m :: before, enabling, between, rfl, enables, untouched⟩
    · exact ⟨[], m, rest, rfl, enables, untouched⟩

theorem test_maskAfter_of_false {mask : BitVec 32} {sensor : Sensor}
    (off : BitMask.test mask sensor.index = false) (event : InputEvent) :
    BitMask.test (maskAfter mask event) sensor.index = false := by
  unfold maskAfter
  split
  · simp [off]
  · exact off

theorem mem_emits {mask : BitVec 32} {event : InputEvent} {sensor : Sensor}
    (member : sensor ∈ emits mask event) :
    (isGesture event ∧ sensor = .significantMotion) ∨ BitMask.test mask sensor.index = true := by
  unfold emits at member
  split_ifs at member with gesture syn
  · exact .inl ⟨gesture, List.mem_singleton.mp member⟩
  · exact .inr (List.mem_filter.mp member).2
  · cases member

theorem emits_count (mask : BitVec 32) (event : InputEvent) :
    ((emits mask event).map some).count (some Sensor.significantMotion) =
      if isGesture event then 1 else 0 := by
  unfold emits
  split_ifs with gesture syn
  · rfl
  · apply List.count_eq_zero.mpr
    simp
  · rfl

theorem Chained.labels {mask last : BitVec 32} {history : List (Moment F)}
    (chained : Chained mask history last) {mEnabled : BitVec 32} {event : InputEvent}
    {emitted : List (SensorsEvent F)} (member : .taken mEnabled event emitted ∈ history) :
    emitted.map SensorsEvent.origin = (emits mEnabled event).map some := by
  induction chained with
  | nil => cases member
  | enabling handle enabled _ ih =>
    rcases List.mem_cons.mp member with same | member
    · cases same
    · exact ih member
  | taken event stored labels _ ih =>
    rcases List.mem_cons.mp member with same | member
    · cases same
      exact labels
    · exact ih member

theorem Chained.gated_iff {mask last : BitVec 32} {history : List (Moment F)}
    (chained : Chained mask history last) : Gated history ↔ GesturesMasked history := by
  constructor
  · intro gated mEnabled event emitted member gesture
    have labels := chained.labels member
    rw [emits, if_pos gesture] at labels
    obtain ⟨stored, rfl, origin⟩ := List.map_eq_singleton_iff.mp labels
    exact gated mEnabled event _ member stored (List.mem_singleton.mpr rfl) _ origin
  · intro armed mEnabled event emitted member stored inside sensor origin
    have labels := chained.labels member
    have listed : some sensor ∈ emitted.map SensorsEvent.origin :=
      List.mem_map.mpr ⟨stored, inside, origin⟩
    rw [labels] at listed
    obtain ⟨same, emitted_by, equal⟩ := List.mem_map.mp listed
    rw [Option.some.inj equal] at emitted_by
    rcases mem_emits emitted_by with ⟨gesture, motion⟩ | enabled
    · rw [motion]
      exact armed mEnabled event emitted member gesture
    · exact enabled

/-- One event at most since the last enabling call, and with one the bit is clear. -/
def Spent (mask : BitVec 32) (fired : Nat) : Prop :=
  fired = 0 ∨ (fired = 1 ∧ BitMask.test mask Sensor.significantMotion.index = false)

theorem Spent.le_one {mask : BitVec 32} {fired : Nat} (spent : Spent mask fired) : fired ≤ 1 := by
  rcases spent with zero | ⟨one, -⟩ <;> omega

theorem Spent.switched {mask : BitVec 32} {fired : Nat} (spent : Spent mask fired)
    (handle enabled : Int) : Spent (Accelerometer.maskSwitched mask handle enabled)
      (if handle = idSM ∧ enabled ≠ 0 then 0 else fired) := by
  by_cases rearmed : handle = idSM ∧ enabled ≠ 0
  · exact .inl (if_pos rearmed)
  · rw [if_neg rearmed]
    refine spent.imp id fun ⟨one, off⟩ => ⟨one, ?_⟩
    rw [Accelerometer.test_maskSwitched]
    split_ifs with own
    · have still : enabled = 0 := by
        by_contra on
        exact rearmed ⟨own, on⟩
      simp [still]
    · exact off

theorem Spent.taken {mask : BitVec 32} {fired : Nat} (spent : Spent mask fired) (event : InputEvent)
    (armed : isGesture event → BitMask.test mask Sensor.significantMotion.index = true) :
    Spent (maskAfter mask event) (fired + if isGesture event then 1 else 0) := by
  by_cases gesture : isGesture event
  · rcases spent with zero | ⟨-, off⟩
    · right
      simp [zero, gesture, maskAfter]
    · rw [armed gesture] at off
      cases off
  · simpa [gesture, maskAfter] using spent

theorem Chained.oneShot {mask last : BitVec 32} {history : List (Moment F)}
    (chained : Chained mask history last) (armed : GesturesMasked history) {fired : Nat}
    (spent : Spent mask fired) (front : List (Moment F)) (inside : front <+: history) :
    firedSince fired front ≤ 1 := by
  induction chained generalizing fired front with
  | nil mask =>
    rw [List.prefix_nil.mp inside, firedSince]
    exact spent.le_one
  | @enabling mask last rest handle enabled _ ih =>
    rcases List.prefix_cons_iff.mp inside with rfl | ⟨front, rfl, shorter⟩
    · exact spent.le_one
    · rw [firedSince]
      have later := fun m e out member => armed m e out (List.mem_cons_of_mem _ member)
      exact ih later (spent.switched handle enabled) front shorter
  | @taken mask last rest event stored labels _ ih =>
    rcases List.prefix_cons_iff.mp inside with rfl | ⟨front, rfl, shorter⟩
    · exact spent.le_one
    · rw [firedSince, labels, emits_count]
      have later := fun m e out member => armed m e out (List.mem_cons_of_mem _ member)
      have now := armed mask event stored List.mem_cons_self
      exact ih later (spent.taken event now) front shorter

theorem Chained.off {mask last : BitVec 32} {history : List (Moment F)}
    (chained : Chained mask history last) (sensor : Sensor) (off : Bool)
    (start : off = true → BitMask.test mask sensor.index = false)
    {front back : List (Moment F)} {mEnabled : BitVec 32} {event : InputEvent}
    {emitted : List (SensorsEvent F)}
    (split : history = front ++ .taken mEnabled event emitted :: back)
    (still_off : switchedOff sensor off front = true) :
    BitMask.test mEnabled sensor.index = false := by
  induction chained generalizing off front with
  | nil mask =>
    have length := congrArg List.length split
    simp at length
  | @enabling mask last rest handle enabled _ ih =>
    cases front with
    | nil => cases split
    | cons moment front =>
      simp only [List.cons_append, List.cons.injEq] at split
      obtain ⟨rfl, split⟩ := split
      rw [switchedOff] at still_off
      refine ih _ ?_ split still_off
      intro now
      rw [Accelerometer.test_maskSwitched]
      split_ifs at now ⊢ with own
      · simpa using now
      · exact start now
  | @taken mask last rest event stored labels _ ih =>
    cases front with
    | nil =>
      simp only [List.nil_append, List.cons.injEq, Moment.taken.injEq] at split
      obtain ⟨⟨rfl, -, -⟩, -⟩ := split
      exact start still_off
    | cons moment front =>
      simp only [List.cons_append, List.cons.injEq] at split
      obtain ⟨rfl, split⟩ := split
      exact ih off (fun now => test_maskAfter_of_false (start now) event) split still_off

/-- The bit is set where the order of the calls and the gestures has it armed, or where it was
set from the start and nothing has touched it. -/
theorem Chained.test_iff {mask last : BitVec 32} {history : List (Moment F)}
    (chained : Chained mask history last) {front back : List (Moment F)} {mEnabled : BitVec 32}
    {event : InputEvent} {emitted : List (SensorsEvent F)}
    (split : history = front ++ .taken mEnabled event emitted :: back) :
    BitMask.test mEnabled Sensor.significantMotion.index = true ↔
      Armed front ∨ (BitMask.test mask Sensor.significantMotion.index = true ∧ Untouched front) := by
  induction chained generalizing front with
  | nil mask =>
    have length := congrArg List.length split
    simp at length
  | @enabling mask last rest handle enabled _ ih =>
    cases front with
    | nil => cases split
    | cons moment front =>
      simp only [List.cons_append, List.cons.injEq] at split
      obtain ⟨rfl, split⟩ := split
      rw [ih split, Accelerometer.test_maskSwitched, Armed.cons, Untouched.cons]
      simp only [Moment.enablesMotion, Moment.disablesMotion, Moment.takesGesture, not_false_iff, and_true]
      by_cases own : handle = idSM
      · -- the call is on the sensor, and it alone decides
        by_cases off : enabled = 0
        · simp [own, off, Sensor.handle]
        · simp only [own, off, Sensor.handle, if_true, bne_iff_ne, ne_eq, not_false_iff, true_and, and_false]
          exact (or_iff_left_of_imp fun both => .inr both.2).symm
      · have other : ¬handle = Sensor.significantMotion.handle := own
        simp [own, other]
  | @taken mask last rest event stored labels _ ih =>
    cases front with
    | nil =>
      simp only [List.nil_append, List.cons.injEq, Moment.taken.injEq] at split
      obtain ⟨⟨rfl, -, -⟩, -⟩ := split
      simp [Armed.nil, Untouched]
    | cons moment front =>
      simp only [List.cons_append, List.cons.injEq] at split
      obtain ⟨rfl, split⟩ := split
      rw [ih split, Armed.cons, Untouched.cons]
      simp only [Moment.enablesMotion, Moment.disablesMotion, Moment.takesGesture, not_false_iff, true_and,
        false_and, or_false]
      -- a gesture leaves the bit clear behind it, any other event leaves it alone
      by_cases gesture : isGesture event <;> simp [gesture, maskAfter]

theorem Chained.masked_iff_armed {mask last : BitVec 32} {history : List (Moment F)}
    (chained : Chained mask history last) (off : BitMask.test mask Sensor.significantMotion.index = false) :
    GesturesMasked history ↔ GesturesArmed history := by
  have decides : ∀ {front back mEnabled event emitted}, history = front ++ .taken mEnabled event emitted :: back →
      (BitMask.test mEnabled Sensor.significantMotion.index = true ↔ Armed front) := by
    intro front back mEnabled event emitted split
    rw [chained.test_iff split, off]
    simp
  constructor
  · intro masked front gesture back split takes
    cases gesture with
    | enabling handle enabled => exact takes.elim
    | taken mEnabled event emitted =>
      have member : .taken mEnabled event emitted ∈ history := split ▸ List.mem_append_right _ List.mem_cons_self
      exact (decides split).mp (masked mEnabled event emitted member takes)
  · intro armed mEnabled event emitted member gesture
    obtain ⟨front, back, split⟩ := List.append_of_mem member
    exact (decides split).mpr (armed front _ back split gesture)

namespace Accelerometer

variable [FloatArith F]

/-- In any run of a new object, what a call stores besides flush completions is what
its moments store; and over these moments, events are gated by activation, significant
motion is one-shot and a sensor that was switched off stays quiet, exactly when each gesture
taken has its own `setEnable(ID_SM, nonzero)` before it. -/
theorem gating_iff (memory : Uninitialised) (files : Sysfs) (calls : List Call) :
    let object : Accelerometer F := create memory files
    (∀ t ∈ driver.trace object calls, ∃ flushes : List MetaEvent,
      t.output.stored = flushes.map .metaData ++ (moments t.source t.input).flatMap Moment.stored) ∧
    ((Gated (object.history calls) ∧ OneShot (object.history calls) ∧
        QuietWhenOff (object.history calls)) ↔ GesturesArmed (object.history calls)) := by
  intro object
  have chained := history_chained (create_labelled (F := F) memory files) calls
  have order := chained.masked_iff_armed (BitMask.test_zero _)
  refine ⟨?_, ?_, ?_⟩
  · intro t member
    rw [driver.output_of_mem_trace member]
    exact answer_stored t.source t.input
  · rintro ⟨gated, -, -⟩
    exact order.mp (chained.gated_iff.mp gated)
  · intro armed
    have masked := order.mpr armed
    have gated := chained.gated_iff.mpr masked
    refine ⟨gated, fun front inside => chained.oneShot masked (.inl rfl) front inside, ?_⟩
    intro front mEnabled event emitted back split sensor off stored inside origin
    have clear := chained.off sensor false (by intro impossible; cases impossible) split off
    have member : Moment.taken mEnabled event emitted ∈ front ++ .taken mEnabled event emitted :: back :=
      List.mem_append_right _ List.mem_cons_self
    rw [gated mEnabled event emitted (split ▸ member) stored inside sensor origin] at clear
    cases clear

/-- Two gestures in one batch fire a sensor that was enabled once. -/
theorem gestures_fire_twice : ¬∀ calls : List Call, Gated (blank.history calls) ∧
    OneShot (blank.history calls) ∧ QuietWhenOff (blank.history calls) := by
  intro always
  let gesture : InputEvent := ⟨⟨0, 0⟩, evMsc, mscGesture, 1⟩
  have once := (always [.setEnable idSM 1 .written,
    .readEvents 8 (.ofQueue [gesture, gesture] 2)]).2.1 _ (List.prefix_refl _)
  revert once
  decide +kernel

end Accelerometer
end KanasSensors
