import KanasSensors.Accelerometer.Passes

/-! Invariants of the object together with the moments behind it.

A run makes a moment in two ways: the event loop takes an input event, or `setEnable`
switches a bit. What both keep, and what looks at nothing but what the event loop works
on, holds after every run, of the object and its history.
-/

set_option autoImplicit false

namespace KanasSensors

open Foundation

variable {F : Type} [FloatArith F]

namespace Accelerometer

structure Tracked (inv : Accelerometer F → List (Moment F) → Prop) : Prop where
  consume : ∀ a past event, inv a past →
    inv (a.consume event).1 (past ++ [.taken a.mEnabled event (a.consume event).2])
  switch : ∀ a past handle enabled outcome, inv a past →
    inv (a.setEnable handle enabled outcome).1 (past ++ [.enabling handle enabled])
  alike : ∀ a b past, a.Alike b → inv a past → inv b past

namespace Tracked

variable {inv : Accelerometer F → List (Moment F) → Prop} {a : Accelerometer F}
  {past : List (Moment F)}

theorem run (tracked : Tracked inv) (start : inv a past) (events : List InputEvent) :
    inv (consumer.run a events) (past ++ a.takes events) := by
  induction events generalizing a past with
  | nil =>
    rw [takes, Machine.trace_nil, List.map_nil, List.append_nil]
    exact start
  | cons event rest ih =>
    rw [takes_cons, List.append_cons]
    exact ih (tracked.consume a past event start)

theorem answer (tracked : Tracked inv) (start : inv a past) (call : Call) :
    inv (a.answer call).1 (past ++ a.moments call) := by
  obtain ⟨handle, enabled, outcome, rfl⟩ | ⟨events, passes⟩ := a.answer_cases call
  · exact tracked.switch a past handle enabled outcome start
  · rw [passes.moments]
    exact tracked.alike _ _ _ passes.after (tracked.run start events)

theorem history (tracked : Tracked inv) (start : inv a past) (calls : List Call) :
    inv (driver.run a calls) (past ++ a.history calls) := by
  induction calls generalizing a past with
  | nil =>
    rw [Accelerometer.history, Machine.trace_nil, List.flatMap_nil, List.append_nil]
    exact start
  | cons call rest ih =>
    have further := ih (tracked.answer start call)
    rw [List.append_assoc] at further
    exact further

end Tracked

def Recalled (inv : Accelerometer F → List (Moment F) → Prop) (past : List (Moment F)) : Prop :=
  ∀ front mEnabled event stored back, past = front ++ .taken mEnabled event stored :: back →
    ∃ b, inv b front ∧ mEnabled = b.mEnabled ∧ stored = (b.consume event).2

variable {inv : Accelerometer F → List (Moment F) → Prop}

theorem recalled_nil : Recalled inv [] := by
  intro front mEnabled event stored back split
  exact absurd split (List.append_ne_nil_of_right_ne_nil _ (List.cons_ne_nil _ _)).symm

theorem Recalled.concat {past : List (Moment F)} (recalled : Recalled inv past) {last : Moment F}
    (here : ∀ mEnabled event stored, last = .taken mEnabled event stored →
      ∃ b, inv b past ∧ mEnabled = b.mEnabled ∧ stored = (b.consume event).2) :
    Recalled inv (past ++ [last]) := by
  intro front mEnabled event stored back split
  rcases List.eq_nil_or_concat back with rfl | ⟨middle, final, rfl⟩
  · obtain ⟨rfl, same⟩ := List.append_inj' split rfl
    exact here mEnabled event stored (List.cons.inj same).1
  · rw [List.concat_eq_append, ← List.cons_append, ← List.append_assoc] at split
    obtain ⟨before, -⟩ := List.append_inj' split rfl
    exact recalled front mEnabled event stored middle before

theorem Tracked.recalled (tracked : Tracked inv) :
    Tracked fun a past => inv a past ∧ Recalled inv past where
  consume := by
    rintro a past event ⟨held, recalled⟩
    refine ⟨tracked.consume a past event held, recalled.concat ?_⟩
    intro mEnabled event' stored same
    cases same
    exact ⟨a, held, rfl, rfl⟩
  switch := by
    rintro a past handle enabled outcome ⟨held, recalled⟩
    refine ⟨tracked.switch a past handle enabled outcome held, recalled.concat ?_⟩
    intro mEnabled event stored same
    cases same
  alike := by
    rintro a b past alike ⟨held, recalled⟩
    exact ⟨tracked.alike a b past alike held, recalled⟩

theorem Tracked.taken (tracked : Tracked inv) {a : Accelerometer F} (start : inv a [])
    (calls : List Call) : Recalled inv (a.history calls) :=
  (tracked.recalled.history ⟨start, recalled_nil⟩ calls).2

end Accelerometer
end KanasSensors
