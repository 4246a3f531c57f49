import Mathlib.Data.List.Basic
import Mathlib.Logic.Relation

/-! Systems of several parties, in which an action may or may not be possible in a state.

What can be reached is told for a guard, the actions the parties allow themselves. A rank
that every action of a schedule lowers bounds the length of the schedule.
-/

set_option autoImplicit false

namespace Foundation

structure Protocol (State Action : Type) where
  step : State → Action → Option State

namespace Protocol

variable {State Action : Type} (p : Protocol State Action)
variable {guard : State → Action → Prop}

def Moves (guard : State → Action → Prop) (s t : State) : Prop :=
  ∃ a, guard s a ∧ p.step s a = some t

def Reaches (guard : State → Action → Prop) : State → State → Prop := Relation.ReflTransGen (p.Moves guard)

theorem Reaches.mono {weaker : State → Action → Prop} (allows : ∀ s a, guard s a → weaker s a)
    {s t : State} (reaches : p.Reaches guard s t) : p.Reaches weaker s t := by
  refine Relation.ReflTransGen.mono ?_ s t reaches
  rintro u v ⟨a, guarded, moved⟩
  exact ⟨a, allows u a guarded, moved⟩

theorem Reaches.keeps (inv : State → Prop)
    (kept : ∀ s a t, inv s → guard s a → p.step s a = some t → inv t)
    {s t : State} (start : inv s) (reaches : p.Reaches guard s t) : inv t := by
  induction reaches with
  | refl => exact start
  | tail _ moves ih =>
    obtain ⟨a, guarded, moved⟩ := moves
    exact kept _ a _ ih guarded moved

/-- The state after some actions in a row, if each was possible in its turn. -/
def schedule (s : State) (actions : List Action) : Option State := actions.foldlM p.step s

theorem schedule_cons (s : State) (a : Action) (rest : List Action) :
    p.schedule s (a :: rest) = (p.step s a).bind fun next => p.schedule next rest := rfl

theorem schedule_append (s : State) (first rest : List Action) :
    p.schedule s (first ++ rest) = (p.schedule s first).bind fun next => p.schedule next rest :=
  List.foldlM_append

theorem schedule_reaches {s t : State} (actions : List Action)
    (allowed : ∀ u, ∀ a ∈ actions, guard u a) (ends : p.schedule s actions = some t) :
    p.Reaches guard s t := by
  induction actions generalizing s with
  | nil =>
    cases ends
    exact Relation.ReflTransGen.refl
  | cons a rest ih =>
    rw [schedule_cons, Option.bind_eq_some_iff] at ends
    obtain ⟨next, moved, later⟩ := ends
    have first : p.Moves guard s next := ⟨a, allowed s a List.mem_cons_self, moved⟩
    exact .head first (ih (fun u other member => allowed u other (List.mem_cons_of_mem a member)) later)

/-- The ranking rule: where every step from a state of the invariant lowers the rank, a
schedule has at most as many steps as the rank it starts with. -/
theorem schedule_length_le (inv : State → Prop) (allowed : Action → Prop) (rank : State → Nat)
    (kept : ∀ s a t, inv s → allowed a → p.step s a = some t → inv t ∧ rank t < rank s)
    {s t : State} {actions : List Action} (start : inv s) (inside : ∀ a ∈ actions, allowed a)
    (ends : p.schedule s actions = some t) : inv t ∧ actions.length + rank t ≤ rank s := by
  induction actions generalizing s with
  | nil =>
    cases ends
    exact ⟨start, Nat.le_of_eq (Nat.zero_add _)⟩
  | cons a rest ih =>
    rw [schedule_cons, Option.bind_eq_some_iff] at ends
    obtain ⟨next, moved, later⟩ := ends
    rw [List.forall_mem_cons] at inside
    obtain ⟨still, lower⟩ := kept s a next start inside.1 moved
    obtain ⟨last, bound⟩ := ih still inside.2 later
    refine ⟨last, ?_⟩
    rw [List.length_cons]
    omega

end Protocol

/-- A mutex owned by exactly the thread that is in its critical section. -/
def Owned {Thread : Type} (holds : Thread → Prop) (owner : Option Thread) : Prop :=
  ∀ thread, holds thread ↔ owner = some thread

namespace Owned

variable {Thread : Type} {holds after : Thread → Prop} {owner : Option Thread}

theorem unique (owned : Owned holds owner) {t u : Thread} (first : holds t) (second : holds u) : t = u :=
  Option.some.inj (((owned t).mp first).symm.trans ((owned u).mp second))

theorem congr (owned : Owned holds owner) (same : ∀ t, after t ↔ holds t) : Owned after owner :=
  fun t => (same t).trans (owned t)

theorem acquire (owned : Owned holds none) {t : Thread} (enters : after t)
    (others : ∀ u, u ≠ t → (after u ↔ holds u)) : Owned after (some t) := by
  intro u
  by_cases own : u = t
  · subst own
    exact iff_of_true enters rfl
  · rw [others u own, owned u, Option.some.injEq]
    exact iff_of_false (by simp) (Ne.symm own)

theorem release (owned : Owned holds owner) {t : Thread} (held : holds t) (leaves : ¬after t)
    (others : ∀ u, u ≠ t → (after u ↔ holds u)) : Owned after none := by
  intro u
  refine iff_of_false (fun inside => ?_) (by simp)
  by_cases own : u = t
  · exact leaves (own ▸ inside)
  · exact own (owned.unique ((others u own).mp inside) held)

end Owned
end Foundation
