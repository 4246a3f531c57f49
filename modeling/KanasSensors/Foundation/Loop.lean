import Mathlib.Data.List.Basic

/-! Loops as iteration of a partial step.

A step that returns `none` has left the loop. `run` takes a fuel bound so that it
stays executable; `run_stops` says when the bound was large enough to be invisible.
-/

set_option autoImplicit false

namespace Foundation.Loop

variable {σ : Type}

/-- Repeat a step until it declines, at most `fuel` times. -/
def run (step : σ → Option σ) : Nat → σ → σ
  | 0, s => s
  | fuel + 1, s =>
    match step s with
    | none => s
    | some next => run step fuel next

def visited (step : σ → Option σ) : Nat → σ → List σ
  | 0, _ => []
  | fuel + 1, s =>
    match step s with
    | none => []
    | some next => s :: visited step fuel next

theorem run_of_none {step : σ → Option σ} {s : σ} (left : step s = none) (fuel : Nat) :
    run step fuel s = s := by
  cases fuel with
  | zero => rfl
  | succ fuel => simp only [run, left]

theorem run_of_some {step : σ → Option σ} {s next : σ} (taken : step s = some next) (fuel : Nat) :
    run step (fuel + 1) s = run step fuel next := by
  simp only [run, taken]

theorem visited_of_none {step : σ → Option σ} {s : σ} (left : step s = none) (fuel : Nat) :
    visited step fuel s = [] := by
  cases fuel with
  | zero => rfl
  | succ fuel => simp only [visited, left]

theorem visited_of_some {step : σ → Option σ} {s next : σ} (taken : step s = some next) (fuel : Nat) :
    visited step (fuel + 1) s = s :: visited step fuel next := by
  simp only [visited, taken]

/-- The invariant rule for the states a loop visits, with what it has visited before. -/
theorem visited_invariant {step : σ → Option σ} (inv : List σ → σ → Prop)
    (kept : ∀ past s next, inv past s → step s = some next → inv (past ++ [s]) next)
    (fuel : Nat) (past : List σ) (s : σ) (start : inv past s) {front back : List σ} {t : σ}
    (split : visited step fuel s = front ++ t :: back) : inv (past ++ front) t := by
  induction fuel generalizing past s front with
  | zero => simp [visited] at split
  | succ fuel ih =>
    cases taken : step s with
    | none =>
      rw [visited_of_none taken] at split
      simp at split
    | some next =>
      rw [visited_of_some taken] at split
      cases front with
      | nil =>
        rw [List.nil_append, List.cons.injEq] at split
        rw [List.append_nil, ← split.1]
        exact start
      | cons first front =>
        rw [List.cons_append, List.cons.injEq] at split
        have further := ih (past ++ [s]) next (kept past s next start taken) split.2
        rwa [← split.1, List.append_cons]

section
variable {step : σ → Option σ} {inv : σ → Prop}
  (kept : ∀ s next, inv s → step s = some next → inv next)
include kept

theorem visited_holds (fuel : Nat) (s : σ) (start : inv s) :
    ∀ t ∈ visited step fuel s, inv t ∧ ∃ next, step t = some next := by
  induction fuel generalizing s with
  | zero =>
    intro t member
    cases member
  | succ fuel ih =>
    cases taken : step s with
    | none =>
      rw [visited_of_none taken]
      intro t member
      cases member
    | some next =>
      rw [visited_of_some taken, List.forall_mem_cons]
      exact ⟨⟨start, next, taken⟩, ih next (kept s next start taken)⟩

/-- With a variant that is lowered while the invariant holds, no fuel makes for more
steps than the variant had at the start. -/
theorem visited_length_le (variant : σ → Nat)
    (lowered : ∀ s next, inv s → step s = some next → variant next < variant s)
    (fuel : Nat) (s : σ) (start : inv s) : (visited step fuel s).length ≤ variant s := by
  induction fuel generalizing s with
  | zero => exact Nat.zero_le _
  | succ fuel ih =>
    cases taken : step s with
    | none =>
      rw [visited_of_none taken]
      exact Nat.zero_le _
    | some next =>
      rw [visited_of_some taken, List.length_cons]
      have rest := ih next (kept s next start taken)
      have lower := lowered s next start taken
      omega

end

/-- With a variant that every step lowers, fuel up to the variant is enough: the
loop ends because its own condition failed. -/
theorem run_stops {step : σ → Option σ} (variant : σ → Nat)
    (lowered : ∀ s next, step s = some next → variant next < variant s)
    (fuel : Nat) (s : σ) (enough : variant s ≤ fuel) : step (run step fuel s) = none := by
  induction fuel generalizing s with
  | zero =>
    cases taken : step s with
    | none => exact taken
    | some next =>
      have lower := lowered s next taken
      omega
  | succ fuel ih =>
    cases taken : step s with
    | none => rw [run_of_none taken]; exact taken
    | some next =>
      have lower := lowered s next taken
      rw [run_of_some taken]
      exact ih next (by omega)

end Foundation.Loop
