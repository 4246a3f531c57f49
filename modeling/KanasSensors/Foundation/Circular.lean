import Mathlib.Data.List.Basic
import Mathlib.Data.Set.BooleanAlgebra
import Mathlib.Order.CompletePartialOrder
import Mathlib.Order.Interval.Set.Basic

/-! A ring of `n` cells kept in a doubled buffer of `2 * n` cells.

Cells `0 .. n` are the ring. A batch may be laid down past cell `n`; what lies
there is then copied back to the start. `window_lay` says that this is the same
as appending the batch to the elements the ring already holds.
-/

set_option autoImplicit false

namespace Foundation.Circular

variable {α : Type}

def wrap (n j : Nat) : Nat := if j < n then j else j - n

def window (cells : Nat → α) (n start len : Nat) : List α :=
  (List.range len).map fun i => cells (wrap n (start + i))

def write (cells : Nat → α) (position : Nat) (values : List α) : Nat → α :=
  fun j => if position ≤ j then (values[j - position]?).getD (cells j) else cells j

/-- `memcpy` between two ranges of one buffer. -/
def copy (cells : Nat → α) (target source len : Nat) : Nat → α :=
  fun j => if target ≤ j ∧ j < target + len then cells (source + (j - target)) else cells j

/-- Lay a batch down and copy back what passed the end of the ring. -/
def lay (cells : Nat → α) (n head : Nat) (values : List α) : Nat → α :=
  let written := write cells head values
  if n < head + values.length then copy written 0 n (head + values.length - n) else written

/-- Where the head of a ring may rest for a cursor and a number of held elements:
the element count modulo `n`, with both `0` and `n` standing for the seam. -/
def HeadAt (n cursor held head : Nat) : Prop :=
  head ≤ n ∧ (head = cursor + held ∨ head + n = cursor + held ∨ head = cursor + held + n)

def occupied (n cursor held : Nat) : Set Nat := {cell | ∃ i < held, wrap n (cursor + i) = cell}

@[simp] theorem window_length (cells : Nat → α) (n start len : Nat) :
    (window cells n start len).length = len := by
  simp [window]

theorem window_getElem (cells : Nat → α) (n start len i : Nat)
    (inside : i < (window cells n start len).length) :
    (window cells n start len)[i] = cells (wrap n (start + i)) := by
  simp [window]

@[simp] theorem window_zero (cells : Nat → α) (n start : Nat) : window cells n start 0 = [] := rfl

theorem wrap_succ (n start i : Nat) (small : start < n) (inside : i < n) :
    wrap n (start + (i + 1)) = wrap n ((if n ≤ start + 1 then 0 else start + 1) + i) := by
  unfold wrap
  split_ifs <;> omega

theorem window_succ (cells : Nat → α) (n start len : Nat) (small : start < n) (fits : len < n) :
    window cells n start (len + 1) =
      cells start :: window cells n (if n ≤ start + 1 then 0 else start + 1) len := by
  simp only [window, List.range_succ_eq_map, List.map_cons, List.map_map, Nat.add_zero]
  congr 1
  · simp [wrap, small]
  · apply List.map_congr_left
    intro i member
    have inside := List.mem_range.mp member
    exact congrArg cells (wrap_succ n start i small (by omega))

theorem write_of_lt (cells : Nat → α) (position : Nat) (values : List α) {j : Nat}
    (before : j < position) : write cells position values j = cells j := by
  rw [write, if_neg (by omega)]

theorem write_of_ge (cells : Nat → α) (position : Nat) (values : List α) {j : Nat}
    (after : position + values.length ≤ j) : write cells position values j = cells j := by
  rw [write, if_pos (by omega), List.getElem?_eq_none (by omega), Option.getD_none]

theorem write_inside (cells : Nat → α) (position : Nat) (values : List α) {i : Nat}
    (inside : i < values.length) : write cells position values (position + i) = values[i] := by
  rw [write, if_pos (by omega), Nat.add_sub_cancel_left, List.getElem?_eq_getElem inside,
    Option.getD_some]

theorem write_outside (cells : Nat → α) (position : Nat) (values : List α) {j : Nat}
    (outside : j ∉ Set.Ico position (position + values.length)) :
    write cells position values j = cells j := by
  by_cases before : j < position
  · exact write_of_lt cells position values before
  · apply write_of_ge
    rw [Set.mem_Ico] at outside
    omega

theorem lay_outside (cells : Nat → α) (n head : Nat) (values : List α) {j : Nat}
    (ahead : j ∉ Set.Ico head (head + values.length))
    (back : j ∉ Set.Ico 0 (head + values.length - n)) : lay cells n head values j = cells j := by
  have kept := write_outside cells head values ahead
  unfold lay
  split_ifs with past
  · rw [Set.mem_Ico] at back
    rw [copy, if_neg (by omega), kept]
  · exact kept

theorem HeadAt.ahead_free {n cursor held head free : Nat} (small : cursor < n)
    (fits : held + free ≤ n) (rest : HeadAt n cursor held head) :
    Disjoint (Set.Ico head (head + free)) (occupied n cursor held) := by
  obtain ⟨bounded, position⟩ := rest
  apply Set.disjoint_left.mpr
  rintro cell ⟨from_head, to_end⟩ ⟨i, inside, rfl⟩
  unfold wrap at from_head to_end
  split_ifs at from_head to_end <;> omega

theorem HeadAt.back_free {n cursor held head k : Nat} (fits : held + k ≤ n)
    (rest : HeadAt n cursor held head) :
    Disjoint (Set.Ico 0 (head + k - n)) (occupied n cursor held) := by
  obtain ⟨bounded, position⟩ := rest
  apply Set.disjoint_left.mpr
  rintro cell ⟨-, to_end⟩ ⟨i, inside, rfl⟩
  unfold wrap at to_end
  split_ifs at to_end <;> omega

theorem write_held (cells : Nat → α) (n cursor held head : Nat) (values : List α)
    (small : cursor < n) (fits : held + values.length ≤ n) (rest : HeadAt n cursor held head)
    {i : Nat} (inside : i < held) :
    write cells head values (wrap n (cursor + i)) = cells (wrap n (cursor + i)) :=
  write_outside cells head values
    (Set.disjoint_right.mp (rest.ahead_free small fits) ⟨i, inside, rfl⟩)

theorem window_write_held (cells : Nat → α) (n cursor held head : Nat) (values : List α)
    (small : cursor < n) (fits : held + values.length ≤ n) (rest : HeadAt n cursor held head) :
    window (write cells head values) n cursor held = window cells n cursor held := by
  apply List.map_congr_left
  intro i member
  exact write_held cells n cursor held head values small fits rest (List.mem_range.mp member)

/-- After a batch is laid down, ring position `cursor + i` shows element `i` of the
old window followed by the batch. -/
theorem lay_held (cells : Nat → α) (n cursor held head : Nat) (values : List α)
    (small : cursor < n) (fits : held + values.length ≤ n) (rest : HeadAt n cursor held head)
    {i : Nat} (inside : i < held) :
    lay cells n head values (wrap n (cursor + i)) = cells (wrap n (cursor + i)) :=
  lay_outside cells n head values
    (Set.disjoint_right.mp (rest.ahead_free small fits) ⟨i, inside, rfl⟩)
    (Set.disjoint_right.mp (rest.back_free fits) ⟨i, inside, rfl⟩)

theorem lay_new (cells : Nat → α) (n cursor held head : Nat) (values : List α)
    (small : cursor < n) (fits : held + values.length ≤ n) (rest : HeadAt n cursor held head)
    {i : Nat} (inside : i < values.length) :
    lay cells n head values (wrap n (cursor + (held + i))) = values[i] := by
  obtain ⟨bounded, position⟩ := rest
  unfold lay
  by_cases past : n < head + values.length
  · simp only [if_pos past, copy, Nat.zero_le, true_and, Nat.sub_zero]
    -- past the seam the element is read through the copy, before it where it was written
    by_cases wrapped : wrap n (cursor + (held + i)) < 0 + (head + values.length - n)
    · have source : n + wrap n (cursor + (held + i)) = head + i := by
        unfold wrap at wrapped ⊢
        split_ifs at wrapped ⊢ <;> omega
      rw [if_pos wrapped, source, write_inside cells head values inside]
    · have target : wrap n (cursor + (held + i)) = head + i := by
        unfold wrap at wrapped ⊢
        split_ifs at wrapped ⊢ <;> omega
      rw [if_neg wrapped, target, write_inside cells head values inside]
  · have target : wrap n (cursor + (held + i)) = head + i := by
      unfold wrap
      split_ifs <;> omega
    simp only [if_neg past, target, write_inside cells head values inside]

/-- Laying a batch down is appending it to the elements the ring holds. -/
theorem window_lay (cells : Nat → α) (n cursor held head : Nat) (values : List α)
    (small : cursor < n) (fits : held + values.length ≤ n) (rest : HeadAt n cursor held head) :
    window (lay cells n head values) n cursor (held + values.length) =
      window cells n cursor held ++ values := by
  apply List.ext_getElem
  · simp
  · intro i left right
    rw [window_getElem]
    by_cases old : i < held
    · rw [lay_held cells n cursor held head values small fits rest old,
        List.getElem_append_left (by simpa using old), window_getElem]
    · have inside : i - held < values.length := by simp at left; omega
      have split : i = held + (i - held) := by omega
      rw [List.getElem_append_right (by simpa using Nat.le_of_not_lt old)]
      simp only [window_length]
      rw [← lay_new cells n cursor held head values small fits rest inside, ← split]

theorem HeadAt.advance {n cursor held head k : Nat} (small : cursor < n) (fits : held + k ≤ n)
    (rest : HeadAt n cursor held head) :
    HeadAt n cursor (held + k) (if n < head + k then head + k - n else head + k) := by
  obtain ⟨bounded, position⟩ := rest
  unfold HeadAt
  split_ifs <;> omega

theorem HeadAt.take {n cursor held head : Nat} (small : cursor < n) (fits : held < n)
    (rest : HeadAt n cursor (held + 1) head) :
    HeadAt n (if n ≤ cursor + 1 then 0 else cursor + 1) held head := by
  obtain ⟨bounded, position⟩ := rest
  unfold HeadAt
  split_ifs <;> omega

end Foundation.Circular
