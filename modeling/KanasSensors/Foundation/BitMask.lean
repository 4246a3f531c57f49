import Mathlib.Data.List.Basic

/-! Bit masks in a machine word, as C code reads and edits them with `1 << i`.

`test`, `set` and `clear` are the three idioms; every other fact about a mask is
stated through `test`, so that a proof never looks at the word's bits.
-/

set_option autoImplicit false

namespace Foundation.BitMask

variable {w : Nat}

/-- `mask & (1 << i)`, as a truth value. -/
def test (mask : BitVec w) (i : Nat) : Bool := mask &&& (1#w <<< i) != 0#w

/-- `mask | (1 << i)`. -/
def set (mask : BitVec w) (i : Nat) : BitVec w := mask ||| (1#w <<< i)

/-- `mask & ~(1 << i)`. -/
def clear (mask : BitVec w) (i : Nat) : BitVec w := mask &&& ~~~(1#w <<< i)

theorem bit_getLsbD (i j : Nat) : (1#w <<< i).getLsbD j = (decide (j < w) && decide (j = i)) := by
  rw [BitVec.getLsbD_shiftLeft, BitVec.getLsbD_one]
  by_cases inside : j < w
  · have positive : 0 < w := by omega
    by_cases same : j = i
    · simp [same, positive]
    · by_cases below : j < i
      · simp [below, same]
      · have apart : j - i ≠ 0 := by omega
        simp [same, apart]
  · simp [inside]

theorem test_eq_getLsbD (mask : BitVec w) (i : Nat) : test mask i = mask.getLsbD i := by
  have isolated : ∀ j, (mask &&& (1#w <<< i)).getLsbD j = (mask.getLsbD j && decide (j = i)) := by
    intro j
    rw [BitVec.getLsbD_and, bit_getLsbD]
    by_cases inside : j < w
    · simp [inside]
    · simp [BitVec.getLsbD_of_ge mask j (by omega)]
  cases present : mask.getLsbD i with
  | true =>
    have nonzero : mask &&& (1#w <<< i) ≠ 0#w := by
      intro zero
      have bit := isolated i
      rw [zero, present] at bit
      simp at bit
    simpa [test] using nonzero
  | false =>
    have zero : mask &&& (1#w <<< i) = 0#w := by
      apply BitVec.eq_of_getLsbD_eq
      intro j _
      rw [isolated j]
      by_cases same : j = i
      · simp [same, present]
      · simp [same]
    simp [test, zero]

theorem test_of_ge (mask : BitVec w) {i : Nat} (outside : w ≤ i) : test mask i = false := by
  rw [test_eq_getLsbD, BitVec.getLsbD_of_ge mask i outside]

@[simp] theorem test_zero (i : Nat) : test (0#w) i = false := by simp [test_eq_getLsbD]

theorem test_set (mask : BitVec w) {i : Nat} (inside : i < w) (j : Nat) :
    test (set mask i) j = (test mask j || decide (j = i)) := by
  simp only [test_eq_getLsbD, set, BitVec.getLsbD_or, bit_getLsbD]
  by_cases same : j = i
  · simp [same, inside]
  · simp [same]

@[simp] theorem test_clear (mask : BitVec w) (i j : Nat) :
    test (clear mask i) j = (test mask j && !decide (j = i)) := by
  simp only [test_eq_getLsbD, clear, BitVec.getLsbD_and, BitVec.getLsbD_not, bit_getLsbD]
  by_cases bound : j < w
  · by_cases same : j = i
    · simp [same]
    · simp [same, bound]
  · simp [BitVec.getLsbD_of_ge mask j (by omega)]

theorem eq_of_test {mask other : BitVec w} (same : ∀ i, test mask i = test other i) : mask = other := by
  apply BitVec.eq_of_getLsbD_eq
  intro i _
  simpa only [test_eq_getLsbD] using same i

theorem eq_zero_iff (mask : BitVec w) : mask = 0#w ↔ ∀ i, test mask i = false := by
  constructor
  · intro zero i
    rw [zero, test_zero]
  · intro empty
    apply BitVec.eq_of_getLsbD_eq
    intro i _
    simpa [test_eq_getLsbD] using empty i

theorem ne_zero_of_test {mask : BitVec w} {i : Nat} (present : test mask i = true) : mask ≠ 0#w := by
  intro zero
  rw [zero, test_zero] at present
  cases present

def positions (mask : BitVec w) : List Nat := (List.range w).filter (test mask)

theorem mem_positions (mask : BitVec w) (i : Nat) : i ∈ positions mask ↔ test mask i = true := by
  simp only [positions, List.mem_filter, List.mem_range, and_iff_right_iff_imp]
  intro present
  by_contra outside
  rw [test_of_ge mask (by omega)] at present
  cases present

theorem positions_nodup (mask : BitVec w) : (positions mask).Nodup :=
  List.nodup_range.filter _

theorem positions_increasing (mask : BitVec w) : (positions mask).Pairwise (· < ·) :=
  List.pairwise_lt_range.filter _

end Foundation.BitMask
