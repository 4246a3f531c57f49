import Mathlib.Data.List.GetD
import Mathlib.Logic.Function.Basic

/-! Strings as C keeps them: bytes in memory up to the first NUL.

A `CString` is the string itself, and a map from positions to bytes is memory a string may
stand in. `strcmp` reads memory and stops at the first difference, so that it says which
string stands there even where not all of the memory was written.
-/

set_option autoImplicit false

namespace Foundation

structure CString where
  bytes : List UInt8
  noNul : (0 : UInt8) ∉ bytes
  deriving DecidableEq

namespace CString

def length (s : CString) : Nat := s.bytes.length

/-- The byte at a position up to the length, where the NUL is. -/
def byteAt (s : CString) (i : Nat) : UInt8 := s.bytes.getD i 0

def empty : CString := ⟨[], List.not_mem_nil⟩

def append (s t : CString) : CString where
  bytes := s.bytes ++ t.bytes
  noNul := by
    rw [List.mem_append, not_or]
    exact ⟨s.noNul, t.noNul⟩

theorem ext_bytes {s t : CString} (same : s.bytes = t.bytes) : s = t := by
  cases s
  cases t
  cases same
  rfl

@[simp] theorem byteAt_length (s : CString) : s.byteAt s.length = 0 :=
  List.getD_eq_default _ _ (Nat.le_refl _)

theorem byteAt_ne_zero (s : CString) {i : Nat} (inside : i < s.length) : s.byteAt i ≠ 0 := by
  intro zero
  rw [byteAt, List.getD_eq_getElem _ _ inside] at zero
  exact s.noNul (zero ▸ List.getElem_mem inside)

/-- The string stands at the start of the memory, with its NUL. -/
def Stored (memory : Nat → UInt8) (s : CString) : Prop := ∀ i ≤ s.length, memory i = s.byteAt i

theorem Stored.length_le {memory : Nat → UInt8} {s t : CString} (first : Stored memory s)
    (second : Stored memory t) : t.length ≤ s.length := by
  by_contra longer
  have inside : s.length < t.length := by omega
  have ended := first s.length (Nat.le_refl _)
  rw [byteAt_length] at ended
  exact t.byteAt_ne_zero inside ((second s.length (by omega)).symm.trans ended)

theorem Stored.unique {memory : Nat → UInt8} {s t : CString} (first : Stored memory s)
    (second : Stored memory t) : s = t := by
  have same : s.length = t.length := Nat.le_antisymm (second.length_le first) (first.length_le second)
  apply ext_bytes
  apply List.ext_getElem same
  intro i left right
  have here := (first i (Nat.le_of_lt left)).symm.trans (second i (Nat.le_of_lt right))
  rwa [byteAt, byteAt, List.getD_eq_getElem _ _ left, List.getD_eq_getElem _ _ right] at here

/-- `strcmp`, of memory and the bytes of a string: how far apart the first bytes are that
differ, with a NUL behind the string. -/
def strcmp (memory : Nat → UInt8) : List UInt8 → Int
  | [] => (memory 0).toNat
  | byte :: rest =>
    if memory 0 = byte then strcmp (fun i => memory (i + 1)) rest
    else (memory 0).toNat - byte.toNat

theorem strcmp_eq_zero_iff (memory : Nat → UInt8) (s : CString) :
    strcmp memory s.bytes = 0 ↔ Stored memory s := by
  obtain ⟨bytes, noNul⟩ := s
  simp only [Stored, length, byteAt]
  clear noNul
  induction bytes generalizing memory with
  | nil =>
    simp only [strcmp, List.length_nil, Nat.le_zero, forall_eq, List.getD_nil, Int.natCast_eq_zero]
    exact ⟨fun zero => UInt8.toNat_inj.mp zero, fun zero => zero ▸ rfl⟩
  | cons byte rest ih =>
    rw [strcmp]
    split
    · next here =>
      rw [ih]
      constructor
      · intro later i within
        cases i with
        | zero => exact here
        | succ i => exact later i (Nat.le_of_succ_le_succ within)
      · intro whole i within
        exact whole (i + 1) (Nat.succ_le_succ within)
    · next apart =>
      constructor
      · intro same
        exact absurd (UInt8.toNat_inj.mp (by omega)) apart
      · intro whole
        exact absurd (whole 0 (Nat.zero_le _)) apart

/-- The front of a string and its NUL, `size` bytes of it at most, copied to memory. -/
def copyOut (size : Nat) (s : CString) (memory : Nat → UInt8) : Nat → UInt8 :=
  fun i => if i < min size (s.length + 1) then s.byteAt i else memory i

theorem stored_copyOut_iff {size : Nat} {s t : CString} (short : t.length < size)
    (memory : Nat → UInt8) : Stored (copyOut size s memory) t ↔ s = t := by
  constructor
  · intro stored
    by_cases fits : s.length < size
    · have whole : Stored (copyOut size s memory) s := fun i within => if_pos (by omega)
      exact whole.unique stored
    · -- the copy ends without a NUL, and `t` would have its own before that
      have ended := stored t.length (Nat.le_refl _)
      rw [copyOut, if_pos (by omega), byteAt_length] at ended
      exact absurd ended (s.byteAt_ne_zero (by omega))
  · rintro rfl i within
    exact if_pos (by omega)

theorem stored_cleared_iff (memory : Nat → UInt8) (t : CString) :
    Stored (Function.update memory 0 0) t ↔ empty = t := by
  have cleared : Stored (Function.update memory 0 0) empty := by
    intro i within
    rw [Nat.le_zero.mp within, Function.update_self]
    rfl
  constructor
  · exact cleared.unique
  · rintro rfl
    exact cleared

end CString
end Foundation
