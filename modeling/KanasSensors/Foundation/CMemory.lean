import Mathlib.Data.List.TakeWhile
import KanasSensors.Foundation.CString

/-! The string functions that write to memory.

A string put behind another one ends what stood there before, however long that was.
-/

set_option autoImplicit false

namespace Foundation.CString

def ofMemory (size : Nat) (memory : Nat → UInt8) : CString where
  bytes := ((List.range size).map memory).takeWhile (· ≠ 0)
  noNul := by
    intro member
    have nonzero := List.mem_takeWhile_imp (p := fun byte : UInt8 => decide (byte ≠ 0)) member
    exact of_decide_eq_true nonzero rfl

def strlen (size : Nat) (memory : Nat → UInt8) : Nat := (ofMemory size memory).length

/-- `strcpy(&memory[start], s)`. -/
def strcpy (memory : Nat → UInt8) (start : Nat) (s : CString) : Nat → UInt8 :=
  fun i => if start ≤ i ∧ i ≤ start + s.length then s.byteAt (i - start) else memory i

def strcat (size : Nat) (memory : Nat → UInt8) (s : CString) : Nat → UInt8 :=
  strcpy memory (strlen size memory) s

def Begins (memory : Nat → UInt8) (s : CString) : Prop := ∀ i < s.length, memory i = s.byteAt i

variable {memory : Nat → UInt8} {s : CString}

theorem Stored.begins (stored : Stored memory s) : Begins memory s :=
  fun i inside => stored i (Nat.le_of_lt inside)

@[simp] theorem length_append (s t : CString) : (s.append t).length = s.length + t.length :=
  List.length_append

theorem byteAt_append_left (t : CString) {i : Nat} (inside : i < s.length) :
    (s.append t).byteAt i = s.byteAt i :=
  List.getD_append _ _ _ _ inside

theorem byteAt_append_right (t : CString) {i : Nat} (behind : s.length ≤ i) :
    (s.append t).byteAt i = t.byteAt (i - s.length) :=
  List.getD_append_right _ _ _ _ behind

theorem stored_strcpy (memory : Nat → UInt8) (s : CString) : Stored (strcpy memory 0 s) s := by
  intro i within
  rw [strcpy, if_pos (by omega), Nat.sub_zero]

theorem Begins.stored_strcpy (begins : Begins memory s) (t : CString) :
    Stored (strcpy memory s.length t) (s.append t) := by
  intro i within
  rw [length_append] at within
  by_cases inside : i < s.length
  · rw [strcpy, if_neg (by omega), byteAt_append_left t inside]
    exact begins i inside
  · rw [strcpy, if_pos (by omega), byteAt_append_right t (by omega)]

theorem Begins.strcpy (begins : Begins memory s) (t : CString) : Begins (strcpy memory s.length t) s := by
  intro i inside
  rw [CString.strcpy, if_neg (by omega)]
  exact begins i inside

theorem Stored.ofMemory (stored : Stored memory s) (size : Nat) (fits : s.length < size) :
    ofMemory size memory = s := by
  obtain ⟨more, rfl⟩ := Nat.exists_eq_add_of_lt fits
  have front : (List.range s.length).map memory = s.bytes := by
    refine List.ext_getElem (by simp [length]) fun i left right => ?_
    simp only [List.getElem_map, List.getElem_range]
    rw [stored i (Nat.le_of_lt right), byteAt, List.getD_eq_getElem _ _ right]
  have ended : memory s.length = 0 := (stored s.length (Nat.le_refl _)).trans s.byteAt_length
  have whole : (List.range (s.length + more + 1)).map memory =
      s.bytes ++ 0 :: (List.range more).map fun i => memory (s.length + (i + 1)) := by
    rw [Nat.add_assoc, List.range_add, List.map_append, front, List.range_succ_eq_map]
    simp [ended, Function.comp_def]
  apply ext_bytes
  have letters : ∀ byte ∈ s.bytes, decide (byte ≠ 0) = true := by
    intro byte member
    refine decide_eq_true ?_
    rintro rfl
    exact s.noNul member
  have tail : (0 :: (List.range more).map fun i => memory (s.length + (i + 1))).takeWhile
      (fun byte => decide (byte ≠ 0)) = [] := rfl
  simp only [CString.ofMemory, whole]
  rw [List.takeWhile_append_of_pos letters, tail, List.append_nil]

theorem Stored.strlen (stored : Stored memory s) (size : Nat) (fits : s.length < size) :
    strlen size memory = s.length :=
  congrArg length (stored.ofMemory size fits)

theorem Stored.strcat (stored : Stored memory s) (size : Nat) (fits : s.length < size) (t : CString) :
    Stored (strcat size memory t) (s.append t) := by
  rw [CString.strcat, stored.strlen size fits]
  exact stored.begins.stored_strcpy t

theorem strcpy_beyond (memory : Nat → UInt8) {start size : Nat} (fits : start + s.length < size) {i : Nat}
    (beyond : size ≤ i) : CString.strcpy memory start s i = memory i := by
  rw [CString.strcpy, if_neg (by omega)]

end Foundation.CString
