import Mathlib.Data.List.Perm.Subperm
import KanasSensors.Foundation.CString

/-! The file descriptors of a process, as `open` and `close` move them.

Which free number `open` gives out is up to the system; it is some number not in use.
-/

set_option autoImplicit false

namespace KanasSensors

open Foundation

structure Allocator where
  next : List Nat → Nat
  fresh : ∀ inUse, next inUse ∉ inUse

theorem exists_unused (inUse : List Nat) : ∃ fd ∈ List.range (inUse.length + 1), fd ∉ inUse := by
  by_contra none_left
  have all : List.range (inUse.length + 1) ⊆ inUse := by
    intro fd member
    by_contra unused
    exact none_left ⟨fd, member, unused⟩
  have short := (List.nodup_range.subperm all).length_le
  rw [List.length_range] at short
  omega

def Allocator.lowest : Allocator where
  next inUse := ((List.range (inUse.length + 1)).find? (· ∉ inUse)).getD 0
  fresh inUse := by
    obtain ⟨unused, member, free⟩ := exists_unused inUse
    cases found : (List.range (inUse.length + 1)).find? (· ∉ inUse) with
    | none => exact absurd (decide_eq_true free) (List.find?_eq_none.mp found unused member)
    | some fd => simpa using List.find?_some found

abbrev Descriptors := List (Nat × CString)

namespace Descriptors

def inUse (table : Descriptors) : List Nat := table.map Prod.fst

def close (table : Descriptors) (fd : Int) : Descriptors :=
  table.filter fun entry => (entry.1 : Int) ≠ fd

theorem close_unused (table : Descriptors) {fd : Nat} (unused : fd ∉ table.inUse) :
    table.close fd = table := by
  apply List.filter_eq_self.mpr
  intro entry member
  have apart : entry.1 ≠ fd := by
    rintro rfl
    exact unused (List.mem_map_of_mem member)
  exact decide_eq_true (by omega)

theorem close_last (table : Descriptors) {fd : Nat} (unused : fd ∉ table.inUse) (path : CString) :
    close ((fd, path) :: table) fd = table := by
  unfold close
  rw [List.filter_cons_of_neg (by simp)]
  exact table.close_unused unused

theorem close_second (table : Descriptors) {first second : Nat} (unused : first ∉ table.inUse)
    (apart : second ≠ first) (path other : CString) :
    close ((second, path) :: (first, other) :: table) first = (second, path) :: table := by
  have kept : decide ((second : Int) ≠ first) = true := decide_eq_true (by omega)
  have behind : close ((second, path) :: (first, other) :: table) first =
      (second, path) :: close ((first, other) :: table) first := List.filter_cons_of_pos (by exact kept)
  rw [behind, close_last table unused other]

end Descriptors
end KanasSensors
