import KanasSensors.Input.Model

/-! What `openInput` returns, and what it leaves open.

Of each entry the loop passes, it leaves the descriptors and its own variables as they
were; so it reaches the first entry that matches in the state it began in. A device whose
name cannot be read counts as one with the empty name.
-/

set_option autoImplicit false

namespace KanasSensors

open Foundation

def selfName : CString := ⟨[46], by decide⟩
def parentName : CString := ⟨[46, 46], by decide⟩

namespace DirEntry

theorem isDot_iff (de : DirEntry) :
    de.isDot = true ↔ de.d_name = selfName ∨ de.d_name = parentName := by
  obtain ⟨⟨bytes, noNul⟩, -, -, -, -⟩ := de
  simp only [isDot, CString.byteAt, selfName, parentName, dotByte, CString.mk.injEq, Bool.and_eq_true,
    Bool.or_eq_true, beq_iff_eq]
  -- a string of one byte or two is told by them; a third must be the NUL
  rcases bytes with - | ⟨first, - | ⟨second, - | ⟨third, rest⟩⟩⟩
  · simp
  · simp
  · have present : second ≠ 0 := by
      rintro rfl
      exact noNul (by simp)
    simp [present]
  · have present : second ≠ 0 ∧ third ≠ 0 := by
      constructor
      · rintro rfl
        exact noNul (by simp)
      · rintro rfl
        exact noNul (by simp)
    simp [present.1, present.2]

theorem devname_fits (de : DirEntry) : de.devname.length < pathMax ∧ de.d_name.length < pathMax := by
  have fits := de.fits
  have whole : de.devname.length = 11 + de.d_name.length := by
    simp only [CString.length, devname, CString.append, List.length_append]
    rfl
  unfold pathMax
  omega

def reported (de : DirEntry) : CString := de.deviceName.getD CString.empty

/-- Against a name of less than 79 bytes, `strcmp` says what it would say of whole names. -/
theorem strcmp_name_iff (de : DirEntry) {inputName : CString} (short : inputName.length < 79) :
    CString.strcmp de.name inputName.bytes = 0 ↔ de.reported = inputName := by
  rw [CString.strcmp_eq_zero_iff, name, reported]
  cases de.deviceName with
  | none => exact CString.stored_cleared_iff de.stack inputName
  | some device => exact CString.stored_copyOut_iff short de.stack

/-- An entry other than `.` and `..`, whose file opens and passes for the name. -/
def Matches (inputName : CString) (de : DirEntry) : Prop :=
  ¬(de.d_name = selfName ∨ de.d_name = parentName) ∧ de.opens = true ∧ de.reported = inputName

instance (inputName : CString) (de : DirEntry) : Decidable (de.Matches inputName) :=
  inferInstanceAs (Decidable (_ ∧ _))

end DirEntry

theorem exists_first {inputName : CString} {entries : List DirEntry}
    (some_match : ∃ de ∈ entries, de.Matches inputName) :
    ∃ before de after, entries = before ++ de :: after ∧
      (∀ other ∈ before, ¬other.Matches inputName) ∧ de.Matches inputName := by
  induction entries with
  | nil =>
    obtain ⟨de, member, -⟩ := some_match
    cases member
  | cons first rest ih =>
    by_cases found : first.Matches inputName
    · exact ⟨[], first, rest, rfl, fun other member => absurd member List.not_mem_nil, found⟩
    · rw [List.exists_mem_cons_iff, or_iff_right found] at some_match
      obtain ⟨before, de, after, rfl, others, matched⟩ := ih some_match
      exact ⟨first :: before, de, after, rfl, List.forall_mem_cons.mpr ⟨found, others⟩, matched⟩

namespace Lookup

variable (alloc : Allocator) {inputName : CString} (short : inputName.length < 79)
include short

theorem search_finds (s : Lookup) {de : DirEntry} (found : de.Matches inputName)
    (rest : List DirEntry) :
    let fd := alloc.next s.descriptors.inUse
    search alloc inputName (de :: rest) s = ⟨⟨de.d_name, (fd, de.devname) :: s.descriptors⟩, fd⟩ := by
  obtain ⟨named, opens, reported⟩ := found
  have other : ¬de.isDot = true := mt de.isDot_iff.mp named
  have same := (de.strcmp_name_iff short).mpr reported
  have valid : (0 : Int) ≤ (alloc.next s.descriptors.inUse : Int) := Int.natCast_nonneg _
  simp only [search, if_neg other, openFile, opens, if_true, if_pos valid, if_pos same]

theorem search_passes {s : Lookup} (idle : s.fd = -1) {de : DirEntry}
    (other : ¬de.Matches inputName) (rest : List DirEntry) :
    search alloc inputName (de :: rest) s = search alloc inputName rest s := by
  obtain ⟨⟨input_name, descriptors⟩, fd⟩ := s
  simp only at idle
  subst idle
  rw [search]
  split
  · rfl
  · next named =>
    cases opens : de.opens with
    | false => simp [openFile]
    | true =>
      have apart : ¬CString.strcmp de.name inputName.bytes = 0 := by
        intro same
        exact other ⟨mt de.isDot_iff.mpr named, opens, (de.strcmp_name_iff short).mp same⟩
      have valid : (0 : Int) ≤ (alloc.next (Descriptors.inUse descriptors) : Int) :=
        Int.natCast_nonneg _
      simp only [openFile, if_true, if_pos valid, if_neg apart,
        Descriptors.close_last descriptors (alloc.fresh _) de.devname]

theorem search_before {s : Lookup} (idle : s.fd = -1) {before : List DirEntry}
    (others : ∀ de ∈ before, ¬de.Matches inputName) (rest : List DirEntry) :
    search alloc inputName (before ++ rest) s = search alloc inputName rest s := by
  induction before with
  | nil => rfl
  | cons de before ih =>
    rw [List.forall_mem_cons] at others
    rw [List.cons_append, search_passes alloc short idle others.1]
    exact ih others.2

end Lookup

section
variable (alloc : Allocator) {inputName : CString} (short : inputName.length < 79)
include short

theorem openInput_none {entries : List DirEntry} (others : ∀ de ∈ entries, ¬de.Matches inputName)
    (s : InputState) : openInput alloc inputName (some entries) s = (s, -1) := by
  have whole := Lookup.search_before alloc short (s := ⟨{ s with
    descriptors := (alloc.next s.descriptors.inUse, dirname) :: s.descriptors }, -1⟩) rfl others []
  rw [List.append_nil] at whole
  simp only [openInput, whole, Lookup.search, Descriptors.close_last _ (alloc.fresh _)]

theorem openInput_first {before : List DirEntry} (others : ∀ other ∈ before, ¬other.Matches inputName)
    {de : DirEntry} (found : de.Matches inputName) (after : List DirEntry) (s : InputState) :
    ∃ fd : Nat, fd ∉ s.descriptors.inUse ∧
      openInput alloc inputName (some (before ++ de :: after)) s =
        (⟨de.d_name, (fd, de.devname) :: s.descriptors⟩, (fd : Int)) := by
  have whole := Lookup.search_before alloc short (s := ⟨{ s with
    descriptors := (alloc.next s.descriptors.inUse, dirname) :: s.descriptors }, -1⟩) rfl others
    (de :: after)
  rw [Lookup.search_finds alloc short _ found] at whole
  -- the file is opened with the directory open, and left so when that is closed
  have fresh := alloc.fresh
    (Descriptors.inUse ((alloc.next s.descriptors.inUse, dirname) :: s.descriptors))
  have unused := not_or.mp (mt List.mem_cons.mpr fresh)
  have closed := Descriptors.close_second s.descriptors (alloc.fresh _) unused.1 de.devname dirname
  refine ⟨_, unused.2, ?_⟩
  simp only [openInput, whole, closed]

end

/-- Whatever the directory holds and whatever fails, `openInput` finds the first entry that
matches, or none if there is none; it leaves open what it returns, and nothing else. -/
theorem openInput_first_match (alloc : Allocator) (inputName : CString)
    (short : inputName.length < 79) (entries : List DirEntry) (s : InputState) :
    let result := openInput alloc inputName (some entries) s
    (0 ≤ result.2 ↔ ∃ de ∈ entries, de.Matches inputName) ∧
    (∀ before de after, entries = before ++ de :: after →
      (∀ other ∈ before, ¬other.Matches inputName) → de.Matches inputName →
      ∃ fd : Nat, fd ∉ s.descriptors.inUse ∧ result.2 = fd ∧ result.1.input_name = de.d_name ∧
        result.1.descriptors = (fd, de.devname) :: s.descriptors) ∧
    (¬(0 ≤ result.2) → result.2 = -1 ∧ result.1 = s) := by
  intro result
  by_cases some_match : ∃ de ∈ entries, de.Matches inputName
  · have finds : ∀ before de after, entries = before ++ de :: after →
        (∀ other ∈ before, ¬other.Matches inputName) → de.Matches inputName →
        ∃ fd : Nat, fd ∉ s.descriptors.inUse ∧
          result = (⟨de.d_name, (fd, de.devname) :: s.descriptors⟩, (fd : Int)) := by
      rintro before de after rfl others found
      exact openInput_first alloc short others found after s
    obtain ⟨before, de, after, whole, others, found⟩ := exists_first some_match
    obtain ⟨fd, -, returned⟩ := finds before de after whole others found
    have valid : 0 ≤ result.2 := by
      rw [returned]
      exact Int.natCast_nonneg fd
    refine ⟨iff_of_true valid some_match, ?_, fun failed => absurd valid failed⟩
    intro before de after whole others found
    obtain ⟨fd, unused, returned⟩ := finds before de after whole others found
    rw [returned]
    exact ⟨fd, unused, rfl, rfl, rfl⟩
  · have others : ∀ de ∈ entries, ¬de.Matches inputName := fun de member found =>
      some_match ⟨de, member, found⟩
    have returned : result = (s, -1) := openInput_none alloc short others s
    rw [returned]
    have negative : ¬(0 : Int) ≤ -1 := by decide
    refine ⟨iff_of_false negative some_match, ?_, fun _ => ⟨rfl, rfl⟩⟩
    rintro before de after rfl - found
    exact absurd found (others de (List.mem_append_right _ List.mem_cons_self))

/-- `ACC_INPUT_NAME`, which is `accelerometer_sensor`. -/
def accInputName : CString :=
  ⟨[97, 99, 99, 101, 108, 101, 114, 111, 109, 101, 116, 101, 114, 95, 115, 101, 110, 115, 111, 114],
    by decide⟩

theorem openInput_first_match_third :
    let entries : List DirEntry := [⟨selfName, by decide, true, none, fun _ => 1⟩,
      ⟨⟨[48], by decide⟩, by decide, false, some accInputName, fun _ => 1⟩,
      ⟨⟨[49], by decide⟩, by decide, true, some accInputName, fun _ => 1⟩]
    let result := openInput .lowest accInputName (some entries) ⟨.empty, [(0, dirname)]⟩
    ∃ fd : Nat, fd ∉ [0] ∧ result.2 = fd ∧ result.1.input_name = ⟨[49], by decide⟩ ∧
      result.1.descriptors = [(fd, (dirname.append slash).append ⟨[49], by decide⟩), (0, dirname)] :=
  (openInput_first_match .lowest accInputName (by decide) _ ⟨.empty, [(0, dirname)]⟩).2.1
    [_, _] _ [] rfl (by decide) (by decide)

/-- The empty name, and a device whose name cannot be read. -/
theorem openInput_takes_unreadable : ¬∀ inputName : CString, inputName.length < 79 →
    ∀ (entries : List DirEntry) (s : InputState),
      0 ≤ (openInput .lowest inputName (some entries) s).2 ↔ ∃ de ∈ entries,
        ¬(de.d_name = selfName ∨ de.d_name = parentName) ∧ de.opens = true ∧
          de.deviceName = some inputName := by
  intro always
  have unreadable := always .empty (by decide)
    [⟨⟨[48], by decide⟩, by decide, true, none, fun _ => 1⟩] ⟨.empty, []⟩
  obtain ⟨fd, -, returned⟩ := @openInput_first .lowest .empty (by decide) [] (by decide)
    ⟨⟨[48], by decide⟩, by decide, true, none, fun _ => 1⟩ (by decide) [] ⟨.empty, []⟩
  rw [List.nil_append] at returned
  rw [returned] at unreadable
  obtain ⟨de, member, -, -, named⟩ := unreadable.mp (Int.natCast_nonneg fd)
  rw [List.mem_singleton.mp member] at named
  cases named

end KanasSensors
