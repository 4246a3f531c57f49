import KanasSensors.Context.Instances
import Mathlib.Data.List.Perm.Basic

/-! What an instance owns and what it writes, from `open_sensors` to `device__close`.

However many instances there are, each descriptor of the process is open once and has one owner,
and an instance writes the attributes of the very device it reads from. As long as no two
instances are on one device, the files of the system hold what the driver keeps of them.
-/

set_option autoImplicit false

namespace KanasSensors

open Foundation

namespace Descriptors

theorem mem_close {table : Descriptors} {fd : Int} {entry : Nat × CString} :
    entry ∈ table.close fd ↔ entry ∈ table ∧ (entry.1 : Int) ≠ fd := by
  simp [close, List.mem_filter]

theorem inUse_close (table : Descriptors) (fd : Int) :
    (table.close fd).inUse = table.inUse.filter fun n : Nat => (n : Int) ≠ fd := by
  simp only [inUse, close, List.filter_map]
  rfl

structure Leaves (table next : Descriptors) (rest : List Nat) : Prop where
  nodup : next.inUse.Nodup
  owned : next.inUse.Perm rest
  kept : ∀ entry ∈ table, entry.1 ∈ rest → entry ∈ next

theorem Leaves.refl {table : Descriptors} {rest : List Nat} (nodup : table.inUse.Nodup)
    (owned : table.inUse.Perm rest) : Leaves table table rest :=
  ⟨nodup, owned, fun _ member _ => member⟩

theorem Leaves.close {table next : Descriptors} {fd : Nat} {rest : List Nat}
    (leaves : Leaves table next (fd :: rest)) : Leaves table (next.close fd) rest := by
  obtain ⟨nodup, owned, kept⟩ := leaves
  have apart : fd ∉ rest := (List.nodup_cons.mp (owned.nodup nodup)).1
  refine ⟨?_, ?_, fun entry member mine => ?_⟩
  · rw [inUse_close]
    exact nodup.filter _
  · rw [inUse_close]
    have same : next.inUse.filter (fun n : Nat => (n : Int) ≠ fd) = next.inUse.erase fd := by
      rw [nodup.erase_eq_filter]
      refine List.filter_congr fun n _ => ?_
      simp only [bne, beq_eq_decide, ne_eq, Int.ofNat_inj, decide_not]
    rw [same]
    have erased := owned.erase fd
    rwa [List.erase_cons_head] at erased
  · refine mem_close.mpr ⟨kept entry member (List.mem_cons_of_mem _ mine), fun same => apart ?_⟩
    rwa [← Int.ofNat_inj.mp same]

theorem Leaves.close_free {table next : Descriptors} {fd : Int} {rest : List Nat}
    (leaves : Leaves table next rest) (free : ∀ n ∈ rest, (n : Int) ≠ fd) : Leaves table (next.close fd) rest := by
  have same : next.close fd = next := by
    refine List.filter_eq_self.mpr fun entry member => decide_eq_true (free entry.1 ?_)
    exact leaves.owned.mem_iff.mp (List.mem_map_of_mem member)
  rwa [same]

theorem writeSysAttribute_eq (alloc : Allocator) (table : Descriptors) (path : CString) (outcome : SysfsOutcome) :
    table.writeSysAttribute alloc path outcome = table := by
  cases outcome with
  | openFailed => rfl
  | _ => exact table.close_last (alloc.fresh _) path

end Descriptors

theorem openInput_cases (alloc : Allocator) (dir : Option (List DirEntry)) (s : InputState) :
    openInput alloc accInputName dir s = (s, -1) ∨
    ∃ (fd : Nat) (name : CString), name.length ≤ 255 ∧ fd ∉ s.descriptors.inUse ∧
      openInput alloc accInputName dir s =
        (⟨name, (fd, (dirname.append slash).append name) :: s.descriptors⟩, (fd : Int)) := by
  have short : accInputName.length < 79 := by decide
  cases dir with
  | none => exact .inl rfl
  | some entries =>
    by_cases found : ∃ de ∈ entries, de.Matches accInputName
    · obtain ⟨before, de, after, rfl, others, matched⟩ := exists_first found
      obtain ⟨fd, fresh, result⟩ := openInput_first alloc short others matched after s
      exact .inr ⟨fd, de.d_name, de.fits, fresh, result⟩
    · exact .inl (openInput_none alloc short (fun de member matched => found ⟨de, member, matched⟩) s)

namespace WakeFds

theorem pipe_leaves (alloc : Allocator) {table : Descriptors} (nodup : table.inUse.Nodup) (made : Bool)
    (held : Int × Int) : Descriptors.Leaves table (pipe alloc table made held).1
      ((pipe alloc table made held).2.fds ++ table.inUse) := by
  cases made with
  | false => exact .refl nodup (List.Perm.refl _)
  | true =>
    have first := alloc.fresh table.inUse
    have second := alloc.fresh (alloc.next table.inUse :: table.inUse)
    refine ⟨?_, ?_, fun entry member _ => ?_⟩
    · exact List.nodup_cons.mpr ⟨second, List.nodup_cons.mpr ⟨first, nodup⟩⟩
    · exact List.Perm.swap _ _ _
    · exact List.mem_cons_of_mem _ (List.mem_cons_of_mem _ member)

end WakeFds

namespace AttributeState

variable (alloc : Allocator) {s : AttributeState} {directory : CString}

theorem write_eq (rooted : s.path.Rooted directory) (w : AttributeWrite) : s.write alloc w =
    ⟨s.path.select w.file, s.descriptors,
      if w.done then Function.update s.sysfs (directory.append w.file.name) w.value else s.sysfs⟩ := by
  rw [write, Descriptors.writeSysAttribute_eq, rooted.path_select]

theorem write_other (rooted : s.path.Rooted directory) (w : AttributeWrite) {other : CString}
    (apart : other ≠ directory) (file : SysfsFile) :
    (s.write alloc w).sysfs (other.append file.name) = s.sysfs (other.append file.name) := by
  have elsewhere : other.append file.name ≠ directory.append w.file.name :=
    fun same => apart (SysfsFile.append_name_inj same).1
  rw [write_eq alloc rooted]
  cases w.done with
  | true => exact Function.update_of_ne elsewhere _ _
  | false => rfl

theorem write_own (rooted : s.path.Rooted directory) (w : AttributeWrite) {files : Sysfs}
    (mirrors : ∀ file : SysfsFile, s.sysfs (directory.append file.name) = files.text file) (file : SysfsFile) :
    (s.write alloc w).sysfs (directory.append file.name) = (files.after w).text file := by
  rw [write_eq alloc rooted, Sysfs.text_after]
  cases w.done with
  | false => simpa using mirrors file
  | true =>
    by_cases same : file = w.file
    · simp [same]
    · have elsewhere : directory.append file.name ≠ directory.append w.file.name :=
        fun together => same (SysfsFile.append_name_inj together).2
      simpa [same, Function.update_of_ne elsewhere] using mirrors file

theorem writes_frame (rooted : s.path.Rooted directory) (ws : List AttributeWrite) :
    (s.writes alloc ws).path.Rooted directory ∧ (s.writes alloc ws).descriptors = s.descriptors := by
  induction ws generalizing s with
  | nil => exact ⟨rooted, rfl⟩
  | cons w rest ih =>
    have next : (s.write alloc w).path.Rooted directory := by
      rw [write_eq alloc rooted]
      exact rooted.select w.file
    obtain ⟨last, descriptors⟩ := ih next
    refine ⟨last, descriptors.trans ?_⟩
    rw [write_eq alloc rooted]

theorem writes_other (rooted : s.path.Rooted directory) (ws : List AttributeWrite) {other : CString}
    (apart : other ≠ directory) (file : SysfsFile) :
    (s.writes alloc ws).sysfs (other.append file.name) = s.sysfs (other.append file.name) := by
  induction ws generalizing s with
  | nil => rfl
  | cons w rest ih =>
    have next : (s.write alloc w).path.Rooted directory := (writes_frame alloc rooted [w]).1
    exact (ih next).trans (write_other alloc rooted w apart file)

theorem writes_own (rooted : s.path.Rooted directory) (ws : List AttributeWrite) {files : Sysfs}
    (mirrors : ∀ file : SysfsFile, s.sysfs (directory.append file.name) = files.text file) (file : SysfsFile) :
    (s.writes alloc ws).sysfs (directory.append file.name) = (ws.foldl Sysfs.after files).text file := by
  induction ws generalizing s files with
  | nil => exact mirrors file
  | cons w rest ih =>
    have next : (s.write alloc w).path.Rooted directory := (writes_frame alloc rooted [w]).1
    exact ih next (write_own alloc rooted w mirrors)

structure Rewrites (directory : CString) (ws : List AttributeWrite) (before after : CString → String) : Prop where
  others : ∀ other ≠ directory, ∀ file : SysfsFile, after (other.append file.name) = before (other.append file.name)
  own : ∀ files : Sysfs, (∀ file : SysfsFile, before (directory.append file.name) = files.text file) →
    ∀ file : SysfsFile, after (directory.append file.name) = (ws.foldl Sysfs.after files).text file

theorem writes_rewrites (rooted : s.path.Rooted directory) (ws : List AttributeWrite) :
    Rewrites directory ws s.sysfs (s.writes alloc ws).sysfs :=
  ⟨fun _ apart => writes_other alloc rooted ws apart, fun _ mirrors => writes_own alloc rooted ws mirrors⟩

end AttributeState

namespace Accelerometer

variable {F : Type} [FloatArith F]

theorem readEvents_files (a : Accelerometer F) (count : Int) (data_fd : SysRead InputEvent) :
    (a.readEvents count data_fd).1.files = a.files := by
  by_cases reads : a.Reads count data_fd
  · obtain ⟨ring, -, result⟩ := readEvents_ok reads
    rw [result]
    exact (a.run_untouched (a.passed count data_fd)).files
  · obtain ⟨⟨ring, -, unchanged⟩, -⟩ := readEvents_not_ok reads
    rw [unchanged]

end Accelerometer

namespace SensorsPollContext

variable {F : Type} [FloatArith F]

theorem after_files (c : SensorsPollContext (Accelerometer F)) (call : DeviceCall) :
    (c.after call).acc.files = (c.writes call).foldl Sysfs.after c.acc.files := by
  cases call with
  | setDelay handle ns outcome =>
    have acc := c.setDelay_acc handle ns outcome
    exact (congrArg Accelerometer.files acc).trans (c.acc.setDelay_files handle ns outcome)
  | batch handle flags period_ns timeout outcome =>
    have acc := c.batch_acc handle flags period_ns timeout outcome
    exact (congrArg Accelerometer.files acc).trans (c.acc.batch_files handle flags period_ns timeout outcome)
  | other call =>
    cases call with
    | activate handle enabled outcome wrote =>
      have files := c.acc.setEnable_files handle enabled outcome
      obtain ⟨unknown, other⟩ | ⟨sensor, rfl, -⟩ := Accelerometer.enableFile_cases handle
      · have refused : c.activate Accelerometer.base handle enabled outcome wrote = none := by
          rw [activate, handleToDriver_unknown other]
          rfl
        simp only [after, afterCall, refused, writes, Accelerometer.setEnableWrites, unknown]
        rfl
      · cases sensor <;> exact files
    | flush handle =>
      let kept (next : SensorsPollContext (Accelerometer F)) := next.acc.files = c.acc.files
      refine settled_rule (P := kept) rfl fun next err done => ?_
      rcases flush_frame done with rfl | rfl
      · rfl
      · obtain ⟨mFlushed, same⟩ := c.acc.flush_frame handle
        exact congrArg (·.files) same
    | pollEvents count rounds =>
      exact PollState.pollEvents_invariant Accelerometer.base (fun acc => acc.files = c.acc.files)
        (fun acc count fd same => (acc.readEvents_files count fd).trans same) (.start c count) rounds rfl

end SensorsPollContext

namespace SensorsInstance

variable {F : Type}

structure Sound (table : Descriptors) (inst : SensorsInstance F) : Prop where
  rooted : inst.path.Rooted inst.directory
  reads : 0 ≤ inst.data_fd → (inst.data_fd.toNat, (dirname.append slash).append inst.input_name) ∈ table

theorem mem_fds {inst : SensorsInstance F} (valid : 0 ≤ inst.data_fd) : inst.data_fd.toNat ∈ inst.fds := by
  rw [fds, if_pos valid]
  exact List.mem_append_left _ List.mem_cons_self

/-- What is in `wakeFds` after a `pipe` that failed is no descriptor of anyone else. -/
def Harmless (table : Descriptors) (inst : SensorsInstance F) : Prop :=
  match inst.wakeFds with
  | .created _ _ => True
  | .failed read write => ∀ fd ∈ table.inUse, (fd : Int) ≠ inst.data_fd → (fd : Int) ≠ read ∧ (fd : Int) ≠ write

theorem closes {table : Descriptors} {inst : SensorsInstance F} {rest : List Nat}
    (leaves : Descriptors.Leaves table table (inst.fds ++ rest)) (harmless : inst.Harmless table) :
    Descriptors.Leaves table
      (inst.wakeFds.close (if 0 ≤ inst.data_fd then table.close inst.data_fd else table)) rest := by
  have first : Descriptors.Leaves table (if 0 ≤ inst.data_fd then table.close inst.data_fd else table)
      (inst.wakeFds.fds ++ rest) := by
    unfold fds at leaves
    split at leaves
    · next valid =>
      have closed := leaves.close
      rw [Int.toNat_of_nonneg valid] at closed
      rwa [if_pos valid]
    · next invalid => rwa [if_neg invalid]
  unfold Harmless at harmless
  cases wake : inst.wakeFds with
  | created read write =>
    rw [wake] at first
    exact first.close.close
  | failed read write =>
    rw [wake] at first harmless
    have free : ∀ n ∈ rest, (n : Int) ≠ read ∧ (n : Int) ≠ write := by
      intro n member
      refine harmless n (leaves.owned.mem_iff.mpr (List.mem_append_right _ member)) fun same => ?_
      -- the rest has none of the instance's own
      have apart := (List.nodup_append.mp (leaves.owned.nodup leaves.nodup)).2.2
      refine apart n ?_ n member rfl
      simp [fds, ← same]
    exact (first.close_free fun n member => (free n member).1).close_free fun n member => (free n member).2

end SensorsInstance
end KanasSensors
