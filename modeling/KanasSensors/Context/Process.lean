import Mathlib.Data.List.Nodup
import KanasSensors.Context.Lifecycle

/-! Every run of a process with instances of the device: who owns which descriptor, and what the
attribute files hold, which nothing else writes.
-/

set_option autoImplicit false

namespace KanasSensors

open Foundation

/-- The handle is one of a sensor, where the device uses the index without a test. -/
def DeviceCall.InRange : DeviceCall → Prop
  | .setDelay handle _ _ | .other (.activate handle _ _ _) => ∃ sensor : Sensor, handle = sensor.handle
  | _ => True

namespace HalProcess

variable {F : Type} [FloatArith F] {alloc : Allocator} {p : HalProcess F}

def start (table : Descriptors) (sysfs : CString → String) : HalProcess F := ⟨table, sysfs, [], table.inUse⟩

/-- The rest of the process closes what it has opened. -/
def Sane (p : HalProcess F) : HalAct → Prop
  | .deviceCall _ call => call.InRange
  | .deviceClose k _ => ∀ inst ∈ p.instances[k]?, inst.Harmless p.descriptors
  | .otherClose fd => fd ∈ p.others
  | _ => True

structure Accounted (p : HalProcess F) : Prop where
  nodup : p.descriptors.inUse.Nodup
  owners : p.descriptors.inUse.Perm (p.others ++ p.instances.flatMap SensorsInstance.fds)
  sound : ∀ inst ∈ p.instances, inst.Sound p.descriptors

/-- No two instances are on one device, and no two without one. -/
def Separate (p : HalProcess F) : Prop := (p.instances.map SensorsInstance.directory).Nodup

/-- The attribute files hold what the driver keeps of them. -/
def Mirrored (p : HalProcess F) : Prop :=
  ∀ inst ∈ p.instances, ∀ file : SysfsFile,
    p.sysfs (inst.directory.append file.name) = inst.ctx.acc.files.text file

omit [FloatArith F] in
theorem attributes_text {path : AttributePath} {directory : CString} (rooted : path.Rooted directory)
    (file : SysfsFile) : p.sysfs (directory.append file.name) = (p.attributes path).text file := by
  rw [← rooted.path_select]
  cases file <;> rfl

structure Opens (p next : HalProcess F) (inst : SensorsInstance F) : Prop where
  frame : next = { p with descriptors := next.descriptors, instances := inst :: p.instances }
  nodup : next.descriptors.inUse.Nodup
  owned : next.descriptors.inUse.Perm (inst.fds ++ p.descriptors.inUse)
  kept : ∀ entry ∈ p.descriptors, entry ∈ next.descriptors
  sound : inst.Sound next.descriptors
  mirrored : ∀ file : SysfsFile, p.sysfs (inst.directory.append file.name) = inst.ctx.acc.files.text file

structure Found (table : Descriptors) (input : InputState) (data_fd : Int) : Prop where
  nodup : input.descriptors.inUse.Nodup
  owned : input.descriptors.inUse = (if 0 ≤ data_fd then [data_fd.toNat] else []) ++ table.inUse
  kept : ∀ entry ∈ table, entry ∈ input.descriptors
  fits : 0 ≤ data_fd → input.input_name.length ≤ 255
  reads : 0 ≤ data_fd → (data_fd.toNat, (dirname.append slash).append input.input_name) ∈ input.descriptors

theorem openInput_found {table : Descriptors} (nodup : table.inUse.Nodup) (dir : Option (List DirEntry))
    (input_name : CString) : let result := openInput alloc accInputName dir ⟨input_name, table⟩
    Found table result.1 result.2 := by
  obtain nothing | ⟨fd, name, fits, fresh, found⟩ := openInput_cases alloc dir ⟨input_name, table⟩
  · have invalid : ¬(0 : Int) ≤ -1 := by decide
    rw [nothing]
    exact ⟨nodup, rfl, fun _ member => member, fun valid => absurd valid invalid, fun valid => absurd valid invalid⟩
  · have valid : (0 : Int) ≤ fd := Int.natCast_nonneg fd
    rw [found]
    refine ⟨List.nodup_cons.mpr ⟨fresh, nodup⟩, ?_, fun _ member => List.mem_cons_of_mem _ member, fun _ => fits,
      fun _ => List.mem_cons_self⟩
    rw [if_pos valid]
    rfl

theorem construct_opens {input : InputState} {data_fd : Int} (found : Found p.descriptors input data_fd)
    (memory : InstanceMemory) (piped : Bool) : ∃ inst, p.Opens (p.construct alloc memory piped input data_fd) inst := by
  have rooted := AttributePath.create_rooted memory.input_sysfs_path found.fits
  have leaves := WakeFds.pipe_leaves alloc found.nodup piped memory.wakeFds
  unfold construct
  generalize WakeFds.pipe alloc input.descriptors piped memory.wakeFds = piping at leaves ⊢
  obtain ⟨descriptors, wakeFds⟩ := piping
  obtain ⟨nodup, owned, kept⟩ := leaves
  have still : ∀ entry ∈ input.descriptors, entry ∈ descriptors := fun entry member =>
    kept entry member (List.mem_append_right _ (List.mem_map_of_mem member))
  let path := AttributePath.create memory.input_sysfs_path data_fd input.input_name
  refine ⟨⟨.create (.create memory.uninitialised (p.attributes path)), input.input_name, data_fd, path, wakeFds⟩,
    ⟨rfl, nodup, owned.trans ?_, ?_, ?_, ?_⟩⟩
  · rw [found.owned, SensorsInstance.fds, List.append_assoc]
    exact List.perm_append_comm_assoc _ _ _
  · exact fun entry member => still entry (found.kept entry member)
  · exact ⟨rooted, fun valid => still _ (found.reads valid)⟩
  · exact attributes_text rooted

theorem openSensors_opens (alloc : Allocator) (nodup : p.descriptors.inUse.Nodup) (memory : InstanceMemory)
    (dir : Option (List DirEntry)) (piped : Bool) :
    ∃ inst, p.Opens (p.openSensors alloc memory dir piped) inst :=
  construct_opens (openInput_found nodup dir memory.input_name) memory piped

omit [FloatArith F] in
theorem perm_instance {k : Nat} {inst : SensorsInstance F} (found : p.instances[k]? = some inst) :
    p.instances.Perm (inst :: p.instances.eraseIdx k) ∧
      ∀ other, (p.instances.set k other).Perm (other :: p.instances.eraseIdx k) := by
  obtain ⟨bound, rfl⟩ := List.getElem?_eq_some_iff.mp found
  exact ⟨(List.getElem_cons_eraseIdx_perm bound).symm, List.set_perm_cons_eraseIdx bound⟩

theorem deviceCall_eq (alloc : Allocator) {k : Nat} {inst : SensorsInstance F} (found : p.instances[k]? = some inst)
    (sound : inst.Sound p.descriptors) (call : DeviceCall) :
    ∃ (path : AttributePath) (sysfs : CString → String), path.Rooted inst.directory ∧
      AttributeState.Rewrites inst.directory (inst.ctx.writes call) p.sysfs sysfs ∧
      p.deviceCall alloc k call =
        { p with sysfs, instances := p.instances.set k { inst with ctx := inst.ctx.after call, path } } := by
  let s : AttributeState := ⟨inst.path, p.descriptors, p.sysfs⟩
  obtain ⟨rooted, descriptors⟩ := AttributeState.writes_frame alloc (s := s) sound.rooted
    (inst.ctx.writes call)
  have rewrites := AttributeState.writes_rewrites alloc (s := s) sound.rooted (inst.ctx.writes call)
  refine ⟨_, _, rooted, rewrites, ?_⟩
  simp only [deviceCall, found, s] at descriptors ⊢
  rw [descriptors]

omit [FloatArith F] in
theorem deviceClose_eq (alloc : Allocator) {k : Nat} {inst : SensorsInstance F} (found : p.instances[k]? = some inst)
    (sound : inst.Sound p.descriptors) (outcome : Sensor → SysfsOutcome) :
    ∃ sysfs : CString → String,
      AttributeState.Rewrites inst.directory (inst.ctx.acc.destroyWrites outcome) p.sysfs sysfs ∧
      p.deviceClose alloc k outcome = { p with
        descriptors := inst.wakeFds.close
          (if 0 ≤ inst.data_fd then p.descriptors.close inst.data_fd else p.descriptors)
        sysfs
        instances := p.instances.eraseIdx k } := by
  let s : AttributeState := ⟨inst.path, p.descriptors, p.sysfs⟩
  obtain ⟨-, descriptors⟩ := AttributeState.writes_frame alloc (s := s) sound.rooted
    (inst.ctx.acc.destroyWrites outcome)
  have rewrites := AttributeState.writes_rewrites alloc (s := s) sound.rooted
    (inst.ctx.acc.destroyWrites outcome)
  refine ⟨_, rewrites, ?_⟩
  simp only [deviceClose, found, s] at descriptors ⊢
  rw [descriptors]

omit [FloatArith F] in
theorem Accounted.openSensors {next : HalProcess F} {inst : SensorsInstance F} (accounted : p.Accounted)
    (opens : p.Opens next inst) : next.Accounted := by
  obtain ⟨frame, nodup, owned, kept, sound, -⟩ := opens
  rw [frame]
  refine ⟨nodup, owned.trans ?_, List.forall_mem_cons.mpr ⟨sound, fun other member => ?_⟩⟩
  · exact (accounted.owners.append_left _).trans (List.perm_append_comm_assoc _ _ _)
  · obtain ⟨rooted, reads⟩ := accounted.sound other member
    exact ⟨rooted, fun valid => kept _ (reads valid)⟩

theorem Accounted.deviceCall (accounted : p.Accounted) (k : Nat) (call : DeviceCall) :
    (p.deviceCall alloc k call).Accounted := by
  cases found : p.instances[k]? with
  | none => simpa only [HalProcess.deviceCall, found] using accounted
  | some inst =>
    have sound := accounted.sound inst (List.mem_of_getElem? found)
    obtain ⟨path, sysfs, rooted, -, called⟩ := deviceCall_eq alloc found sound call
    obtain ⟨whole, changed⟩ := perm_instance found
    have fds := (changed { inst with ctx := inst.ctx.after call, path }).flatMap_right SensorsInstance.fds
    rw [called]
    refine ⟨accounted.nodup, accounted.owners.trans (List.Perm.append_left _ ?_), fun other member => ?_⟩
    · exact (whole.flatMap_right SensorsInstance.fds).trans fds.symm
    · rcases List.mem_or_eq_of_mem_set member with member | rfl
      · exact accounted.sound other member
      · exact ⟨rooted, sound.reads⟩

omit [FloatArith F] in
theorem Accounted.deviceClose (accounted : p.Accounted) {k : Nat}
    (harmless : ∀ inst ∈ p.instances[k]?, inst.Harmless p.descriptors) (outcome : Sensor → SysfsOutcome) :
    (p.deviceClose alloc k outcome).Accounted := by
  cases found : p.instances[k]? with
  | none => simpa only [HalProcess.deviceClose, found] using accounted
  | some inst =>
    have sound := accounted.sound inst (List.mem_of_getElem? found)
    obtain ⟨sysfs, -, closed⟩ := deviceClose_eq alloc found sound outcome
    have whole := (perm_instance found).1
    have fds := whole.flatMap_right SensorsInstance.fds
    have owned : p.descriptors.inUse.Perm
        (inst.fds ++ (p.others ++ (p.instances.eraseIdx k).flatMap SensorsInstance.fds)) :=
      accounted.owners.trans ((fds.append_left _).trans (List.perm_append_comm_assoc _ _ _))
    obtain ⟨nodup, owners, kept⟩ :=
      SensorsInstance.closes (.refl accounted.nodup owned) (harmless inst (by rw [found]; rfl))
    rw [closed]
    refine ⟨nodup, owners, fun other member => ?_⟩
    obtain ⟨rooted, reads⟩ := accounted.sound other (whole.mem_iff.mpr (List.mem_cons_of_mem _ member))
    refine ⟨rooted, fun valid => kept _ (reads valid) ?_⟩
    -- its descriptor is one of those that are left
    exact List.mem_append_right _ (List.mem_flatMap.mpr ⟨other, member, other.mem_fds valid⟩)

omit [FloatArith F] in
theorem Accounted.otherClose (accounted : p.Accounted) {fd : Nat} (mine : fd ∈ p.others) :
    HalProcess.Accounted { p with descriptors := p.descriptors.close fd, others := p.others.erase fd } := by
  have owned : p.descriptors.inUse.Perm (fd :: (p.others.erase fd ++ p.instances.flatMap SensorsInstance.fds)) :=
    accounted.owners.trans ((List.perm_cons_erase mine).append_right _)
  obtain ⟨nodup, owners, kept⟩ := (Descriptors.Leaves.refl accounted.nodup owned).close
  refine ⟨nodup, owners, fun other member => ?_⟩
  obtain ⟨rooted, reads⟩ := accounted.sound other member
  refine ⟨rooted, fun valid => kept _ (reads valid) ?_⟩
  exact List.mem_append_right _ (List.mem_flatMap.mpr ⟨other, member, other.mem_fds valid⟩)

theorem Accounted.step (accounted : p.Accounted) {a : HalAct} (sane : p.Sane a) : (p.act alloc a).Accounted := by
  cases a with
  | openSensors memory dir piped =>
    obtain ⟨inst, opens⟩ := openSensors_opens alloc accounted.nodup memory dir piped
    exact accounted.openSensors opens
  | deviceCall k call => exact accounted.deviceCall k call
  | deviceClose k outcome => exact accounted.deviceClose sane outcome
  | otherOpen path =>
    refine ⟨List.nodup_cons.mpr ⟨alloc.fresh _, accounted.nodup⟩, accounted.owners.cons _, fun inst member => ?_⟩
    obtain ⟨rooted, reads⟩ := accounted.sound inst member
    exact ⟨rooted, fun valid => List.mem_cons_of_mem _ (reads valid)⟩
  | otherClose fd => exact accounted.otherClose sane

omit [FloatArith F] in
theorem Separate.apart (separate : p.Separate) {k : Nat} {inst other : SensorsInstance F}
    (found : p.instances[k]? = some inst) (member : other ∈ p.instances.eraseIdx k) :
    other.directory ≠ inst.directory := by
  have whole := (perm_instance found).1.map SensorsInstance.directory
  have single := (List.nodup_cons.mp (whole.nodup separate)).1
  intro same
  exact single (same ▸ List.mem_map_of_mem member)

theorem Mirrored.deviceCall (accounted : p.Accounted) (separate : p.Separate) (mirrored : p.Mirrored) (k : Nat)
    (call : DeviceCall) : (p.deviceCall alloc k call).Mirrored := by
  cases found : p.instances[k]? with
  | none => simpa only [HalProcess.deviceCall, found] using mirrored
  | some inst =>
    have own := List.mem_of_getElem? found
    obtain ⟨path, sysfs, -, rewrites, called⟩ := deviceCall_eq alloc found (accounted.sound inst own) call
    obtain ⟨whole, changed⟩ := perm_instance found
    rw [called]
    intro other member file
    rcases List.mem_cons.mp ((changed _).mem_iff.mp member) with rfl | member
    · exact (rewrites.own _ (mirrored inst own) file).trans (congrArg (·.text file) (inst.ctx.after_files call)).symm
    · have still := mirrored other (whole.mem_iff.mpr (List.mem_cons_of_mem _ member)) file
      exact (rewrites.others _ (separate.apart found member) file).trans still

omit [FloatArith F] in
theorem Mirrored.deviceClose (accounted : p.Accounted) (separate : p.Separate) (mirrored : p.Mirrored) (k : Nat)
    (outcome : Sensor → SysfsOutcome) : (p.deviceClose alloc k outcome).Mirrored := by
  cases found : p.instances[k]? with
  | none => simpa only [HalProcess.deviceClose, found] using mirrored
  | some inst =>
    have sound := accounted.sound inst (List.mem_of_getElem? found)
    obtain ⟨sysfs, rewrites, closed⟩ := deviceClose_eq alloc found sound outcome
    have whole := (perm_instance found).1
    rw [closed]
    intro other member file
    have still := mirrored other (whole.mem_iff.mpr (List.mem_cons_of_mem _ member)) file
    exact (rewrites.others _ (separate.apart found member) file).trans still

theorem Mirrored.step (accounted : p.Accounted) (separate : p.Separate) (mirrored : p.Mirrored) (a : HalAct) :
    (p.act alloc a).Mirrored := by
  cases a with
  | openSensors memory dir piped =>
    obtain ⟨inst, opens⟩ := openSensors_opens alloc accounted.nodup memory dir piped
    change (p.openSensors alloc memory dir piped).Mirrored
    rw [opens.frame]
    exact List.forall_mem_cons.mpr ⟨opens.mirrored, mirrored⟩
  | deviceCall k call => exact mirrored.deviceCall accounted separate k call
  | deviceClose k outcome => exact mirrored.deviceClose accounted separate k outcome
  | otherOpen path => exact mirrored
  | otherClose fd => exact mirrored

omit [FloatArith F] in
theorem start_accounted {table : Descriptors} (nodup : table.inUse.Nodup) (sysfs : CString → String) :
    (start (F := F) table sysfs).Accounted :=
  ⟨nodup, by simp [start], fun _ member => absurd member List.not_mem_nil⟩

def memory : InstanceMemory :=
  ⟨.empty, ⟨0, fun _ => 0, fun _ => ⟨⟨0, 0⟩, 0, 0, 0⟩⟩, fun _ => 1, (-1, -1)⟩

def directoryOf (letter : UInt8) (proper : 0 ∉ [letter]) : Option (List DirEntry) :=
  some [⟨⟨[letter], proper⟩, by simp [CString.length], true, some accInputName, fun _ => 1⟩]

/-- Beside a descriptor of the process, an instance without a wake pipe and one on another device;
both are used, and the first is closed, and what the process opened. -/
def opening : List HalAct :=
  [.otherOpen .empty, .openSensors memory (directoryOf 49 (by decide)) false,
    .deviceCall 0 (.other (.activate idA 1 .written true)),
    .openSensors memory (directoryOf 50 (by decide)) true,
    .deviceCall 0 (.other (.activate idLA 1 .written true)), .deviceClose 1 fun _ => .written, .otherClose 0]

instance (table : Descriptors) : (inst : SensorsInstance F) → Decidable (inst.Harmless table)
  | ⟨_, _, _, _, .created _ _⟩ => inferInstanceAs (Decidable True)
  | ⟨_, _, _, _, .failed _ _⟩ => inferInstanceAs (Decidable (∀ _ ∈ _, _ → _ ∧ _))

theorem opening_fine : ∀ t ∈ (process (F := ℚ) .lowest).trace (start [] fun _ => "0") opening,
    t.source.Sane t.input ∧ t.target.Separate := by
  intro t member
  simp only [opening, Machine.trace, List.mem_cons, List.not_mem_nil, or_false] at member
  unfold Separate
  rcases member with rfl | rfl | rfl | rfl | rfl | rfl | rfl
  · exact ⟨trivial, by decide +kernel⟩
  · exact ⟨trivial, by decide +kernel⟩
  · exact ⟨⟨.main, rfl⟩, by decide +kernel⟩
  · exact ⟨trivial, by decide +kernel⟩
  · exact ⟨⟨.linearAcceleration, rfl⟩, by decide +kernel⟩
  · refine ⟨fun inst found => ?_, by decide +kernel⟩
    revert inst
    decide +kernel
  · refine ⟨?_, by decide +kernel⟩
    simp only [Machine.fire, Sane]
    decide +kernel

end HalProcess
end KanasSensors
