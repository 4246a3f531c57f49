import KanasSensors.Accelerometer.Power
import KanasSensors.Foundation.CMemory
import KanasSensors.Input.Lookup

/-! The attribute files of the driver: what each function writes, and the path it finds them under.

`input_sysfs_path` holds the directory of the device, and every write puts the name of a file
behind it. Without a device the directory is empty, and the names stand alone.
-/

set_option autoImplicit false

namespace KanasSensors

open Foundation

/-- `/sys/class/input/`. -/
def sysClassInput : CString :=
  ⟨[47, 115, 121, 115, 47, 99, 108, 97, 115, 115, 47, 105, 110, 112, 117, 116, 47], by decide⟩

/-- `/device/`. -/
def deviceSuffix : CString := ⟨[47, 100, 101, 118, 105, 99, 101, 47], by decide⟩

def SysfsFile.name : SysfsFile → CString
  | .enable => ⟨[101, 110, 97, 98, 108, 101], by decide⟩
  | .enSigMotion => ⟨[101, 110, 95, 115, 105, 103, 95, 109, 111, 116, 105, 111, 110], by decide⟩
  | .pollDelay => ⟨[112, 111, 108, 108, 95, 100, 101, 108, 97, 121], by decide⟩

theorem SysfsFile.name_length (file : SysfsFile) : file.name.length ≤ 13 := by
  cases file <;> decide

theorem SysfsFile.append_name_inj {directory other : CString} {file file' : SysfsFile}
    (same : directory.append file.name = other.append file'.name) : directory = other ∧ file = file' := by
  have bytes : directory.bytes ++ file.name.bytes = other.bytes ++ file'.name.bytes := congrArg CString.bytes same
  have last := congrArg List.getLast? bytes
  have files : file = file' := by
    cases file <;> cases file' <;> simp [SysfsFile.name, List.getLast?_append] at last ⊢
  subst files
  exact ⟨CString.ext_bytes (List.append_cancel_right bytes), rfl⟩

structure AttributePath where
  input_sysfs_path : Nat → UInt8
  input_sysfs_path_len : Nat

namespace AttributePath

/-- The part of the constructor that sets up the path, over `memory`. -/
def create (memory : Nat → UInt8) (data_fd : Int) (input_name : CString) : AttributePath :=
  if 0 ≤ data_fd then
    let path := CString.strcpy memory 0 sysClassInput
    let path := CString.strcat pathMax path input_name
    let path := CString.strcat pathMax path deviceSuffix
    ⟨path, CString.strlen pathMax path⟩
  else ⟨CString.strcpy memory 0 .empty, 0⟩

/-- `strcpy(&input_sysfs_path[input_sysfs_path_len], …)`. -/
def select (p : AttributePath) (file : SysfsFile) : AttributePath :=
  { p with input_sysfs_path := CString.strcpy p.input_sysfs_path p.input_sysfs_path_len file.name }

def path (p : AttributePath) : CString := CString.ofMemory pathMax p.input_sysfs_path

structure Rooted (p : AttributePath) (directory : CString) : Prop where
  begins : CString.Begins p.input_sysfs_path directory
  length : p.input_sysfs_path_len = directory.length
  room : directory.length + 13 < pathMax

def directory (data_fd : Int) (input_name : CString) : CString :=
  if 0 ≤ data_fd then (sysClassInput.append input_name).append deviceSuffix else .empty

theorem create_rooted (memory : Nat → UInt8) {data_fd : Int} {input_name : CString}
    (fits : 0 ≤ data_fd → input_name.length ≤ 255) :
    (create memory data_fd input_name).Rooted (directory data_fd input_name) := by
  have front : sysClassInput.length = 17 := rfl
  have back : deviceSuffix.length = 8 := rfl
  simp only [create, directory]
  split
  · next valid =>
    have short := fits valid
    have first := CString.stored_strcpy memory sysClassInput
    have second := first.strcat pathMax (by rw [front]; decide) input_name
    have third := second.strcat pathMax (by rw [CString.length_append, front, pathMax]; omega) deviceSuffix
    have room : ((sysClassInput.append input_name).append deviceSuffix).length + 13 < pathMax := by
      rw [CString.length_append, CString.length_append, front, back, pathMax]
      omega
    have whole := third.strlen pathMax (by omega)
    refine ⟨?_, ?_, room⟩ <;> dsimp only
    · exact third.begins
    · exact whole
  · refine ⟨fun i inside => absurd inside (Nat.not_lt_zero i), rfl, ?_⟩
    change 13 < pathMax
    rw [pathMax]
    omega

variable {p : AttributePath} {directory : CString}

theorem Rooted.select (rooted : p.Rooted directory) (file : SysfsFile) : (p.select file).Rooted directory where
  begins := by
    rw [AttributePath.select, rooted.length]
    exact rooted.begins.strcpy file.name
  length := rooted.length
  room := rooted.room

theorem Rooted.path_select (rooted : p.Rooted directory) (file : SysfsFile) :
    (p.select file).path = directory.append file.name := by
  have stored := rooted.begins.stored_strcpy file.name
  have short := file.name_length
  have room := rooted.room
  rw [AttributePath.path, AttributePath.select, rooted.length]
  exact stored.ofMemory pathMax (by rw [CString.length_append]; omega)

theorem Rooted.select_beyond (rooted : p.Rooted directory) (file : SysfsFile) {i : Nat} (beyond : pathMax ≤ i) :
    (p.select file).input_sysfs_path i = p.input_sysfs_path i := by
  have short := file.name_length
  have room := rooted.room
  rw [AttributePath.select, rooted.length]
  exact CString.strcpy_beyond _ (by omega) beyond

end AttributePath

structure AttributeWrite where
  file : SysfsFile
  value : String
  outcome : SysfsOutcome

def AttributeWrite.done (w : AttributeWrite) : Bool :=
  match w.outcome with
  | .written => true
  | _ => false

def Sysfs.after (files : Sysfs) (w : AttributeWrite) : Sysfs := (writeSysAttribute files w.file w.value w.outcome).1

theorem Sysfs.text_after (files : Sysfs) (w : AttributeWrite) (file : SysfsFile) : (files.after w).text file =
    if w.done = true ∧ file = w.file then w.value else files.text file := by
  obtain ⟨written, value, outcome⟩ := w
  cases outcome with
  | written =>
    simpa [Sysfs.after, writeSysAttribute, AttributeWrite.done] using Accelerometer.text_put files written file value
  | _ => simp [Sysfs.after, writeSysAttribute, AttributeWrite.done]

namespace Accelerometer

variable {F : Type}

def setEnableWrites (a : Accelerometer F) (handle enabled : Int) (outcome : SysfsOutcome) : List AttributeWrite :=
  match enableFile handle with
  | none => []
  | some (_, enable_file) => [⟨enable_file, digit (maskSwitched a.mEnabled handle enabled), outcome⟩]

def setDelayWrites (a : Accelerometer F) (handle delay_ns : Int) (outcome : SysfsOutcome) : List AttributeWrite :=
  if handle = idSM then []
  else if handle = idLA ∨ handle = idA then
    if a.mDelay ≠ delay_ns then [⟨.pollDelay, (delayMillis delay_ns).repr, outcome⟩] else []
  else []

def batchWrites (a : Accelerometer F) (handle period_ns : Int) (outcome : SysfsOutcome) : List AttributeWrite :=
  if a.mEnabled ≠ 0 then a.setDelayWrites handle period_ns outcome else []

def switchOffWrites (a : Accelerometer F) (sensor : Sensor) (outcome : SysfsOutcome) : List AttributeWrite :=
  if BitMask.test a.mEnabled sensor.index then a.setEnableWrites sensor.handle 0 outcome else []

def destroyWrites (a : Accelerometer F) (outcome : Sensor → SysfsOutcome) : List AttributeWrite :=
  let first := a.switchOff .main (outcome .main)
  let second := first.switchOff .linearAcceleration (outcome .linearAcceleration)
  a.switchOffWrites .main (outcome .main) ++
    (first.switchOffWrites .linearAcceleration (outcome .linearAcceleration) ++
      second.switchOffWrites .significantMotion (outcome .significantMotion))

theorem setEnable_files (a : Accelerometer F) (handle enabled : Int) (outcome : SysfsOutcome) :
    (a.setEnable handle enabled outcome).1.files =
      (a.setEnableWrites handle enabled outcome).foldl Sysfs.after a.files := by
  simp only [setEnable, setEnableWrites, maskSwitched]
  cases enableFile handle <;> rfl

theorem setDelay_files (a : Accelerometer F) (handle delay_ns : Int) (outcome : SysfsOutcome) :
    (a.setDelay handle delay_ns outcome).1.files =
      (a.setDelayWrites handle delay_ns outcome).foldl Sysfs.after a.files := by
  simp only [setDelay, setDelayWrites]
  split_ifs <;> rfl

theorem batch_files (a : Accelerometer F) (handle flags period_ns timeout : Int) (outcome : SysfsOutcome) :
    (a.batch handle flags period_ns timeout outcome).1.files =
      (a.batchWrites handle period_ns outcome).foldl Sysfs.after a.files := by
  simp only [batch, batchWrites]
  split_ifs
  · exact a.setDelay_files handle period_ns outcome
  · rfl

theorem switchOff_files (a : Accelerometer F) (sensor : Sensor) (outcome : SysfsOutcome) :
    (a.switchOff sensor outcome).files = (a.switchOffWrites sensor outcome).foldl Sysfs.after a.files := by
  simp only [switchOff, switchOffWrites]
  split_ifs
  · exact a.setEnable_files sensor.handle 0 outcome
  · rfl

theorem destroy_files (a : Accelerometer F) (outcome : Sensor → SysfsOutcome) :
    (a.destroy outcome).files = (a.destroyWrites outcome).foldl Sysfs.after a.files := by
  simp only [destroyWrites, List.foldl_append, ← switchOff_files]
  rfl

end Accelerometer
end KanasSensors
