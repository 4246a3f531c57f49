import KanasSensors.Platform.Descriptors

/-! `SensorBase::openInput`: the search of `/dev/input` for a device by its name.

What the directory holds and what its files answer is given with its entries, in the
order `readdir` returns them. The buffers that hold only whole strings are kept as these
strings; `name` is kept as memory, for a device name need not fit it.
-/

set_option autoImplicit false

namespace KanasSensors

open Foundation

/-- `/dev/input`. -/
def dirname : CString := ⟨[47, 100, 101, 118, 47, 105, 110, 112, 117, 116], by decide⟩

def slash : CString := ⟨[47], by decide⟩

def dotByte : UInt8 := 46

def pathMax : Nat := 4096

structure DirEntry where
  d_name : CString
  fits : d_name.length ≤ 255
  opens : Bool
  /-- The name of the device, where `EVIOCGNAME` can read it. -/
  deviceName : Option CString
  /-- What `char name[80]` holds before. -/
  stack : Nat → UInt8

namespace DirEntry

def isDot (de : DirEntry) : Bool :=
  de.d_name.byteAt 0 == dotByte &&
    (de.d_name.byteAt 1 == 0 || (de.d_name.byteAt 1 == dotByte && de.d_name.byteAt 2 == 0))

def devname (de : DirEntry) : CString := (dirname.append slash).append de.d_name

/-- `name` after the `ioctl`, which copies 79 bytes at most, and stores no NUL behind them.
It returns how many it copied, at least the NUL of an empty name. -/
def name (de : DirEntry) : Nat → UInt8 :=
  match de.deviceName with
  | some device => CString.copyOut (80 - 1) device de.stack
  | none => Function.update de.stack 0 0

end DirEntry

structure InputState where
  input_name : CString
  descriptors : Descriptors

/-- The loop has one more variable, the descriptor of the file it opened last. -/
structure Lookup extends InputState where
  fd : Int

namespace Lookup

/-- `fd = open(path, O_RDONLY)`. -/
def openFile (alloc : Allocator) (s : Lookup) (path : CString) (opens : Bool) : Lookup :=
  if opens then
    let fd := alloc.next s.descriptors.inUse
    { s with fd, descriptors := (fd, path) :: s.descriptors }
  else { s with fd := -1 }

/-- `while ((de = readdir(dir)))`. -/
def search (alloc : Allocator) (inputName : CString) : List DirEntry → Lookup → Lookup
  | [], s => s
  | de :: rest, s =>
    if de.isDot then search alloc inputName rest s else
    let s := s.openFile alloc de.devname de.opens
    if 0 ≤ s.fd then
      if CString.strcmp de.name inputName.bytes = 0 then { s with input_name := de.d_name }
      else search alloc inputName rest { s with descriptors := s.descriptors.close s.fd, fd := -1 }
    else search alloc inputName rest s

end Lookup

/-- `dir` is the listing of the directory, unless `opendir` fails. -/
def openInput (alloc : Allocator) (inputName : CString) (dir : Option (List DirEntry)) (s : InputState) :
    InputState × Int :=
  match dir with
  | none => (s, -1)
  | some entries =>
    let dirFd := alloc.next s.descriptors.inUse
    let opened := { s with descriptors := (dirFd, dirname) :: s.descriptors }
    let last := Lookup.search alloc inputName entries ⟨opened, -1⟩
    ({ last.toInputState with descriptors := last.descriptors.close dirFd }, last.fd)

end KanasSensors
