import KanasSensors.Foundation.Circular
import KanasSensors.Platform.Syscalls

/-! `InputEventCircularReader`: a ring of input events over a doubled buffer.

Pointers are offsets from `mBuffer`, counted in events, and the buffer is the map
from offsets to their contents. The record type is left open; the library reads
`input_event` through it.
-/

set_option autoImplicit false

namespace KanasSensors

open Foundation.Circular

structure InputEventCircularReader (α : Type) where
  mBuffer : Nat → α
  mBufferEnd : Nat
  mHead : Nat
  mCurr : Nat
  mFreeSpace : Nat

namespace InputEventCircularReader

variable {α : Type}

/-- The constructor. `memory` is what `new input_event[numEvents * 2]` happens to hold. -/
def create (numEvents : Nat) (memory : Nat → α) : InputEventCircularReader α where
  mBuffer := memory
  mBufferEnd := numEvents
  mHead := 0
  mCurr := 0
  mFreeSpace := numEvents

def fill (r : InputEventCircularReader α) (fd : SysRead α) : InputEventCircularReader α × Int :=
  if r.mFreeSpace = 0 then (r, 0) else
  let nread := fd.answer r.mFreeSpace
  let mBuffer := write r.mBuffer r.mHead nread.cells
  match nread with
  | .failed errno => ({ r with mBuffer }, -errno.code)
  | .torn _ _ => ({ r with mBuffer }, -Errno.einval.code)
  | .records batch =>
    let numEventsRead := batch.length
    if numEventsRead = 0 then ({ r with mBuffer }, 0) else
    -- the head may rest at the seam itself; only what lies past it is copied back
    let mHead := r.mHead + numEventsRead
    let mFreeSpace := r.mFreeSpace - numEventsRead
    if r.mBufferEnd < mHead then
      let s := mHead - r.mBufferEnd
      ({ r with mBuffer := copy mBuffer 0 r.mBufferEnd s, mHead := s, mFreeSpace }, numEventsRead)
    else
      ({ r with mBuffer, mHead, mFreeSpace }, numEventsRead)

def readEvent (r : InputEventCircularReader α) : α × Int :=
  let available : Int := (r.mBufferEnd : Int) - r.mFreeSpace
  (r.mBuffer r.mCurr, if available ≠ 0 then 1 else 0)

def next (r : InputEventCircularReader α) : InputEventCircularReader α :=
  let mCurr := r.mCurr + 1
  { r with mCurr := if r.mBufferEnd ≤ mCurr then 0 else mCurr, mFreeSpace := r.mFreeSpace + 1 }

end InputEventCircularReader
end KanasSensors
