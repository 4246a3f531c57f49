import Mathlib.Data.List.Basic

/-! What the operating system may answer to the calls the sensor library makes.

Nothing here decides an outcome: every answer the contract of the call allows is a
value of the type, and the model of the library takes the answers as inputs.
-/

set_option autoImplicit false

namespace KanasSensors

/-- What `errno` holds after a failed call; it is never zero there. -/
structure Errno where
  code : Int
  positive : 0 < code

namespace Errno

def eio : Errno := ⟨5, by decide⟩
def einval : Errno := ⟨22, by decide⟩

end Errno

/-- What one `read` of whole records returned and left in the buffer: an error, some
records with a torn one after them, or whole records only. -/
inductive ReadResult (α : Type) where
  | failed (errno : Errno)
  | torn (whole : List α) (last : α)
  | records (batch : List α)

namespace ReadResult

variable {α : Type}

def cells : ReadResult α → List α
  | failed _ => []
  | torn whole last => whole ++ [last]
  | records batch => batch

def delivered : ReadResult α → List α
  | records batch => batch
  | _ => []

def succeeded : ReadResult α → Bool
  | records _ => true
  | _ => false

end ReadResult

/-- A `read` call on a descriptor: its answer for each size it may be asked for.
It never stores more than it was asked for. -/
structure SysRead (α : Type) where
  answer : Nat → ReadResult α
  fits : ∀ space, (answer space).cells.length ≤ space

namespace SysRead

variable {α : Type}

def failing (errno : Errno) : SysRead α := ⟨fun _ => .failed errno, fun _ => Nat.zero_le _⟩

/-- A call that delivers the front of a queue, at most `most` records of it. -/
def ofQueue (queue : List α) (most : Nat) : SysRead α where
  answer space := .records (queue.take (min most space))
  fits space := by
    simp only [ReadResult.cells, List.length_take]
    omega

end SysRead

/-- What became of opening a sysfs attribute and writing it once. A short write
counts as `written`: the library only compares the result with `-1`. -/
inductive SysfsOutcome where
  | openFailed
  | writeFailed (errno : Errno)
  | written

end KanasSensors
