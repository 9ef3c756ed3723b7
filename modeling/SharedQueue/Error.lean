/-
SharedQueue.Error — why an operation fails, and how a failure is worded.

* `ConfigFault`, `LayoutFault`, `DescriptorFault`, `RegionFault`,
  `FileFault`, `EncodeFault` — the causes that a class of errors carries.
* `Error` — the failures of the queue's operations; `Error.message` is the
  one place where they are put into words.
* `Error.retryable` — the failures that only say "not yet". A blocking call
  waits exactly these out.
* `Misuse` — a broken precondition of a call. It is no `Error`: the call
  stops before it has done anything.
-/
import SharedQueue.Flavor
import SharedQueue.Grantor

namespace SharedQueue

/-- Why a queue cannot be planned. -/
inductive ConfigFault
  | zeroSizedQuanta
  | zeroCount
  /-- The slots alone need more bytes than a word can count. -/
  | extentOverflow (count size : Nat)
  /-- The whole region needs more bytes than a word can count. -/
  | layoutOverflow
deriving DecidableEq, Repr

/-- Why a layout does not describe a queue. -/
inductive LayoutFault
  /-- A read counter is present, or absent, against the flavor. -/
  | readCounterPresence (flavor : Flavor) (present : Bool)
  /-- A write reservation is present, or absent, against the flavor. -/
  | reservationPresence (flavor : Flavor) (present : Bool)
  | outside (part : Part) (range : Grantor) (regionSize : Nat)
  | short (part : Part) (extent least : Nat)
  | misaligned (part : Part) (offset alignment : Nat)
  | overlap (first second : Part)
deriving DecidableEq, Repr

/-- Why a descriptor is refused. -/
inductive DescriptorFault
  | emptyName
  | degenerateShape (count size : Nat)
  | extentMismatch (extent count size : Nat)
  | layout (fault : LayoutFault)
  /-- The named region is smaller than the descriptor says. -/
  | regionTooSmall (name : String) (available needed : Nat)
  /-- A range leaves the mapped bytes. -/
  | outsideMapping (range : Grantor) (mapped : Nat)
  /-- A range begins at an address that the named type cannot have. -/
  | misalignedFor (range : Grantor) (typeName : String)
  | missingReadCounter
deriving DecidableEq, Repr

/-- Why shared memory is refused. The numbers are the operating system's. -/
inductive RegionFault
  | nameInUse
  | createRefused (code : Nat)
  | openRefused (code : Nat)
  | unexpected (code : Nat)
  | zeroSize
deriving DecidableEq, Repr

/-- Why a file cannot be read or written. -/
inductive FileFault
  | notFound
  | notText
  | notDirectory
  | isDirectory
  /-- A name, or the whole path, has too many bytes. -/
  | nameTooLong
  /-- The path holds a character that no name can have. -/
  | badName
  /-- Nothing can be made there. -/
  | refused
deriving DecidableEq, Repr

/-- Why a value has no written form. -/
inductive EncodeFault
  | integerTooLarge
deriving DecidableEq, Repr

/-- Why an operation on a queue fails. -/
inductive Error
  | sharedMemory (fault : RegionFault)
  | file (fault : FileFault)
  | encode (fault : EncodeFault)
  | decode
  | config (fault : ConfigFault)
  | invalidDescriptor (fault : DescriptorFault)
  | flavorMismatch (handle descriptor : Flavor)
  | quantumSizeMismatch (element descriptor : Nat)
  /-- Not enough free slots for a write that must land whole. -/
  | insufficientSpace (requested available : Nat)
  /-- Not enough published quanta for a read that must be filled. -/
  | insufficientData (requested available : Nat)
  /-- Not even an empty, or a full, ring could serve the request. -/
  | exceedsCapacity (requested capacity : Nat)
  /-- The writer overran the reader, whose cursor now stands at `resync`. -/
  | overflow (lag : Nat) (resync : UInt64)
  | timeout
  | noEventFlag
  | emptyBitmask
deriving DecidableEq, Repr

/-- A broken precondition of a call. -/
inductive Misuse
  /-- A quantum outside the transaction was named. -/
  | indexOutOfRange (index length : Nat)
  /-- The source of a copy has another length than the transaction. -/
  | sourceLength (given length : Nat)
  /-- The destination of a copy has another length than the transaction. -/
  | destinationLength (given length : Nat)
  /-- Alignment to a multiple of zero was asked for. -/
  | zeroAlignment
deriving DecidableEq, Repr

/-- How a checked call ends early: with an error of the queue, or because
its caller broke a precondition. -/
inductive Abort
  | error (cause : Error)
  | misuse (cause : Misuse)
deriving DecidableEq, Repr

/-! ## Wording -/

private def truth (b : Bool) : String := if b then "true" else "false"

def ConfigFault.message : ConfigFault → String
  | zeroSizedQuanta => "zero-sized quanta are not supported"
  | zeroCount => "quantum count must be positive"
  | extentOverflow count size => s!"{count} quanta of {size} bytes overflow usize"
  | layoutOverflow => "region layout overflows usize"

def LayoutFault.message : LayoutFault → String
  | readCounterPresence flavor present =>
      flavor.title ++ " queue with read counter = " ++ truth present
  | reservationPresence flavor present =>
      flavor.title ++ " queue with write reservation = " ++ truth present
  | outside part range regionSize =>
      part.title ++ " " ++ range.describe ++ s!" outside region of {regionSize} bytes"
  | short part extent least => part.title ++ s!" extent {extent} below {least}"
  | misaligned part offset alignment =>
      part.title ++ s!" offset {offset} not aligned to {alignment}"
  | overlap first second => first.title ++ " overlaps " ++ second.title

def DescriptorFault.message : DescriptorFault → String
  | emptyName => "empty os_id"
  | degenerateShape count size => s!"degenerate shape {count} x {size}"
  | extentMismatch extent count size =>
      s!"data extent {extent} does not hold {count} quanta of {size} bytes"
  | layout fault => fault.message
  | regionTooSmall name available needed =>
      s!"region {name} maps {available} bytes, descriptor needs {needed}"
  | outsideMapping range mapped =>
      range.describe ++ s!" outside mapping of {mapped} bytes"
  | misalignedFor range typeName =>
      range.describe ++ " is not aligned for " ++ typeName
  | missingReadCounter => "synchronized queue without read counter"

def RegionFault.message : RegionFault → String
  | nameInUse => "Shared memory OS specific ID already exists"
  | createRefused code => s!"Creating the shared memory failed, os error {code}"
  | openRefused code => s!"Opening the shared memory failed, os error {code}"
  | unexpected code => s!"An unexpected OS error occurred, os error {code}"
  | zeroSize => "You cannot create a shared memory mapping of 0 size"

def FileFault.message : FileFault → String
  | notFound => "No such file or directory (os error 2)"
  | notText => "stream did not contain valid UTF-8"
  | notDirectory => "Not a directory (os error 20)"
  | isDirectory => "Is a directory (os error 21)"
  | nameTooLong => "File name too long (os error 36)"
  | badName => "file name contained an unexpected NUL byte"
  | refused => "Permission denied (os error 13)"

def EncodeFault.message : EncodeFault → String
  | integerTooLarge => "out-of-range value for u64 type"

/-- The wording of an error. -/
def Error.message : Error → String
  | sharedMemory fault => "shared memory error: " ++ fault.message
  | file fault => "IO error: " ++ fault.message
  | encode fault => "descriptor encode error: " ++ fault.message
  | decode => "descriptor decode error"
  | config fault => "invalid config: " ++ fault.message
  | invalidDescriptor fault => "invalid descriptor: " ++ fault.message
  | flavorMismatch handle descriptor =>
      "flavor mismatch: handle is " ++ handle.title ++ ", descriptor is " ++ descriptor.title
  | quantumSizeMismatch element descriptor =>
      s!"quantum size mismatch: element is {element} bytes, descriptor says {descriptor}"
  | insufficientSpace requested available =>
      s!"not enough space: requested {requested} quanta, {available} available"
  | insufficientData requested available =>
      s!"not enough data: requested {requested} quanta, {available} available"
  | exceedsCapacity requested capacity =>
      s!"request of {requested} quanta exceeds capacity {capacity}"
  | overflow lag resync =>
      s!"reader overrun by {lag} quanta, resynchronized to {resync}"
  | timeout => "timed out"
  | noEventFlag => "queue has no event flag"
  | emptyBitmask => "event flag bitmask must not be empty"

/-- The wording of a broken precondition. -/
def Misuse.message : Misuse → String
  | indexOutOfRange index length => s!"index {index} out of range for transaction of {length}"
  | sourceLength given length =>
      "assertion `left == right` failed: source length must match transaction length\n"
        ++ s!"  left: {given}\n right: {length}"
  | destinationLength given length =>
      "assertion `left == right` failed: destination length must match transaction length\n"
        ++ s!"  left: {given}\n right: {length}"
  | zeroAlignment => "attempt to calculate the remainder with a divisor of zero"

/-- The failures that say "not yet": the same request can succeed later. -/
def Error.retryable : Error → Bool
  | insufficientSpace .. => true
  | insufficientData .. => true
  | _ => false

end SharedQueue
