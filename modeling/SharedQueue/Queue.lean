/-
SharedQueue.Queue — one party's handle on a queue.

* `Queue` — the descriptor, the mapped region and the reader's cursor. A
  handle holds no quanta: all of them live in the region's memory, which
  every operation takes and gives back.
* `Cursor` — the reader's position: the shared counter in a synchronized
  queue, a number of the handle's own in an unsynchronized one.
* `Queue.create`, `Queue.attach` — the two ways to get a handle.
* `Queue.writePos`, `readPos`, `reserved`, `availableToWrite`,
  `availableToRead`, `isValid` — what a handle sees in its memory.
-/
import SharedQueue.Admission
import SharedQueue.Config
import SharedQueue.Descriptor
import SharedQueue.EventFlag
import SharedQueue.Quoted

namespace SharedQueue

/-- Where a handle keeps the reader's position. -/
inductive Cursor
  /-- The shared counter at this offset. -/
  | shared (offset : Nat)
  /-- A position of the handle's own. -/
  | own (pos : UInt64)
deriving DecidableEq, Repr

namespace Cursor

/-- The reader's position. -/
def load (c : Cursor) (m : Memory) : UInt64 :=
  match c with
  | shared offset => m.load64 offset
  | own pos => pos

/-- Moves the reader's position. -/
def store (c : Cursor) (m : Memory) (pos : UInt64) : Cursor × Memory :=
  match c with
  | shared offset => (c, m.store64 offset pos)
  | own _ => (own pos, m)

/-- Moves the reader's position to where a decision left it. Only a private
position is ever moved by a decision. -/
def follow (c : Cursor) (pos : UInt64) : Cursor :=
  match c with
  | shared offset => shared offset
  | own _ => own pos

end Cursor

/-- A handle on a queue of elements of type `t`. -/
structure Queue (t : ElementType) where
  descriptor : Descriptor
  region : Region
  cursor : Cursor
deriving Repr

namespace Queue

variable {t : ElementType}

/-! ## Parts of a handle -/

def flavor (q : Queue t) : Flavor := q.descriptor.flavor

/-- The number of slots. -/
def capacity (q : Queue t) : Nat := q.descriptor.quantumCount

/-- The memory that the handle maps. -/
def memory (q : Queue t) (s : Store) : Memory := s.memory q.region.memory

/-- The queue's own flag word. -/
def flagWord? (q : Queue t) : Option FlagWord :=
  q.descriptor.eventFlag.map fun g => ⟨q.region.memory, g.offset⟩

/-! ## What a handle sees -/

/-- The position up to which quanta are published. -/
def writePos (q : Queue t) (m : Memory) : UInt64 := m.load64 q.descriptor.writeCounter.offset

/-- The reader's position. -/
def readPos (q : Queue t) (m : Memory) : UInt64 := q.cursor.load m

/-- The position up to which slots may be overwritten; without a reservation
that is the write position itself. -/
def reserved (q : Queue t) (m : Memory) (writePos : UInt64) : UInt64 :=
  match q.descriptor.writeReserve with
  | some g => max (m.load64 g.offset) writePos
  | none => writePos

/-- The quanta that the next write can place. -/
def availableToWrite (q : Queue t) (m : Memory) : Nat :=
  Flavor.availableToWrite q.capacity (q.writePos m) (q.readPos m)

/-- The published quanta that this handle has not read. After an overrun
there are more of them than slots. -/
def availableToRead (q : Queue t) (m : Memory) : Nat :=
  Flavor.availableToRead (q.writePos m) (q.readPos m)

/-- The mapping is large enough, and the shared counters of a synchronized
queue are at most the capacity apart. -/
def isValid (q : Queue t) (m : Memory) : Bool :=
  q.descriptor.regionSize ≤ q.region.size
    && (q.flavor = .unsynchronized
      || (q.readPos m ≤ q.writePos m
        && (q.writePos m).toNat - (q.readPos m).toNat ≤ q.capacity))

/-- The bits of the queue's own flag. -/
def flagBits? (q : Queue t) (m : Memory) : Option UInt32 :=
  q.descriptor.eventFlag.map fun g => EventFlag.bits m g.offset

/-! ## Getting a handle -/

/-- The type of the counter words. -/
def counterType : ElementType := .primitive .u64

/-- The type of the flag word. -/
def flagType : ElementType := .primitive .u32

/-- Checks a piece that may be absent. -/
def checkPiece (r : Region) (type : ElementType) : Option Grantor → Except DescriptorFault Unit
  | some g => r.check type g
  | none => .ok ()

/-- The cursor that a new handle begins with: the shared counter, or a position of
its own at the write position. -/
def firstCursor (d : Descriptor) (m : Memory) : Except Error Cursor :=
  d.flavor.initialCursor (d.readCounter.map fun g => .shared g.offset)
    (.own (m.load64 d.writeCounter.offset))

/-- The handle on a mapped region: every piece must lie inside it, and the
cursor starts where its flavor says. -/
def map (r : Region) (m : Memory) (d : Descriptor) : Except Error (Queue t) := do
  let pieces : Except DescriptorFault Unit := do
    r.check counterType d.writeCounter
    checkPiece r counterType d.readCounter
    checkPiece r counterType d.writeReserve
    checkPiece r flagType d.eventFlag
    r.check t d.data
  pieces.mapError .invalidDescriptor
  let cursor ← firstCursor d m
  return ⟨d, r, cursor⟩

/-- Creates a queue in a region of its own. The new memory is all zero, so
every counter, the flag and the cursor start at zero. -/
def create (t : ElementType) (flavor : Flavor) (c : QueueConfig) (s : Store) :
    Except Error (Queue t × Store) := do
  let layout ← (Layout.plan {
    flavor
    quantumSize := t.size
    quantumAlign := t.alignment
    quantumCount := c.quantumCount
    eventFlag := c.eventFlag }).mapError .config
  let (region, s) ← (s.create c.name layout.size).mapError .sharedMemory
  let d := Descriptor.ofLayout region.name flavor t.size c.quantumCount layout
  let queue ← map region (s.memory region.memory) d
  return (queue, s)

/-- Joins the queue that a descriptor describes. -/
def attach (t : ElementType) (flavor : Flavor) (d : Descriptor) (s : Store) :
    Except Error (Queue t) := do
  if d.flavor ≠ flavor then
    throw (.flavorMismatch flavor d.flavor)
  if d.quantumSize ≠ t.size then
    throw (.quantumSizeMismatch t.size d.quantumSize)
  (d.check t.alignment).mapError .invalidDescriptor
  let region ← (s.openNamed d.name).mapError .sharedMemory
  if region.size < d.regionSize then
    throw (.invalidDescriptor (.regionTooSmall d.name region.size d.regionSize))
  map region (s.memory region.memory) d

/-! ## As it is shown -/

/-- The handle as it is shown. -/
def describe (q : Queue t) (m : Memory) : String :=
  let flag := match q.flagBits? m with
    | some w => "Some(" ++ EventFlag.describe w ++ ")"
    | none => "None"
  "MessageQueue \x7b os_id: " ++ Quoted.display q.descriptor.name
    ++ ", flavor: " ++ q.flavor.title
    ++ ", quantum_count: " ++ toString q.capacity
    ++ ", write_pos: " ++ toString (q.writePos m).toNat
    ++ ", read_pos: " ++ toString (q.readPos m).toNat
    ++ ", event_flag: " ++ flag ++ " \x7d"

end Queue

end SharedQueue
