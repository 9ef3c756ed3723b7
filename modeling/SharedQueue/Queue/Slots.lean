/-
SharedQueue.Queue.Slots — the quanta of a stretch of positions.

A position's slot is the position modulo the capacity, so a stretch of
positions is one run of slots, or two if it goes over the end of the ring.

* `Runs` — the two runs of a stretch; `Queue.runs` computes them.
* `Runs.slot` — the slot of one quantum of a stretch; `Queue.slotAddress` —
  where it lies.
* `Queue.loadSlot`, `storeSlot`, `loadSlots`, `storeSlots` — quanta in and
  out of the slots, one at a time or run by run.
-/
import SharedQueue.Element.Codec
import SharedQueue.Queue

namespace SharedQueue

/-- The slots of a stretch of positions: `first` slots from `start` on, and
then `second` slots from the beginning of the ring. -/
structure Runs where
  start : Nat
  first : Nat
  second : Nat
deriving DecidableEq, Repr

/-- The runs of `count` positions from `pos` on, in a ring of `capacity`. -/
def Runs.of (capacity : Nat) (pos : UInt64) (count : Nat) : Runs :=
  let start := pos.toNat % capacity
  let first := min count (capacity - start)
  ⟨start, first, count - first⟩

/-- The slot of the `i`-th position of a stretch. -/
def Runs.slot (r : Runs) (i : Nat) : Nat := if i < r.first then r.start + i else i - r.first

namespace Queue

variable {t : ElementType}

/-- The runs of a stretch of positions. -/
def runs (q : Queue t) (pos : UInt64) (count : Nat) : Runs := Runs.of q.capacity pos count

/-- The address of a slot. -/
def slotAddress (q : Queue t) (slot : Nat) : Nat := q.descriptor.data.offset + slot * t.size

/-- The quantum in a slot. -/
def loadSlot (q : Queue t) (m : Memory) (slot : Nat) : t.Value :=
  t.decode (m.bytes (q.slotAddress slot) t.size)

/-- Puts a quantum into a slot. -/
def storeSlot (q : Queue t) (m : Memory) (slot : Nat) (v : t.Value) : Memory :=
  m.setBytes (q.slotAddress slot) (t.encode v)

/-- The quanta in `count` neighbouring slots. -/
def loadSlots (q : Queue t) (m : Memory) (slot count : Nat) : List t.Value :=
  (List.range count).map fun i => q.loadSlot m (slot + i)

/-- Puts quanta into neighbouring slots. -/
def storeSlots (q : Queue t) (m : Memory) (slot : Nat) : List t.Value → Memory
  | [] => m
  | v :: rest => storeSlots q (q.storeSlot m slot v) (slot + 1) rest

end Queue

end SharedQueue
