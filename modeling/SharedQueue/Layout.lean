/-
SharedQueue.Layout — where the pieces of a queue lie in its region.

* `Layout` — one range for each piece; two of them are present only in one
  flavor, and the event flag only on request.
* `Layout.plan` — the layout of a new queue: every counter and the flag
  word get a cache line of their own, and the slots follow at the next
  address that suits both the cache line and the element.
* `Layout.pieces` — the pieces that are present, with the room and the
  alignment that each of them needs. Checking a layout walks this list.

Sizes are counted in natural numbers; a plan fails where a 64-bit word
could not count its bytes.
-/
import SharedQueue.Error

namespace SharedQueue

/-- The bytes of a cache line. -/
def cacheLine : Nat := 64

/-- The capacity of a queue that asks for none. -/
def defaultQuantumCount : Nat := 1024

/-- The room of a counter word. -/
def counterSize : Nat := 8

/-- The room of the event flag word. -/
def flagSize : Nat := 4

/-- Where each piece of a queue lies in its region. -/
structure Layout where
  readCounter : Option Grantor
  writeCounter : Grantor
  writeReserve : Option Grantor
  eventFlag : Option Grantor
  data : Grantor
  /-- The size of the region that holds them. -/
  size : Nat
deriving DecidableEq, Repr

/-- The least multiple of `alignment` that is not below `value`. -/
def alignUp (value alignment : Nat) : Nat :=
  (value + (alignment - 1)) / alignment * alignment

namespace Layout

/-- What a plan is made for. -/
structure Request where
  flavor : Flavor
  quantumSize : Nat
  quantumAlign : Nat
  quantumCount : Nat
  eventFlag : Bool
deriving DecidableEq, Repr

/-- A word of `extent` bytes on the next free cache line, if it is wanted,
and the line after it. -/
def place (wanted : Bool) (extent offset : Nat) : Option Grantor × Nat :=
  if wanted then (some ⟨offset, extent⟩, offset + cacheLine) else (none, offset)

/-- Places the pieces in the order read counter, write counter, write
reservation, event flag, slots. -/
def plan (r : Request) : Except ConfigFault Layout :=
  if r.quantumSize = 0 then
    .error .zeroSizedQuanta
  else if r.quantumCount = 0 then
    .error .zeroCount
  else if wordLimit ≤ r.quantumSize * r.quantumCount then
    .error (.extentOverflow r.quantumCount r.quantumSize)
  else
    let (readCounter, afterRead) := place r.flavor.hasReadCounter counterSize 0
    let afterWrite := afterRead + cacheLine
    let (writeReserve, afterReserve) := place r.flavor.hasReservation counterSize afterWrite
    let (eventFlag, afterFlag) := place r.eventFlag flagSize afterReserve
    let alignment := max r.quantumAlign cacheLine
    let data : Grantor := ⟨alignUp afterFlag alignment, r.quantumSize * r.quantumCount⟩
    if wordLimit ≤ afterFlag + (alignment - 1) then
      .error .layoutOverflow
    else if wordLimit ≤ data.stop then
      .error .layoutOverflow
    else
      .ok {
        readCounter, writeReserve, eventFlag, data
        writeCounter := ⟨afterRead, counterSize⟩
        size := data.stop }

/-- A piece that is present in a layout, and what it needs. -/
structure Piece where
  part : Part
  range : Grantor
  /-- The room that the piece needs. -/
  least : Nat
  /-- Its offset has to be a multiple of this. -/
  alignment : Nat
deriving DecidableEq, Repr

/-- A counter or flag word, if it is present. -/
def word (part : Part) (size : Nat) : Option Grantor → List Piece
  | some range => [⟨part, range, size, size⟩]
  | none => []

/-- The pieces that are present, in the order in which they are checked. -/
def pieces (l : Layout) (quantumAlign : Nat) : List Piece :=
  word .writeCounter counterSize (some l.writeCounter)
    ++ word .readCounter counterSize l.readCounter
    ++ word .writeReservation counterSize l.writeReserve
    ++ word .eventFlag flagSize l.eventFlag
    ++ [⟨.data, l.data, l.data.extent, quantumAlign⟩]

end Layout

end SharedQueue
