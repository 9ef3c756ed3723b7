/-
SharedQueue.Layout.Check — is a layout that came from a peer safe to use?

* `Layout.check` — the flavor's words are present, every piece lies inside
  the region, has its room and its alignment, and no two pieces share a
  byte. The first fault found is the answer.
* `Layout.validate` — the same for an alignment that may be zero. Nothing is
  a multiple of zero, so the question about the slots has no answer then:
  it is a misuse, unless a fault was found before it came up.

The order of the checks decides which fault is reported when there are
several: presence, then each piece in turn, then the pairs.
-/
import SharedQueue.Layout

namespace SharedQueue.Layout

/-- The shared words are those of the flavor. -/
def checkPresence (l : Layout) (flavor : Flavor) : Except LayoutFault Unit :=
  if l.readCounter.isSome ≠ flavor.hasReadCounter then
    .error (.readCounterPresence flavor l.readCounter.isSome)
  else if l.writeReserve.isSome ≠ flavor.hasReservation then
    .error (.reservationPresence flavor l.writeReserve.isSome)
  else
    .ok ()

/-- The piece lies in a region of `regionSize` bytes, with the room and the
alignment that it needs. -/
def Piece.check (regionSize : Nat) (p : Piece) : Except LayoutFault Unit :=
  if regionSize < p.range.stop then
    .error (.outside p.part p.range regionSize)
  else if p.range.extent < p.least then
    .error (.short p.part p.range.extent p.least)
  else if p.range.offset % p.alignment ≠ 0 then
    .error (.misaligned p.part p.range.offset p.alignment)
  else
    .ok ()

/-- Every piece passes its own check. -/
def checkPieces (regionSize : Nat) : List Piece → Except LayoutFault Unit
  | [] => .ok ()
  | p :: rest => (p.check regionSize).bind fun _ => checkPieces regionSize rest

/-- The first piece of a list that shares a byte with `p`. -/
def firstOverlap? (p : Piece) (rest : List Piece) : Option Piece :=
  rest.find? fun q => p.range.overlaps q.range

/-- No piece shares a byte with a later one. -/
def checkOverlaps : List Piece → Except LayoutFault Unit
  | [] => .ok ()
  | p :: rest =>
    match firstOverlap? p rest with
    | some q => .error (.overlap p.part q.part)
    | none => checkOverlaps rest

/-- The layout describes a queue of the flavor, in a region of `regionSize`
bytes, with elements of the given alignment. -/
def check (l : Layout) (flavor : Flavor) (regionSize quantumAlign : Nat) :
    Except LayoutFault Unit := do
  l.checkPresence flavor
  checkPieces regionSize (l.pieces quantumAlign)
  checkOverlaps (l.pieces quantumAlign)

/-- `check` for an alignment that may be zero. The pieces are checked as if
any offset were aligned, and then the alignment itself is to blame. -/
def validate (l : Layout) (flavor : Flavor) (regionSize quantumAlign : Nat) :
    Except Abort Unit :=
  let report (r : Except LayoutFault Unit) : Except Abort Unit :=
    r.mapError fun fault => .error (.invalidDescriptor (.layout fault))
  if quantumAlign = 0 then do
    report (l.checkPresence flavor)
    report (checkPieces regionSize (l.pieces 1))
    .error (.misuse .zeroAlignment)
  else
    report (l.check flavor regionSize quantumAlign)

end SharedQueue.Layout
