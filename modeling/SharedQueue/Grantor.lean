/-
SharedQueue.Grantor — a range of bytes inside a shared region.

* `Grantor` — an offset and an extent.
* `Grantor.Covers` — the bytes that belong to the range; this is what
  `Grantor.overlaps` and the bounds checks of a layout are about.
* `Part` — the pieces of a queue that each get a range of their own.

Offsets and extents are natural numbers: adding them never wraps, so a
range that would run past the largest address is simply a range that ends
outside every region.
-/

namespace SharedQueue

/-- One more than the largest number that a 64-bit word can hold. -/
def wordLimit : Nat := UInt64.size

/-- A range of bytes of a region. -/
structure Grantor where
  /-- The first byte. -/
  offset : Nat
  /-- The number of bytes. -/
  extent : Nat
deriving DecidableEq, Repr, Inhabited

namespace Grantor

/-- The first byte after the range. -/
def stop (g : Grantor) : Nat := g.offset + g.extent

/-- The byte at `a` belongs to the range. -/
def Covers (g : Grantor) (a : Nat) : Prop := g.offset ≤ a ∧ a < g.stop

instance (g : Grantor) (a : Nat) : Decidable (g.Covers a) :=
  inferInstanceAs (Decidable (_ ∧ _))

/-- Each range begins before the other one ends. -/
def overlaps (g h : Grantor) : Bool :=
  decide (g.offset < h.stop) && decide (h.offset < g.stop)

/-- The range as messages show it. -/
def describe (g : Grantor) : String :=
  "Grantor \x7b offset: " ++ toString g.offset ++ ", extent: " ++ toString g.extent ++ " \x7d"

end Grantor

/-- The pieces of a queue inside its region. -/
inductive Part
  /-- The position up to which quanta are published. -/
  | writeCounter
  /-- The shared position of the one reader. -/
  | readCounter
  /-- The position up to which slots may be overwritten. -/
  | writeReservation
  /-- The word that carries wake-up bits. -/
  | eventFlag
  /-- The slots. -/
  | data
deriving DecidableEq, Repr, Inhabited

/-- The name used in messages. -/
def Part.title : Part → String
  | writeCounter => "write counter"
  | readCounter => "read counter"
  | writeReservation => "write reservation"
  | eventFlag => "event flag"
  | data => "data"

end SharedQueue
