/-
SharedQueue.Descriptor — all that a peer needs to join a queue.

* `Descriptor` — the name of the region, the shape of the queue and the
  place of each piece.
* `Descriptor.check` — what can be said against a descriptor without
  looking at the region: it is put together by a peer, so nothing in it is
  taken on trust.
* `Descriptor.toText`, `Descriptor.ofText` — the descriptor as a TOML
  document, to be handed over in a file.
-/
import SharedQueue.Layout.Check
import SharedQueue.Toml.Record

namespace SharedQueue

/-- All that a peer needs to join a queue. -/
structure Descriptor where
  /-- The name of the region. -/
  name : String
  flavor : Flavor
  quantumSize : Nat
  quantumCount : Nat
  regionSize : Nat
  writeCounter : Grantor
  data : Grantor
  readCounter : Option Grantor
  writeReserve : Option Grantor
  eventFlag : Option Grantor
deriving DecidableEq, Repr

namespace Descriptor

/-- The descriptor of a queue with the given layout. -/
def ofLayout (name : String) (flavor : Flavor) (quantumSize quantumCount : Nat) (l : Layout) :
    Descriptor where
  name := name
  flavor := flavor
  quantumSize := quantumSize
  quantumCount := quantumCount
  regionSize := l.size
  writeCounter := l.writeCounter
  data := l.data
  readCounter := l.readCounter
  writeReserve := l.writeReserve
  eventFlag := l.eventFlag

/-- The layout that the descriptor claims. -/
def layout (d : Descriptor) : Layout where
  readCounter := d.readCounter
  writeCounter := d.writeCounter
  writeReserve := d.writeReserve
  eventFlag := d.eventFlag
  data := d.data
  size := d.regionSize

@[simp] theorem layout_ofLayout (name : String) (flavor : Flavor) (size count : Nat)
    (l : Layout) : (ofLayout name flavor size count l).layout = l := rfl

/-! ## Checks -/

/-- The region has a name, and the slots fill the data range exactly. -/
def checkShape (d : Descriptor) : Except DescriptorFault Unit :=
  if d.name.isEmpty then .error .emptyName
  else if d.quantumSize = 0 ∨ d.quantumCount = 0 then
    .error (.degenerateShape d.quantumCount d.quantumSize)
  else if d.quantumSize * d.quantumCount ≠ d.data.extent then
    .error (.extentMismatch d.data.extent d.quantumCount d.quantumSize)
  else .ok ()

/-- The descriptor holds together, for elements of the given alignment. -/
def check (d : Descriptor) (quantumAlign : Nat) : Except DescriptorFault Unit := do
  d.checkShape
  (d.layout.check d.flavor d.regionSize quantumAlign).mapError .layout

/-- `check` for an alignment that may be zero. -/
def validate (d : Descriptor) (quantumAlign : Nat) : Except Abort Unit := do
  d.checkShape.mapError fun fault => .error (.invalidDescriptor fault)
  d.layout.validate d.flavor d.regionSize quantumAlign

/-! ## As a document -/

/-- The section of a range. -/
def rangeSection (name : String) (range : Option Grantor) : List (String × Toml.Fields) :=
  match range with
  | some g => [(name, [("offset", .number g.offset), ("extent", .number g.extent)])]
  | none => []

/-- The descriptor as a record: the shape, then the ranges. -/
def sheet (d : Descriptor) : Toml.Sheet where
  fields := [
    ("os_id", .text d.name),
    ("flavor", .text d.flavor.key),
    ("quantum_size", .number d.quantumSize),
    ("quantum_count", .number d.quantumCount),
    ("region_size", .number d.regionSize)]
  sections :=
    rangeSection "write_counter" (some d.writeCounter)
      ++ rangeSection "data" (some d.data)
      ++ rangeSection "read_counter" d.readCounter
      ++ rangeSection "write_reserve" d.writeReserve
      ++ rangeSection "event_flag" d.eventFlag

/-- The text of the descriptor. -/
def toText (d : Descriptor) : Except Error String := d.sheet.write?.mapError .encode

/-- A range, from a document. -/
def range? (v : Toml.Value) : Option Grantor := do
  let offset ← v.required? 0 "offset" (·.natural?)
  let extent ← v.required? 1 "extent" (·.natural?)
  return ⟨offset, extent⟩

/-- A flavor, from a document. -/
def flavor? (v : Toml.Value) : Option Flavor := v.choice? Flavor.ofKey?

/-- A descriptor, from a document. -/
def ofValue? (v : Toml.Value) : Option Descriptor := do
  let name ← v.required? 0 "os_id" (·.text?)
  let flavor ← v.required? 1 "flavor" flavor?
  let quantumSize ← v.required? 2 "quantum_size" (·.natural?)
  let quantumCount ← v.required? 3 "quantum_count" (·.natural?)
  let regionSize ← v.required? 4 "region_size" (·.natural?)
  let writeCounter ← v.required? 5 "write_counter" range?
  let data ← v.required? 6 "data" range?
  let readCounter ← v.optional? 7 "read_counter" range?
  let writeReserve ← v.optional? 8 "write_reserve" range?
  let eventFlag ← v.optional? 9 "event_flag" range?
  return {
    name, flavor, quantumSize, quantumCount, regionSize
    writeCounter, data, readCounter, writeReserve, eventFlag }

/-- The descriptor that a text spells. -/
def ofText (text : String) : Except Error Descriptor :=
  match (Toml.parse? text).bind ofValue? with
  | some d => .ok d
  | none => .error .decode

end Descriptor

end SharedQueue
