/-
SharedQueue.Queue.Transaction — quanta borrowed in place.

A transaction names the positions it is about; opening one moves neither
counter. The types say what each step can change: opening a write may raise
the reservation in memory, opening a read may move the handle's cursor,
filling in changes memory only, and looking changes nothing.

* `Queue.beginWrite`, `set`, `copyIn`, `commitWrite` — a write: the slots
  are filled in any order, and published together. Leaving out the commit
  publishes nothing.
* `Queue.beginRead`, `get`, `copyOut`, `commitRead` — a read: the quanta are
  looked at in place and released together. In an unsynchronized queue the
  commit tells whether the writer may have touched them in the meantime.
-/
import SharedQueue.Queue.Slots

namespace SharedQueue

/-- Positions that are being written or read. -/
structure Transaction where
  pos : UInt64
  count : Nat
deriving DecidableEq, Repr

/-- The position after the last one. -/
def Transaction.stop (tx : Transaction) : UInt64 := tx.pos + UInt64.ofNat tx.count

namespace Queue

variable {t : ElementType}

/-! ## The flag and the reservation -/

/-- Raises bits in the queue's own flag, if it has one. -/
def notify (q : Queue t) (m : Memory) (mask : UInt32) : Memory :=
  match q.descriptor.eventFlag with
  | some g => EventFlag.raise m g.offset mask
  | none => m

/-- Announces that slots up to `stop` are about to be overwritten. The
reservation never goes back, even if nothing is published. -/
def reserve (q : Queue t) (m : Memory) (stop : UInt64) : Memory :=
  match q.descriptor.writeReserve with
  | some g => m.store64 g.offset (max (m.load64 g.offset) stop)
  | none => m

/-! ## Writing -/

/-- Opens a write of `count` quanta behind the published ones. -/
def beginWrite (q : Queue t) (m : Memory) (count : Nat) : Except Error (Transaction × Memory) := do
  let pos := q.writePos m
  q.flavor.checkWrite q.capacity pos (q.readPos m) count
  let tx : Transaction := ⟨pos, count⟩
  return (tx, if count = 0 then m else q.reserve m tx.stop)

/-- Puts a quantum into the `i`-th place of a write. -/
def set (q : Queue t) (m : Memory) (tx : Transaction) (i : Nat) (v : t.Value) :
    Except Misuse Memory :=
  if i < tx.count then .ok (q.storeSlot m ((q.runs tx.pos tx.count).slot i) v)
  else .error (.indexOutOfRange i tx.count)

/-- Puts quanta into the slots of a stretch, run by run. -/
def fill (q : Queue t) (m : Memory) (pos : UInt64) (data : List t.Value) : Memory :=
  let r := q.runs pos data.length
  q.storeSlots (q.storeSlots m r.start (data.take r.first)) 0 (data.drop r.first)

/-- Puts quanta into all places of a write. -/
def copyIn (q : Queue t) (m : Memory) (tx : Transaction) (data : List t.Value) :
    Except Misuse Memory :=
  if data.length = tx.count then .ok (q.fill m tx.pos data)
  else .error (.sourceLength data.length tx.count)

/-- Moves the write counter. -/
def publish (q : Queue t) (m : Memory) (pos : UInt64) : Memory :=
  m.store64 q.descriptor.writeCounter.offset pos

/-- Publishes the quanta of a write, and says so. A write of nothing leaves
everything as it is. -/
def commitWrite (q : Queue t) (m : Memory) (tx : Transaction) : Memory :=
  if tx.count = 0 then m else q.notify (q.publish m tx.stop) notEmpty

/-! ## Reading -/

/-- Moves the handle's cursor to where a decision left it. -/
def follow (q : Queue t) (pos : UInt64) : Queue t := { q with cursor := q.cursor.follow pos }

/-- Opens a read of the next `count` quanta. The handle comes back with its
cursor moved if it was overrun. -/
def beginRead (q : Queue t) (m : Memory) (count : Nat) :
    Except Error Transaction × Queue t :=
  let r := q.flavor.checkRead q.capacity (q.writePos m) (q.readPos m) count
  (r.answer.map fun pos => ⟨pos, count⟩, q.follow r.cursor)

/-- The quantum in the `i`-th place of a read. -/
def get (q : Queue t) (m : Memory) (tx : Transaction) (i : Nat) : Except Misuse t.Value :=
  if i < tx.count then .ok (q.loadSlot m ((q.runs tx.pos tx.count).slot i))
  else .error (.indexOutOfRange i tx.count)

/-- The quanta in the slots of a stretch, run by run. -/
def take (q : Queue t) (m : Memory) (pos : UInt64) (count : Nat) : List t.Value :=
  let r := q.runs pos count
  q.loadSlots m r.start r.first ++ q.loadSlots m 0 r.second

/-- All quanta of a read, for a destination of the given length. -/
def copyOut (q : Queue t) (m : Memory) (tx : Transaction) (length : Nat) :
    Except Misuse (List t.Value) :=
  if length = tx.count then .ok (q.take m tx.pos tx.count)
  else .error (.destinationLength length tx.count)

/-- Moves the reader's position. -/
def release (q : Queue t) (m : Memory) (pos : UInt64) : Queue t × Memory :=
  let (cursor, m) := q.cursor.store m pos
  ({ q with cursor }, m)

/-- Releases the quanta of a read, unless they may have been overwritten. A
read of nothing leaves everything as it is. -/
def commitRead (q : Queue t) (m : Memory) (tx : Transaction) :
    Except Error Unit × Queue t × Memory :=
  if tx.count = 0 then (.ok (), q, m)
  else
    let writePos := q.writePos m
    let reserved := q.reserved m writePos
    let r := q.flavor.checkCommit q.capacity writePos reserved tx.pos (q.readPos m)
    match r.answer with
    | .error e => (.error e, q.follow r.cursor, m)
    | .ok () =>
      let (q, m) := q.release m tx.stop
      (.ok (), q, q.notify m notFull)

end Queue

end SharedQueue
