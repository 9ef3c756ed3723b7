/-
SharedQueue.Admission — may a request for some quanta go ahead?

Positions are 64-bit words that only grow; a position's slot is the
position modulo the capacity. The distance from the reader's position to
the writer's is the number of unread quanta, taken modulo 2^64.

* `checkWrite`, `checkRead`, `checkCommit` — the three decisions of a
  flavor. Only an unsynchronized reader's decisions move its cursor, and
  only to report an overrun.
* `availableToWrite`, `availableToRead` — what the decisions compare with.
* `initialCursor` — which of the two kinds of cursor a flavor gives a handle.
-/
import SharedQueue.Error

namespace SharedQueue

/-- How far `ahead` is in front of `behind`, on the circle of positions. -/
def distance (ahead behind : UInt64) : Nat := (ahead - behind).toNat

theorem distance_self (p : UInt64) : distance p p = 0 := by simp [distance]

/-- What a decision leaves: its answer, and the reader's cursor. -/
structure Ruling (α : Type) where
  answer : Except Error α
  cursor : UInt64

namespace Flavor

/-- The quanta that a write can place. A reader that was overrun leaves no
room; it never makes the room negative. -/
def availableToWrite (capacity : Nat) (writePos readPos : UInt64) : Nat :=
  capacity - distance writePos readPos

/-- The published quanta in front of a reader. -/
def availableToRead (writePos readPos : UInt64) : Nat := distance writePos readPos

/-- A request larger than the ring can never be served. -/
def checkCapacity (capacity count : Nat) : Except Error Unit :=
  if capacity < count then .error (.exceedsCapacity count capacity) else .ok ()

/-- May `count` quanta be written? An unsynchronized write always may, as
long as it fits the ring at all. -/
def checkWrite (flavor : Flavor) (capacity : Nat) (writePos readPos : UInt64) (count : Nat) :
    Except Error Unit := do
  checkCapacity capacity count
  match flavor with
  | .unsynchronized => .ok ()
  | .synchronized =>
    let available := availableToWrite capacity writePos readPos
    if available < count then .error (.insufficientSpace count available) else .ok ()

/-- The reader lost its quanta: it goes on at the write position. -/
def overrun (lag : Nat) (writePos : UInt64) {α : Type} : Ruling α :=
  ⟨.error (.overflow lag writePos), writePos⟩

/-- May `count` quanta be read, and from which position? -/
def checkRead (flavor : Flavor) (capacity : Nat) (writePos cursor : UInt64) (count : Nat) :
    Ruling UInt64 :=
  let available := availableToRead writePos cursor
  if capacity < count then
    ⟨.error (.exceedsCapacity count capacity), cursor⟩
  else if flavor = .unsynchronized ∧ capacity < available then
    overrun available writePos
  else if available < count then
    ⟨.error (.insufficientData count available), cursor⟩
  else
    ⟨.ok cursor, cursor⟩

/-- Were the quanta at `readPos` still untouched when they were copied out?
Every slot below `reserved` may hold newer data, even if nothing of it is
published yet. -/
def checkCommit (flavor : Flavor) (capacity : Nat) (writePos reserved readPos cursor : UInt64) :
    Ruling Unit :=
  match flavor with
  | .synchronized => ⟨.ok (), cursor⟩
  | .unsynchronized =>
    let lag := distance (max reserved writePos) readPos
    if capacity < lag then overrun lag writePos else ⟨.ok (), cursor⟩

/-- The cursor of a new handle: the shared one, or, where each handle has a cursor
of its own, that one. -/
def initialCursor {α : Type} (flavor : Flavor) (shared : Option α) (own : α) : Except Error α :=
  match flavor, shared with
  | .synchronized, some cursor => .ok cursor
  | .synchronized, none => .error (.invalidDescriptor .missingReadCounter)
  | .unsynchronized, _ => .ok own

end Flavor

end SharedQueue
