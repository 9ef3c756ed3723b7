/-
SharedQueue.Flavor — the two kinds of queue.

* `Flavor` — `synchronized` has one reader whose position lives in the
  shared region, and a write never overtakes it; `unsynchronized` has any
  number of readers, each with a private position, and a write always
  lands, so a slow reader can be overrun.
* `Flavor.hasReadCounter` / `Flavor.hasReservation` — which shared words a
  flavor needs besides the write counter. The two are opposite: a shared
  read counter makes overruns impossible, and a write reservation is what
  lets a private reader notice one.
-/

namespace SharedQueue

/-- How a queue treats a writer that catches up with unread quanta. -/
inductive Flavor
  /-- One writer, one reader, and no overrun. -/
  | synchronized
  /-- One writer, any number of readers, and writes never wait. -/
  | unsynchronized
deriving DecidableEq, Repr, Inhabited

namespace Flavor

/-- The reader's position is a word of the shared region. -/
def hasReadCounter : Flavor → Bool
  | synchronized => true
  | unsynchronized => false

/-- The writer announces in a shared word how far it is about to write. -/
def hasReservation : Flavor → Bool
  | synchronized => false
  | unsynchronized => true

/-- The name used in messages. -/
def title : Flavor → String
  | synchronized => "Synchronized"
  | unsynchronized => "Unsynchronized"

/-- The name used in configuration files and descriptors. -/
def key : Flavor → String
  | synchronized => "synchronized"
  | unsynchronized => "unsynchronized"

/-- The flavor that a file names. -/
def ofKey? (s : String) : Option Flavor :=
  if s = "synchronized" then some synchronized
  else if s = "unsynchronized" then some unsynchronized
  else none

@[simp] theorem ofKey?_key (k : Flavor) : ofKey? k.key = some k := by
  cases k <;> simp [key, ofKey?]

theorem hasReservation_eq_not (k : Flavor) : k.hasReservation = !k.hasReadCounter := by
  cases k <;> rfl

end Flavor

end SharedQueue
