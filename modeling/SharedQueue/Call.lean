/-
SharedQueue.Call — what blocking calls have in common.

* `Waiting` — how a call waits: on which flag, for which bits, what it
  raises when it is done, and until when.
* `Store.wordBits`, `raiseWord`, `clearWord` — the atomic accesses to a flag
  word, wherever it lies.

A call waits by a fixed routine. After an attempt that could not succeed yet
it clears the bits it waits for, looks at the flag word, looks once more
whether it could succeed, and only then sleeps, provided that the word is
still the one it saw. Whoever makes room or data after the second look
changes the word first, so the sleep does not begin, or signals it after, so
the sleep ends.
-/
import SharedQueue.Queue.Transfer
import SharedQueue.Schedule

namespace SharedQueue

/-- How a call waits. -/
structure Waiting where
  flag : FlagWord
  /-- Any of these bits ends the sleep. -/
  waitBits : UInt32
  /-- These bits are raised once the call has succeeded. -/
  notifyBits : UInt32
  deadline : Deadline
deriving DecidableEq, Repr

namespace Store

/-- Changes a memory. -/
def update (s : Store) (id : MemoryId) (f : Memory → Memory) : Store :=
  s.setMemory id (f (s.memory id))

/-- The bits of a flag word. -/
def wordBits (s : Store) (w : FlagWord) : UInt32 := EventFlag.bits (s.memory w.memory) w.offset

/-- Sets bits of a flag word. -/
def raiseWord (s : Store) (w : FlagWord) (mask : UInt32) : Store :=
  s.update w.memory fun m => EventFlag.raise m w.offset mask

/-- Clears bits of a flag word. -/
def clearWord (s : Store) (w : FlagWord) (mask : UInt32) : Store :=
  s.update w.memory fun m => EventFlag.clear m w.offset mask

end Store

end SharedQueue
