/-
SharedQueue.Session.Stream — one side of a stream.

A stream has a side that writes numbers that count up and a side that reads
them. The sides share nothing but the queue. Each of them makes one call
after the other until the numbers are used up, or until a call fails.

* `StreamSide.next?` — the next call, if there is one.
* `StreamSide.succeeded` — whether a side goes on after an answer.
-/
import SharedQueue.Session.Step

namespace SharedQueue

/-- One side of a stream. -/
structure StreamSide where
  handle : String
  /-- This side writes. -/
  writes : Bool
  total : Nat
  chunk : Nat

namespace StreamSide

/-- The time that a call waits. -/
def callTimeout : Duration := 10 * nanosPerSecond

/-- The size of the next batch, from the number `place` on. -/
def nextBatch (side : StreamSide) (place : Nat) : Nat := min side.chunk (side.total - place)

/-- The next call, unless the numbers are used up. -/
def next? (side : StreamSide) (place : Nat) : Option Call :=
  let count := side.nextBatch place
  if count = 0 then none
  else if side.writes then
    some (.write side.handle (.sequence place count)
      ⟨none, notFull, notEmpty, some callTimeout⟩)
  else
    some (.read side.handle count 0 ⟨none, notEmpty, notFull, some callTimeout⟩)

/-- The answer says that the batch went through. -/
def succeeded : Answer → Bool
  | .unit (.ok ()) => true
  | .elements _ (.ok ()) _ => true
  | _ => false

end StreamSide

end SharedQueue
