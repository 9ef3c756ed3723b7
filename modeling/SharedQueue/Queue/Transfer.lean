/-
SharedQueue.Queue.Transfer — writing and reading whole batches at once.

* `Queue.write` — all of the data or nothing.
* `Queue.read` — fills the whole buffer or fails. A failure that shows only
  at the commit has already put quanta into the buffer.

A batch of nothing always succeeds and looks at nothing, not even at
whether the reader was overrun.
-/
import SharedQueue.Queue.Transaction

namespace SharedQueue

/-- What a read leaves. -/
structure ReadOutcome (t : ElementType) where
  answer : Except Error Unit
  buffer : List t.Value
  queue : Queue t
  memory : Memory

namespace Queue

variable {t : ElementType}

/-- Writes all of the data or nothing. -/
def write (q : Queue t) (m : Memory) (data : List t.Value) : Except Error Unit × Memory :=
  if data.isEmpty then (.ok (), m)
  else
    match q.beginWrite m data.length with
    | .error e => (.error e, m)
    | .ok (tx, m) => (.ok (), q.commitWrite (q.fill m tx.pos data) tx)

/-- Fills the whole buffer or fails. -/
def read (q : Queue t) (m : Memory) (buffer : List t.Value) : ReadOutcome t :=
  if buffer.isEmpty then ⟨.ok (), buffer, q, m⟩
  else
    match q.beginRead m buffer.length with
    | (.error e, q) => ⟨.error e, buffer, q, m⟩
    | (.ok tx, q) =>
      let taken := q.take m tx.pos tx.count
      let (answer, q, m) := q.commitRead m tx
      ⟨answer, taken, q, m⟩

end Queue

end SharedQueue
