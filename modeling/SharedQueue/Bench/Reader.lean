/-
SharedQueue.Bench.Reader — the program that drains a queue.

* `Tally` — what was received, how often the reader was overrun, and how
  many quanta were not the expected ones.
* `Tally.count` — one quantum more. In a synchronized queue the stream is
  expected from its beginning; a private reader takes the first quantum it
  sees, and again after an overrun.
* `ReaderState.step` — the program, step by step: it waits for the
  descriptor, joins the queue, and reads batch by batch until it has all or
  no more data comes.
-/
import SharedQueue.Bench.Host

namespace SharedQueue.Bench

/-- What was received. -/
structure Tally where
  received : Nat := 0
  mismatches : Nat := 0
  overflows : Nat := 0
  /-- The next quantum, if it is known. -/
  expected : Option quantum.Value := none

namespace Tally

/-- Before the first quantum. -/
def start (flavor : Flavor) : Tally :=
  { expected := if flavor = .synchronized then some (sample 0) else none }

/-- One quantum more. -/
def count (t : Tally) (v : quantum.Value) : Tally :=
  let wrong := match t.expected with
    | some e => decide (v ≠ e)
    | none => false
  { t with
    received := t.received + 1
    mismatches := if wrong then t.mismatches + 1 else t.mismatches
    expected := some (BitVec.add (n := 16) v (1 : BitVec 16)) }

/-- A batch more. -/
def countAll (t : Tally) (vs : List quantum.Value) : Tally := vs.foldl count t

/-- The reader was overrun: what comes next is not known. -/
def overrun (t : Tally) : Tally := { t with overflows := t.overflows + 1, expected := none }

end Tally

/-- Where the reading program stands. -/
inductive ReaderState
  /-- Waiting for the descriptor since a time. -/
  | seek (since : Instant)
  | join (descriptor : Descriptor)
  /-- Before the next batch. -/
  | batch (queue : Queue quantum) (tally : Tally)
  /-- In the middle of reading a batch. -/
  | reading (call : ReadCall) (tally : Tally) (state : ReadState quantum)

/-- What the reading program ends in. -/
abbrev ReaderResult := Except Failure Tally

namespace ReaderState

/-- The time between two looks for the descriptor. -/
def seekStep : Duration := milliseconds 20

/-- Looks for the descriptor; it may not exist yet, or be half written. -/
def seeking (c : ReaderConfig) (now : Instant) (host : Host) (since : Instant) :
    Host × Move ReaderState ReaderResult :=
  match Descriptor.load host.files c.descriptorPath with
  | .ok d => (host, .go (.join d))
  | .error e =>
    if now < since + milliseconds c.attachTimeoutMs then
      (host, .pause (now + seekStep) (.seek since))
    else (host, .finish (.error (.queue e)))

/-- Joins the queue. -/
def joining (c : ReaderConfig) (host : Host) (d : Descriptor) :
    Host × Move ReaderState ReaderResult :=
  match Queue.attach quantum c.flavor d host.store with
  | .error e => (host, .finish (.error (.queue e)))
  | .ok queue =>
    if queue.capacity < c.batch then (host, .finish (.error (.batchOutside queue.capacity)))
    else (host, .go (.batch queue (.start c.flavor)))

/-- After the answer to a batch. -/
def readDone (host : Host) (tally : Tally) (r : ReadResult quantum) :
    Host × Move ReaderState ReaderResult :=
  match r.answer with
  | .ok () => (host, .go (.batch r.queue (tally.countAll r.buffer)))
  | .error (.overflow ..) => (host, .go (.batch r.queue tally.overrun))
  | .error .timeout => (host, .finish (.ok tally))
  | .error e => (host, .finish (.error (.queue e)))

/-- The size of the next batch. -/
def nextBatch (c : ReaderConfig) (received : Nat) : Nat := min c.batch (c.messages - received)

/-- The next batch, or the end of the stream. -/
def nextRead (c : ReaderConfig) (now : Instant) (host : Host) (queue : Queue quantum)
    (tally : Tally) : Host × Move ReaderState ReaderResult :=
  if c.messages ≤ tally.received then (host, .finish (.ok tally))
  else
    let buffer := List.replicate (nextBatch c tally.received) (sample 0)
    match ReadCall.startOwn queue buffer notEmpty notFull with
    | .finish r => readDone host tally r
    | _ =>
      let waiting : Option Waiting := queue.flagWord?.map fun flag => {
        flag
        waitBits := notEmpty
        notifyBits := notFull
        deadline := Deadline.after now (some (milliseconds c.idleTimeoutMs)) }
      (host, .go (.reading ⟨waiting⟩ tally ⟨queue, buffer, .begin⟩))

/-- One step of the program. -/
def step (c : ReaderConfig) (now : Instant) (host : Host) (state : ReaderState) :
    Host × Move ReaderState ReaderResult :=
  match state with
  | seek since => seeking c now host since
  | join d => joining c host d
  | batch queue tally => nextRead c now host queue tally
  | reading call tally state =>
    let (store, move) := call.step now host.store state
    let host := { host with store }
    move.within host (.reading call tally) (readDone host tally)

end ReaderState

end SharedQueue.Bench
