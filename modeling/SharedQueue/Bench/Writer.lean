/-
SharedQueue.Bench.Writer — the program that fills a queue.

* `WriterState` — where the program stands: it creates the queue and
  publishes the descriptor, writes the stream batch by batch, and then
  lingers so that readers can finish.
* `writeDone` — what the answer to one batch means: a batch that landed is
  done with, and one that timed out is tried again.
* `WriterState.step` — the program, step by step.
-/
import SharedQueue.Bench.Host

namespace SharedQueue.Bench

/-- Where the writing program stands. -/
inductive WriterState
  /-- Before the queue is created. -/
  | launch
  /-- `written` quanta are published; before the next batch. -/
  | batch (queue : Queue quantum) (written : Nat)
  /-- In the middle of writing a batch. -/
  | writing (call : WriteCall quantum) (written : Nat) (point : WritePoint)
  /-- After the last batch: until when to stay. -/
  | linger (queue : Queue quantum) (stay : Instant)

/-- What the writing program ends in: the quanta that nobody read. -/
abbrev WriterResult := Except Failure Nat

namespace WriterState

/-- The time between two looks at whether the readers are done. -/
def lingerStep : Duration := milliseconds 10

/-- The size of the next batch. -/
def nextBatch (c : WriterConfig) (written : Nat) : Nat := min c.batch (c.messages - written)

/-- Ends the program, which gives the queue up. -/
def stop (host : Host) (queue : Queue quantum) (r : WriterResult) :
    Host × Move WriterState WriterResult :=
  ({ host with store := host.store.release queue.region }, .finish r)

/-- After the answer to a batch of `count` quanta. -/
def writeDone (host : Host) (queue : Queue quantum) (written count : Nat)
    (answer : Except Error Unit) : Host × Move WriterState WriterResult :=
  match answer with
  | .ok () => (host, .go (.batch queue (written + count)))
  | .error .timeout => (host, .go (.batch queue written))
  | .error e => stop host queue (.error (.queue e))

/-- Creates the queue and publishes its descriptor. -/
def launched (c : WriterConfig) (now : Instant) (host : Host) :
    Host × Move WriterState WriterResult :=
  match Queue.create quantum c.flavor c.queue host.store with
  | .error e => (host, .finish (.error (.queue e)))
  | .ok (queue, store) =>
    let host := { host with store }
    match queue.descriptor.save host.files c.descriptorPath with
    | .error e => stop host queue (.error (.queue e))
    | .ok files =>
      ({ host with files }, .pause (now + milliseconds c.startupDelayMs) (.batch queue 0))

/-- The next batch, or the end of the stream. `interrupted` tells that the
program was asked to stop. -/
def nextWrite (c : WriterConfig) (interrupted : Bool) (now : Instant) (host : Host)
    (queue : Queue quantum) (written : Nat) : Host × Move WriterState WriterResult :=
  if c.messages ≤ written ∨ interrupted then
    (host, .go (.linger queue (now + milliseconds c.lingerMs)))
  else
    let count := nextBatch c written
    let data := samples written count
    match WriteCall.startOwn queue data notFull notEmpty with
    | .finish answer => writeDone host queue written count answer
    | _ =>
      let waiting : Option Waiting := queue.flagWord?.map fun flag => {
        flag
        waitBits := notFull
        notifyBits := notEmpty
        deadline := Deadline.after now (some (milliseconds c.timeoutMs)) }
      (host, .go (.writing ⟨queue, data, waiting⟩ written .begin))

/-- Stays until the time is over or, where readers can be seen, until they
have read everything. -/
def lingering (interrupted : Bool) (now : Instant) (host : Host) (queue : Queue quantum)
    (stay : Instant) : Host × Move WriterState WriterResult :=
  let pending := queue.availableToRead (queue.memory host.store)
  if stay ≤ now ∨ interrupted ∨ (queue.flavor = .synchronized ∧ pending = 0) then
    stop host queue (.ok pending)
  else
    (host, .pause (now + lingerStep) (.linger queue stay))

/-- One step of the program. -/
def step (c : WriterConfig) (interrupted : Bool) (now : Instant) (host : Host)
    (state : WriterState) : Host × Move WriterState WriterResult :=
  match state with
  | launch => launched c now host
  | batch queue written => nextWrite c interrupted now host queue written
  | writing call written point =>
    let (store, move) := call.step now host.store point
    let host := { host with store }
    move.within host (.writing call written)
      (writeDone host call.queue written call.data.length)
  | linger queue stay => lingering interrupted now host queue stay

end WriterState

end SharedQueue.Bench
