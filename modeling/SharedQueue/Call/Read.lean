/-
SharedQueue.Call.Read — reading, step by step.

* `ReadCall` — how to wait while there is no data; without a way to wait
  the call is a single attempt.
* `ReadState` — the handle, whose cursor moves, the buffer, and the point
  where the call stands between two atomic steps.
* `ReadCall.step` — the steps: an attempt loads the write counter and the
  cursor, decides, copies the quanta out, makes sure that they were not
  overwritten meanwhile, moves the cursor and wakes the writer. If it has to
  wait it goes through the routine of `SharedQueue.Call` and tries again.

Private readers share one bit of the flag, and each of them clears it before
it sleeps, so one can clear a signal that was meant for another. Their
sleeps are therefore cut into slices.
-/
import SharedQueue.Call

namespace SharedQueue

/-- How a read waits. -/
structure ReadCall where
  waiting : Option Waiting

/-- Where a read stands between two steps. -/
inductive ReadPoint
  /-- Before loading the write counter. -/
  | begin
  /-- Before loading the cursor and deciding. -/
  | judge (writePos : UInt64)
  | take (pos : UInt64)
  /-- The quanta are copied: before loading the write counter again. -/
  | confirm (pos : UInt64)
  /-- Before loading the reservation and deciding. -/
  | verify (pos writePos : UInt64)
  | release (pos : UInt64)
  /-- Before raising the bit of the queue's own flag. -/
  | raiseOwn
  | signalOwn
  /-- Before raising the bits that the caller asked for. -/
  | raiseNotify
  | signalNotify
  | done
  /-- There was too little data: before looking at the clock. -/
  | expire
  | clear
  | observe
  /-- Before loading the write counter for the second look. -/
  | recount (seen : UInt32)
  | recheck (seen : UInt32) (writePos : UInt64)
  | park (seen : UInt32)
deriving DecidableEq, Repr

/-- A read in progress. -/
structure ReadState (t : ElementType) where
  queue : Queue t
  buffer : List t.Value
  point : ReadPoint

/-- What a read ends in: the answer, and the handle and buffer. -/
structure ReadResult (t : ElementType) where
  answer : Except Error Unit
  queue : Queue t
  buffer : List t.Value

namespace ReadState

variable {t : ElementType}

/-- What a step of a read leads to. -/
abbrev Next (t : ElementType) := Move (ReadState t) (ReadResult t)

/-- Goes on at a point. -/
def goto (st : ReadState t) (p : ReadPoint) : Next t := .go { st with point := p }

/-- Ends with an answer. -/
def finish (st : ReadState t) (answer : Except Error Unit) : Next t :=
  .finish ⟨answer, st.queue, st.buffer⟩

/-- The state with the cursor where a decision left it. -/
def follow (st : ReadState t) (pos : UInt64) : ReadState t :=
  { st with queue := st.queue.follow pos }

end ReadState

namespace ReadCall

variable {t : ElementType}

/-- A private reader sleeps no longer than this at a time. -/
def slice : Duration := milliseconds 10

/-- When a sleep that begins now ends by itself. -/
def sleepEnd (flavor : Flavor) (deadline : Deadline) (now : Instant) : Deadline :=
  match flavor, deadline with
  | .synchronized, d => d
  | .unsynchronized, none => some (now + slice)
  | .unsynchronized, some t => some (min t (now + slice))

/-- A failed attempt is waited out if it says "not yet" and there is a way
to wait. -/
def refuse (c : ReadCall) (st : ReadState t) (e : Error) : ReadState.Next t :=
  match c.waiting with
  | some _ => if e.retryable then st.goto .expire else st.finish (.error e)
  | none => st.finish (.error e)

/-- After the queue's own flag comes the one that the caller named. -/
def afterOwn (c : ReadCall) : ReadPoint :=
  match c.waiting with
  | some _ => .raiseNotify
  | none => .done

/-- One atomic step. -/
def step (c : ReadCall) (now : Instant) (s : Store) (st : ReadState t) :
    Store × ReadState.Next t :=
  let q := st.queue
  let m := q.memory s
  let count := st.buffer.length
  match st.point with
  | .begin => (s, st.goto (.judge (q.writePos m)))
  | .judge writePos =>
    let r := q.flavor.checkRead q.capacity writePos (q.readPos m) count
    let st := st.follow r.cursor
    match r.answer with
    | .error e => (s, c.refuse st e)
    | .ok pos => (s, st.goto (.take pos))
  | .take pos => (s, { st with buffer := q.take m pos count }.goto (.confirm pos))
  | .confirm pos => (s, st.goto (.verify pos (q.writePos m)))
  | .verify pos writePos =>
    let r := q.flavor.checkCommit q.capacity writePos (q.reserved m writePos) pos (q.readPos m)
    let st := st.follow r.cursor
    match r.answer with
    | .error e => (s, c.refuse st e)
    | .ok () => (s, st.goto (.release pos))
  | .release pos =>
    let (queue, m) := q.release m (pos + UInt64.ofNat count)
    (s.setMemory q.region.memory m,
      { st with queue }.goto (if q.flagWord?.isSome then .raiseOwn else c.afterOwn))
  | .raiseOwn =>
    match q.flagWord? with
    | none => (s, st.goto c.afterOwn)
    | some w =>
      (s.raiseWord w notFull,
        st.goto (if EventFlag.signals (s.wordBits w) notFull then .signalOwn else c.afterOwn))
  | .signalOwn =>
    match q.flagWord? with
    | none => (s, st.goto c.afterOwn)
    | some w => (s, .signal w notFull { st with point := c.afterOwn })
  | .done => (s, st.finish (.ok ()))
  | p =>
    match c.waiting with
    | none => (s, st.finish (.ok ()))
    | some wait =>
      match p with
      | .raiseNotify =>
        (s.raiseWord wait.flag wait.notifyBits,
          st.goto (if EventFlag.signals (s.wordBits wait.flag) wait.notifyBits
            then .signalNotify else .done))
      | .signalNotify => (s, .signal wait.flag wait.notifyBits { st with point := .done })
      | .expire =>
        (s, if wait.deadline.expired now then st.finish (.error .timeout) else st.goto .clear)
      | .clear => (s.clearWord wait.flag wait.waitBits, st.goto .observe)
      | .observe =>
        let seen := s.wordBits wait.flag
        (s, st.goto (if seen &&& wait.waitBits = 0 then .recount seen else .begin))
      | .recount seen => (s, st.goto (.recheck seen (q.writePos m)))
      | .recheck seen writePos =>
        let ready := Flavor.availableToRead writePos (q.readPos m)
        (s, st.goto (if count ≤ ready then .begin else .park seen))
      | .park seen =>
        (s, if s.wordBits wait.flag = seen
          then .park wait.flag wait.waitBits (sleepEnd q.flavor wait.deadline now)
            { st with point := .begin }
          else st.goto .begin)
      | _ => (s, st.goto .begin)

/-- How a blocking read into this buffer on the given flag begins. -/
def startOn (q : Queue t) (buffer : List t.Value) (waitBits notifyBits : UInt32) :
    ReadState.Next t :=
  let st : ReadState t := ⟨q, buffer, .begin⟩
  if buffer.isEmpty then st.finish (.ok ())
  else if waitBits = 0 ∨ notifyBits = 0 then st.finish (.error .emptyBitmask)
  else .go st

/-- How a blocking read into this buffer on the queue's own flag begins. -/
def startOwn (q : Queue t) (buffer : List t.Value) (waitBits notifyBits : UInt32) :
    ReadState.Next t :=
  if buffer.isEmpty then .finish ⟨.ok (), q, buffer⟩
  else if q.flagWord?.isNone then .finish ⟨.error .noEventFlag, q, buffer⟩
  else startOn q buffer waitBits notifyBits

end ReadCall

end SharedQueue
