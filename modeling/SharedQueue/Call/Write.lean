/-
SharedQueue.Call.Write — writing, step by step.

* `WriteCall` — a batch to be written, and how to wait while there is no
  room; without a way to wait the call is a single attempt.
* `WritePoint` — where the call stands between two atomic steps.
* `WriteCall.step` — the steps: an attempt loads both counters, decides,
  raises the reservation, fills the slots, moves the write counter and
  wakes the readers. If it has to wait it goes through the routine of
  `SharedQueue.Call` and tries again.
* `WriteCall.startOn`, `startOwn` — the checks that come before the first
  step.
-/
import SharedQueue.Call

namespace SharedQueue

/-- A batch to be written. -/
structure WriteCall (t : ElementType) where
  queue : Queue t
  data : List t.Value
  waiting : Option Waiting

/-- Where a write stands between two steps. -/
inductive WritePoint
  /-- Before loading the write counter. -/
  | begin
  /-- Before loading the reader's position and deciding. -/
  | judge (pos : UInt64)
  | reserve (pos : UInt64)
  | fill (pos : UInt64)
  | publish (pos : UInt64)
  /-- Before raising the bit of the queue's own flag. -/
  | raiseOwn
  | signalOwn
  /-- Before raising the bits that the caller asked for. -/
  | raiseNotify
  | signalNotify
  | done
  /-- There was no room: before looking at the clock. -/
  | expire
  | clear
  | observe
  /-- Before loading the write counter for the second look. -/
  | recount (seen : UInt32)
  | recheck (seen : UInt32) (pos : UInt64)
  | park (seen : UInt32)
deriving DecidableEq, Repr

namespace WriteCall

variable {t : ElementType}

/-- What a step of a write leads to. -/
abbrev Next := Move WritePoint (Except Error Unit)

/-- The position behind the batch. -/
def stop (c : WriteCall t) (pos : UInt64) : UInt64 := pos + UInt64.ofNat c.data.length

/-- A failed attempt is waited out if it says "not yet" and there is a way
to wait. -/
def refuse (c : WriteCall t) (e : Error) : Next :=
  match c.waiting with
  | some _ => if e.retryable then .go .expire else .finish (.error e)
  | none => .finish (.error e)

/-- After the queue's own flag comes the one that the caller named. -/
def afterOwn (c : WriteCall t) : WritePoint :=
  match c.waiting with
  | some _ => .raiseNotify
  | none => .done

/-- Changes the queue's memory. -/
def change (c : WriteCall t) (s : Store) (f : Memory → Memory) : Store :=
  s.update c.queue.region.memory f

/-- One atomic step. -/
def step (c : WriteCall t) (now : Instant) (s : Store) (p : WritePoint) : Store × Next :=
  let q := c.queue
  let m := q.memory s
  match p with
  | .begin => (s, .go (.judge (q.writePos m)))
  | .judge pos =>
    match q.flavor.checkWrite q.capacity pos (q.readPos m) c.data.length with
    | .error e => (s, c.refuse e)
    | .ok () =>
      (s, .go (if q.descriptor.writeReserve.isSome then .reserve pos else .fill pos))
  | .reserve pos => (c.change s fun m => q.reserve m (c.stop pos), .go (.fill pos))
  | .fill pos => (c.change s fun m => q.fill m pos c.data, .go (.publish pos))
  | .publish pos =>
    (c.change s fun m => q.publish m (c.stop pos),
      .go (if q.flagWord?.isSome then .raiseOwn else c.afterOwn))
  | .raiseOwn =>
    match q.flagWord? with
    | none => (s, .go c.afterOwn)
    | some w =>
      (s.raiseWord w notEmpty,
        .go (if EventFlag.signals (s.wordBits w) notEmpty then .signalOwn else c.afterOwn))
  | .signalOwn =>
    match q.flagWord? with
    | none => (s, .go c.afterOwn)
    | some w => (s, .signal w notEmpty c.afterOwn)
  | .done => (s, .finish (.ok ()))
  | p =>
    match c.waiting with
    | none => (s, .finish (.ok ()))
    | some wait =>
      match p with
      | .raiseNotify =>
        (s.raiseWord wait.flag wait.notifyBits,
          .go (if EventFlag.signals (s.wordBits wait.flag) wait.notifyBits
            then .signalNotify else .done))
      | .signalNotify => (s, .signal wait.flag wait.notifyBits .done)
      | .expire =>
        (s, if wait.deadline.expired now then .finish (.error .timeout) else .go .clear)
      | .clear => (s.clearWord wait.flag wait.waitBits, .go .observe)
      | .observe =>
        let seen := s.wordBits wait.flag
        (s, .go (if seen &&& wait.waitBits = 0 then .recount seen else .begin))
      | .recount seen => (s, .go (.recheck seen (q.writePos m)))
      | .recheck seen pos =>
        let room := Flavor.availableToWrite q.capacity pos (q.readPos m)
        (s, .go (if c.data.length ≤ room then .begin else .park seen))
      | .park seen =>
        (s, if s.wordBits wait.flag = seen
          then .park wait.flag wait.waitBits wait.deadline .begin else .go .begin)
      | _ => (s, .go .begin)

/-- How a blocking write of this data on the given flag begins. -/
def startOn (data : List t.Value) (waitBits notifyBits : UInt32) : Next :=
  if data.isEmpty then .finish (.ok ())
  else if waitBits = 0 ∨ notifyBits = 0 then .finish (.error .emptyBitmask)
  else .go .begin

/-- How a blocking write of this data on the queue's own flag begins. -/
def startOwn (q : Queue t) (data : List t.Value) (waitBits notifyBits : UInt32) : Next :=
  if data.isEmpty then .finish (.ok ())
  else if q.flagWord?.isNone then .finish (.error .noEventFlag)
  else startOn data waitBits notifyBits

end WriteCall

end SharedQueue
