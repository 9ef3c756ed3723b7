/-
SharedQueue.Call.Flag — calls on an event flag, step by step.

* `FlagCall.start` — the checks that come before the first access.
* `FlagCall.step` — waking raises the bits and then, only if one of them was
  clear before, wakes the sleepers; waiting looks at the word and sleeps
  while it stays as it was seen.
-/
import SharedQueue.Call

namespace SharedQueue

/-- What is asked of a flag. -/
inductive FlagCall
  | wake (mask : UInt32)
  | clear (mask : UInt32)
  /-- Waits for any bit of the mask; `consume` clears those that were seen. -/
  | wait (mask : UInt32) (deadline : Deadline) (consume : Bool)
deriving DecidableEq, Repr

/-- Where a call stands between two steps. -/
inductive FlagPoint
  /-- Before the raising or the clearing. -/
  | begin
  /-- The bits are raised, the sleepers not yet woken. -/
  | signal
  /-- Before looking at the word. -/
  | look
  /-- The word was seen without the bits. -/
  | expire (seen : UInt32)
  | park (seen : UInt32)
  /-- The word was seen with some of the bits. -/
  | consume (seen : UInt32)
  | done
deriving DecidableEq, Repr

namespace FlagCall

/-- What a call answers: the word that it saw, or nothing. -/
abbrev Answer := Except Error (Option UInt32)

/-- An empty mask is refused at once, except by clearing, which then clears
nothing. -/
def start : FlagCall → Move FlagPoint Answer
  | wake mask => if mask = 0 then .finish (.error .emptyBitmask) else .go .begin
  | clear _ => .go .begin
  | wait mask _ _ => if mask = 0 then .finish (.error .emptyBitmask) else .go .look

/-- One step of a call on the word `w`. -/
def step (call : FlagCall) (w : FlagWord) (now : Instant) (s : Store) (p : FlagPoint) :
    Store × Move FlagPoint Answer :=
  match call, p with
  | wake mask, .begin =>
    let before := s.wordBits w
    (s.raiseWord w mask,
      if EventFlag.signals before mask then .go .signal else .finish (.ok none))
  | wake mask, .signal => (s, .signal w mask .done)
  | wake _, _ => (s, .finish (.ok none))
  | clear mask, _ => (s.clearWord w mask, .finish (.ok (some (s.wordBits w &&& mask))))
  | wait mask _ consume, .look =>
    let seen := s.wordBits w
    (s,
      if seen &&& mask = 0 then .go (.expire seen)
      else if consume then .go (.consume seen)
      else .finish (.ok (some seen)))
  | wait _ deadline _, .expire seen =>
    (s, if deadline.expired now then .finish (.error .timeout) else .go (.park seen))
  | wait mask deadline _, .park seen =>
    (s, if s.wordBits w = seen then .park w mask deadline .look else .go .look)
  | wait mask _ _, .consume seen => (s.clearWord w (seen &&& mask), .finish (.ok (some seen)))
  | wait .., _ => (s, .go .look)

end FlagCall

end SharedQueue
