/-
SharedQueue.Session.Step — what a script asks for.

* `Call` — the requests that can sleep.
* `Step`, `TxStep` — a request, and what can be done inside a transaction:
  something with its places, or any request on other handles.
* `Step.handle?` — the handle that a request is about.
-/
import SharedQueue.Element.Number
import SharedQueue.Session.Action

namespace SharedQueue

/-- Elements as a script writes them. -/
inductive Batch
  | literals (items : List Literal)
  /-- Numbers that count up. -/
  | sequence (start : Int) (length : Nat)
deriving Inhabited

/-- The elements of a batch. -/
def Batch.values (t : ElementType) : Batch → List t.Value
  | literals items => items.map t.ofLiteral
  | sequence start length => (List.range length).map fun (i : Nat) => t.ofNumber (start + (i : Nat))

/-- How a request waits. -/
structure Patience where
  /-- A named flag to wait on, instead of the queue's own. -/
  flag : Option String
  waitBits : UInt32
  notifyBits : UInt32
  timeout : Option Duration
deriving DecidableEq, Repr

/-- What is asked of a flag. -/
inductive FlagRequest
  | wake (mask : UInt32)
  | clear (mask : UInt32)
  | wait (mask : UInt32) (timeout : Option Duration) (consume : Bool)
deriving DecidableEq, Repr

/-- The call that begins now. -/
def FlagRequest.call (now : Instant) : FlagRequest → FlagCall
  | wake mask => .wake mask
  | clear mask => .clear mask
  | wait mask timeout consume => .wait mask (Deadline.after now timeout) consume

/-- A request that can sleep. -/
inductive Call
  | write (handle : String) (data : Batch) (patience : Patience)
  | read (handle : String) (count : Nat) (fill : Int) (patience : Patience)
  | flag (place : FlagPlace) (request : FlagRequest)

/-- The handle that a call is about. -/
def Call.handle? : Call → Option String
  | write handle .. | read handle .. => some handle
  | flag place _ => place.handle?

mutual

/-- A request. -/
inductive Step
  | act (action : Action)
  | call (call : Call)
  /-- A single attempt. -/
  | write (handle : String) (data : Batch)
  /-- A single attempt. -/
  | read (handle : String) (count : Nat) (fill : Int)
  | writeTx (handle : String) (count : Nat) (steps : List TxStep) (commit : Bool)
  | readTx (handle : String) (count : Nat) (steps : List TxStep) (commit : Bool)
  /-- The second request begins after a delay. -/
  | concurrent (first second : Step) (delay : Duration)
  /-- One side writes numbers that count up, the other reads them. -/
  | stream (writer reader : String) (total writeChunk readChunk : Nat)
  | benchRead (handle : String) (config : Bench.ReaderConfig)
  | benchWrite (config : Bench.WriterConfig) (interrupted : Bool)
      (reader : Option Bench.ReaderConfig)

/-- What is done inside a transaction. -/
inductive TxStep
  | set (place : Nat) (value : Literal)
  | copyIn (data : Batch)
  | get (place : Nat)
  | copyOut (length : Nat) (fill : Int)
  | other (step : Step)

end

/-- The handle that a request is about. -/
def Step.handle? : Step → Option String
  | act action => action.handle?
  | call c => c.handle?
  | write handle .. | read handle .. => some handle
  | writeTx handle .. | readTx handle .. | benchRead handle _ => some handle
  | concurrent .. | stream .. | benchWrite .. => none

end SharedQueue
