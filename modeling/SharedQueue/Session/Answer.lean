/-
SharedQueue.Session.Answer — what a script is told.

* `Answer`, `TxAnswer` — one constructor for each shape of an answer.
-/
import SharedQueue.Bench.Reader
import SharedQueue.Bench.Writer
import SharedQueue.Call.Flag
import SharedQueue.Queue.Transfer
import SharedQueue.Session

namespace SharedQueue

/-- All about a handle. -/
structure Portrait where
  descriptor : Descriptor
  owner : Bool
  shown : String
deriving Repr

/-- What lies in a queue's memory. -/
structure Snapshot where
  write : UInt64
  read : Option UInt64
  reserve : Option UInt64
  flag : Option UInt32
  data : List UInt8
deriving DecidableEq, Repr

mutual

/-- What a script is told. -/
inductive Answer
  /-- There is no such object. -/
  | absent
  | unit (result : Except Error Unit)
  | existed (answer : Bool)
  /-- Of a read: the whole buffer. -/
  | elements (type : ElementType) (result : Except Error Unit) (buffer : List type.Value)
  /-- Of a flag: what the call answers, and the word afterwards. -/
  | word (result : FlagCall.Answer) (bits : UInt32)
  | shown (text : String) (bits : UInt32)
  | transaction (length : Nat) (steps : List TxAnswer) (commit : Option (Except Error Unit))
  | runs (runs : Runs)
  | portrait (portrait : Portrait)
  | flag (name : String) (bits : UInt32)
  | region (region : Region)
  | snapshot (snapshot : Snapshot)
  /-- Of the reading program. -/
  | tally (result : Bench.ReaderResult)
  /-- Of the writing program. -/
  | pending (result : Bench.WriterResult)
  /-- Of the programs side by side, the writing one first, and the descriptor
  that they left. -/
  | bench (programs : List Answer) (descriptor : Option Descriptor)
  /-- Of one side of a stream: the answers to its batches. -/
  | batches (answers : List Answer)
  /-- Of requests side by side. -/
  | together (answers : List Answer)

/-- What a step inside a transaction is told. -/
inductive TxAnswer
  | done (result : Except Misuse Unit)
  | element (type : ElementType) (result : Except Misuse type.Value)
  | elements (type : ElementType) (result : Except Misuse (List type.Value))
  | other (answer : Answer) (view : Option View)

end

end SharedQueue
