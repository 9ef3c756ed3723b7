/-
SharedQueue.Bench.Host — where the measuring programs run.

* `Host` — shared memory and a directory: all that the programs share.
* `quantum` — the elements that they send: 16-bit numbers that count up and
  start again at zero.
* `Failure` — how a program can fail.
-/
import SharedQueue.Bench.Config
import SharedQueue.Call.Read
import SharedQueue.Call.Write

namespace SharedQueue.Bench

/-- Shared memory and a directory. -/
structure Host where
  store : Store
  files : Directory

/-- The type of the elements that are sent. -/
abbrev quantum : ElementType := .primitive .u16

/-- The element at a place of the stream. -/
def sample (n : Nat) : quantum.Value := BitVec.ofNat 16 n

/-- The elements of a batch that begins at a place of the stream. -/
def samples (start count : Nat) : List quantum.Value :=
  (List.range count).map fun i => sample (start + i)

/-- How a program fails. -/
inductive Failure
  /-- Its settings could not be loaded. -/
  | settings (fault : SettingsFault)
  /-- An operation of the queue failed. -/
  | queue (cause : Error)
  /-- The batch is empty, or larger than the ring. -/
  | batchOutside (limit : Nat)
  | batchEmpty
  /-- Elements came that were not the next ones of the stream. -/
  | outOfSequence (count : Nat)
  | incomplete (received total : Nat)
deriving DecidableEq, Repr

/-- The wording of a failure that is a program's own. -/
def Failure.message? : Failure → Option String
  | batchOutside limit => some s!"batch must be in 1..={limit}"
  | batchEmpty => some "batch must be positive"
  | outOfSequence count => some s!"{count} quanta out of sequence"
  | incomplete received total => some s!"received {received} of {total} quanta"
  | settings _ | queue _ => none

end SharedQueue.Bench
