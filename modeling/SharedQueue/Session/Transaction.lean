/-
SharedQueue.Session.Transaction — a transaction that a script holds open.

* `OpenTx` — the transaction, its handle, and how it is to end.
* `Session.openWrite`, `openRead` — how it begins.
* `OpenTx.set`, `copyIn`, `get`, `copyOut` — what is done with its places.
* `OpenTx.close` — how it ends: committed, or let go of.

While a transaction is open everybody else goes on, so the memory is looked
up anew for each of these.
-/
import SharedQueue.Session.Step

namespace SharedQueue

/-- A transaction that a script holds open. -/
structure OpenTx where
  handle : String
  type : ElementType
  queue : Queue type
  tx : Transaction
  /-- It fills slots, and does not read them. -/
  writes : Bool
  /-- It is to be committed. -/
  commit : Bool

namespace Session

/-- Opens a write. -/
def openWrite (s : Session) (handle : String) (h : Handle) (count : Nat) (commit : Bool) :
    Except Error (OpenTx × Session) := do
  let (tx, m) ← h.queue.beginWrite (h.queue.memory s.store) count
  return (⟨handle, h.type, h.queue, tx, true, commit⟩, s.setMemory h m)

/-- Opens a read. The handle's cursor may have moved, even if there is
nothing to read. -/
def openRead (s : Session) (handle : String) (h : Handle) (count : Nat) (commit : Bool) :
    Session × Except Error OpenTx :=
  let (r, queue) := h.queue.beginRead (h.queue.memory s.store) count
  (s.setHandle handle ⟨h.type, queue⟩,
    r.map fun tx => ⟨handle, h.type, queue, tx, false, commit⟩)

end Session

namespace OpenTx

/-- The memory that the transaction is about. -/
def memory (o : OpenTx) (s : Session) : Memory := o.queue.memory s.store

/-- Changes the memory, unless the caller broke a precondition. -/
def update (o : OpenTx) (s : Session) (r : Except Misuse Memory) : Session × TxAnswer :=
  match r with
  | .ok m => (s.setMemory ⟨o.type, o.queue⟩ m, .done (.ok ()))
  | .error misuse => (s, .done (.error misuse))

def set (o : OpenTx) (s : Session) (place : Nat) (value : Literal) : Session × TxAnswer :=
  o.update s (o.queue.set (o.memory s) o.tx place (o.type.ofLiteral value))

def copyIn (o : OpenTx) (s : Session) (data : Batch) : Session × TxAnswer :=
  o.update s (o.queue.copyIn (o.memory s) o.tx (data.values o.type))

def get (o : OpenTx) (s : Session) (place : Nat) : TxAnswer :=
  .element o.type (o.queue.get (o.memory s) o.tx place)

def copyOut (o : OpenTx) (s : Session) (length : Nat) : TxAnswer :=
  .elements o.type (o.queue.copyOut (o.memory s) o.tx length)

/-- The bit that a commit raises. -/
def bit (o : OpenTx) : UInt32 := if o.writes then notEmpty else notFull

/-- Ends the transaction: what the session becomes, and what the commit
answered, if there was one. -/
def close (o : OpenTx) (s : Session) : Session × Option (Except Error Unit) :=
  if !o.commit then (s, none)
  else if o.writes then
    (s.setMemory ⟨o.type, o.queue⟩ (o.queue.commitWrite (o.memory s) o.tx), some (.ok ()))
  else
    let (r, queue, m) := o.queue.commitRead (o.memory s) o.tx
    ((s.setMemory ⟨o.type, o.queue⟩ m).setHandle o.handle ⟨o.type, queue⟩, some r)

end OpenTx

end SharedQueue
