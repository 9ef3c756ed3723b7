/-
SharedQueue.Session.Action — requests that are carried out in one piece.

* `Action` — a request that never sleeps and of which nobody can see a half:
  getting and letting go of objects, looking, and tampering.
* `Session.act` — what the session becomes, and what the script is told.
-/
import SharedQueue.Session.Answer

namespace SharedQueue

/-- A flag: a queue's own, or one with a name. -/
inductive FlagPlace
  | ofHandle (handle : String)
  | named (flag : String)
deriving DecidableEq, Repr

/-- The handle that a place belongs to. -/
def FlagPlace.handle? : FlagPlace → Option String
  | ofHandle handle => some handle
  | named _ => none

/-- Where a newcomer has a descriptor from. -/
inductive Source
  | ofHandle (handle : String)
  | given (descriptor : Descriptor)
  | text (document : String)

/-- What a script changes in memory, behind the back of every handle. -/
inductive Tampering
  | writeCounter (value : UInt64)
  | readCounter (value : UInt64)
  | reservation (value : UInt64)
  | flag (value : UInt32)
  | data (offset : Nat) (bytes : List UInt8)

/-- A request that is carried out in one piece. -/
inductive Action
  | create (handle : String) (type : ElementType) (flavor : Flavor) (config : QueueConfig)
  /-- The descriptor is edited before it is used. -/
  | attach (handle : String) (type : ElementType) (flavor : Flavor) (source : Source)
      (edit : Descriptor → Descriptor)
  | drop (handle : String)
  | runs (handle : String) (pos : UInt64) (count : Nat)
  | info (handle : String)
  | flagBits (place : FlagPlace)
  | flagShow (place : FlagPlace)
  | flagCreate (flag : String) (name : Option String)
  | flagOpen (flag name : String)
  | flagDrop (flag : String)
  | regionCreate (region : String) (size : Nat) (name : Option String)
  | regionOpen (region name : String)
  | regionDrop (region : String)
  | regionCheck (region : String) (range : Grantor) (type : ElementType)
  | peek (handle : String)
  | poke (handle : String) (change : Tampering)

/-- The handle that an action is about. -/
def Action.handle? : Action → Option String
  | create handle .. | attach handle .. | drop handle => some handle
  | runs handle .. | info handle | peek handle | poke handle _ => some handle
  | flagBits place | flagShow place => place.handle?
  | flagCreate .. | flagOpen .. | flagDrop .. => none
  | regionCreate .. | regionOpen .. | regionDrop .. | regionCheck .. => none

namespace Session

/-! ## Getting and losing objects -/

/-- Puts a new handle under a name, or tells why there is none. -/
def enroll (s : Session) (name : String) (t : ElementType) (r : Except Error (Queue t × Store)) :
    Session × Answer :=
  match r with
  | .error e => (s, .unit (.error e))
  | .ok (queue, store) => ({ s with store }.putHandle name ⟨t, queue⟩, .unit (.ok ()))

/-- The descriptor that a newcomer has, unless its source is missing. -/
def descriptor? (s : Session) : Source → Option (Except Error Descriptor)
  | .ofHandle handle => (s.handle? handle).map fun h => .ok h.queue.descriptor
  | .given d => some (.ok d)
  | .text document => some (Descriptor.ofText document)

/-- Joins a queue under a name. -/
def attach (s : Session) (name : String) (t : ElementType) (flavor : Flavor) (source : Source)
    (edit : Descriptor → Descriptor) : Session × Answer :=
  match s.descriptor? source with
  | none => (s, .absent)
  | some r => s.enroll name t do
    let d ← r
    let queue ← Queue.attach t flavor (edit d) s.store
    return (queue, s.store)

/-- The word of a flag that is a region of its own. -/
def ownWord : Grantor := ⟨0, flagSize⟩

/-- Puts a flag under a name, or tells why there is none. -/
def enrollFlag (s : Session) (flag : String) (r : Except Error (Region × Store)) :
    Session × Answer :=
  match r with
  | .error e => (s, .unit (.error e))
  | .ok (region, store) =>
    match region.check Queue.flagType ownWord with
    | .error fault =>
      ({ s with store := store.release region }, .unit (.error (.invalidDescriptor fault)))
    | .ok () =>
      ({ s with store }.putFlag flag region,
        .flag region.name (store.wordBits (regionWord region)))

/-- Puts a region under a name, or tells why there is none. -/
def enrollRegion (s : Session) (region : String) (r : Except Error (Region × Store)) :
    Session × Answer :=
  match r with
  | .error e => (s, .unit (.error e))
  | .ok (r, store) => ({ s with store }.putRegion region r, .region r)

/-- A region that is to be made. -/
def made (s : Session) (name : Option String) (size : Nat) : Except Error (Region × Store) :=
  (s.store.create name size).mapError .sharedMemory

/-- A region that exists. -/
def opened (s : Session) (name : String) : Except Error (Region × Store) :=
  ((s.store.openNamed name).map fun r => (r, s.store)).mapError .sharedMemory

/-! ## Looking -/

/-- The flag word at a place. -/
def flagWord? (s : Session) : FlagPlace → Option FlagWord
  | .ofHandle handle => (s.handle? handle).bind (·.queue.flagWord?)
  | .named flag => (s.flag? flag).map regionWord

/-- The name of a flag as it is shown. -/
def showFlag (s : Session) (place : FlagPlace) (w : FlagWord) : String :=
  let shown := EventFlag.describe (s.store.wordBits w)
  match place with
  | .ofHandle _ => shown
  | .named flag =>
    match s.flag? flag with
    | some r => "SharedEventFlag \x7b region: " ++ r.describe ++ ", flag: " ++ shown ++ " \x7d"
    | none => shown

/-- All about a handle. -/
def portray (s : Session) (h : Handle) : Portrait :=
  ⟨h.queue.descriptor, h.queue.region.owner, h.queue.describe (h.queue.memory s.store)⟩

/-- What lies in the region that a descriptor names now. -/
def snapshot (s : Session) (d : Descriptor) : Except Error Snapshot := do
  let region ← (s.store.openNamed d.name).mapError .sharedMemory
  let m := s.store.memory region.memory
  return {
    write := m.load64 d.writeCounter.offset
    read := d.readCounter.map fun g => m.load64 g.offset
    reserve := d.writeReserve.map fun g => m.load64 g.offset
    flag := d.eventFlag.map fun g => m.load32 g.offset
    data := m.bytes d.data.offset d.data.extent }

/-! ## Tampering -/

/-- A change of memory, unless the descriptor lacks the piece. -/
def tamper? (d : Descriptor) (m : Memory) : Tampering → Option Memory
  | .writeCounter value => some (m.store64 d.writeCounter.offset value)
  | .readCounter value => d.readCounter.map fun g => m.store64 g.offset value
  | .reservation value => d.writeReserve.map fun g => m.store64 g.offset value
  | .flag value => d.eventFlag.map fun g => m.store32 g.offset value
  | .data offset bytes => some (m.setBytes (d.data.offset + offset) bytes)

/-- Changes what lies in the region that a handle's descriptor names now. -/
def poke (s : Session) (h : Handle) (change : Tampering) : Session × Answer :=
  let d := h.queue.descriptor
  match s.store.openNamed d.name with
  | .error fault => (s, .unit (.error (.sharedMemory fault)))
  | .ok region =>
    match tamper? d (s.store.memory region.memory) change with
    | none => (s, .absent)
    | some m => ({ s with store := s.store.setMemory region.memory m }, .unit (.ok ()))

/-! ## Carrying out -/

/-- What becomes of the session, and what the script is told. -/
def act (s : Session) : Action → Session × Answer
  | .create handle t flavor config => s.enroll handle t (Queue.create t flavor config s.store)
  | .attach handle t flavor source edit => s.attach handle t flavor source edit
  | .drop handle => (s.dropHandle handle, .existed (s.handle? handle).isSome)
  | .runs handle pos count =>
    (s, match s.handle? handle with
      | some h => .runs (h.queue.runs pos count)
      | none => .absent)
  | .info handle =>
    (s, match s.handle? handle with
      | some h => .portrait (s.portray h)
      | none => .absent)
  | .flagBits place =>
    (s, match s.flagWord? place with
      | some w => .word (.ok (some (s.store.wordBits w))) (s.store.wordBits w)
      | none => .absent)
  | .flagShow place =>
    (s, match s.flagWord? place with
      | some w => .shown (s.showFlag place w) (s.store.wordBits w)
      | none => .absent)
  | .flagCreate flag name => s.enrollFlag flag (s.made name flagSize)
  | .flagOpen flag name => s.enrollFlag flag (s.opened name)
  | .flagDrop flag => (s.dropFlag flag, .existed (s.flag? flag).isSome)
  | .regionCreate region size name => s.enrollRegion region (s.made name size)
  | .regionOpen region name => s.enrollRegion region (s.opened name)
  | .regionDrop region => (s.dropRegion region, .existed (s.region? region).isSome)
  | .regionCheck region range t =>
    (s, match s.region? region with
      | some r => .unit ((r.check t range).mapError .invalidDescriptor)
      | none => .absent)
  | .peek handle =>
    (s, match s.handle? handle with
      | some h =>
        match s.snapshot h.queue.descriptor with
        | .ok snapshot => .snapshot snapshot
        | .error e => .unit (.error e)
      | none => .absent)
  | .poke handle change =>
    match s.handle? handle with
    | some h => s.poke h change
    | none => (s, .absent)

end Session

end SharedQueue
