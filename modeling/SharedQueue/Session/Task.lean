/-
SharedQueue.Session.Task — requests on their way.

* `Task` — where a request stands: it has not begun, it is a call or a
  program between two of its steps, a transaction that is open, or done.
* `Session.start` — how a call begins; `Step.begin` — how a request begins.
* `Task.step` — the next step of a request.

A request that holds others, such as a transaction, takes its steps one by
one with everybody else, so whoever runs beside it sees it half done.
Requests side by side become parties of their own, and the one that asked
for them waits until all have finished.
-/
import SharedQueue.Session.Stream
import SharedQueue.Session.Transaction

namespace SharedQueue

/-- Where a request stands. -/
inductive Task
  /-- Not begun. -/
  | fresh (step : Step)
  | writing (type : ElementType) (call : WriteCall type) (point : WritePoint)
  | reading (handle : String) (type : ElementType) (call : ReadCall) (state : ReadState type)
  | flagging (word : FlagWord) (call : FlagCall) (point : FlagPoint)
  /-- A transaction before its next step, with the latest answer in front. -/
  | holding (tx : OpenTx) (rest : List TxStep) (told : List TxAnswer)
  /-- A transaction while another request is carried out. -/
  | inside (tx : OpenTx) (rest : List TxStep) (told : List TxAnswer) (handle : Option String)
      (task : Task)
  /-- A side of a stream that is done with the numbers below `place`, with the
  latest answer in front. -/
  | between (side : StreamSide) (place : Nat) (told : List Answer)
  /-- A side of a stream in the middle of a batch. -/
  | batch (side : StreamSide) (place : Nat) (told : List Answer) (task : Task)
  /-- The writing program. -/
  | sending (config : Bench.WriterConfig) (interrupted : Bool) (state : Bench.WriterState)
  /-- The reading program. -/
  | receiving (config : Bench.ReaderConfig) (state : Bench.ReaderState)
  /-- The programs have ended, and their descriptor file is left. -/
  | collecting (path : String) (programs : List Answer)
  | done (answer : Answer)

namespace Session

/-- What a move of a request leads to. -/
abbrev Next := Session × Move Task Answer

/-- What a turn of a request leads to. -/
abbrev NextTurn := Session × Turn Task Answer

/-- A turn that is a move. -/
def Next.turn (next : Next) : NextTurn := (next.1, .move next.2)

/-! ## Calls -/

/-- The end of a call on a flag. -/
def flagDone (s : Session) (w : FlagWord) (r : FlagCall.Answer) : Next :=
  (s, .finish (.word r (s.store.wordBits w)))

/-- The end of a read: the handle comes back with its cursor. -/
def readDone (s : Session) (handle : String) {t : ElementType} (r : ReadResult t) : Next :=
  (s.setHandle handle ⟨t, r.queue⟩, .finish (.elements t r.answer r.buffer))

/-- The end of a write. -/
def writeDone (s : Session) (r : Except Error Unit) : Next := (s, .finish (.unit r))

/-- The flag that a request waits on, unless it is missing. -/
def waitWord? (s : Session) {t : ElementType} (q : Queue t) (p : Patience) : Option FlagWord :=
  match p.flag with
  | some name => (s.flag? name).map regionWord
  | none => q.flagWord?

/-- How a request waits from now on. -/
def waiting (now : Instant) (p : Patience) (flag : FlagWord) : Waiting where
  flag := flag
  waitBits := p.waitBits
  notifyBits := p.notifyBits
  deadline := Deadline.after now p.timeout

/-- A named flag that a request waits on is missing. -/
def lacksFlag (s : Session) (p : Patience) : Bool :=
  p.flag.any fun name => (s.flag? name).isNone

/-- A write begins. -/
def beginWrite (s : Session) (now : Instant) {t : ElementType} (q : Queue t)
    (data : List t.Value) (p : Patience) : Next :=
  let start := match p.flag with
    | some _ => WriteCall.startOn data p.waitBits p.notifyBits
    | none => WriteCall.startOwn q data p.waitBits p.notifyBits
  let call : WriteCall t := ⟨q, data, (s.waitWord? q p).map (waiting now p)⟩
  start.within s (.writing t call) (s.writeDone ·)

/-- A read begins. -/
def beginRead (s : Session) (now : Instant) (handle : String) {t : ElementType} (q : Queue t)
    (buffer : List t.Value) (p : Patience) : Next :=
  let start := match p.flag with
    | some _ => ReadCall.startOn q buffer p.waitBits p.notifyBits
    | none => ReadCall.startOwn q buffer p.waitBits p.notifyBits
  let call : ReadCall := ⟨(s.waitWord? q p).map (waiting now p)⟩
  start.within s (.reading handle t call) (s.readDone handle ·)

/-- The elements of a buffer before a read. -/
def blankBuffer (t : ElementType) (count : Nat) (fill : Int) : List t.Value :=
  List.replicate count (t.ofNumber fill)

/-- A call begins. -/
def start (s : Session) (now : Instant) : Call → Next
  | .write handle data p =>
    match s.handle? handle with
    | some ⟨t, q⟩ =>
      if s.lacksFlag p then (s, .finish .absent) else s.beginWrite now q (data.values t) p
    | none => (s, .finish .absent)
  | .read handle count fill p =>
    match s.handle? handle with
    | some ⟨t, q⟩ =>
      if s.lacksFlag p then (s, .finish .absent)
      else s.beginRead now handle q (blankBuffer t count fill) p
    | none => (s, .finish .absent)
  | .flag place request =>
    match s.flagWord? place with
    | some w =>
      let call := request.call now
      call.start.within s (.flagging w call) (s.flagDone w ·)
    | none => (s, .finish .absent)

/-! ## Single attempts -/

/-- A change of a queue's memory is done. If it raised a bit of the queue's
flag, those who sleep for it are woken first. -/
def announce (before after : Session) (word : Option FlagWord) (mask : UInt32)
    (answer : Answer) : Next :=
  match word with
  | some w =>
    if EventFlag.signals (before.store.wordBits w) mask
        ∧ !EventFlag.signals (after.store.wordBits w) mask then
      (after, .signal w mask (.done answer))
    else (after, .finish answer)
  | none => (after, .finish answer)

/-- Writes a batch. -/
def write (s : Session) (h : Handle) (data : Batch) : Next :=
  let (r, m) := h.queue.write (h.queue.memory s.store) (data.values h.type)
  s.announce (s.setMemory h m) h.queue.flagWord? notEmpty (.unit r)

/-- Reads into a buffer. -/
def read (s : Session) (name : String) (h : Handle) (count : Nat) (fill : Int) : Next :=
  let r := h.queue.read (h.queue.memory s.store) (blankBuffer h.type count fill)
  let after := (s.setMemory h r.memory).setHandle name ⟨h.type, r.queue⟩
  s.announce after h.queue.flagWord? notFull (.elements h.type r.answer r.buffer)

/-! ## Programs -/

/-- Where programs run in a session. -/
def host (s : Session) : Bench.Host := ⟨s.store, s.files⟩

/-- The session after a step of a program. -/
def withHost (s : Session) (host : Bench.Host) : Session :=
  { s with store := host.store, files := host.files }

/-- The writing program begins, and the reading program beside it. They hand
over the descriptor in a file that nobody else uses. -/
def launch (s : Session) (now : Instant) (c : Bench.WriterConfig) (interrupted : Bool)
    (reader : Option Bench.ReaderConfig) : NextTurn :=
  let (descriptorPath, s) := s.newFileName
  let sender := Task.sending { c with descriptorPath } interrupted .launch
  let receivers := reader.toList.map fun r => Task.receiving { r with descriptorPath } (.seek now)
  (s, .fork ((sender :: receivers).map fun task => (now, task)) (.collecting descriptorPath))

end Session

/-! ## Steps -/

namespace OpenTx

/-- The next step of the transaction, or its end. -/
def proceed (o : OpenTx) (s : Session) (told : List TxAnswer) : List TxStep → Session.Next
  | .set place value :: rest =>
    let (s, answer) := o.set s place value
    (s, .go (.holding o rest (answer :: told)))
  | .copyIn data :: rest =>
    let (s, answer) := o.copyIn s data
    (s, .go (.holding o rest (answer :: told)))
  | .get place :: rest => (s, .go (.holding o rest (o.get s place :: told)))
  | .copyOut length _ :: rest => (s, .go (.holding o rest (o.copyOut s length :: told)))
  | .other step :: rest => (s, .go (.inside o rest told step.handle? (.fresh step)))
  | [] =>
    let (after, commit) := o.close s
    s.announce after o.queue.flagWord? o.bit (.transaction o.tx.count told.reverse commit)

end OpenTx

/-- A request begins. -/
def Step.begin (now : Instant) (s : Session) : Step → Session.NextTurn
  | .act action =>
    let (s, answer) := s.act action
    (s, .move (.finish answer))
  | .call c => (s.start now c).turn
  | .write handle data =>
    match s.handle? handle with
    | some h => (s.write h data).turn
    | none => (s, .move (.finish .absent))
  | .read handle count fill =>
    match s.handle? handle with
    | some h => (s.read handle h count fill).turn
    | none => (s, .move (.finish .absent))
  | .writeTx handle count steps commit =>
    match s.handle? handle with
    | none => (s, .move (.finish .absent))
    | some h =>
      match s.openWrite handle h count commit with
      | .error e => (s, .move (.finish (.unit (.error e))))
      | .ok (o, s) => (s, .move (.go (.holding o steps [])))
  | .readTx handle count steps commit =>
    match s.handle? handle with
    | none => (s, .move (.finish .absent))
    | some h =>
      match s.openRead handle h count commit with
      | (s, .error e) => (s, .move (.finish (.unit (.error e))))
      | (s, .ok o) => (s, .move (.go (.holding o steps [])))
  | .concurrent first second delay =>
    (s, .fork [(now, .fresh first), (now + delay, .fresh second)] fun answers =>
      .done (.together answers))
  | .stream writer reader total writeChunk readChunk =>
    let sides : List StreamSide :=
      [⟨writer, true, total, writeChunk⟩, ⟨reader, false, total, readChunk⟩]
    (s, .fork (sides.map fun side => (now, .between side 0 [])) fun answers =>
      .done (.together answers))
  | .benchRead handle config =>
    match s.handle? handle with
    | some h => (s, .move (.go (.receiving config (.join h.queue.descriptor))))
    | none => (s, .move (.finish .absent))
  | .benchWrite config interrupted reader => s.launch now config interrupted reader

/-- One step of a request. -/
def Task.step (now : Instant) (s : Session) : Task → Session.NextTurn
  | fresh step => step.begin now s
  | writing t c point =>
    let (store, move) := c.step now s.store point
    let s := { s with store }
    Session.Next.turn (move.within s (.writing t c) (s.writeDone ·))
  | reading handle t c state =>
    let (store, move) := c.step now s.store state
    let s := { s with store }
    Session.Next.turn (move.within s (.reading handle t c) (s.readDone handle ·))
  | flagging w c point =>
    let (store, move) := c.step w now s.store point
    let s := { s with store }
    Session.Next.turn (move.within s (.flagging w c) (s.flagDone w ·))
  | holding o rest told => Session.Next.turn (o.proceed s told rest)
  | inside o rest told handle task =>
    let (s, turn) := task.step now s
    turn.within s (.inside o rest told handle) fun answer =>
      (s, .go (.holding o rest (.other answer (handle.bind s.view?) :: told)))
  | between side place told =>
    match side.next? place with
    | some call => (s, .move (.go (.batch side place told (.fresh (.call call)))))
    | none => (s, .move (.finish (.batches told.reverse)))
  | batch side place told task =>
    let (s, turn) := task.step now s
    turn.within s (.batch side place told) fun answer =>
      let told := answer :: told
      let next := place + side.nextBatch place
      (s, if StreamSide.succeeded answer then .go (.between side next told)
        else .finish (.batches told.reverse))
  | sending c interrupted state =>
    let (host, move) := state.step c interrupted now s.host
    let s := s.withHost host
    Session.Next.turn (move.within s (.sending c interrupted) fun r =>
      (s, .finish (.pending r)))
  | receiving c state =>
    let (host, move) := state.step c now s.host
    let s := s.withHost host
    Session.Next.turn (move.within s (.receiving c) fun r => (s, .finish (.tally r)))
  | collecting path programs =>
    let descriptor := (Descriptor.load s.files path).toOption
    ({ s with files := s.files.remove path }, .move (.finish (.bench programs descriptor)))
  | done answer => (s, .move (.finish answer))

end SharedQueue
