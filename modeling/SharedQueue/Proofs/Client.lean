/-
SharedQueue.Proofs.Client — a handle in use, one request at a time.

* `Activity`, `Client` — a handle is idle or holds one transaction open.
  While it does, it can be asked for nothing but steps of that transaction:
  the transaction borrows it.
* `Client.Request`, `Client.Reply` — what can be asked of a handle, and what it says.
* `Client.step` — one request: the handle, the memory and the reply after it.
  A request that the handle cannot be asked for leaves everything alone.
* `step_write`, `step_set_broken` and so on — the requests one by one, with what
  the operation behind them came to.
* `Queue.write_of_begun`, `read_of_refused` and so on — a batch as the transaction
  that it opens.
* `Queue.Continues` — the same handle, with its cursor elsewhere at most.
* `Client.Turns` — what a request can make of an open transaction; `step_opens`,
  `step_writing` and `step_reading` follow from it.
* `Client.Ready` — the handle is sound, and an open transaction fits the
  ring. `Ready.step` keeps it so.
-/
import SharedQueue.Proofs.Operations
import SharedQueue.Queue.Transfer

namespace SharedQueue

/-- What a handle is in the middle of. -/
inductive Activity
  | idle
  | writing (tx : Transaction)
  | reading (tx : Transaction)
deriving DecidableEq, Repr

/-- The transaction that is open. -/
def Activity.transaction? : Activity → Option Transaction
  | idle => none
  | writing tx => some tx
  | reading tx => some tx

/-- A handle in use. -/
structure Client (t : ElementType) where
  queue : Queue t
  activity : Activity

namespace Client

/-- What can be asked of a handle. -/
inductive Request (t : ElementType)
  | write (data : List t.Value)
  | beginWrite (count : Nat)
  | set (place : Nat) (v : t.Value)
  | copyIn (data : List t.Value)
  | commitWrite
  | read (buffer : List t.Value)
  | beginRead (count : Nat)
  | get (place : Nat)
  | copyOut (length : Nat)
  | commitRead
  /-- Lets go of the open transaction without a commit. -/
  | abandon
  /-- Raises bits of the queue's own flag. -/
  | raise (mask : UInt32)
  | clear (mask : UInt32)
  | bits

/-- What a handle says to a request. -/
inductive Reply (t : ElementType)
  | none
  | unit (r : Except Error Unit)
  | filled (r : Except Error Unit) (buffer : List t.Value)
  | opened (r : Except Error Transaction)
  | stored (r : Except Misuse Unit)
  | element (r : Except Misuse t.Value)
  | elements (r : Except Misuse (List t.Value))
  | word (w : Option UInt32)

/-- What a request leads to. -/
structure Outcome (t : ElementType) where
  client : Client t
  memory : Memory
  reply : Reply t

end Client

namespace Queue

variable {t : ElementType} {q q' q'' : Queue t}

/-- Clears bits of the queue's own flag, if it has one. -/
def clearBits (q : Queue t) (m : Memory) (mask : UInt32) : Memory :=
  match q.descriptor.eventFlag with
  | some g => EventFlag.clear m g.offset mask
  | none => m

theorem clearBits_only (q : Queue t) (m : Memory) (mask : UInt32) :
    q.descriptor.Only .eventFlag m (q.clearBits m mask) := by
  unfold clearBits
  cases flag : q.descriptor.eventFlag with
  | none => exact .refl _ _ m
  | some g => exact Descriptor.only_store32 (by simp [Descriptor.place?, flag]) _

theorem view_clearBits (sound : q.Sound) (m : Memory) (mask : UInt32) :
    q.view (q.clearBits m mask) = q.view m :=
  view_of_only_eventFlag sound (clearBits_only q m mask)

/-! ## A batch as a transaction -/

section Batches

variable {m m' : Memory} {tx : Transaction} {e : Error} {data buffer : List t.Value}

theorem write_of_begun (some : data ≠ []) (begun : q.beginWrite m data.length = .ok (tx, m')) :
    q.write m data = (.ok (), q.commitWrite (q.fill m' tx.pos data) tx) := by
  rw [write, if_neg (by simpa using some), begun]

theorem write_of_refused (some : data ≠ []) (refused : q.beginWrite m data.length = .error e) :
    q.write m data = (.error e, m) := by
  rw [write, if_neg (by simpa using some), refused]

theorem read_of_begun (some : buffer ≠ [])
    (begun : q.beginRead m buffer.length = (.ok tx, q')) :
    q.read m buffer = ⟨(q'.commitRead m tx).1, q'.take m tx.pos tx.count,
      (q'.commitRead m tx).2.1, (q'.commitRead m tx).2.2⟩ := by
  rw [read, if_neg (by simpa using some), begun]

theorem read_of_refused (some : buffer ≠ [])
    (refused : q.beginRead m buffer.length = (.error e, q')) :
    q.read m buffer = ⟨.error e, buffer, q', m⟩ := by
  rw [read, if_neg (by simpa using some), refused]

end Batches

/-! ## What an operation leaves of the handle -/

/-- The same handle, with its cursor elsewhere at most. -/
structure Continues (q q' : Queue t) : Prop where
  descriptor_eq : q'.descriptor = q.descriptor
  region_eq : q'.region = q.region
  sound : q.Sound → q'.Sound

theorem Continues.refl (q : Queue t) : q.Continues q := ⟨rfl, rfl, id⟩

theorem Continues.trans (first : q.Continues q') (second : q'.Continues q'') :
    q.Continues q'' := by
  constructor
  · rw [second.descriptor_eq, first.descriptor_eq]
  · rw [second.region_eq, first.region_eq]
  · exact fun sound => second.sound (first.sound sound)

theorem continues_follow (q : Queue t) (pos : UInt64) : q.Continues (q.follow pos) := by
  refine ⟨rfl, rfl, fun sound => ⟨sound.placed, sound.quantumSize, ?_⟩⟩
  have suits := sound.cursor
  show Suits q.descriptor (q.cursor.follow pos)
  cases cursor : q.cursor with
  | shared offset =>
    rw [cursor] at suits
    exact suits
  | own own =>
    rw [cursor] at suits
    exact suits

theorem continues_release (q : Queue t) (m : Memory) (pos : UInt64) :
    q.Continues (q.release m pos).1 := by
  refine ⟨rfl, rfl, fun sound => ⟨sound.placed, sound.quantumSize, ?_⟩⟩
  have suits := sound.cursor
  show Suits q.descriptor (q.cursor.store m pos).1
  cases cursor : q.cursor with
  | shared offset =>
    rw [cursor] at suits
    exact suits
  | own own =>
    rw [cursor] at suits
    exact suits

theorem continues_beginRead (q : Queue t) (m : Memory) (count : Nat) :
    q.Continues (q.beginRead m count).2 :=
  continues_follow q _

theorem continues_commitRead (q : Queue t) (m : Memory) (tx : Transaction) :
    q.Continues (q.commitRead m tx).2.1 := by
  unfold commitRead
  split
  · exact .refl q
  · dsimp only
    split
    · exact continues_follow q _
    · exact continues_release q m tx.stop

theorem continues_read (q : Queue t) (m : Memory) (buffer : List t.Value) :
    q.Continues (q.read m buffer).queue := by
  have opened := continues_beginRead q m buffer.length
  unfold read
  split
  · exact .refl q
  · split
    · rename_i e q' refused
      rw [refused] at opened
      exact opened
    · rename_i tx q' begun
      rw [begun] at opened
      exact opened.trans (continues_commitRead q' m tx)

end Queue

namespace Client

variable {t : ElementType}

/-- One request. -/
def step (c : Client t) (m : Memory) (r : Request t) : Outcome t :=
  let q := c.queue
  match c.activity, r with
  | .idle, .write data =>
    let (answer, m) := q.write m data
    ⟨c, m, .unit answer⟩
  | .idle, .beginWrite count =>
    match q.beginWrite m count with
    | .error e => ⟨c, m, .opened (.error e)⟩
    | .ok (tx, m) => ⟨⟨q, .writing tx⟩, m, .opened (.ok tx)⟩
  | .writing tx, .set place v =>
    match q.set m tx place v with
    | .error misuse => ⟨c, m, .stored (.error misuse)⟩
    | .ok m => ⟨c, m, .stored (.ok ())⟩
  | .writing tx, .copyIn data =>
    match q.copyIn m tx data with
    | .error misuse => ⟨c, m, .stored (.error misuse)⟩
    | .ok m => ⟨c, m, .stored (.ok ())⟩
  | .writing tx, .commitWrite => ⟨⟨q, .idle⟩, q.commitWrite m tx, .unit (.ok ())⟩
  | .writing _, .abandon => ⟨⟨q, .idle⟩, m, .none⟩
  | .idle, .read buffer =>
    let r := q.read m buffer
    ⟨⟨r.queue, .idle⟩, r.memory, .filled r.answer r.buffer⟩
  | .idle, .beginRead count =>
    match q.beginRead m count with
    | (.error e, q) => ⟨⟨q, .idle⟩, m, .opened (.error e)⟩
    | (.ok tx, q) => ⟨⟨q, .reading tx⟩, m, .opened (.ok tx)⟩
  | .reading tx, .get place => ⟨c, m, .element (q.get m tx place)⟩
  | .reading tx, .copyOut length => ⟨c, m, .elements (q.copyOut m tx length)⟩
  | .reading tx, .commitRead =>
    let (answer, q, m) := q.commitRead m tx
    ⟨⟨q, .idle⟩, m, .unit answer⟩
  | .reading _, .abandon => ⟨⟨q, .idle⟩, m, .none⟩
  | .idle, .raise mask =>
    if mask = 0 then ⟨c, m, .unit (.error .emptyBitmask)⟩
    else ⟨c, q.notify m mask, .unit (.ok ())⟩
  | .idle, .clear mask => ⟨c, q.clearBits m mask, .word ((q.flagBits? m).map (· &&& mask))⟩
  | .idle, .bits => ⟨c, m, .word (q.flagBits? m)⟩
  | _, _ => ⟨c, m, .none⟩

/-! ## One request -/

section Requests

variable {q q' : Queue t} {m m' : Memory} {tx : Transaction} {count : Nat} {e : Error}
  {misuse : Misuse}

theorem step_write (q : Queue t) (m : Memory) (data : List t.Value) :
    step ⟨q, .idle⟩ m (.write data) =
      ⟨⟨q, .idle⟩, (q.write m data).2, .unit (q.write m data).1⟩ := rfl

theorem step_read (q : Queue t) (m : Memory) (buffer : List t.Value) :
    step ⟨q, .idle⟩ m (.read buffer) = ⟨⟨(q.read m buffer).queue, .idle⟩,
      (q.read m buffer).memory, .filled (q.read m buffer).answer (q.read m buffer).buffer⟩ := rfl

theorem step_commitRead (q : Queue t) (m : Memory) (tx : Transaction) :
    step ⟨q, .reading tx⟩ m .commitRead = ⟨⟨(q.commitRead m tx).2.1, .idle⟩,
      (q.commitRead m tx).2.2, .unit (q.commitRead m tx).1⟩ := rfl

theorem step_beginWrite (q : Queue t) (m : Memory) (count : Nat) :
    step ⟨q, .idle⟩ m (.beginWrite count) =
      match q.beginWrite m count with
      | .error e => ⟨⟨q, .idle⟩, m, .opened (.error e)⟩
      | .ok (tx, m) => ⟨⟨q, .writing tx⟩, m, .opened (.ok tx)⟩ := rfl

theorem step_beginRead (q : Queue t) (m : Memory) (count : Nat) :
    step ⟨q, .idle⟩ m (.beginRead count) =
      match q.beginRead m count with
      | (.error e, q) => ⟨⟨q, .idle⟩, m, .opened (.error e)⟩
      | (.ok tx, q) => ⟨⟨q, .reading tx⟩, m, .opened (.ok tx)⟩ := rfl

theorem step_set (q : Queue t) (m : Memory) (tx : Transaction) (place : Nat) (v : t.Value) :
    step ⟨q, .writing tx⟩ m (.set place v) =
      match q.set m tx place v with
      | .error misuse => ⟨⟨q, .writing tx⟩, m, .stored (.error misuse)⟩
      | .ok m => ⟨⟨q, .writing tx⟩, m, .stored (.ok ())⟩ := rfl

theorem step_copyIn (q : Queue t) (m : Memory) (tx : Transaction) (data : List t.Value) :
    step ⟨q, .writing tx⟩ m (.copyIn data) =
      match q.copyIn m tx data with
      | .error misuse => ⟨⟨q, .writing tx⟩, m, .stored (.error misuse)⟩
      | .ok m => ⟨⟨q, .writing tx⟩, m, .stored (.ok ())⟩ := rfl

theorem step_raise (q : Queue t) (m : Memory) (mask : UInt32) :
    step ⟨q, .idle⟩ m (.raise mask) =
      if mask = 0 then ⟨⟨q, .idle⟩, m, .unit (.error .emptyBitmask)⟩
      else ⟨⟨q, .idle⟩, q.notify m mask, .unit (.ok ())⟩ := rfl

theorem step_beginWrite_refused (refused : q.beginWrite m count = .error e) :
    step ⟨q, .idle⟩ m (.beginWrite count) = ⟨⟨q, .idle⟩, m, .opened (.error e)⟩ := by
  rw [step_beginWrite, refused]

theorem step_beginWrite_begun (begun : q.beginWrite m count = .ok (tx, m')) :
    step ⟨q, .idle⟩ m (.beginWrite count) = ⟨⟨q, .writing tx⟩, m', .opened (.ok tx)⟩ := by
  rw [step_beginWrite, begun]

theorem step_beginRead_refused (refused : q.beginRead m count = (.error e, q')) :
    step ⟨q, .idle⟩ m (.beginRead count) = ⟨⟨q', .idle⟩, m, .opened (.error e)⟩ := by
  rw [step_beginRead, refused]

theorem step_beginRead_begun (begun : q.beginRead m count = (.ok tx, q')) :
    step ⟨q, .idle⟩ m (.beginRead count) = ⟨⟨q', .reading tx⟩, m, .opened (.ok tx)⟩ := by
  rw [step_beginRead, begun]

theorem step_set_broken {place : Nat} {v : t.Value} (broken : q.set m tx place v = .error misuse) :
    step ⟨q, .writing tx⟩ m (.set place v) =
      ⟨⟨q, .writing tx⟩, m, .stored (.error misuse)⟩ := by
  rw [step_set, broken]

theorem step_set_stored {place : Nat} {v : t.Value} (stored : q.set m tx place v = .ok m') :
    step ⟨q, .writing tx⟩ m (.set place v) = ⟨⟨q, .writing tx⟩, m', .stored (.ok ())⟩ := by
  rw [step_set, stored]

theorem step_copyIn_broken {data : List t.Value} (broken : q.copyIn m tx data = .error misuse) :
    step ⟨q, .writing tx⟩ m (.copyIn data) =
      ⟨⟨q, .writing tx⟩, m, .stored (.error misuse)⟩ := by
  rw [step_copyIn, broken]

theorem step_copyIn_stored {data : List t.Value} (stored : q.copyIn m tx data = .ok m') :
    step ⟨q, .writing tx⟩ m (.copyIn data) = ⟨⟨q, .writing tx⟩, m', .stored (.ok ())⟩ := by
  rw [step_copyIn, stored]

theorem step_raise_empty (q : Queue t) (m : Memory) :
    step ⟨q, .idle⟩ m (.raise 0) = ⟨⟨q, .idle⟩, m, .unit (.error .emptyBitmask)⟩ := rfl

theorem step_raise_some {mask : UInt32} (some : mask ≠ 0) :
    step ⟨q, .idle⟩ m (.raise mask) = ⟨⟨q, .idle⟩, q.notify m mask, .unit (.ok ())⟩ := by
  rw [step_raise, if_neg some]

end Requests

/-! ## Handles in use -/

/-- A handle in use that every request can rely on. -/
structure Ready (c : Client t) : Prop where
  sound : c.queue.Sound
  fits : ∀ {tx}, c.activity.transaction? = some tx → tx.count ≤ c.queue.capacity

theorem step_continues (c : Client t) (m : Memory) (r : Request t) :
    c.queue.Continues (c.step m r).client.queue := by
  obtain ⟨q, activity⟩ := c
  cases activity with
  | idle =>
    cases r with
    | beginWrite count =>
      rw [step_beginWrite]
      split <;> exact .refl q
    | read buffer => exact Queue.continues_read q m buffer
    | beginRead count =>
      have opened := Queue.continues_beginRead q m count
      cases begun : q.beginRead m count with
      | mk answer q' =>
        rw [begun] at opened
        cases answer with
        | error e =>
          rw [step_beginRead_refused begun]
          exact opened
        | ok tx =>
          rw [step_beginRead_begun begun]
          exact opened
    | raise mask =>
      rw [step_raise]
      split <;> exact .refl q
    | write | set | copyIn | commitWrite | get | copyOut | commitRead | abandon | clear | bits =>
      exact .refl q
  | writing tx =>
    cases r with
    | set place v =>
      rw [step_set]
      split <;> exact .refl q
    | copyIn data =>
      rw [step_copyIn]
      split <;> exact .refl q
    | write | beginWrite | commitWrite | read | beginRead | get | copyOut | commitRead | abandon
    | raise | clear | bits => exact .refl q
  | reading tx =>
    cases r with
    | commitRead => exact Queue.continues_commitRead q m tx
    | write | beginWrite | set | copyIn | commitWrite | read | beginRead | get | copyOut | abandon
    | raise | clear | bits => exact .refl q

/-- What a request can make of the activity of a handle. -/
inductive Turns (c : Client t) (m : Memory) (r : Request t) : Activity → Prop
  | stays : Turns c m r c.activity
  /-- The transaction that was open is over. -/
  | ends : Turns c m r .idle
  | write {count : Nat} {tx : Transaction} {m' : Memory} (asked : r = .beginWrite count)
    (begun : c.queue.beginWrite m count = .ok (tx, m')) : Turns c m r (.writing tx)
  | read {count : Nat} {tx : Transaction} {q' : Queue t} (asked : r = .beginRead count)
    (begun : c.queue.beginRead m count = (.ok tx, q')) : Turns c m r (.reading tx)

theorem step_turns (c : Client t) (m : Memory) (r : Request t) :
    c.Turns m r (c.step m r).client.activity := by
  obtain ⟨q, activity⟩ := c
  cases activity with
  | idle =>
    cases r with
    | beginWrite count =>
      cases begun : q.beginWrite m count with
      | error e =>
        rw [step_beginWrite_refused begun]
        exact .stays
      | ok opened =>
        rw [step_beginWrite_begun begun]
        exact .write rfl begun
    | beginRead count =>
      cases begun : q.beginRead m count with
      | mk answer q' =>
        cases answer with
        | error e =>
          rw [step_beginRead_refused begun]
          exact .stays
        | ok tx =>
          rw [step_beginRead_begun begun]
          exact .read rfl begun
    | raise mask =>
      rw [step_raise]
      split <;> exact .stays
    | write | read | set | copyIn | commitWrite | get | copyOut | commitRead | abandon | clear
    | bits => exact .stays
  | writing tx =>
    cases r with
    | set place v =>
      rw [step_set]
      split <;> exact .stays
    | copyIn data =>
      rw [step_copyIn]
      split <;> exact .stays
    | commitWrite | abandon => exact .ends
    | write | beginWrite | read | beginRead | get | copyOut | commitRead | raise | clear | bits =>
      exact .stays
  | reading tx =>
    cases r with
    | commitRead | abandon => exact .ends
    | write | beginWrite | set | copyIn | commitWrite | read | beginRead | get | copyOut | raise
    | clear | bits => exact .stays

/-- A request opens a transaction that fits, or none. -/
theorem step_opens (c : Client t) (m : Memory) (r : Request t) {tx : Transaction}
    (opened : (c.step m r).client.activity.transaction? = some tx) :
    c.activity.transaction? = some tx ∨ tx.count ≤ c.queue.capacity := by
  have turns := step_turns c m r
  generalize (c.step m r).client.activity = after at opened turns
  cases turns with
  | stays => exact .inl opened
  | ends => cases opened
  | write asked begun =>
    obtain ⟨rfl, fits, -⟩ := Queue.beginWrite_eq_ok begun
    obtain rfl := Option.some.inj opened
    exact .inr fits
  | read asked begun =>
    obtain ⟨-, rfl, fits, -⟩ := Queue.beginRead_eq_ok begun
    obtain rfl := Option.some.inj opened
    exact .inr fits

/-- A write is open after a request if it was before, or if the request opened
it. -/
theorem step_writing {c : Client t} {m : Memory} {r : Request t} {tx : Transaction}
    (held : (c.step m r).client.activity = .writing tx) :
    c.activity = .writing tx ∨
      ∃ count m', r = .beginWrite count ∧ c.queue.beginWrite m count = .ok (tx, m') := by
  have turns := step_turns c m r
  generalize (c.step m r).client.activity = after at held turns
  cases turns with
  | stays => exact .inl held
  | write asked begun =>
    obtain rfl := Activity.writing.inj held
    exact .inr ⟨_, _, asked, begun⟩
  | ends | read => cases held

theorem step_reading {c : Client t} {m : Memory} {r : Request t} {tx : Transaction}
    (held : (c.step m r).client.activity = .reading tx) :
    c.activity = .reading tx ∨
      ∃ count q', r = .beginRead count ∧ c.queue.beginRead m count = (.ok tx, q') := by
  have turns := step_turns c m r
  generalize (c.step m r).client.activity = after at held turns
  cases turns with
  | stays => exact .inl held
  | read asked begun =>
    obtain rfl := Activity.reading.inj held
    exact .inr ⟨_, _, asked, begun⟩
  | ends | write => cases held

theorem Ready.step {c : Client t} (ready : c.Ready) (m : Memory) (r : Request t) :
    (c.step m r).client.Ready := by
  have continues := step_continues c m r
  have capacity : (c.step m r).client.queue.capacity = c.queue.capacity :=
    congrArg Descriptor.quantumCount continues.descriptor_eq
  refine ⟨continues.sound ready.sound, ?_⟩
  intro tx opened
  rw [capacity]
  rcases step_opens c m r opened with before | fits
  · exact ready.fits before
  · exact fits

end Client

end SharedQueue
