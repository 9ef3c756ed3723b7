/-
SharedQueue.Proofs.BlockingRead — a read that waits for data, among others who
may do anything.

* `Queue.Reads` — steps among which exactly one read was carried through.
* `ReadCall.Stands` — where a call stands tells what its steps have done to the
  queue, the handle and the buffer (`ReadCall.stands_step`).
* `Queue.ReadOnce`, `read_once` — what a call that has ended has done.
* `blocking_all_or_nothing` — both kinds of blocking calls do what they are
  asked for exactly once, or fail and do nothing.
-/
import SharedQueue.Proofs.BlockingWrite
import SharedQueue.Proofs.Wakeup

namespace SharedQueue

/-- How a blocking read begins. -/
def ReadCall.first {t : ElementType} (q : Queue t) (buffer : List t.Value) (a : Manner) :
    ReadState.Next t :=
  match a.external with
  | some _ => startOn q buffer a.waitBits a.notifyBits
  | none => startOwn q buffer a.waitBits a.notifyBits

/-- A read that waits. -/
def ReadCall.inManner {t : ElementType} (q : Queue t) (a : Manner) : ReadCall := ⟨a.waiting? q⟩

/-- This is how reads in a session begin and go on. -/
theorem Session.beginRead_eq {s : Session} {p : Patience} (named : s.lacksFlag p = false)
    (now : Instant) (handle : String) {t : ElementType} (q : Queue t) (buffer : List t.Value) :
    s.beginRead now handle q buffer p =
      (ReadCall.first q buffer (s.manner now p)).within s
        (.reading handle t (.inManner q (s.manner now p))) (s.readDone handle ·) := by
  obtain ⟨flag, waitBits, notifyBits, timeout⟩ := p
  cases flag with
  | none => rfl
  | some name =>
    cases there : s.flag? name with
    | none => simp [Session.lacksFlag, there] at named
    | some region =>
      simp [Session.beginRead, Session.manner, ReadCall.first, ReadCall.inManner,
        Manner.waiting?, Manner.flag?, Session.waitWord?, Session.waiting, there]

/-! ## Decisions -/

/-- A read is admitted at the cursor if there is enough, refused, for now only
if it fits the ring, or told that it was overrun. -/
theorem Flavor.checkRead_cases (flavor : Flavor) (capacity : Nat) (writePos cursor : UInt64)
    (count : Nat) :
    (flavor.checkRead capacity writePos cursor count = ⟨.ok cursor, cursor⟩ ∧
        count ≤ Flavor.availableToRead writePos cursor) ∨
      (∃ e, flavor.checkRead capacity writePos cursor count = ⟨.error e, cursor⟩ ∧
        e.early = false ∧ (∀ lag pos, e ≠ .overflow lag pos) ∧
        (count ≤ capacity → e.retryable = true)) ∨
      (flavor = .unsynchronized ∧ ∃ lag,
        flavor.checkRead capacity writePos cursor count =
          ⟨.error (.overflow lag writePos), writePos⟩) := by
  unfold checkRead
  dsimp only
  split
  · rename_i large
    exact .inr (.inl ⟨_, rfl, rfl, nofun, fun fits => absurd large (Nat.not_lt.mpr fits)⟩)
  · split
    · rename_i far
      exact .inr (.inr ⟨far.1, _, rfl⟩)
    · split
      · exact .inr (.inl ⟨_, rfl, rfl, nofun, fun _ => rfl⟩)
      · rename_i enough
        exact .inl ⟨rfl, Nat.le_of_not_lt enough⟩

theorem Flavor.checkRead_eq_ok {flavor : Flavor} {capacity : Nat} {writePos cursor pos : UInt64}
    {count : Nat}
    (admitted : flavor.checkRead capacity writePos cursor count = ⟨.ok pos, pos⟩) :
    cursor = pos ∧ count ≤ capacity := by
  unfold checkRead at admitted
  dsimp only at admitted
  split at admitted
  · cases admitted
  · rename_i fits
    split at admitted
    · cases admitted
    · split at admitted
      · cases admitted
      · cases admitted
        exact ⟨rfl, Nat.le_of_not_lt fits⟩

/-- A commit goes through, or tells that the reader was overrun. -/
theorem Flavor.checkCommit_cases (flavor : Flavor) (capacity : Nat)
    (writePos reserved readPos cursor : UInt64) :
    flavor.checkCommit capacity writePos reserved readPos cursor = ⟨.ok (), cursor⟩ ∨
      (flavor = .unsynchronized ∧ ∃ lag,
        flavor.checkCommit capacity writePos reserved readPos cursor =
          ⟨.error (.overflow lag writePos), writePos⟩) := by
  cases flavor with
  | synchronized => exact .inl rfl
  | unsynchronized =>
    unfold checkCommit
    dsimp only
    split
    · exact .inr ⟨rfl, _, rfl⟩
    · exact .inl rfl

namespace Queue

variable {t : ElementType} {q : Queue t} {log : Log} {count : Nat}

/-! ## A read that is carried through -/

/-- The steps contain one read of as many quanta: both positions are looked at
and admit it, the quanta are copied, they were still untouched after that, and
the cursor moves past them. All other steps leave the ring alone. -/
def Reads (q : Queue t) (count : Nat) (log : Log) (queue : Queue t) (taken : List t.Value) :
    Prop :=
  ∃ before after pos m₁ m₂ m₃ m₄ m₅ m₆,
    log = before ++ [(m₁, m₁), (m₂, m₂), (m₃, m₃), (m₄, m₄), (m₅, m₅),
      (m₆, (q.release m₆ (pos + UInt64.ofNat count)).2)] ++ after ∧
    q.Calm before ∧ q.Calm after ∧
    q.flavor.checkRead q.capacity (q.writePos m₁) (q.readPos m₂) count = ⟨.ok pos, pos⟩ ∧
    taken = q.take m₃ pos count ∧
    q.flavor.checkCommit q.capacity (q.writePos m₄) (q.reserved m₅ (q.writePos m₄)) pos
      (q.readPos m₅) = ⟨.ok (), q.readPos m₅⟩ ∧
    queue = (q.release m₆ (pos + UInt64.ofNat count)).1

/-- What a refusal leaves: the handle and the buffer as they were, or, after an
overrun, the cursor at the position that is reported. -/
def Refuses (q : Queue t) (buffer : List t.Value) (e : Error) (queue : Queue t)
    (buffer' : List t.Value) : Prop :=
  ((∀ lag pos, e ≠ .overflow lag pos) ∧ queue = q ∧ buffer' = buffer) ∨
    q.flavor = .unsynchronized ∧ ∃ lag pos, e = .overflow lag pos ∧ queue = q.follow pos

theorem Reads.append {queue : Queue t} {taken : List t.Value}
    (reads : q.Reads count log queue taken) {m m' : Memory}
    (calm : q.Calm (([] : Log) ++ [(m, m')])) : q.Reads count (log ++ [(m, m')]) queue taken := by
  obtain ⟨before, after, pos, m₁, m₂, m₃, m₄, m₅, m₆, rfl, left, right, rest⟩ := reads
  exact ⟨before, after ++ [(m, m')], pos, m₁, m₂, m₃, m₄, m₅, m₆, by simp, left,
    right.append calm, rest⟩

/-- The handle that has read lies on the same memory. -/
theorem Reads.same {queue : Queue t} {taken : List t.Value}
    (reads : q.Reads count log queue taken) :
    queue.descriptor = q.descriptor ∧ queue.region = q.region := by
  obtain ⟨-, -, pos, -, -, -, -, -, m₆, -, -, -, -, -, -, rfl⟩ := reads
  exact ⟨rfl, rfl⟩

end Queue

/-! ## Where a read stands -/

namespace ReadCall

variable {t : ElementType} {c : ReadCall} {q : Queue t} {buffer : List t.Value} {log : Log}
  {s : Store} {st : ReadState t}

/-- What the steps of a call have done when it stands at a point. -/
def At (q : Queue t) (buffer : List t.Value) (log : Log) (st : ReadState t) : Prop :=
  match st.point with
  | .begin | .expire | .clear | .observe | .recount _ | .recheck .. | .park _ =>
    st.queue = q ∧ st.buffer = buffer ∧ q.Calm log
  | .judge writePos => st.queue = q ∧ st.buffer = buffer ∧
    ∃ calm m₁, log = calm ++ [(m₁, m₁)] ∧ q.Calm calm ∧ writePos = q.writePos m₁
  | .take pos => st.queue = q ∧ st.buffer = buffer ∧
    ∃ calm m₁ m₂, log = calm ++ [(m₁, m₁), (m₂, m₂)] ∧ q.Calm calm ∧
      q.flavor.checkRead q.capacity (q.writePos m₁) (q.readPos m₂) buffer.length = ⟨.ok pos, pos⟩
  | .confirm pos => st.queue = q ∧
    ∃ calm m₁ m₂ m₃, log = calm ++ [(m₁, m₁), (m₂, m₂), (m₃, m₃)] ∧ q.Calm calm ∧
      q.flavor.checkRead q.capacity (q.writePos m₁) (q.readPos m₂) buffer.length
        = ⟨.ok pos, pos⟩ ∧
      st.buffer = q.take m₃ pos buffer.length
  | .verify pos writePos => st.queue = q ∧
    ∃ calm m₁ m₂ m₃ m₄, log = calm ++ [(m₁, m₁), (m₂, m₂), (m₃, m₃), (m₄, m₄)] ∧ q.Calm calm ∧
      q.flavor.checkRead q.capacity (q.writePos m₁) (q.readPos m₂) buffer.length
        = ⟨.ok pos, pos⟩ ∧
      st.buffer = q.take m₃ pos buffer.length ∧ writePos = q.writePos m₄
  | .release pos => st.queue = q ∧
    ∃ calm m₁ m₂ m₃ m₄ m₅,
      log = calm ++ [(m₁, m₁), (m₂, m₂), (m₃, m₃), (m₄, m₄), (m₅, m₅)] ∧ q.Calm calm ∧
      q.flavor.checkRead q.capacity (q.writePos m₁) (q.readPos m₂) buffer.length
        = ⟨.ok pos, pos⟩ ∧
      st.buffer = q.take m₃ pos buffer.length ∧
      q.flavor.checkCommit q.capacity (q.writePos m₄) (q.reserved m₅ (q.writePos m₄)) pos
        (q.readPos m₅) = ⟨.ok (), q.readPos m₅⟩
  | .raiseOwn | .signalOwn | .raiseNotify | .signalNotify | .done =>
    q.Reads buffer.length log st.queue st.buffer

/-- The same for a move: a call that ends well has read, and one that ends in an
error has not. -/
def Stands (q : Queue t) (buffer : List t.Value) (log : Log) (move : ReadState.Next t) : Prop :=
  match move with
  | .finish ⟨.ok (), queue, taken⟩ => q.Reads buffer.length log queue taken
  | .finish ⟨.error e, queue, buffer'⟩ =>
    q.Calm log ∧ e.early = false ∧ q.Refuses buffer e queue buffer'
  | .go st | .signal _ _ st | .park _ _ _ st | .pause _ st => At q buffer log st

theorem stands_refuse {e : Error} (queue : st.queue = q) (same : st.buffer = buffer)
    (calm : q.Calm log) (late : e.early = false) (other : ∀ lag pos, e ≠ .overflow lag pos) :
    Stands q buffer log (c.refuse st e) := by
  unfold refuse
  split
  · split
    · exact ⟨queue, same, calm⟩
    · exact ⟨calm, late, .inl ⟨other, queue, same⟩⟩
  · exact ⟨calm, late, .inl ⟨other, queue, same⟩⟩

/-- An overrun is not waited out. -/
theorem stands_overrun {lag : Nat} {pos : UInt64} (flavor : q.flavor = .unsynchronized)
    (queue : st.queue = q.follow pos) (calm : q.Calm log) :
    Stands q buffer log (c.refuse st (.overflow lag pos)) := by
  unfold refuse
  split
  · exact ⟨calm, rfl, .inr ⟨flavor, lag, pos, rfl, queue⟩⟩
  · exact ⟨calm, rfl, .inr ⟨flavor, lag, pos, rfl, queue⟩⟩

theorem at_afterOwn {queue : Queue t} {taken : List t.Value}
    (reads : q.Reads buffer.length log queue taken) :
    At q buffer log ⟨queue, taken, c.afterOwn⟩ := by
  unfold afterOwn
  split <;> exact reads

/-- The steps of an attempt up to its commit. -/
theorem stands_attempt (mapped : q.region.memory < s.memories.size)
    (here : At q buffer log st) (now : Instant)
    (attempt : st.point = .begin ∨ (∃ w, st.point = .judge w) ∨ (∃ pos, st.point = .take pos) ∨
      (∃ pos, st.point = .confirm pos) ∨ (∃ pos w, st.point = .verify pos w) ∨
      ∃ pos, st.point = .release pos) :
    Stands q buffer (log ++ [(q.memory s, q.memory (c.step now s st).1)]) (c.step now s st).2 := by
  obtain ⟨queue, taken, p⟩ := st
  obtain rfl | ⟨w, rfl⟩ | ⟨pos, rfl⟩ | ⟨pos, rfl⟩ | ⟨pos, w, rfl⟩ | ⟨pos, rfl⟩ := attempt
  · obtain ⟨rfl, rfl, calm⟩ := here
    exact ⟨rfl, rfl, log, _, rfl, calm, rfl⟩
  · obtain ⟨rfl, rfl, calm, m₁, rfl, still, there⟩ := here
    dsimp only at there still
    subst there
    have looked := (still.look m₁).look (queue.memory s)
    unfold step
    dsimp only
    rcases queue.flavor.checkRead_cases queue.capacity (queue.writePos m₁)
        (queue.readPos (queue.memory s)) taken.length with
        ⟨admitted, -⟩ | ⟨e, refused, late, other, -⟩ | ⟨flavor, lag, overrun⟩
    · rw [admitted]
      exact ⟨Queue.follow_readPos .., rfl, calm, m₁, _, List.append_assoc .., still, admitted⟩
    · rw [refused]
      exact stands_refuse (Queue.follow_readPos ..) rfl looked late other
    · rw [overrun]
      exact stands_overrun flavor rfl looked
  · obtain ⟨rfl, rfl, calm, m₁, m₂, rfl, still, admitted⟩ := here
    exact ⟨rfl, calm, m₁, m₂, _, List.append_assoc .., still, admitted, rfl⟩
  · obtain ⟨rfl, calm, m₁, m₂, m₃, rfl, still, admitted, copied⟩ := here
    exact ⟨rfl, calm, m₁, m₂, m₃, _, List.append_assoc .., still, admitted, copied, rfl⟩
  · obtain ⟨rfl, calm, m₁, m₂, m₃, m₄, rfl, still, admitted, copied, there⟩ := here
    dsimp only at there still
    subst there
    have looked := ((((still.look m₁).look m₂).look m₃).look m₄).look (queue.memory s)
    unfold step
    dsimp only
    rcases queue.flavor.checkCommit_cases queue.capacity (queue.writePos m₄)
        (queue.reserved (queue.memory s) (queue.writePos m₄)) pos
        (queue.readPos (queue.memory s)) with granted | ⟨flavor, lag, overrun⟩
    · rw [granted]
      exact ⟨Queue.follow_readPos .., calm, m₁, m₂, m₃, m₄, _, List.append_assoc .., still,
        admitted, copied, granted⟩
    · rw [overrun]
      refine stands_overrun flavor rfl ?_
      simpa using looked
  · obtain ⟨rfl, calm, m₁, m₂, m₃, m₄, m₅, rfl, still, admitted, copied, granted⟩ := here
    have length : taken.length = buffer.length := by
      simp only at copied
      rw [copied, length_take]
    have moved : queue.memory (s.setMemory queue.region.memory
        (queue.release (queue.memory s) (pos + UInt64.ofNat taken.length)).2) =
          (queue.release (queue.memory s) (pos + UInt64.ofNat taken.length)).2 :=
      Store.memory_setMemory mapped _
    unfold step
    dsimp only
    rw [moved, length]
    have reads : queue.Reads buffer.length
        (calm ++ [(m₁, m₁), (m₂, m₂), (m₃, m₃), (m₄, m₄), (m₅, m₅)] ++
          [(queue.memory s,
            (queue.release (queue.memory s) (pos + UInt64.ofNat buffer.length)).2)])
        (queue.release (queue.memory s) (pos + UInt64.ofNat buffer.length)).1 taken :=
      ⟨calm, [], pos, m₁, m₂, m₃, m₄, m₅, queue.memory s, by simp, still, queue.calm_nil, admitted,
        copied, granted, rfl⟩
    dsimp only [Stands, ReadState.goto]
    split
    · exact reads
    · exact at_afterOwn reads

/-- The steps after the commit. -/
theorem stands_done (sound : q.Sound) (mapped : q.region.memory < s.memories.size)
    {wait : Waiting} (waits : c.waiting = some wait) (aside : q.Aside wait.flag)
    (reads : q.Reads buffer.length log st.queue st.buffer) (now : Instant)
    (done : st.point = .raiseOwn ∨ st.point = .signalOwn ∨ st.point = .raiseNotify ∨
      st.point = .signalNotify ∨ st.point = .done) :
    Stands q buffer (log ++ [(q.memory s, q.memory (c.step now s st).1)]) (c.step now s st).2 := by
  obtain ⟨queue, taken, p⟩ := st
  have looked := reads.append (q.calm_nil.look (q.memory s))
  obtain ⟨descriptor, region⟩ := reads.same
  dsimp only at descriptor region
  obtain rfl | rfl | rfl | rfl | rfl := done
  · have own : queue.flagWord? = q.flagWord? := by
      simp only [Queue.flagWord?, descriptor, region]
    unfold step
    simp only [own]
    split
    · exact at_afterOwn looked
    · rename_i w there
      have raised := reads.append
        (q.calm_nil.raiseWord (Queue.aside_own sound there) mapped notFull)
      dsimp only [Stands, ReadState.goto]
      split
      · exact raised
      · exact at_afterOwn raised
  · unfold step
    dsimp only
    split
    · exact at_afterOwn looked
    · exact at_afterOwn looked
  · have raised := reads.append (q.calm_nil.raiseWord aside mapped wait.notifyBits)
    unfold step
    simp only [waits, Stands, ReadState.goto]
    split
    · exact raised
    · exact raised
  · unfold step
    simp only [waits]
    exact looked
  · exact looked

/-- The steps of waiting. -/
theorem stands_waiting (mapped : q.region.memory < s.memories.size) {wait : Waiting}
    (waits : c.waiting = some wait) (aside : q.Aside wait.flag) (queue : st.queue = q)
    (same : st.buffer = buffer) (calm : q.Calm log) (now : Instant)
    (waiting : st.point = .expire ∨ st.point = .clear ∨ st.point = .observe ∨
      (∃ seen, st.point = .recount seen) ∨ (∃ seen w, st.point = .recheck seen w) ∨
      ∃ seen, st.point = .park seen) :
    Stands q buffer (log ++ [(q.memory s, q.memory (c.step now s st).1)]) (c.step now s st).2 := by
  obtain ⟨own, held, p⟩ := st
  have looked := calm.look (q.memory s)
  simp only at queue same
  subst queue same
  obtain rfl | rfl | rfl | ⟨seen, rfl⟩ | ⟨seen, w, rfl⟩ | ⟨seen, rfl⟩ := waiting
  · unfold step
    simp only [waits, ReadState.finish, ReadState.goto]
    split
    · exact ⟨looked, rfl, .inl ⟨nofun, rfl, rfl⟩⟩
    · exact ⟨rfl, rfl, looked⟩
  · unfold step
    simp only [waits]
    exact ⟨rfl, rfl, calm.clearWord aside mapped wait.waitBits⟩
  · unfold step
    simp only [waits, Stands, ReadState.goto]
    split
    · exact ⟨rfl, rfl, looked⟩
    · exact ⟨rfl, rfl, looked⟩
  · unfold step
    simp only [waits]
    exact ⟨rfl, rfl, looked⟩
  · unfold step
    simp only [waits, Stands, ReadState.goto]
    split
    · exact ⟨rfl, rfl, looked⟩
    · exact ⟨rfl, rfl, looked⟩
  · unfold step
    simp only [waits]
    split
    · exact ⟨rfl, rfl, looked⟩
    · exact ⟨rfl, rfl, looked⟩

theorem stands_step (sound : q.Sound) (mapped : q.region.memory < s.memories.size)
    {wait : Waiting} (waits : c.waiting = some wait) (aside : q.Aside wait.flag)
    (here : At q buffer log st) (now : Instant) :
    Stands q buffer (log ++ [(q.memory s, q.memory (c.step now s st).1)]) (c.step now s st).2 := by
  cases p : st.point with
  | begin | judge | take | confirm | verify | release =>
    exact stands_attempt mapped here now (by simp [p])
  | raiseOwn | signalOwn | raiseNotify | signalNotify | done =>
    rw [At, p] at here
    exact stands_done sound mapped waits aside here now (by simp [p])
  | expire | clear | observe | recount | recheck | park =>
    rw [At, p] at here
    obtain ⟨queue, same, calm⟩ := here
    exact stands_waiting mapped waits aside queue same calm now (by simp [p])

theorem at_of_stands {move : ReadState.Next t} (stands : Stands q buffer log move)
    (next : move.next? = some st) : At q buffer log st := by
  cases move <;> cases next <;> exact stands

end ReadCall

/-! ## What a read that has ended has done -/

namespace Queue

variable {t : ElementType} {q : Queue t} {log : Log} {count : Nat} {m m' : Memory}

theorem sharedRead_of_calm (calm : q.Calm log) {a b : UInt64}
    (linked : Linked q.sharedRead a log b) : a = b :=
  linked.eq_of_still fun entry mem => sharedRead_of_agree (calm entry mem)

/-- A cursor looks the same wherever the shared counter does. -/
theorem readPos_of_sharedRead (sound : q.Sound) (same : q.sharedRead m' = q.sharedRead m) :
    q.readPos m' = q.readPos m := by
  cases flavor : q.flavor with
  | synchronized => rw [sound.readPos_eq flavor, sound.readPos_eq flavor, same]
  | unsynchronized =>
    obtain ⟨pos, cursor⟩ := sound.cursor_own flavor
    simp [readPos, cursor, Cursor.load]

theorem readPos_of_calm (sound : q.Sound) (calm : q.Calm log)
    (linked : Linked q.sharedRead (q.sharedRead m) log (q.sharedRead m')) :
    q.readPos m' = q.readPos m :=
  readPos_of_sharedRead sound (sharedRead_of_calm calm linked).symm

/-- Taking, and moving the shared counter. -/
theorem readPos_release (sound : q.Sound) (m : Memory) (pos : UInt64)
    (same : q.sharedRead m' = q.sharedRead (q.release m pos).2) :
    (q.release m pos).1.readPos m' = pos := by
  cases flavor : q.flavor with
  | synchronized =>
    obtain ⟨g, there, cursor⟩ := sound.cursor_shared flavor
    simpa [readPos, release, cursor, Cursor.store, Cursor.load, sharedRead, there,
      Memory.load64_store64] using same
  | unsynchronized =>
    obtain ⟨own, cursor⟩ := sound.cursor_own flavor
    simp [readPos, release, cursor, Cursor.store, Cursor.load]

/-- One read, if nobody else moves the shared counter: what was at the cursor is
in the buffer, and the cursor is behind it. -/
theorem Reads.moved (sound : q.Sound) {queue : Queue t} {taken : List t.Value}
    (reads : q.Reads count log queue taken)
    (linked : Linked q.sharedRead (q.sharedRead m) log (q.sharedRead m')) :
    queue.readPos m' = q.readPos m + UInt64.ofNat count ∧
      ∃ m₃, taken = q.quanta m₃ (q.readPos m).toNat count := by
  obtain ⟨before, after, pos, m₁, m₂, m₃, m₄, m₅, m₆, rfl, calm, calm', admitted, rfl, -, rfl⟩ :=
    reads
  obtain ⟨b, most, tail⟩ := linked.exists_of_append
  obtain ⟨a, head, steps⟩ := most.exists_of_append
  simp only [Linked] at steps
  obtain ⟨start, next, -, -, -, -, stop⟩ := steps
  have first := sharedRead_of_calm calm head
  have last := sharedRead_of_calm calm' tail
  obtain ⟨rfl, fits⟩ := Flavor.checkRead_eq_ok admitted
  have cursor : q.readPos m₂ = q.readPos m :=
    readPos_of_sharedRead sound (next.symm.trans (start.symm.trans first.symm))
  rw [← cursor]
  exact ⟨readPos_release sound m₆ _ (last.symm.trans stop.symm), m₃, take_eq q m₃ _ fits⟩

/-- What a blocking read that has ended has done. The log is that of its own
steps; the memory was `m` at the beginning and is `m'` now, and `single` says
that nobody else moves the shared read counter. -/
structure ReadOnce (q : Queue t) (a : Manner) (buffer : List t.Value) (single : Prop) (log : Log)
    (m m' : Memory) (r : ReadResult t) : Prop where
  /-- Success: the buffer was read once, unless there was nothing to read. -/
  ok : r.answer = .ok () →
    (buffer = [] ∧ log = [] ∧ r.queue = q ∧ r.buffer = buffer) ∨
      buffer ≠ [] ∧ q.Reads buffer.length log r.queue r.buffer
  /-- Failure: nothing was released. -/
  error : ∀ e, r.answer = .error e → q.Calm log
  /-- A failure that is no overrun leaves the cursor and the buffer alone. -/
  kept : ∀ e, r.answer = .error e → (∀ lag pos, e ≠ .overflow lag pos) →
    r.queue = q ∧ r.buffer = buffer
  /-- An overrun leaves the cursor at the position that it reports. -/
  resync : ∀ lag pos, r.answer = .error (.overflow lag pos) →
    r.queue = q.follow pos ∧ ∀ m, r.queue.readPos m = pos
  moved : single → r.answer = .ok () → buffer ≠ [] →
    r.queue.readPos m' = q.readPos m + UInt64.ofNat buffer.length ∧
      ∃ m₃, r.buffer = q.quanta m₃ (q.readPos m).toNat buffer.length
  stayed : single → r.answer ≠ .ok () ∨ buffer = [] →
    (∀ lag pos, r.answer ≠ .error (.overflow lag pos)) → r.queue.readPos m' = q.readPos m
  /-- A missing flag is reported only for a buffer, and before anything else. -/
  noEventFlag : r.answer = .error .noEventFlag ↔ buffer ≠ [] ∧ a.flag? q = none
  /-- So is an empty mask, if there is a flag. -/
  emptyBitmask : r.answer = .error .emptyBitmask ↔
    buffer ≠ [] ∧ (a.flag? q).isSome ∧ (a.waitBits = 0 ∨ a.notifyBits = 0)
  /-- Neither is preceded by a step. -/
  early : ∀ e, r.answer = .error e → e.early = true → log = []

/-- What a refusal comes to. -/
theorem Refuses.cases (sound : q.Sound) {buffer buffer' : List t.Value} {e : Error}
    {queue : Queue t} (refuses : q.Refuses buffer e queue buffer') :
    ((∀ lag pos, e ≠ .overflow lag pos) → queue = q ∧ buffer' = buffer) ∧
      ∀ lag pos, e = .overflow lag pos → queue = q.follow pos ∧ ∀ m, queue.readPos m = pos := by
  rcases refuses with ⟨other, queue, same⟩ | ⟨flavor, lag, pos, rfl, rfl⟩
  · exact ⟨fun _ => ⟨queue, same⟩, fun lag pos overflow => absurd overflow (other lag pos)⟩
  · refine ⟨fun other => absurd rfl (other lag pos), ?_⟩
    rintro _ _ ⟨⟩
    obtain ⟨own, cursor⟩ := sound.cursor_own flavor
    exact ⟨rfl, fun m => by simp [readPos, follow_of_own cursor, Cursor.load]⟩

/-- A read that ends in an error. -/
theorem ReadOnce.of_error (sound : q.Sound) {a : Manner} {buffer buffer' : List t.Value}
    {single : Prop} {e : Error} {queue : Queue t} (calm : q.Calm log)
    (linked : single → Linked q.sharedRead (q.sharedRead m) log (q.sharedRead m'))
    (refuses : q.Refuses buffer e queue buffer')
    (flagless : e = .noEventFlag ↔ buffer ≠ [] ∧ a.flag? q = none)
    (maskless : e = .emptyBitmask ↔
      buffer ≠ [] ∧ (a.flag? q).isSome ∧ (a.waitBits = 0 ∨ a.notifyBits = 0))
    (early : e.early = true → log = []) :
    q.ReadOnce a buffer single log m m' ⟨.error e, queue, buffer'⟩ := by
  obtain ⟨kept, resync⟩ := refuses.cases sound
  constructor
  case ok => simp
  case error => simpa using calm
  case kept =>
    rintro _ ⟨⟩ other
    exact kept other
  case resync =>
    rintro lag pos ⟨⟩
    exact resync lag pos rfl
  case moved => simp
  case stayed =>
    intro alone _ other
    obtain ⟨rfl, -⟩ := kept fun lag pos overflow => other lag pos (by rw [overflow])
    exact readPos_of_calm sound calm (linked alone)
  case noEventFlag => simpa using flagless
  case emptyBitmask => simpa using maskless
  case early => simpa using early

/-- A read that succeeds. -/
theorem ReadOnce.of_reads (sound : q.Sound) {a : Manner} {buffer taken : List t.Value}
    {single : Prop} {queue : Queue t} (nonempty : buffer ≠ [])
    (linked : single → Linked q.sharedRead (q.sharedRead m) log (q.sharedRead m'))
    (reads : q.Reads buffer.length log queue taken) (flag : (a.flag? q).isSome)
    (masks : ¬ (a.waitBits = 0 ∨ a.notifyBits = 0)) :
    q.ReadOnce a buffer single log m m' ⟨.ok (), queue, taken⟩ := by
  constructor
  case ok => exact fun _ => .inr ⟨nonempty, reads⟩
  case moved => exact fun alone _ _ => reads.moved sound (linked alone)
  case stayed => simp [nonempty]
  case noEventFlag => simp [Option.isSome_iff_ne_none.mp flag]
  case emptyBitmask => simp [masks]
  all_goals simp

/-- A read of nothing. -/
theorem ReadOnce.of_nil (sound : q.Sound) {a : Manner} {buffer : List t.Value} {single : Prop}
    (empty : buffer = [])
    (linked : single → Linked q.sharedRead (q.sharedRead m) [] (q.sharedRead m')) :
    q.ReadOnce a buffer single [] m m' ⟨.ok (), q, buffer⟩ := by
  constructor
  case ok => simp [empty]
  case stayed => exact fun alone _ _ => readPos_of_calm sound q.calm_nil (linked alone)
  all_goals simp [empty]

end Queue

namespace ReadCall

variable {t : ElementType} {q : Queue t} {buffer : List t.Value} {a : Manner}

/-- The checks before the first step, in their order. -/
theorem first_eq (q : Queue t) (buffer : List t.Value) (a : Manner) :
    first q buffer a =
      if buffer = [] then .finish ⟨.ok (), q, buffer⟩
      else if a.flag? q = none then .finish ⟨.error .noEventFlag, q, buffer⟩
      else if a.waitBits = 0 ∨ a.notifyBits = 0 then .finish ⟨.error .emptyBitmask, q, buffer⟩
      else .go ⟨q, buffer, .begin⟩ := by
  unfold first startOwn startOn Manner.flag?
  cases a.external <;> cases q.flagWord? <;> cases buffer <;> simp [ReadState.finish]

/-- Where a read stands that has passed those checks. -/
theorem stands_of_among (sound : q.Sound) {s₀ s : Store}
    (mapped : q.region.memory < s₀.memories.size)
    (aside : ∀ flag, a.external = some flag → q.Aside flag) {others : Store → Store → Prop}
    (grows : ∀ s s', others s s' → s.memories.size ≤ s'.memories.size) {word : FlagWord}
    (flag : a.flag? q = some word) {log : Log} {move : ReadState.Next t}
    (among : Among q.memory others (inManner q a).step s₀ (.go ⟨q, buffer, .begin⟩) log s move) :
    Stands q buffer log move := by
  have beside := a.aside_flag sound aside flag
  have waits : (inManner q a).waiting = some ⟨word, a.waitBits, a.notifyBits, a.deadline⟩ := by
    simp [inManner, Manner.waiting?, flag]
  have begun : Stands q buffer [] (.go ⟨q, buffer, .begin⟩) := ⟨rfl, rfl, q.calm_nil⟩
  exact among.stands grows (fun now s st => size_step _ now s st) mapped begun
    fun now there stands next =>
      stands_step sound there waits beside (at_of_stands stands next) now

/-- What a read that waits has done when it has ended. -/
theorem read_once (sound : q.Sound) {s₀ s : Store} (mapped : q.region.memory < s₀.memories.size)
    (aside : ∀ flag, a.external = some flag → q.Aside flag) {others : Store → Store → Prop}
    (grows : ∀ s s', others s s' → s.memories.size ≤ s'.memories.size) {log : Log}
    {r : ReadResult t}
    (among : Among q.memory others (inManner q a).step s₀ (first q buffer a) log s (.finish r)) :
    q.ReadOnce a buffer
      (∀ s s', others s s' → q.sharedRead (q.memory s') = q.sharedRead (q.memory s)) log
      (q.memory s₀) (q.memory s) r := by
  have linked := fun single => among.linked q.sharedRead single
  rw [first_eq] at among
  by_cases empty : buffer = []
  · rw [if_pos empty] at among
    obtain ⟨rfl, rfl⟩ := among.finished
    exact .of_nil sound empty linked
  rw [if_neg empty] at among
  cases flag : a.flag? q with
  | none =>
    rw [if_pos flag] at among
    obtain ⟨rfl, rfl⟩ := among.finished
    exact .of_error sound q.calm_nil linked (.inl ⟨nofun, rfl, rfl⟩) (by simp [empty, flag])
      (by simp [flag]) fun _ => rfl
  | some word =>
    rw [if_neg (by simp [flag])] at among
    by_cases masks : a.waitBits = 0 ∨ a.notifyBits = 0
    · rw [if_pos masks] at among
      obtain ⟨rfl, rfl⟩ := among.finished
      exact .of_error sound q.calm_nil linked (.inl ⟨nofun, rfl, rfl⟩) (by simp [flag])
        (by simp [empty, flag, masks]) fun _ => rfl
    rw [if_neg masks] at among
    have stands := stands_of_among sound mapped aside grows flag among
    obtain ⟨answer, queue, taken⟩ := r
    cases answer with
    | error e =>
      obtain ⟨calm, late, refuses⟩ := stands
      obtain ⟨hasFlag, hasMasks⟩ := Error.ne_of_late late
      exact .of_error sound calm linked refuses (by simp [flag, hasFlag])
        (by simp [masks, hasMasks]) (by simp [late])
    | ok => exact .of_reads sound empty linked stands (by simp [flag]) masks

end ReadCall

/-! ## Both kinds of calls -/

/-- Whatever others do between its steps, and whenever its sleeps end: a
blocking write that succeeds has published its data once, as one stretch, and
one that fails has published, announced and touched nothing. A blocking read
succeeds if and only if it has read the whole buffer once; a failure leaves the
cursor and the buffer alone, except that an overrun leaves the cursor at the
position that it reports. -/
theorem Queue.blocking_all_or_nothing {t : ElementType} {q : Queue t} (sound : q.Sound)
    {s₀ : Store} (mapped : q.region.memory < s₀.memories.size) {a : Manner}
    (aside : ∀ flag, a.external = some flag → q.Aside flag) {others : Store → Store → Prop}
    (grows : ∀ s s', others s s' → s.memories.size ≤ s'.memories.size) :
    (∀ {data : List t.Value} {log : Log} {s : Store} {answer : Except Error Unit},
      Among q.memory others (WriteCall.inManner q data a).step s₀ (WriteCall.first q data a) log s
          (.finish answer) →
        q.WroteOnce a data (∀ s s', others s s' → q.ring (q.memory s') = q.ring (q.memory s)) log
          (q.memory s₀) (q.memory s) answer) ∧
      ∀ {buffer : List t.Value} {log : Log} {s : Store} {r : ReadResult t},
        Among q.memory others (ReadCall.inManner q a).step s₀ (ReadCall.first q buffer a) log s
            (.finish r) →
          q.ReadOnce a buffer
            (∀ s s', others s s' → q.sharedRead (q.memory s') = q.sharedRead (q.memory s)) log
            (q.memory s₀) (q.memory s) r :=
  ⟨fun among => WriteCall.wrote_once sound mapped aside grows among,
    fun among => ReadCall.read_once sound mapped aside grows among⟩

/-- A byte is written and published. -/
def byteArrives (s : Store) : Store :=
  s.setMemory 0 <| Duo.flaggedBytes.publish
    (Duo.flaggedBytes.fill (Duo.flaggedBytes.memory s) 0 [byteQuantum 7]) 1

/-- Runs of a reader of one byte, while nothing happens but that. -/
abbrev AwaitsByte (log : Log) (s : Store) (move : ReadState.Next (.primitive .u8)) : Prop :=
  Among Duo.flaggedBytes.memory (fun s s' => s' = byteArrives s)
    (ReadCall.inManner Duo.flaggedBytes ⟨none, notEmpty, notFull, none⟩).step Duo.flaggedStore
    (ReadCall.first Duo.flaggedBytes [byteQuantum 0] ⟨none, notEmpty, notFull, none⟩) log s move

/-- The reader finds nothing and falls asleep. The byte arrives while it
sleeps, and it wakes up without being told. -/
theorem awaitsByte : ∃ log s,
    AwaitsByte log s (.finish ⟨.ok (), Duo.flaggedBytes, [byteQuantum 7]⟩) := by
  have begun : AwaitsByte [] _ _ := .start
  have asleep := ((((((((begun.own rfl 0).own rfl 0).own rfl 0).own rfl 0).own rfl 0).own rfl
    0).own rfl 0).own rfl 0)
  have awake := asleep.others rfl
  have copied := (((awake.own rfl 0).own rfl 0).own rfl 0)
  have finished := (((((((copied.own rfl 0).own rfl 0).own rfl 0).own rfl 0).own rfl 0).own rfl
    0).own rfl 0)
  exact ⟨_, _, finished⟩

/-- Four bytes are in the queue, which has no room for more. -/
def fullStore : Store :=
  Duo.flaggedStore.setMemory 0 <| Duo.flaggedBytes.publish
    (Duo.flaggedBytes.fill (.blank 196) 0 ([1, 2, 3, 4].map byteQuantum)) 4

/-- The first of them is read. -/
def byteLeaves (s : Store) : Store :=
  s.setMemory 0 (Duo.flaggedBytes.release (Duo.flaggedBytes.memory s) 1).2

/-- Runs of a writer of one byte, while nothing happens but that. -/
abbrev AwaitsRoom (log : Log) (s : Store) (move : WriteCall.Next) : Prop :=
  Among Duo.flaggedBytes.memory (fun s s' => s' = byteLeaves s)
    (WriteCall.inManner Duo.flaggedBytes [byteQuantum 7] ⟨none, notFull, notEmpty, none⟩).step
    fullStore
    (WriteCall.first Duo.flaggedBytes [byteQuantum 7] ⟨none, notFull, notEmpty, none⟩) log s move

/-- The writer finds no room and falls asleep. Room is made while it sleeps,
and it wakes up without being told. -/
theorem awaitsRoom : ∃ log s, AwaitsRoom log s (.finish (.ok ())) := by
  have begun : AwaitsRoom [] _ _ := .start
  have asleep := ((((((((begun.own rfl 0).own rfl 0).own rfl 0).own rfl 0).own rfl 0).own rfl
    0).own rfl 0).own rfl 0)
  have awake := asleep.others rfl
  have published := ((((awake.own rfl 0).own rfl 0).own rfl 0).own rfl 0)
  have finished := ((((published.own rfl 0).own rfl 0).own rfl 0).own rfl 0)
  exact ⟨_, _, finished⟩

/-- A reader leaves alone what only the writer changes. -/
theorem ring_byteLeaves (sound : Duo.flaggedBytes.Sound) (s : Store) :
    Duo.flaggedBytes.ring (Duo.flaggedBytes.memory (byteLeaves s)) =
      Duo.flaggedBytes.ring (Duo.flaggedBytes.memory s) := by
  unfold byteLeaves
  by_cases mapped : 0 < s.memories.size
  · have taken := Store.memory_setMemory mapped
      (Duo.flaggedBytes.release (Duo.flaggedBytes.memory s) 1).2
    exact (congrArg Duo.flaggedBytes.ring taken).trans (Queue.ring_release sound _ 1)
  · have nothing : s.memories = #[] := Array.size_eq_zero_iff.mp (by omega)
    simp [Store.setMemory, Queue.memory, Store.memory, nothing]

theorem Queue.blocking_all_or_nothing_byteArrives :
    (∃ log s, AwaitsByte log s (.finish ⟨.ok (), Duo.flaggedBytes, [byteQuantum 7]⟩) ∧
      Duo.flaggedBytes.Reads 1 log Duo.flaggedBytes [byteQuantum 7]) ∧
      ∃ log s, AwaitsRoom log s (.finish (.ok ())) ∧
        Duo.flaggedBytes.Writes [byteQuantum 7] log ∧
        Duo.flaggedBytes.Landed [byteQuantum 7] (Duo.flaggedBytes.memory fullStore)
          (Duo.flaggedBytes.memory s) := by
  have ok : Queue.create (.primitive .u8) .synchronized
      { quantumCount := 4, eventFlag := true, name := some "four" } .empty =
        .ok (Duo.flaggedBytes, Duo.flaggedStore) := rfl
  have sound : Duo.flaggedBytes.Sound := Queue.sound_of_create ok
  constructor
  · have aside : ∀ flag, (⟨none, notEmpty, notFull, none⟩ : Manner).external = some flag →
        Duo.flaggedBytes.Aside flag := nofun
    have grows : ∀ s s', s' = byteArrives s → s.memories.size ≤ s'.memories.size := by
      rintro s _ rfl
      simp [byteArrives]
    obtain ⟨log, s, run⟩ := awaitsByte
    have once := (Queue.blocking_all_or_nothing sound (by decide) aside grows).2 run
    rcases once.ok rfl with ⟨nothing, -⟩ | ⟨-, reads⟩
    · cases nothing
    · exact ⟨log, s, run, reads⟩
  · have aside : ∀ flag, (⟨none, notFull, notEmpty, none⟩ : Manner).external = some flag →
        Duo.flaggedBytes.Aside flag := nofun
    have grows : ∀ s s', s' = byteLeaves s → s.memories.size ≤ s'.memories.size := by
      rintro s _ rfl
      simp [byteLeaves]
    have mapped : Duo.flaggedBytes.region.memory < fullStore.memories.size := by
      simp [fullStore, Duo.flaggedStore, Duo.flaggedBytes]
    obtain ⟨log, s, run⟩ := awaitsRoom
    have once := (Queue.blocking_all_or_nothing sound mapped aside grows).1 run
    have alone : ∀ s s', s' = byteLeaves s → Duo.flaggedBytes.ring (Duo.flaggedBytes.memory s') =
        Duo.flaggedBytes.ring (Duo.flaggedBytes.memory s) := by
      rintro s _ rfl
      exact ring_byteLeaves sound s
    rcases once.ok rfl with ⟨nothing, -⟩ | ⟨some, writes⟩
    · cases nothing
    · exact ⟨log, s, run, writes, once.landed alone rfl some⟩

end SharedQueue
