/-
SharedQueue.Proofs.EmptyBatch — requests for no quanta at all.

* `write_nil`, `read_nil`, `beginWrite_zero`, `beginRead_zero` and so on —
  the operations of a handle, on any memory.
* `Session.Same`, `Session.Still` — a turn that changes nothing, wakes nobody
  and ends; `OpenTx.EndsStill` — an open transaction that ends so.
* `empty_requests_still` — every request for nothing is of this kind,
  whatever state the queue is in, and whatever happens while a transaction
  over nothing is open.

There is one exception. Opening a read of nothing goes through the check for
an overrun, so a private reader that was overrun is told so, and its cursor
moves; a batch of nothing does not get that far (`empty_read_not_opened`).
-/
import SharedQueue.Proofs.Traffic
import SharedQueue.Session.Run

namespace SharedQueue

/-! ## On a handle -/

namespace Queue

variable {t : ElementType} {q : Queue t} {m : Memory} {tx : Transaction}

/-- A private reader has more unread quanta than there are slots. -/
def Overrun (q : Queue t) (m : Memory) : Prop :=
  q.flavor = .unsynchronized ∧ q.capacity < q.availableToRead m

theorem write_nil (q : Queue t) (m : Memory) : q.write m [] = (.ok (), m) := rfl

theorem read_nil (q : Queue t) (m : Memory) : q.read m [] = ⟨.ok (), [], q, m⟩ := rfl

/-- There is always room for nothing, and nothing to be announced. -/
theorem beginWrite_zero (q : Queue t) (m : Memory) :
    q.beginWrite m 0 = .ok (⟨q.writePos m, 0⟩, m) := by
  unfold beginWrite Flavor.checkWrite Flavor.checkCapacity
  cases q.flavor <;> simp [bind, Except.bind, pure, Except.pure]

theorem commitWrite_zero (q : Queue t) (m : Memory) (none : tx.count = 0) :
    q.commitWrite m tx = m :=
  if_pos none

theorem beginRead_zero (near : ¬ q.Overrun m) : q.beginRead m 0 = (.ok ⟨q.readPos m, 0⟩, q) := by
  have near : ¬ (q.flavor = .unsynchronized ∧
      q.capacity < Flavor.availableToRead (q.writePos m) (q.readPos m)) := near
  unfold beginRead Flavor.checkRead
  simp only [Nat.not_lt_zero, if_false, if_neg near]
  exact congrArg _ (follow_readPos q m)

theorem beginRead_zero_of_overrun (far : q.Overrun m) :
    q.beginRead m 0 =
      (.error (.overflow (q.availableToRead m) (q.writePos m)), q.follow (q.writePos m)) := by
  have far : q.flavor = .unsynchronized ∧
      q.capacity < Flavor.availableToRead (q.writePos m) (q.readPos m) := far
  unfold beginRead Flavor.checkRead
  simp only [Nat.not_lt_zero, if_false, if_pos far]
  rfl

theorem commitRead_zero (q : Queue t) (m : Memory) (none : tx.count = 0) :
    q.commitRead m tx = (.ok (), q, m) :=
  if_pos none

end Queue

/-! ## In a session -/

namespace Session

/-- The same memories, the same objects under the same names. -/
structure Same (s s' : Session) : Prop where
  rest : s' = { s with handles := s'.handles }
  handle : ∀ name, s'.handle? name = s.handle? name

/-- A turn that changes nothing, wakes nobody, and ends the request with this
answer. -/
def Still (s : Session) (answer : Answer) (turn : NextTurn) : Prop :=
  ∃ s', s.Same s' ∧ turn = (s', .move (.finish answer))

end Session

/-- The transaction ends, here, as one over no places: committed or not,
nothing changes and nobody is woken. -/
def OpenTx.EndsStill (o : OpenTx) (s : Session) : Prop :=
  ∀ now told, s.Still (.transaction 0 told.reverse (if o.commit then some (.ok ()) else none))
    (Task.step now s (.holding o [] told))

namespace Session

variable {s s' : Session} {name : String} {h : Handle}

theorem Same.refl (s : Session) : s.Same s := ⟨rfl, fun _ => rfl⟩

theorem still_of_eq {answer : Answer} {turn : NextTurn}
    (same : turn = (s, .move (.finish answer))) : s.Still answer turn :=
  ⟨s, .refl s, same⟩

@[simp] theorem setHandle_store (s : Session) (name : String) (h : Handle) :
    (s.setHandle name h).store = s.store :=
  rfl

theorem handle?_setHandle (s : Session) (name : String) (h : Handle) (other : String) :
    (s.setHandle name h).handle? other = if other = name then some h else s.handle? other := by
  show List.lookup other ((name, h) :: s.handles.filter fun entry => entry.1 != name) = _
  rw [List.lookup_cons]
  by_cases same : other = name
  · subst same
    simp
  · have miss : (other == name) = false := by simpa using same
    rw [miss, Store.lookup_filter_ne, if_neg same, if_neg same]
    rfl

/-- Putting a handle where it was changes nothing. -/
theorem same_setHandle (there : s.handle? name = some h) : s.Same (s.setHandle name h) := by
  refine ⟨rfl, ?_⟩
  intro other
  rw [handle?_setHandle]
  by_cases same : other = name
  · rw [if_pos same, same, there]
  · rw [if_neg same]

theorem setMemory_memory (s : Session) (h : Handle) :
    s.setMemory h (h.queue.memory s.store) = s := by
  unfold setMemory Queue.memory
  rw [Store.setMemory_memory]

/-- Nobody is woken for a bit that was not raised. -/
theorem announce_same {after : Session} (same : after.store = s.store) (word : Option FlagWord)
    (mask : UInt32) (answer : Answer) :
    s.announce after word mask answer = (after, .finish answer) := by
  unfold announce
  cases word with
  | none => rfl
  | some w =>
    rw [same]
    simp

theorem beginWrite_nil (s : Session) (now : Instant) {t : ElementType} (q : Queue t)
    (p : Patience) : s.beginWrite now q [] p = (s, .finish (.unit (.ok ()))) := by
  unfold beginWrite
  cases p.flag <;> rfl

theorem beginRead_nil (s : Session) (now : Instant) (name : String) {t : ElementType}
    (q : Queue t) (p : Patience) :
    s.beginRead now name q [] p
      = (s.setHandle name ⟨t, q⟩, .finish (.elements t (.ok ()) [])) := by
  unfold beginRead
  cases p.flag <;> rfl

theorem write_empty (s : Session) (h : Handle) {data : Batch} (nothing : data.values h.type = []) :
    s.write h data = (s, .finish (.unit (.ok ()))) := by
  unfold write
  rw [nothing, Queue.write_nil]
  dsimp only
  rw [setMemory_memory]
  exact announce_same rfl ..

theorem read_empty (s : Session) (name : String) (h : Handle) (fill : Int) :
    s.read name h 0 fill
      = (s.setHandle name h, .finish (.elements h.type (.ok ()) [])) := by
  unfold read
  rw [show blankBuffer h.type 0 fill = [] from rfl, Queue.read_nil]
  dsimp only
  rw [setMemory_memory]
  exact announce_same (setHandle_store s name h) ..

/-- A write over nothing ends without a trace, whatever happened while it was
open. -/
theorem proceed_write_empty (o : OpenTx) (writes : o.writes = true) (none : o.tx.count = 0)
    (s : Session) (told : List TxAnswer) :
    o.proceed s told []
      = (s, .finish (.transaction 0 told.reverse (if o.commit then some (.ok ()) else .none))) := by
  have closed : o.close s = (s, if o.commit then some (.ok ()) else .none) := by
    unfold OpenTx.close
    cases o.commit with
    | false => rfl
    | true =>
      rw [writes, Queue.commitWrite_zero _ _ none]
      exact congrArg (·, _) (setMemory_memory s ⟨o.type, o.queue⟩)
  unfold OpenTx.proceed
  rw [closed, none]
  exact announce_same rfl ..

theorem proceed_read_empty (o : OpenTx) (reads : o.writes = false) (none : o.tx.count = 0)
    (there : s.handle? o.handle = some ⟨o.type, o.queue⟩) (told : List TxAnswer) :
    ∃ s', s.Same s' ∧ o.proceed s told []
      = (s', .finish (.transaction 0 told.reverse (if o.commit then some (.ok ()) else .none))) := by
  have closed : ∃ s', s.Same s' ∧ o.close s = (s', if o.commit then some (.ok ()) else .none) := by
    unfold OpenTx.close
    cases o.commit with
    | false => exact ⟨s, .refl s, rfl⟩
    | true =>
      refine ⟨_, same_setHandle there, ?_⟩
      rw [reads, Queue.commitRead_zero _ _ none]
      dsimp only
      exact congrArg (fun s : Session => (s.setHandle _ _, _)) (setMemory_memory s ⟨o.type, o.queue⟩)
  obtain ⟨s', same, closed⟩ := closed
  have store : s'.store = s.store := by rw [same.rest]
  refine ⟨s', same, ?_⟩
  unfold OpenTx.proceed
  rw [closed, none]
  exact announce_same store ..

/-- A batch of nothing is written, at once, also by a call that could wait. -/
theorem still_write (there : s.handle? name = some h) (now : Instant) {data : Batch}
    (nothing : data.values h.type = []) :
    s.Still (.unit (.ok ())) (Step.begin now s (.write name data)) ∧
    ∀ {p : Patience}, s.lacksFlag p = false →
      s.Still (.unit (.ok ())) (Step.begin now s (.call (.write name data p))) := by
  constructor
  · refine still_of_eq ?_
    simp only [Step.begin, there]
    exact congrArg Next.turn (write_empty s h nothing)
  · intro p flagged
    refine still_of_eq ?_
    simp only [Step.begin, start, there, flagged, nothing]
    exact congrArg Next.turn (beginWrite_nil s now h.queue p)

theorem still_read (there : s.handle? name = some h) (now : Instant) (fill : Int) :
    s.Still (.elements h.type (.ok ()) []) (Step.begin now s (.read name 0 fill)) ∧
    ∀ {p : Patience}, s.lacksFlag p = false →
      s.Still (.elements h.type (.ok ()) []) (Step.begin now s (.call (.read name 0 fill p))) := by
  constructor
  · refine ⟨_, same_setHandle there, ?_⟩
    simp only [Step.begin, there]
    exact congrArg Next.turn (read_empty s name h fill)
  · intro p flagged
    refine ⟨_, same_setHandle there, ?_⟩
    simp only [Step.begin, start, there, flagged]
    exact congrArg Next.turn (beginRead_nil s now name h.queue p)

theorem still_writeTx (there : s.handle? name = some h) (now : Instant) (steps : List TxStep)
    (commit : Bool) :
    ∃ o : OpenTx, o.commit = commit ∧
      Step.begin now s (.writeTx name 0 steps commit) = (s, .move (.go (.holding o steps []))) ∧
      ∀ later, o.EndsStill later := by
  let o : OpenTx :=
    ⟨name, h.type, h.queue, ⟨h.queue.writePos (h.queue.memory s.store), 0⟩, true, commit⟩
  refine ⟨o, rfl, ?_, ?_⟩
  · simp only [Step.begin, openWrite, there, Queue.beginWrite_zero]
    exact congrArg (fun s : Session => (s, _)) (setMemory_memory s h)
  · intro later now told
    exact still_of_eq (congrArg Next.turn (proceed_write_empty o rfl rfl later told))

theorem still_readTx (there : s.handle? name = some h)
    (near : ¬ h.queue.Overrun (h.queue.memory s.store)) (now : Instant) (steps : List TxStep)
    (commit : Bool) :
    ∃ (o : OpenTx) (s' : Session), o.commit = commit ∧ s.Same s' ∧
      Step.begin now s (.readTx name 0 steps commit) = (s', .move (.go (.holding o steps []))) ∧
      ∀ later : Session, later.handle? name = some h → o.EndsStill later := by
  let o : OpenTx :=
    ⟨name, h.type, h.queue, ⟨h.queue.readPos (h.queue.memory s.store), 0⟩, false, commit⟩
  refine ⟨o, s.setHandle name h, rfl, same_setHandle there, ?_, ?_⟩
  · simp only [Step.begin, openRead, there, Queue.beginRead_zero near]
    rfl
  · intro later there now told
    obtain ⟨s', same, ended⟩ := proceed_read_empty o rfl rfl there told
    exact ⟨s', same, congrArg Next.turn ended⟩

theorem overflow_readTx (there : s.handle? name = some h)
    (far : h.queue.Overrun (h.queue.memory s.store)) (now : Instant) (steps : List TxStep)
    (commit : Bool) :
    Step.begin now s (.readTx name 0 steps commit) =
      (s.setHandle name ⟨h.type, h.queue.follow (h.queue.writePos (h.queue.memory s.store))⟩,
        .move (.finish (.unit (.error (.overflow
          (h.queue.availableToRead (h.queue.memory s.store))
          (h.queue.writePos (h.queue.memory s.store))))))) := by
  simp only [Step.begin, openRead, there, Queue.beginRead_zero_of_overrun far]
  rfl

/-- A request for nothing succeeds and changes nothing: a batch, a call that
could wait, and a transaction, committed or let go of. Only a private reader
that was overrun cannot open a read. -/
theorem empty_requests_still (there : s.handle? name = some h) (now : Instant) :
    (∀ {data : Batch}, data.values h.type = [] →
      s.Still (.unit (.ok ())) (Step.begin now s (.write name data)) ∧
      ∀ {p : Patience}, s.lacksFlag p = false →
        s.Still (.unit (.ok ())) (Step.begin now s (.call (.write name data p)))) ∧
    (∀ fill,
      s.Still (.elements h.type (.ok ()) []) (Step.begin now s (.read name 0 fill)) ∧
      ∀ {p : Patience}, s.lacksFlag p = false →
        s.Still (.elements h.type (.ok ()) []) (Step.begin now s (.call (.read name 0 fill p)))) ∧
    (∀ steps commit, ∃ o : OpenTx, o.commit = commit ∧
      Step.begin now s (.writeTx name 0 steps commit) = (s, .move (.go (.holding o steps []))) ∧
      ∀ later, o.EndsStill later) ∧
    ∀ steps commit,
      (¬ h.queue.Overrun (h.queue.memory s.store) →
        ∃ (o : OpenTx) (s' : Session), o.commit = commit ∧ s.Same s' ∧
          Step.begin now s (.readTx name 0 steps commit)
            = (s', .move (.go (.holding o steps []))) ∧
          ∀ later : Session, later.handle? name = some h → o.EndsStill later) ∧
      (h.queue.Overrun (h.queue.memory s.store) →
        Step.begin now s (.readTx name 0 steps commit) =
          (s.setHandle name
              ⟨h.type, h.queue.follow (h.queue.writePos (h.queue.memory s.store))⟩,
            .move (.finish (.unit (.error (.overflow
              (h.queue.availableToRead (h.queue.memory s.store))
              (h.queue.writePos (h.queue.memory s.store)))))))) := by
  refine ⟨?_, still_read there now, still_writeTx there now, ?_⟩
  · intro data nothing
    exact still_write there now nothing
  · intro steps commit
    constructor
    · intro near
      exact still_readTx there near now steps commit
    · intro far
      exact overflow_readTx there far now steps commit

/-- A private reader that is five quanta behind in a ring of four. -/
def lapped : Session :=
  (script {} [
    .act (.create "q" (.primitive .u8) .unsynchronized
      { quantumCount := 4, eventFlag := false, name := some "four" }),
    .write "q" (.sequence 1 4),
    .write "q" (.sequence 5 1)]).1

theorem empty_requests_still_lapped :
    lapped.Still (.unit (.ok ())) (Step.begin 0 lapped (.write "q" (.literals []))) ∧
    lapped.Still (.elements (.primitive .u8) (.ok ()) []) (Step.begin 0 lapped (.read "q" 0 7)) ∧
    ∃ o : OpenTx,
      Step.begin 0 lapped (.writeTx "q" 0 [] true) = (lapped, .move (.go (.holding o [] []))) ∧
      o.EndsStill lapped := by
  have there : lapped.handle? "q" = some ⟨.primitive .u8, fourBytes .unsynchronized⟩ := rfl
  obtain ⟨writes, reads, opens, -⟩ := empty_requests_still there 0
  obtain ⟨o, -, opened, ends⟩ := opens [] true
  exact ⟨(writes rfl).1, (reads 7).1, o, opened, ends lapped⟩

/-- It is told so even when it asks for nothing, and then nothing is left for
it to read. -/
theorem empty_read_not_opened :
    (lapped.view? "q").map View.ready = some 5 ∧
    (lapped.perform (.readTx "q" 0 [] true)).2.answer = .unit (.error (.overflow 5 5)) ∧
    ((lapped.perform (.readTx "q" 0 [] true)).1.view? "q").map View.ready = some 0 :=
  ⟨rfl, rfl, rfl⟩

end Session

end SharedQueue
