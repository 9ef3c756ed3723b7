/-
SharedQueue.Proofs.LoneRead — a blocking read while nobody else does anything.

* `ReadCall.ends_confirm` — once the quanta are copied, a call does what a commit
  does, whether that goes well or tells of an overrun. `ends_of_read` says the same
  of the whole attempt and a plain read.
* `ReadCall.Waits` — where a call stands that goes around in circles.
* `Queue.LoneRead` — how a blocking read ends in each case.
* `blocking_alone` — how both kinds of blocking calls end.

A read can be refused after it has copied quanta, if a slot may have been
overwritten. That is never a reason to wait, so a read that waits has left the
buffer and the cursor alone.
-/
import SharedQueue.Proofs.BlockingRead
import SharedQueue.Proofs.LoneWrite

namespace SharedQueue

namespace ReadCall

variable {t : ElementType} {c : ReadCall} {st : ReadState t} {s : Store}

/-! ## The end of a read that succeeds -/

theorem ends_done (c : ReadCall) (st : ReadState t) (s : Store) :
    Ends c.step ⟨.ok (), st.queue, st.buffer⟩ s s { st with point := .done } :=
  .last fun _ => rfl

theorem ends_afterOwn (c : ReadCall) (st : ReadState t) (s : Store) :
    Ends c.step ⟨.ok (), st.queue, st.buffer⟩ (s.served c.waiting) s
      { st with point := c.afterOwn } := by
  obtain ⟨waiting⟩ := c
  cases waiting with
  | none => exact ends_done _ st s
  | some wait =>
    refine .go (fun _ => rfl) ?_
    split
    · exact .signal (fun _ => rfl) (ends_done _ st _)
    · exact ends_done _ st _

theorem ends_signalOwn (c : ReadCall) (st : ReadState t) (s : Store) :
    Ends c.step ⟨.ok (), st.queue, st.buffer⟩ (s.served c.waiting) s
      { st with point := .signalOwn } := by
  cases own : st.queue.flagWord? with
  | none =>
    refine .go (fun _ => ?_) (ends_afterOwn c st s)
    unfold step
    simp only [own]
    rfl
  | some w =>
    have signalled (now : Instant) : c.step now s { st with point := .signalOwn } =
        (s, .signal w notFull { st with point := c.afterOwn }) := by
      unfold step
      simp only [own]
    exact .signal signalled (ends_afterOwn c st s)

/-- What comes after the store of the read counter. -/
theorem ends_announce (c : ReadCall) (st : ReadState t) (s : Store) :
    Ends c.step ⟨.ok (), st.queue, st.buffer⟩
      ((s.update st.queue.region.memory fun m => st.queue.notify m notFull).served c.waiting) s
      { st with point := if st.queue.flagWord?.isSome then .raiseOwn else c.afterOwn } := by
  cases own : st.queue.flagWord? with
  | none =>
    rw [Queue.update_notify_none own]
    exact ends_afterOwn c st s
  | some w =>
    rw [Queue.update_notify own]
    have raised (now : Instant) : c.step now s { st with point := .raiseOwn } =
        (s.raiseWord w notFull, st.goto
          (if EventFlag.signals (s.wordBits w) notFull then .signalOwn else c.afterOwn)) := by
      unfold step
      simp only [own]
      rfl
    refine .go raised ?_
    split
    · exact ends_signalOwn c st _
    · exact ends_afterOwn c st _

theorem ends_release (c : ReadCall) {q : Queue t} (mapped : q.region.memory < s.memories.size)
    (buffer : List t.Value) (pos : UInt64) :
    let released := q.release (q.memory s) (pos + UInt64.ofNat buffer.length)
    Ends c.step ⟨.ok (), released.1, buffer⟩
      ((s.setMemory q.region.memory (released.1.notify released.2 notFull)).served c.waiting) s
      ⟨q, buffer, .release pos⟩ := by
  intro released
  have said := ends_announce c ⟨released.1, buffer, .begin⟩
    (s.setMemory q.region.memory released.2)
  have both : ((s.setMemory q.region.memory released.2).update q.region.memory
      fun m => released.1.notify m notFull) =
        s.setMemory q.region.memory (released.1.notify released.2 notFull) := by
    unfold Store.update
    rw [Store.memory_setMemory mapped, Store.setMemory_setMemory]
  have there : released.1.region = q.region := rfl
  dsimp only at said
  rw [there, both] at said
  exact .go (fun _ => rfl) said

/-! ## One attempt -/

/-- The quanta are copied, and what is left to do is what a commit does, if it goes
well. -/
theorem ends_confirm {q : Queue t} {buffer : List t.Value}
    (mapped : q.region.memory < s.memories.size) (some : buffer ≠ [])
    (pos : UInt64) {queue : Queue t} {m' : Memory}
    (committed : q.commitRead (q.memory s) ⟨pos, buffer.length⟩ = (.ok (), queue, m')) :
    Ends c.step ⟨.ok (), queue, buffer⟩
      ((s.setMemory q.region.memory m').served c.waiting) s
      ⟨q, buffer, .confirm pos⟩ := by
  unfold Queue.commitRead at committed
  rw [if_neg (by simpa using some)] at committed
  dsimp only at committed
  refine .go (fun _ => rfl) ?_
  rcases Flavor.checkCommit_cases q.flavor q.capacity
      (q.writePos (q.memory s))
      (q.reserved (q.memory s) (q.writePos (q.memory s))) pos
      (q.readPos (q.memory s)) with admitted | ⟨-, lag, refused⟩
  · rw [admitted] at committed
    cases committed
    have verified (now : Instant) : c.step now s
        ⟨q, buffer, .verify pos (q.writePos (q.memory s))⟩ =
          (s, .go ⟨q, buffer, .release pos⟩) := by
      unfold step
      simp only [admitted, ReadState.follow, Queue.follow_readPos]
      rfl
    exact .go verified (ends_release c mapped buffer pos)
  · rw [refused] at committed
    cases committed

/-- Or it tells of an overrun. -/
theorem ends_confirm_overrun {q : Queue t} {buffer : List t.Value} (some : buffer ≠ [])
    (pos : UInt64) {queue : Queue t} {m' : Memory} {e : Error}
    (committed : q.commitRead (q.memory s) ⟨pos, buffer.length⟩ = (.error e, queue, m')) :
    e.retryable = false ∧ m' = q.memory s ∧
      Ends c.step ⟨.error e, queue, buffer⟩ s s ⟨q, buffer, .confirm pos⟩ := by
  unfold Queue.commitRead at committed
  rw [if_neg (by simpa using some)] at committed
  dsimp only at committed
  rcases Flavor.checkCommit_cases q.flavor q.capacity
      (q.writePos (q.memory s))
      (q.reserved (q.memory s) (q.writePos (q.memory s))) pos
      (q.readPos (q.memory s)) with admitted | ⟨-, lag, refused⟩
  · rw [admitted] at committed
    cases committed
  · rw [refused] at committed
    cases committed
    refine ⟨rfl, rfl, .go (fun _ => rfl) (.last fun now => ?_)⟩
    unfold step
    dsimp only
    rw [refused]
    obtain ⟨waiting⟩ := c
    cases waiting <;> rfl

end ReadCall

namespace Queue

variable {t : ElementType} {q : Queue t} {m : Memory} {buffer : List t.Value}

theorem take_ne_nil (q : Queue t) (m : Memory) (pos : UInt64) {count : Nat} (some : count ≠ 0) :
    q.take m pos count ≠ [] := by
  rw [← List.length_pos_iff, ReadCall.length_take]
  exact Nat.pos_of_ne_zero some

/-- The ways that a plain read can go, with its first decision: on to the commit, or
not at all. -/
theorem read_cases (q : Queue t) (m : Memory) (some : buffer ≠ []) :
    (q.flavor.checkRead q.capacity (q.writePos m) (q.readPos m) buffer.length =
        ⟨.ok (q.readPos m), q.readPos m⟩ ∧
      ∃ answer queue m', q.commitRead m ⟨q.readPos m, buffer.length⟩ = (answer, queue, m') ∧
        q.read m buffer = ⟨answer, q.take m (q.readPos m) buffer.length, queue, m'⟩) ∨
      ∃ e pos, q.flavor.checkRead q.capacity (q.writePos m) (q.readPos m) buffer.length =
          ⟨.error e, pos⟩ ∧
        q.read m buffer = ⟨.error e, buffer, q.follow pos, m⟩ ∧
        (e.retryable = true → pos = q.readPos m) := by
  rcases Flavor.checkRead_cases q.flavor q.capacity (q.writePos m) (q.readPos m) buffer.length with
    ⟨admitted, -⟩ | ⟨e, refused, -⟩ | ⟨-, lag, overran⟩
  · have begun : q.beginRead m buffer.length = (.ok ⟨q.readPos m, buffer.length⟩, q) := by
      unfold beginRead
      rw [admitted]
      exact congrArg _ (follow_readPos q m)
    exact .inl ⟨admitted, _, _, _, rfl, read_of_begun some begun⟩
  · have told : q.beginRead m buffer.length = (.error e, q.follow (q.readPos m)) := by
      unfold beginRead
      rw [refused]
      rfl
    exact .inr ⟨e, _, refused, read_of_refused some told, fun _ => rfl⟩
  · have told : q.beginRead m buffer.length =
        (.error (.overflow lag (q.writePos m)), q.follow (q.writePos m)) := by
      unfold beginRead
      rw [overran]
      rfl
    exact .inr ⟨_, _, overran, read_of_refused some told, nofun⟩

end Queue

namespace ReadCall

variable {t : ElementType} {c : ReadCall} {q : Queue t} {s : Store} {buffer : List t.Value}

theorem judge_admitted {pos : UInt64}
    (admitted : q.flavor.checkRead q.capacity (q.writePos (q.memory s)) (q.readPos (q.memory s))
      buffer.length = ⟨.ok pos, q.readPos (q.memory s)⟩) (now : Instant) :
    c.step now s ⟨q, buffer, .judge (q.writePos (q.memory s))⟩ =
      (s, .go ⟨q, buffer, .take pos⟩) := by
  unfold step
  simp only [admitted, ReadState.follow, Queue.follow_readPos]
  rfl

theorem judge_refused {e : Error} {pos : UInt64}
    (refused : q.flavor.checkRead q.capacity (q.writePos (q.memory s)) (q.readPos (q.memory s))
      buffer.length = ⟨.error e, pos⟩) (now : Instant) :
    c.step now s ⟨q, buffer, .judge (q.writePos (q.memory s))⟩ =
      (s, c.refuse ⟨q.follow pos, buffer, .judge (q.writePos (q.memory s))⟩ e) := by
  unfold step
  simp only [refused]
  rfl

/-- A call that is refused for good. -/
theorem refuse_of_not_retryable {e : Error} (now : e.retryable = false) (st : ReadState t) :
    c.refuse st e = st.finish (.error e) := by
  unfold refuse
  split
  · rw [if_neg (by simp [now])]
  · rfl

/-- A call that is refused for now, and can wait. -/
theorem refuse_of_retryable {e : Error} (later : e.retryable = true) (wait : Waiting)
    (st : ReadState t) :
    refuse ⟨some wait⟩ st e = .go { st with point := .expire } :=
  if_pos later

/-- The way of an admitted read up to its commit. -/
theorem ends_take {result : ReadResult t} {s' : Store} {pos : UInt64}
    (admitted : q.flavor.checkRead q.capacity (q.writePos (q.memory s)) (q.readPos (q.memory s))
      buffer.length = ⟨.ok pos, q.readPos (q.memory s)⟩)
    (rest : Ends c.step result s' s
      ⟨q, q.take (q.memory s) pos buffer.length, .confirm pos⟩) :
    Ends c.step result s' s ⟨q, buffer, .begin⟩ :=
  .go (fun _ => rfl) (.go (judge_admitted admitted) (.go (fun _ => rfl) rest))

/-- If there is enough, and nothing was overwritten, the call does what a plain read
does. -/
theorem ends_of_read (mapped : q.region.memory < s.memories.size) (some : buffer ≠ [])
    {taken : List t.Value} {queue : Queue t} {m' : Memory}
    (done : q.read (q.memory s) buffer = ⟨.ok (), taken, queue, m'⟩) :
    Ends c.step ⟨.ok (), queue, taken⟩ ((s.setMemory q.region.memory m').served c.waiting) s
      ⟨q, buffer, .begin⟩ := by
  rcases q.read_cases (q.memory s) some with
    ⟨admitted, answer, queue', m'', committed, plain⟩ | ⟨e, pos, refused, plain, -⟩
  · rw [plain] at done
    cases done
    have length := length_take q (q.memory s) (q.readPos (q.memory s)) buffer.length
    rw [← length] at committed
    have copied := q.take_ne_nil (q.memory s) (q.readPos (q.memory s))
      (mt List.length_eq_zero_iff.mp some)
    exact ends_take admitted (ends_confirm mapped copied _ committed)
  · rw [plain] at done
    cases done

/-- A refusal for good is the same as well. -/
theorem ends_of_refused (some : buffer ≠ []) {e : Error} (now : e.retryable = false)
    {taken : List t.Value} {queue : Queue t} {m' : Memory}
    (refused : q.read (q.memory s) buffer = ⟨.error e, taken, queue, m'⟩) :
    m' = q.memory s ∧ Ends c.step ⟨.error e, queue, taken⟩ s s ⟨q, buffer, .begin⟩ := by
  rcases q.read_cases (q.memory s) some with
    ⟨admitted, answer, queue', m'', committed, plain⟩ | ⟨e', pos, judged, plain, -⟩
  · rw [plain] at refused
    cases refused
    have length := length_take q (q.memory s) (q.readPos (q.memory s)) buffer.length
    rw [← length] at committed
    have copied := q.take_ne_nil (q.memory s) (q.readPos (q.memory s))
      (mt List.length_eq_zero_iff.mp some)
    obtain ⟨-, same, ends⟩ := ends_confirm_overrun (c := c) copied _ committed
    exact ⟨same, ends_take admitted ends⟩
  · rw [plain] at refused
    cases refused
    refine ⟨rfl, .go (fun _ => rfl) (.last fun time => ?_)⟩
    rw [judge_refused judged, refuse_of_not_retryable now]
    rfl

/-- A refusal for now leaves everything as it is. -/
theorem judged_of_later (some : buffer ≠ []) {e : Error} (later : e.retryable = true)
    {taken : List t.Value} {queue : Queue t} {m' : Memory}
    (refused : q.read (q.memory s) buffer = ⟨.error e, taken, queue, m'⟩) :
    m' = q.memory s ∧ taken = buffer ∧ queue = q ∧
      q.flavor.checkRead q.capacity (q.writePos (q.memory s)) (q.readPos (q.memory s))
        buffer.length = ⟨.error e, q.readPos (q.memory s)⟩ := by
  rcases q.read_cases (q.memory s) some with
    ⟨admitted, answer, queue', m'', committed, plain⟩ | ⟨e', pos, judged, plain, here⟩
  · rw [plain] at refused
    cases refused
    have overran := (ends_confirm_overrun (c := ⟨none⟩) some _ committed).1
    rw [later] at overran
    cases overran
  · rw [plain] at refused
    cases refused
    cases here later
    exact ⟨rfl, rfl, Queue.follow_readPos .., judged⟩

end ReadCall

/-! ## Waiting in vain -/

/-- How many steps there may be before the next look at the clock. -/
def ReadPoint.toClock : ReadPoint → Nat
  | .expire => 0
  | .judge _ => 1
  | .begin => 2
  | .park _ => 3
  | .recheck .. => 4
  | .recount _ => 5
  | .observe => 6
  | _ => 7

/-- A call that waits stands here, with the write counter it has seen, if any. -/
def ReadPoint.Around (writePos : UInt64) : ReadPoint → Prop
  | .judge pos => pos = writePos
  | .begin | .expire | .clear | .observe | .recount _ | .recheck .. | .park _ => True
  | _ => False

namespace ReadCall

variable {t : ElementType} {q : Queue t} {s₀ s : Store} {buffer : List t.Value} {wait : Waiting}

/-- A call that has cleared its bits and found too little. -/
structure Waits (q : Queue t) (buffer : List t.Value) (wait : Waiting) (s₀ s : Store)
    (st : ReadState t) : Prop where
  same : (s₀.clearWord wait.flag wait.waitBits).Same s
  queue : st.queue = q
  buffer : st.buffer = buffer
  around : st.point.Around (q.writePos (q.memory s₀))

theorem refused_of_agree (sound : q.Sound)
    (agree : q.descriptor.AgreeUpTo 0 (q.memory s₀) (q.memory s)) {e : Error}
    (refused : q.flavor.checkRead q.capacity (q.writePos (q.memory s₀))
      (q.readPos (q.memory s₀)) buffer.length = ⟨.error e, q.readPos (q.memory s₀)⟩) :
    q.flavor.checkRead q.capacity (q.writePos (q.memory s)) (q.readPos (q.memory s))
      buffer.length = ⟨.error e, q.readPos (q.memory s)⟩ := by
  rw [Queue.writePos_of_agree agree, Queue.readPos_of_agree sound agree]
  exact refused

/-- As long as there is too little, a call that waits goes around until its
deadline. -/
theorem circles (sound : q.Sound) (aside : q.Aside wait.flag)
    (mapped : q.region.memory < s₀.memories.size) {e : Error} (later : e.retryable = true)
    (refused : q.flavor.checkRead q.capacity (q.writePos (q.memory s₀))
      (q.readPos (q.memory s₀)) buffer.length = ⟨.error e, q.readPos (q.memory s₀)⟩) :
    Circles (step ⟨some wait⟩) wait.deadline (⟨.error .timeout, q, buffer⟩ : ReadResult t)
      (Waits q buffer wait s₀) fun st => st.point.toClock := by
  constructor
  · rintro s ⟨queue, taken, p⟩ now ⟨same, own, buffered, around⟩ far
    dsimp only at own buffered
    subst own buffered
    have agree := WriteCall.agree_of_same wait aside mapped same
    cases p with
    | begin =>
      exact ⟨_, _, _, rfl, rfl, ⟨same, rfl, rfl, Queue.writePos_of_agree agree⟩,
        (by decide : 1 < 2)⟩
    | judge pos =>
      have seen : pos = queue.writePos (queue.memory s₀) := around
      have judged := judge_refused (c := ⟨some wait⟩) (refused_of_agree sound agree refused) now
      rw [Queue.writePos_of_agree agree, ← seen, refuse_of_retryable later,
        Queue.follow_readPos] at judged
      exact ⟨_, _, _, judged, rfl, ⟨same, rfl, rfl, trivial⟩, (by decide : 0 < 1)⟩
    | clear =>
      have again := (s₀.clearWord_clearWord wait.flag wait.waitBits).trans
        (same.clearWord wait.flag wait.waitBits)
      exact ⟨_, _, _, rfl, rfl, ⟨again, rfl, rfl, trivial⟩, (by decide : 6 < 7)⟩
    | observe =>
      refine ⟨_, _, _, rfl, rfl, ⟨same, rfl, rfl, ?_⟩, ?_⟩
      · dsimp only
        split <;> trivial
      · dsimp only
        split
        · exact (by decide : 5 < 6)
        · exact (by decide : 2 < 6)
    | recount seen =>
      exact ⟨_, _, _, rfl, rfl, ⟨same, rfl, rfl, trivial⟩, (by decide : 4 < 5)⟩
    | recheck seen pos =>
      refine ⟨_, _, _, rfl, rfl, ⟨same, rfl, rfl, ?_⟩, ?_⟩
      · dsimp only
        split <;> trivial
      · dsimp only
        split
        · exact (by decide : 2 < 4)
        · exact (by decide : 3 < 4)
    | park seen =>
      refine ⟨s, _, ⟨_, _, .begin⟩, rfl, ?_, ⟨same, rfl, rfl, trivial⟩, (by decide : 2 < 3)⟩
      split <;> rfl
    | expire => exact absurd rfl far
    | _ => exact absurd around id
  · rintro s ⟨_, _, p⟩ now ⟨-, rfl, rfl, around⟩ here expired
    cases p with
    | expire =>
      unfold step
      simp only [expired, if_true]
      rfl
    | _ => cases here
  · rintro s ⟨_, _, p⟩ now ⟨same, rfl, rfl, around⟩ here ahead
    cases p with
    | expire =>
      refine ⟨.go ⟨_, _, .clear⟩, ⟨_, _, .clear⟩, ?_, rfl, ⟨same, rfl, rfl, trivial⟩⟩
      unfold step
      simp only [ahead]
      rfl
    | _ => cases here

/-- The third step of a call that finds too little is the first look at the clock. -/
theorem third_step (wait : Waiting) {e : Error} (later : e.retryable = true)
    (refused : q.flavor.checkRead q.capacity (q.writePos (q.memory s)) (q.readPos (q.memory s))
      buffer.length = ⟨.error e, q.readPos (q.memory s)⟩) (clock : Nat → Instant) :
    alone (step ⟨some wait⟩) clock s (.go ⟨q, buffer, .begin⟩) 2 =
      (s, .go ⟨q, buffer, .expire⟩) := by
  have second : alone (step ⟨some wait⟩) clock s (.go ⟨q, buffer, .begin⟩) 1 =
      (s, .go ⟨q, buffer, .judge (q.writePos (q.memory s))⟩) := rfl
  rw [alone_succ second rfl, judge_refused refused, refuse_of_retryable later,
    Queue.follow_readPos]

/-- If it is too late by then the call ends at once, and otherwise it clears its bits
and goes around until it is too late. -/
theorem gives_up (wait : Waiting) (sound : q.Sound) (aside : q.Aside wait.flag)
    (mapped : q.region.memory < s.memories.size) {e : Error} (later : e.retryable = true)
    (refused : q.flavor.checkRead q.capacity (q.writePos (q.memory s)) (q.readPos (q.memory s))
      buffer.length = ⟨.error e, q.readPos (q.memory s)⟩) {clock : Nat → Instant}
    (monotone : Monotone clock) {n : Nat} (reached : wait.deadline.expired (clock n) = true) :
    ∃ s', EndsAt (step ⟨some wait⟩) clock s (.go ⟨q, buffer, .begin⟩)
        (⟨.error .timeout, q, buffer⟩ : ReadResult t) s' ∧
      if wait.deadline.expired (clock 2) then s' = s
      else (s.clearWord wait.flag wait.waitBits).Same s' := by
  have fourth := alone_succ (third_step wait later refused clock) rfl
  cases expired : wait.deadline.expired (clock 2) with
  | true =>
    refine ⟨s, ⟨3, ?_⟩, rfl⟩
    rw [fourth]
    unfold step
    simp only [expired, if_true]
    rfl
  | false =>
    have ahead : alone (step ⟨some wait⟩) clock s (.go ⟨q, buffer, .begin⟩) 3 =
        (s, .go ⟨q, buffer, .clear⟩) := by
      rw [fourth]
      unfold step
      simp only [expired]
      rfl
    obtain ⟨s', st, ⟨same, -⟩, ends⟩ := (circles sound aside mapped later refused).ends_at
      monotone reached (alone_succ ahead rfl) rfl ⟨.refl _, rfl, rfl, trivial⟩
    exact ⟨s', ends, same⟩

end ReadCall

/-! ## The result -/

/-- How a blocking read ends while nobody else does anything: it reads, or is
refused, or gives up at its deadline, as the plain read tells at the beginning. Its
third step is the first look at the clock. -/
structure Queue.LoneRead {t : ElementType} (q : Queue t) (buffer : List t.Value) (a : Manner)
    (w : FlagWord) (clock : Nat → Instant) (s : Store) : Prop where
  done : ∀ {taken queue m'}, q.read (q.memory s) buffer = ⟨.ok (), taken, queue, m'⟩ →
    EndsAt (ReadCall.inManner q a).step clock s (ReadCall.first q buffer a)
      ⟨.ok (), queue, taken⟩ ((s.setMemory q.region.memory m').raiseWord w a.notifyBits)
  refused : ∀ {e taken queue m'}, q.read (q.memory s) buffer = ⟨.error e, taken, queue, m'⟩ →
    e.retryable = false →
    EndsAt (ReadCall.inManner q a).step clock s (ReadCall.first q buffer a)
      ⟨.error e, queue, taken⟩ s ∧ m' = q.memory s
  late : ∀ {e taken queue m'}, q.read (q.memory s) buffer = ⟨.error e, taken, queue, m'⟩ →
    e.retryable = true →
    alone (ReadCall.inManner q a).step clock s (ReadCall.first q buffer a) 2 =
        (s, .go ⟨q, buffer, .expire⟩) ∧
      ∃ s', EndsAt (ReadCall.inManner q a).step clock s (ReadCall.first q buffer a)
          ⟨.error .timeout, queue, taken⟩ s' ∧
        (if a.deadline.expired (clock 2) then s' = s else (s.clearWord w a.waitBits).Same s') ∧
        q.descriptor.AgreeUpTo 0 m' (q.memory s')

/-- In each case there is an end, and it is the only one. -/
theorem Queue.LoneRead.existsUnique {t : ElementType} {q : Queue t} {buffer : List t.Value}
    {a : Manner} {w : FlagWord} {clock : Nat → Instant} {s : Store}
    (lone : q.LoneRead buffer a w clock s) :
    ∃! last : ReadResult t × Store,
      EndsAt (ReadCall.inManner q a).step clock s (ReadCall.first q buffer a) last.1 last.2 := by
  rcases plain : q.read (q.memory s) buffer with ⟨answer, taken, queue, m'⟩
  cases answer with
  | ok _ => exact (lone.done plain).existsUnique
  | error e =>
    cases later : e.retryable with
    | false => exact (lone.refused plain later).1.existsUnique
    | true =>
      obtain ⟨-, s', ends, -⟩ := lone.late plain later
      exact ends.existsUnique

theorem ReadCall.lone {t : ElementType} {q : Queue t} (sound : q.Sound) {s : Store}
    (mapped : q.region.memory < s.memories.size) {a : Manner}
    (aside : ∀ flag, a.external = some flag → q.Aside flag) {w : FlagWord}
    (flag : a.flag? q = some w) (masks : a.waitBits ≠ 0 ∧ a.notifyBits ≠ 0)
    {clock : Nat → Instant} (monotone : Monotone clock) {n : Nat}
    (reached : a.deadline.expired (clock n) = true) {buffer : List t.Value}
    (some : buffer ≠ []) : q.LoneRead buffer a w clock s := by
  have beside := a.aside_flag sound aside flag
  have first : first q buffer a = .go ⟨q, buffer, .begin⟩ := by
    rw [first_eq, if_neg some, if_neg (by simp [flag]), if_neg (by simp [masks])]
  have manner : inManner q a = ⟨.some ⟨w, a.waitBits, a.notifyBits, a.deadline⟩⟩ := by
    simp [inManner, Manner.waiting?, flag]
  constructor
  · intro taken queue m' read
    rw [first, manner]
    exact (ends_of_read mapped some read).alone (n := 0) rfl rfl
  · intro e taken queue m' refused now
    rw [first, manner]
    obtain ⟨same, ends⟩ := ends_of_refused (c := ⟨_⟩) some now refused
    exact ⟨ends.alone (n := 0) rfl rfl, same⟩
  · intro e taken queue m' refused later
    rw [first, manner]
    obtain ⟨rfl, rfl, rfl, judged⟩ := judged_of_later some later refused
    obtain ⟨s', ends, kept⟩ := gives_up ⟨w, a.waitBits, a.notifyBits, a.deadline⟩
      sound beside mapped later judged monotone reached
    refine ⟨third_step _ later judged clock, s', ends, kept, ?_⟩
    split at kept
    · exact kept ▸ .refl ..
    · exact WriteCall.agree_of_same ⟨w, a.waitBits, a.notifyBits, a.deadline⟩ beside mapped kept

/-- While nobody else does anything, blocking calls come to an end, and to that
of a plain call and no other: they do the same and then tell the flag, or fail
the same way and do nothing. Only where a plain call says "not yet" they say
that it is too late, and have cleared the bits they wait for if the first look
at the clock was in time. -/
theorem Queue.blocking_alone {t : ElementType} {q : Queue t} (sound : q.Sound) {s : Store}
    (mapped : q.region.memory < s.memories.size) {a : Manner}
    (aside : ∀ flag, a.external = some flag → q.Aside flag) {w : FlagWord}
    (flag : a.flag? q = some w) (masks : a.waitBits ≠ 0 ∧ a.notifyBits ≠ 0) {begun : Instant}
    {timeout : Duration} (nonzero : 0 < timeout) (counted : begun + timeout < clockLimit)
    (bounded : a.deadline = Deadline.after begun (some timeout)) {clock : Nat → Instant}
    (monotone : Monotone clock) {n : Nat} (reached : begun + timeout ≤ clock n) :
    (∀ data, data ≠ [] → q.LoneWrite data a w clock s ∧
        ∃! last : Except Error Unit × Store, EndsAt (WriteCall.inManner q data a).step clock s
          (WriteCall.first q data a) last.1 last.2) ∧
      ∀ buffer, buffer ≠ [] → q.LoneRead buffer a w clock s ∧
        ∃! last : ReadResult t × Store, EndsAt (ReadCall.inManner q a).step clock s
          (ReadCall.first q buffer a) last.1 last.2 := by
  have finite : ¬(timeout = 0 ∨ clockLimit ≤ begun + timeout) :=
    fun h => h.elim (Nat.ne_of_gt nonzero) (Nat.not_le.mpr counted)
  have ahead : a.deadline = some (begun + timeout) := by
    rw [bounded]
    exact if_neg finite
  have expired : a.deadline.expired (clock n) = true := by
    rw [ahead]
    exact decide_eq_true reached
  constructor
  · intro data some
    have lone : q.LoneWrite data a w clock s :=
      WriteCall.lone sound mapped aside flag masks monotone expired some
    exact ⟨lone, lone.existsUnique⟩
  · intro buffer some
    have lone : q.LoneRead buffer a w clock s :=
      ReadCall.lone sound mapped aside flag masks monotone expired some
    exact ⟨lone, lone.existsUnique⟩

/-- Five microseconds of patience, on the queue's own flag. -/
def fiveMicros : Manner where
  external := none
  waitBits := notEmpty
  notifyBits := notFull
  deadline := Deadline.after 0 (some 5000)

/-- On a clock with a step each microsecond, a read from a queue with nothing in it
ends too late, and a write does not wait at all. -/
theorem Queue.blocking_alone_flaggedBytes :
    (∃ s, EndsAt (ReadCall.inManner Duo.flaggedBytes fiveMicros).step (1000 * ·)
        Duo.flaggedStore (ReadCall.first Duo.flaggedBytes [byteQuantum 0] fiveMicros)
        ⟨.error .timeout, Duo.flaggedBytes, [byteQuantum 0]⟩ s ∧
      (Duo.flaggedStore.clearWord ⟨0, 128⟩ notEmpty).Same s) ∧
      EndsAt (WriteCall.inManner Duo.flaggedBytes [byteQuantum 7] fiveMicros).step (1000 * ·)
        Duo.flaggedStore (WriteCall.first Duo.flaggedBytes [byteQuantum 7] fiveMicros) (.ok ())
        ((Duo.flaggedStore.setMemory 0
          (Duo.flaggedBytes.write (.blank 196) [byteQuantum 7]).2).raiseWord ⟨0, 128⟩ notFull) := by
  have ok : Queue.create (.primitive .u8) .synchronized
      { quantumCount := 4, eventFlag := true, name := some "four" } .empty =
        .ok (Duo.flaggedBytes, Duo.flaggedStore) := rfl
  have mapped : Duo.flaggedBytes.region.memory < Duo.flaggedStore.memories.size := by decide
  have aside : ∀ flag, fiveMicros.external = some flag → Duo.flaggedBytes.Aside flag := nofun
  have monotone : Monotone fun n => 1000 * n := fun _ _ le => Nat.mul_le_mul_left 1000 le
  obtain ⟨writes, reads⟩ := blocking_alone (sound_of_create ok) mapped aside
    (w := ⟨0, 128⟩) rfl (by decide) (by decide : 0 < 5000) (by decide : 0 + 5000 < clockLimit) rfl
    monotone (n := 5) (Nat.le_refl 5000)
  constructor
  · have empty : Duo.flaggedBytes.read (Duo.flaggedBytes.memory Duo.flaggedStore) [byteQuantum 0] =
        ⟨.error (.insufficientData 1 0), [byteQuantum 0], Duo.flaggedBytes, .blank 196⟩ := rfl
    obtain ⟨-, s, ends, same, -⟩ := (reads _ (by simp)).1.late empty rfl
    exact ⟨s, ends, same⟩
  · exact (writes _ (by simp)).1.written rfl

end SharedQueue
