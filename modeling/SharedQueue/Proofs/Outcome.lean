/-
SharedQueue.Proofs.Outcome — what comes of a batch that is not waited for.

* `answer_write`, `answer_read` — the answer as one decision over the counters.
* `WriteDecided`, `ReadDecided` — when each answer is given, and how far the
  positions go.
* `WriteCall.Agrees`, `ReadCall.Agrees` — the two looks of a call that waits.
* `outcome_exact` — this is how every batch is decided.

A read is decided twice. The first decision compares with what is published,
the second one with what is announced; between them the slots are copied. A
flavor without a private cursor leaves out the comparisons with the capacity.
-/
import Mathlib.Tactic.SplitIfs
import SharedQueue.Call.Read
import SharedQueue.Call.Write
import SharedQueue.Proofs.Traffic

namespace SharedQueue

/-- The answer says "not yet". -/
def NotYet (answer : Except Error Unit) : Prop := ∃ e, answer = .error e ∧ e.retryable = true

@[simp] theorem not_notYet_ok : ¬ NotYet (.ok ()) := nofun

@[simp] theorem notYet_error {e : Error} : NotYet (.error e) ↔ e.retryable = true := by
  constructor
  · rintro ⟨_, ⟨⟩, retryable⟩
    exact retryable
  · exact fun retryable => ⟨e, rfl, retryable⟩

theorem Flavor.checkWrite_eq (flavor : Flavor) (capacity : Nat) (writePos readPos : UInt64)
    (count : Nat) :
    flavor.checkWrite capacity writePos readPos count =
      if capacity < count then .error (.exceedsCapacity count capacity)
      else if flavor = .synchronized ∧ availableToWrite capacity writePos readPos < count then
        .error (.insufficientSpace count (availableToWrite capacity writePos readPos))
      else .ok () := by
  unfold checkWrite checkCapacity
  by_cases large : capacity < count
  · rw [if_pos large, if_pos large]
    rfl
  · rw [if_neg large, if_neg large]
    cases flavor with
    | unsynchronized => rfl
    | synchronized => simp [bind, Except.bind]

namespace Queue

variable {t : ElementType} {q q' : Queue t} {m m' : Memory} {tx : Transaction} {e : Error}
  {data buffer : List t.Value}

/-! ## The answer -/

theorem check_of_write (some : data ≠ []) :
    q.flavor.checkWrite q.capacity (q.writePos m) (q.readPos m) data.length =
      (q.write m data).1 := by
  unfold write beginWrite
  rw [if_neg (by simpa using some)]
  dsimp only
  cases q.flavor.checkWrite q.capacity (q.writePos m) (q.readPos m) data.length <;> rfl

theorem answer_write (some : data ≠ []) :
    (q.write m data).1 =
      if q.capacity < data.length then .error (.exceedsCapacity data.length q.capacity)
      else if q.flavor = .synchronized ∧ q.availableToWrite m < data.length then
        .error (.insufficientSpace data.length (q.availableToWrite m))
      else .ok () := by
  rw [← check_of_write some]
  exact q.flavor.checkWrite_eq q.capacity (q.writePos m) (q.readPos m) data.length

theorem beginRead_eq (q : Queue t) (m : Memory) (count : Nat) :
    q.beginRead m count =
      if q.capacity < count then (.error (.exceedsCapacity count q.capacity), q)
      else if q.flavor = .unsynchronized ∧ q.capacity < q.availableToRead m then
        (.error (.overflow (q.availableToRead m) (q.writePos m)), q.follow (q.writePos m))
      else if q.availableToRead m < count then
        (.error (.insufficientData count (q.availableToRead m)), q)
      else (.ok ⟨q.readPos m, count⟩, q) := by
  have stays := follow_readPos q m
  have same : Flavor.availableToRead (q.writePos m) (q.readPos m) = q.availableToRead m := rfl
  unfold beginRead Flavor.checkRead
  dsimp only
  rw [same]
  split_ifs
  · exact congrArg _ stays
  · rfl
  · exact congrArg _ stays
  · exact congrArg _ stays

/-- How far the slots that may be overwritten are in front of the reader. -/
def lag (q : Queue t) (m : Memory) : Nat :=
  distance (max (q.reservation m) (q.writePos m)) (q.readPos m)

theorem commitRead_answer (sound : q.Sound) (m : Memory) {count : Nat} (some : count ≠ 0) :
    (q.commitRead m ⟨q.readPos m, count⟩).1 =
      if q.flavor = .unsynchronized ∧ q.capacity < q.lag m then
        .error (.overflow (q.lag m) (q.writePos m))
      else .ok () := by
  cases flavor : q.flavor with
  | synchronized => rw [commitRead_synchronized sound flavor some, if_neg (by simp)]
  | unsynchronized =>
    rw [commitRead_unsynchronized sound flavor some, ← lag]
    simp only [true_and]
    split <;> rfl

theorem answer_read (sound : q.Sound) (some : buffer ≠ []) :
    (q.read m buffer).answer =
      if q.capacity < buffer.length then .error (.exceedsCapacity buffer.length q.capacity)
      else if q.flavor = .unsynchronized ∧ q.capacity < q.availableToRead m then
        .error (.overflow (q.availableToRead m) (q.writePos m))
      else if q.availableToRead m < buffer.length then
        .error (.insufficientData buffer.length (q.availableToRead m))
      else if q.flavor = .unsynchronized ∧ q.capacity < q.lag m then
        .error (.overflow (q.lag m) (q.writePos m))
      else .ok () := by
  have filled : buffer.length ≠ 0 := fun none => some (List.eq_nil_of_length_eq_zero none)
  have begun := beginRead_eq q m buffer.length
  rw [← commitRead_answer sound m filled]
  split_ifs at begun ⊢
  · rw [read_of_refused some begun]
  · rw [read_of_refused some begun]
  · rw [read_of_refused some begun]
  · rw [read_of_begun some begun]

/-! ## How far the positions go -/

theorem writePos_write (sound : q.Sound) (some : data ≠ []) (ok : (q.write m data).1 = .ok ())
    (below : (q.writePos m).toNat + data.length < wordLimit) :
    (q.writePos (q.write m data).2).toNat = (q.writePos m).toNat + data.length := by
  cases begun : q.beginWrite m data.length with
  | error e =>
    rw [write_of_refused some begun] at ok
    cases ok
  | ok opened =>
    obtain ⟨tx, m'⟩ := opened
    rw [write_of_begun some begun]
    obtain ⟨same, -⟩ := beginWrite_eq_ok begun
    have filled : tx.count ≠ 0 := by
      rw [same]
      exact fun none => some (List.eq_nil_of_length_eq_zero none)
    have published := view_commitWrite sound (q.fill m' tx.pos data) filled
    have written := congrArg RingView.written published
    calc (q.writePos (q.commitWrite (q.fill m' tx.pos data) tx)).toNat
      _ = tx.stop.toNat := written
      _ = tx.pos.toNat + tx.count := Transaction.toNat_stop (by rw [same]; exact below)
      _ = (q.writePos m).toNat + data.length := by rw [same]

/-- A commit that goes through leaves the reader behind the transaction. -/
theorem readPos_commitRead (sound : q.Sound) (some : tx.count ≠ 0)
    (ok : (q.commitRead m tx).1 = .ok ()) :
    (q.commitRead m tx).2.1.readPos (q.commitRead m tx).2.2 = tx.stop := by
  cases flavor : q.flavor with
  | synchronized =>
    rw [commitRead_synchronized sound flavor some]
    have released := view_release sound flavor m tx.stop
    have told := (view_notify sound (q.release m tx.stop).2 notFull).trans released
    rw [sound.readPos_eq flavor]
    exact UInt64.toNat_inj.mp (congrArg RingView.read told)
  | unsynchronized =>
    obtain ⟨own, cursor⟩ := sound.cursor_own flavor
    rw [commitRead_unsynchronized sound flavor some] at ok ⊢
    split at ok
    · cases ok
    · rename_i near
      rw [if_neg near, follow_of_own cursor]
      rfl

theorem readPos_read (sound : q.Sound) (some : buffer ≠ [])
    (ok : (q.read m buffer).answer = .ok ())
    (below : (q.readPos m).toNat + buffer.length < wordLimit) :
    ((q.read m buffer).queue.readPos (q.read m buffer).memory).toNat =
      (q.readPos m).toNat + buffer.length := by
  cases begun : q.beginRead m buffer.length with
  | mk answer q' =>
    cases answer with
    | error e =>
      rw [read_of_refused some begun] at ok
      cases ok
    | ok tx =>
      rw [read_of_begun some begun] at ok ⊢
      obtain ⟨rfl, same, -⟩ := beginRead_eq_ok begun
      have filled : tx.count ≠ 0 := by
        rw [same]
        exact fun none => some (List.eq_nil_of_length_eq_zero none)
      calc ((q'.commitRead m tx).2.1.readPos (q'.commitRead m tx).2.2).toNat
        _ = tx.stop.toNat := congrArg UInt64.toNat (readPos_commitRead sound filled ok)
        _ = tx.pos.toNat + tx.count := Transaction.toNat_stop (by rw [same]; exact below)
        _ = (q'.readPos m).toNat + buffer.length := by rw [same]

/-! ## When each answer is given -/

/-- How a batch to be written is decided. -/
structure WriteDecided (q : Queue t) (m : Memory) (data : List t.Value) : Prop where
  large : (q.write m data).1 = .error (.exceedsCapacity data.length q.capacity) ↔
    q.capacity < data.length
  full : (q.write m data).1 =
      .error (.insufficientSpace data.length (q.availableToWrite m)) ↔
    q.flavor = .synchronized ∧ data.length ≤ q.capacity ∧
      q.capacity - distance (q.writePos m) (q.readPos m) < data.length
  ok : (q.write m data).1 = .ok () ↔
    data.length ≤ q.capacity ∧ (q.flavor = .synchronized →
      data.length ≤ q.capacity - distance (q.writePos m) (q.readPos m))
  onward : (q.write m data).1 = .ok () → (q.writePos m).toNat + data.length < wordLimit →
    (q.writePos (q.write m data).2).toNat = (q.writePos m).toNat + data.length
  notYet : data.length ≤ q.capacity → (NotYet (q.write m data).1 ↔
    q.flavor = .synchronized ∧ q.availableToWrite m < data.length)

/-- How a batch to be read is decided. -/
structure ReadDecided (q : Queue t) (m : Memory) (buffer : List t.Value) : Prop where
  large : (q.read m buffer).answer = .error (.exceedsCapacity buffer.length q.capacity) ↔
    q.capacity < buffer.length
  /-- The reader was overrun: by what is published, or by what is announced. -/
  overrun : ∀ lag resync, (q.read m buffer).answer = .error (.overflow lag resync) ↔
    q.flavor = .unsynchronized ∧ buffer.length ≤ q.capacity ∧ resync = q.writePos m ∧
      (q.capacity < distance (q.writePos m) (q.readPos m) ∧
          lag = distance (q.writePos m) (q.readPos m) ∨
        buffer.length ≤ distance (q.writePos m) (q.readPos m) ∧
          distance (q.writePos m) (q.readPos m) ≤ q.capacity ∧
          q.capacity < distance (max (q.reservation m) (q.writePos m)) (q.readPos m) ∧
          lag = distance (max (q.reservation m) (q.writePos m)) (q.readPos m))
  empty : (q.read m buffer).answer =
      .error (.insufficientData buffer.length (distance (q.writePos m) (q.readPos m))) ↔
    buffer.length ≤ q.capacity ∧ distance (q.writePos m) (q.readPos m) < buffer.length
  ok : (q.read m buffer).answer = .ok () ↔
    buffer.length ≤ q.capacity ∧ buffer.length ≤ distance (q.writePos m) (q.readPos m) ∧
      (q.flavor = .unsynchronized →
        distance (q.writePos m) (q.readPos m) ≤ q.capacity ∧
          distance (max (q.reservation m) (q.writePos m)) (q.readPos m) ≤ q.capacity)
  onward : (q.read m buffer).answer = .ok () →
    (q.readPos m).toNat + buffer.length < wordLimit →
    ((q.read m buffer).queue.readPos (q.read m buffer).memory).toNat =
      (q.readPos m).toNat + buffer.length
  notYet : buffer.length ≤ q.capacity →
    (NotYet (q.read m buffer).answer ↔ q.availableToRead m < buffer.length)

theorem writeDecided (sound : q.Sound) (m : Memory) (some : data ≠ []) :
    q.WriteDecided m data := by
  have answer := answer_write (q := q) (m := m) some
  have room : q.availableToWrite m = q.capacity - distance (q.writePos m) (q.readPos m) := rfl
  -- each time, the cases are the answers that the decision can come to
  refine ⟨?_, ?_, ?_, writePos_write sound some, ?_⟩
  · rw [answer]
    split_ifs <;> grind
  · rw [answer, ← room]
    split_ifs <;> grind
  · rw [answer, ← room]
    split_ifs <;> grind
  · rw [answer]
    split_ifs <;> simp <;> grind [Error.retryable]

theorem readDecided (sound : q.Sound) (m : Memory) (some : buffer ≠ []) :
    q.ReadDecided m buffer := by
  have answer := answer_read (m := m) sound some
  have unread : q.availableToRead m = distance (q.writePos m) (q.readPos m) := rfl
  have lag : q.lag m = distance (max (q.reservation m) (q.writePos m)) (q.readPos m) := rfl
  refine ⟨?_, ?_, ?_, ?_, readPos_read sound some, ?_⟩
  · rw [answer]
    split_ifs <;> grind
  · intro lag resync
    rw [answer]
    split_ifs <;> grind
  · rw [answer, ← unread]
    split_ifs <;> grind
  · rw [answer]
    split_ifs <;> grind
  · rw [answer]
    split_ifs <;> simp <;> grind [Error.retryable]

end Queue

/-! ## Calls that wait -/

/-- A write that waits agrees with the write that does not: it is refused, and
waits, exactly if that one says "not yet", and when it looks for room a second
time it goes to sleep exactly if that one still says so. An unsynchronized write
never gets to the second look. -/
structure WriteCall.Agrees {t : ElementType} (c : WriteCall t) (now : Instant) (s : Store) :
    Prop where
  waits : c.step now s (.judge (c.queue.writePos (c.queue.memory s))) = (s, .go .expire) ↔
    NotYet (c.queue.write (c.queue.memory s) c.data).1
  looks : ∀ seen, c.step now s (.recount seen) =
    (s, .go (.recheck seen (c.queue.writePos (c.queue.memory s))))
  sleeps : c.queue.flavor = .synchronized → ∀ seen,
    (c.step now s (.recheck seen (c.queue.writePos (c.queue.memory s))) = (s, .go (.park seen)) ↔
      NotYet (c.queue.write (c.queue.memory s) c.data).1)

/-- The same for a read. -/
structure ReadCall.Agrees {t : ElementType} (c : ReadCall) (now : Instant) (s : Store)
    (q : Queue t) (buffer : List t.Value) : Prop where
  waits : c.step now s ⟨q, buffer, .judge (q.writePos (q.memory s))⟩ =
      (s, .go ⟨q, buffer, .expire⟩) ↔
    NotYet (q.read (q.memory s) buffer).answer
  looks : ∀ seen, c.step now s ⟨q, buffer, .recount seen⟩ =
    (s, .go ⟨q, buffer, .recheck seen (q.writePos (q.memory s))⟩)
  sleeps : ∀ seen, c.step now s ⟨q, buffer, .recheck seen (q.writePos (q.memory s))⟩ =
      (s, .go ⟨q, buffer, .park seen⟩) ↔
    NotYet (q.read (q.memory s) buffer).answer

theorem WriteCall.agrees {t : ElementType} {c : WriteCall t} {wait : Waiting}
    (waiting : c.waiting = some wait) (sound : c.queue.Sound) (filled : c.data ≠ [])
    (fits : c.data.length ≤ c.queue.capacity) (now : Instant) (s : Store) : c.Agrees now s := by
  refine ⟨?_, ?_, ?_⟩
  · rw [← Queue.check_of_write filled]
    unfold step
    dsimp only
    split
    · rename_i e refused
      rw [refused, notYet_error, refuse, waiting]
      by_cases retryable : e.retryable = true
      · simp [retryable]
      · simp [retryable]
    · rename_i admitted
      rw [admitted]
      split <;> simp
  · intro seen
    unfold step
    simp only [waiting]
  · intro flavor seen
    have notYet := (Queue.writeDecided sound (c.queue.memory s) filled).notYet fits
    have room : Flavor.availableToWrite c.queue.capacity (c.queue.writePos (c.queue.memory s))
      (c.queue.readPos (c.queue.memory s)) = c.queue.availableToWrite (c.queue.memory s) := rfl
    rw [notYet]
    unfold step
    simp only [waiting]
    rw [room]
    split_ifs with enough
    · simp [enough]
    · simp [flavor, Nat.lt_of_not_le enough]

theorem ReadCall.agrees {t : ElementType} {c : ReadCall} {wait : Waiting}
    (waiting : c.waiting = some wait) {q : Queue t} (sound : q.Sound) {buffer : List t.Value}
    (filled : buffer ≠ []) (fits : buffer.length ≤ q.capacity) (now : Instant) (s : Store) :
    c.Agrees now s q buffer := by
  have notYet := (Queue.readDecided sound (q.memory s) filled).notYet fits
  have ready : Flavor.availableToRead (q.writePos (q.memory s)) (q.readPos (q.memory s)) =
    q.availableToRead (q.memory s) := rfl
  refine ⟨?_, ?_, ?_⟩
  · have stays := Queue.follow_readPos q (q.memory s)
    rw [notYet]
    unfold step Flavor.checkRead
    dsimp only
    rw [if_neg (Nat.not_lt.mpr fits), ready]
    split_ifs with far less
    · -- an overrun is told, and then there is more than enough
      have enough : buffer.length ≤ q.availableToRead (q.memory s) := by omega
      simp [Flavor.overrun, refuse, waiting, Error.retryable, ReadState.finish, enough]
    · simp [refuse, waiting, Error.retryable, ReadState.goto, ReadState.follow, stays, less]
    · simp [ReadState.goto, less]
  · intro seen
    unfold step
    simp only [waiting]
    rfl
  · intro seen
    rw [notYet]
    unfold step
    simp only [waiting]
    rw [ready]
    split_ifs with enough
    · simp [enough, ReadState.goto]
    · simp [Nat.lt_of_not_le enough, ReadState.goto]

/-! ## Every batch -/

/-- Whatever the counters hold, a batch is decided by how far they are apart, and
calls that wait come to the same decisions. -/
theorem outcome_exact {t : ElementType} {q : Queue t} (sound : q.Sound) :
    (∀ m {data : List t.Value}, data ≠ [] → q.WriteDecided m data) ∧
    (∀ m {buffer : List t.Value}, buffer ≠ [] → q.ReadDecided m buffer) ∧
    ∀ (wait : Waiting) (now : Instant) (s : Store) {batch : List t.Value}, batch ≠ [] →
      batch.length ≤ q.capacity →
      WriteCall.Agrees ⟨q, batch, some wait⟩ now s ∧ ReadCall.Agrees ⟨some wait⟩ now s q batch := by
  refine ⟨fun m _ some => Queue.writeDecided sound m some,
    fun m _ some => Queue.readDecided sound m some, ?_⟩
  intro wait now s batch some fits
  exact ⟨WriteCall.agrees rfl sound some fits now s, ReadCall.agrees rfl sound some fits now s⟩

/-- A memory in which two of the four quanta are published, and the slots of three
more are announced, if there is a word for it. -/
def halfFull (flavor : Flavor) : Memory :=
  (fourBytes flavor).reserve
    ((fourBytes flavor).write (.blank 132) ([7, 8].map byteQuantum)).2 5

/-- Three more do not fit, nor can three be read. In the other flavor they would
fit, but not even one can be read. -/
theorem outcome_exact_halfFull :
    ((fourBytes .synchronized).write (halfFull .synchronized) ([1, 2, 3].map byteQuantum)).1 =
        .error (.insufficientSpace 3 2) ∧
      ((fourBytes .synchronized).read (halfFull .synchronized)
        ([0, 0, 0].map byteQuantum)).answer = .error (.insufficientData 3 2) ∧
      ((fourBytes .unsynchronized).write (halfFull .unsynchronized)
        ([1, 2, 3].map byteQuantum)).1 = .ok () ∧
      ((fourBytes .unsynchronized).read (halfFull .unsynchronized)
        ([0].map byteQuantum)).answer = .error (.overflow 5 2) := by
  obtain ⟨writes, reads, -⟩ := outcome_exact (Queue.sound_of_create (create_fourBytes .synchronized))
  obtain ⟨writes', reads', -⟩ :=
    outcome_exact (Queue.sound_of_create (create_fourBytes .unsynchronized))
  have some (n : Nat) (rest : List Nat) : (n :: rest).map byteQuantum ≠ [] := List.cons_ne_nil _ _
  refine ⟨?_, ?_, ?_, ?_⟩
  · exact (writes (halfFull .synchronized) (some 1 [2, 3])).full.mpr (by decide)
  · exact (reads (halfFull .synchronized) (some 0 [0, 0])).empty.mpr (by decide)
  · exact (writes' (halfFull .unsynchronized) (some 1 [2, 3])).ok.mpr (by decide)
  · exact ((reads' (halfFull .unsynchronized) (some 0 [])).overrun 5 2).mpr (by decide)

end SharedQueue
