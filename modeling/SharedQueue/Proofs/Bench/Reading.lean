/-
SharedQueue.Proofs.Bench.Reading — the reading program, step by step.

* `Tally.countAll_samples` — counting a stretch of the stream finds nothing
  wrong if the tally expects its first quantum, or none in particular.
* `Counts` — what is true of a handle and a tally between two batches.
* `ReadsBatch`, `AtRead` — the call for a batch, and what is known at each of
  its points.
* `Yields`, `yields_step` — what one step of the call does to the queue, and
  that the next point is known in the same way.

The quanta are copied before it is known whether they are whole. What is known
of the copy is that it is right where the front has not got to
(`AtRead` at `confirm`); the last look at the reservation decides whether
that is all of it.
-/
import SharedQueue.Proofs.Bench.Pair

namespace SharedQueue

/-- The batch has been released. -/
def ReadPoint.released : ReadPoint → Bool
  | .raiseOwn | .signalOwn | .raiseNotify | .signalNotify | .done => true
  | _ => false

namespace Bench

variable {wc : WriterConfig} {rc : ReaderConfig} {home q : Queue quantum} {s : Store}
  {v v' : RingView quantum} {stream : List quantum.Value} {call : ReadCall} {tally : Tally}
  {st : ReadState quantum}

/-! ## Counting -/

theorem sample_succ (n : Nat) :
    BitVec.add (n := 16) (sample n) (1 : BitVec 16) = sample (n + 1) := by
  show BitVec.ofNat 16 n + BitVec.ofNat 16 1 = BitVec.ofNat 16 (n + 1)
  rw [BitVec.ofNat_add]

theorem samples_succ (start count : Nat) :
    samples start (count + 1) = sample start :: samples (start + 1) count := by
  rw [Nat.add_comm count 1, ← samples_append start 1 count]
  rfl

namespace Tally

/-- The tally has found nothing wrong, and expects this place of the stream, or
none in particular. -/
structure Expects (t : Tally) (place : Nat) : Prop where
  mismatches_eq : t.mismatches = 0
  expected : ∀ e, t.expected = some e → e = sample place

theorem Expects.count {t : Tally} {place : Nat} (expects : t.Expects place) :
    (t.count (sample place)).Expects (place + 1) := by
  refine ⟨?_, fun e next => ?_⟩
  · unfold Tally.count
    cases known : t.expected with
    | none => exact expects.mismatches_eq
    | some e =>
      have right := expects.expected e known
      simp [right, expects.mismatches_eq]
  · rw [← Option.some.inj next]
    exact sample_succ place

theorem countAll_samples {t : Tally} {place : Nat} (expects : t.Expects place) (count : Nat) :
    (t.countAll (samples place count)).Expects (place + count) := by
  induction count generalizing t place with
  | zero => exact expects
  | succ count ih =>
    have same : place + (count + 1) = place + 1 + count := by omega
    rw [samples_succ, same]
    exact ih expects.count

/-- Whatever comes is counted. -/
theorem received_countAll (t : Tally) (values : List quantum.Value) :
    (t.countAll values).received = t.received + values.length := by
  induction values generalizing t with
  | nil => rfl
  | cons value rest ih =>
    have later : (t.countAll (value :: rest)).received = t.received + 1 + rest.length := ih _
    rw [later, List.length_cons]
    omega

/-- No batch that was received is an overrun. -/
theorem overflows_countAll (t : Tally) (values : List quantum.Value) :
    (t.countAll values).overflows = t.overflows := by
  induction values generalizing t with
  | nil => rfl
  | cons value rest ih => exact ih (t.count value)

/-- What was found wrong is never forgotten. -/
theorem mismatches_le_countAll (t : Tally) (values : List quantum.Value) :
    t.mismatches ≤ (t.countAll values).mismatches := by
  induction values generalizing t with
  | nil => exact Nat.le_refl _
  | cons value rest ih =>
    have grows : ∀ wrong : Bool,
        t.mismatches ≤ if wrong then t.mismatches + 1 else t.mismatches := by
      intro wrong
      cases wrong <;> simp
    exact Nat.le_trans (grows _) (ih (t.count value))

end Tally

/-! ## A handle and a tally -/

/-- A handle on the same queue. -/
structure Kin (home q : Queue quantum) : Prop where
  descriptor_eq : q.descriptor = home.descriptor
  memory_eq : q.region.memory = home.region.memory
  sound : q.Sound

namespace Kin

theorem memory (kin : Kin home q) (s : Store) : q.memory s = home.memory s :=
  congrArg s.memory kin.memory_eq

theorem view (kin : Kin home q) (m : Memory) : q.view m = home.view m :=
  Queue.view_congr kin.descriptor_eq m

theorem flavor (kin : Kin home q) : q.flavor = home.flavor :=
  congrArg Descriptor.flavor kin.descriptor_eq

theorem capacity (kin : Kin home q) : q.capacity = home.capacity :=
  congrArg Descriptor.quantumCount kin.descriptor_eq

theorem flagWord? (kin : Kin home q) : q.flagWord? = home.flagWord? := by
  rw [Queue.flagWord?, Queue.flagWord?, kin.descriptor_eq, kin.memory_eq]

/-- A shared counter keeps the front one turn of the ring before the reader. -/
theorem front_eq (kin : Kin home q) (flavor : home.flavor = .synchronized)
    (v : RingView quantum) : home.front v = q.place v + home.capacity := by
  rw [Queue.front_synchronized flavor, kin.sound.place_synchronized (kin.flavor.trans flavor)]

/-- A private reader stands where it has moved to. -/
theorem place_follow (kin : Kin home q) (flavor : home.flavor = .unsynchronized) (pos : UInt64)
    (v : RingView quantum) : (q.follow pos).place v = pos.toNat := by
  obtain ⟨own, cursor⟩ := kin.sound.cursor_own (kin.flavor.trans flavor)
  rw [Queue.follow_of_own cursor]
  rfl

theorem continues (kin : Kin home q) {q' : Queue quantum} (continues : q.Continues q') :
    Kin home q' :=
  ⟨continues.descriptor_eq.trans kin.descriptor_eq,
    (congrArg Region.memory continues.region_eq).trans kin.memory_eq, continues.sound kin.sound⟩

end Kin

/-- What is true of a handle and a tally between two batches. -/
structure Counts (rc : ReaderConfig) (home : Queue quantum) (v : RingView quantum)
    (q : Queue quantum) (tally : Tally) : Prop where
  kin : Kin home q
  fits : rc.batch ≤ home.capacity
  expects : tally.Expects (q.place v)
  place_le : q.place v ≤ v.written
  batches : Batches rc.batch rc.messages tally.received
  /-- In a synchronized queue nothing is skipped. -/
  whole : home.flavor = .synchronized → tally.received = q.place v

theorem Counts.fed (counts : Counts rc home v q tally) (fed : Fed home v v') :
    Counts rc home v' q tally := by
  have place : q.place v' = q.place v := Queue.place_congr fed.read_eq
  refine ⟨counts.kin, counts.fits, ?_, ?_, counts.batches, fun flavor => ?_⟩
  · rw [place]
    exact counts.expects
  · rw [place]
    exact Nat.le_trans counts.place_le fed.written_le
  · rw [place]
    exact counts.whole flavor

/-! ## One batch -/

/-- The call for the next batch. -/
structure ReadsBatch (rc : ReaderConfig) (home : Queue quantum) (call : ReadCall) (tally : Tally)
    (st : ReadState quantum) : Prop where
  kin : Kin home st.queue
  length_eq : st.buffer.length = ReaderState.nextBatch rc tally.received
  waiting : ∃ wait, call.waiting = some wait ∧ home.flagWord? = some wait.flag

/-- The quanta of the batch are there. -/
structure Ahead (rc : ReaderConfig) (home : Queue quantum) (v : RingView quantum)
    (q : Queue quantum) (tally : Tally) (count : Nat) (pos : UInt64) : Prop where
  counts : Counts rc home v q tally
  pos_eq : pos.toNat = q.place v
  published : q.place v + count ≤ v.written

/-- The quanta that were copied are right where the front has not got to. -/
def Copied (home : Queue quantum) (v : RingView quantum) (q : Queue quantum)
    (buffer : List quantum.Value) : Prop :=
  ∀ i (hi : i < buffer.length), home.front v ≤ q.place v + i + home.capacity →
    buffer[i] = sample (q.place v + i)

/-- What is known at a point of reading a batch. -/
def AtRead (rc : ReaderConfig) (home : Queue quantum) (v : RingView quantum) (tally : Tally)
    (st : ReadState quantum) : ReadPoint → Prop
  | .judge writePos => Counts rc home v st.queue tally ∧ st.queue.place v ≤ writePos.toNat ∧
    writePos.toNat ≤ v.written
  | .take pos => Ahead rc home v st.queue tally st.buffer.length pos
  | .confirm pos =>
    Ahead rc home v st.queue tally st.buffer.length pos ∧ Copied home v st.queue st.buffer
  | .verify pos writePos =>
    Ahead rc home v st.queue tally st.buffer.length pos ∧ Copied home v st.queue st.buffer ∧
    st.queue.place v ≤ writePos.toNat ∧ writePos.toNat ≤ v.written
  | .release pos => Ahead rc home v st.queue tally st.buffer.length pos ∧
    st.buffer = samples (st.queue.place v) st.buffer.length
  | .raiseOwn | .signalOwn | .raiseNotify | .signalNotify | .done =>
    Counts rc home v st.queue (tally.countAll st.buffer)
  | .begin | .expire | .clear | .observe | .recount _ | .recheck .. | .park _ =>
    Counts rc home v st.queue tally

/-- Between two points the handle and the tally are right, once the batch is
released with the batch. -/
theorem AtRead.counts {p : ReadPoint} (reading : AtRead rc home v tally st p) :
    Counts rc home v st.queue (if p.released then tally.countAll st.buffer else tally) := by
  cases p with
  | judge => exact reading.1
  | take => exact Ahead.counts reading
  | confirm | verify | release => exact reading.1.counts
  | raiseOwn | signalOwn | raiseNotify | signalNotify | done | begin | expire | clear | observe
  | recount | recheck | park => exact reading

theorem Ahead.fed {count : Nat} {pos : UInt64} (ahead : Ahead rc home v q tally count pos)
    (fed : Fed home v v') : Ahead rc home v' q tally count pos := by
  have place : q.place v' = q.place v := Queue.place_congr fed.read_eq
  refine ⟨ahead.counts.fed fed, ?_, ?_⟩
  · rw [place]
    exact ahead.pos_eq
  · rw [place]
    exact Nat.le_trans ahead.published fed.written_le

theorem Copied.fed {buffer : List quantum.Value} (copied : Copied home v q buffer)
    (fed : Fed home v v') : Copied home v' q buffer := by
  intro i hi free
  rw [Queue.place_congr fed.read_eq] at free ⊢
  exact copied i hi (Nat.le_trans fed.front_le free)

theorem AtRead.fed {p : ReadPoint} (reading : AtRead rc home v tally st p) (fed : Fed home v v') :
    AtRead rc home v' tally st p := by
  have place : st.queue.place v' = st.queue.place v := Queue.place_congr fed.read_eq
  cases p with
  | judge writePos =>
    obtain ⟨counts, low, high⟩ := reading
    exact ⟨counts.fed fed, place ▸ low, Nat.le_trans high fed.written_le⟩
  | take pos => exact Ahead.fed reading fed
  | confirm pos => exact ⟨reading.1.fed fed, reading.2.fed fed⟩
  | verify pos writePos =>
    obtain ⟨ahead, copied, low, high⟩ := reading
    exact ⟨ahead.fed fed, copied.fed fed, place ▸ low, Nat.le_trans high fed.written_le⟩
  | release pos =>
    obtain ⟨ahead, same⟩ := reading
    refine ⟨ahead.fed fed, ?_⟩
    rw [place]
    exact same
  | raiseOwn | signalOwn | raiseNotify | signalNotify | done | begin | expire | clear | observe
  | recount | recheck | park => exact Counts.fed reading fed

/-- The call has waited too long. -/
def TimesOut (call : ReadCall) (now : Instant) (st : ReadState quantum) : Prop :=
  st.point = .expire ∧ ∃ wait, call.waiting = some wait ∧ wait.deadline.expired now = true

/-- What a step of the call leads to. -/
structure Yields (rc : ReaderConfig) (home : Queue quantum) (call : ReadCall) (tally : Tally)
    (v v' : RingView quantum) (late : Prop) (move : ReadState.Next quantum) : Prop where
  drained : Drained home v v'
  goes : ∀ {st}, move.next? = some st →
    ReadsBatch rc home call tally st ∧ AtRead rc home v' tally st st.point
  ends : ∀ {r}, move = .finish r →
    r.answer = .ok () ∧ Counts rc home v' r.queue (tally.countAll r.buffer) ∨
      (∃ lag pos, r.answer = .error (.overflow lag pos)) ∧
        Counts rc home v' r.queue tally.overrun ∨
      r.answer = .error .timeout ∧ Counts rc home v' r.queue tally ∧ late

/-- Nothing in view has changed, and the call goes on. -/
theorem yields_of_go {late : Prop} {move : ReadState.Next quantum} (st : ReadState quantum)
    (ring : Ring wc home v stream) (same : v' = v) (next : move.next? = some st)
    (batch : ReadsBatch rc home call tally st) (reading : AtRead rc home v tally st st.point) :
    Yields rc home call tally v v' late move := by
  refine ⟨.of_eq ring.read_le same, fun next' => ?_, fun finish => ?_⟩
  · cases next.symm.trans next'
    subst same
    exact ⟨batch, reading⟩
  · rw [finish] at next
    cases next

theorem ReadsBatch.goto (batch : ReadsBatch rc home call tally st) (p : ReadPoint) :
    ReadsBatch rc home call tally { st with point := p } :=
  ⟨batch.kin, batch.length_eq, batch.waiting⟩

/-! ## The points of a call -/

theorem toNat_writePos (kin : Kin home q) (s : Store) :
    (q.writePos (q.memory s)).toNat = (home.view (home.memory s)).written := by
  rw [← kin.view, kin.memory]
  rfl

theorem toNat_readPos (kin : Kin home q) (s : Store) :
    (q.readPos (q.memory s)).toNat = q.place (home.view (home.memory s)) := by
  rw [kin.sound.toNat_readPos, kin.view, kin.memory]

/-- A private reader that was overrun goes on at a position that was written. -/
theorem counts_overrun (counts : Counts rc home v q tally) (flavor : home.flavor = .unsynchronized)
    {pos : UInt64} (written : pos.toNat ≤ v.written) :
    Counts rc home v (q.follow pos) tally.overrun := by
  have place := counts.kin.place_follow flavor pos v
  refine ⟨counts.kin.continues (Queue.continues_follow q pos), counts.fits,
    ⟨counts.expects.mismatches_eq, nofun⟩, ?_, counts.batches, fun same => ?_⟩
  · rw [place]
    exact written
  · cases flavor.symm.trans same

/-- The reader was overrun: the call ends, and the cursor has moved on. -/
theorem yields_overrun {late : Prop} (counts : Counts rc home v st.queue tally)
    (batch : ReadsBatch rc home call tally st) (ring : Ring wc home v stream)
    (flavor : home.flavor = .unsynchronized) {pos : UInt64} (written : pos.toNat ≤ v.written)
    (lag : Nat) :
    Yields rc home call tally v v late (call.refuse (st.follow pos) (.overflow lag pos)) := by
  obtain ⟨wait, waits, -⟩ := batch.waiting
  have ends : call.refuse (st.follow pos) (.overflow lag pos)
      = (st.follow pos).finish (.error (.overflow lag pos)) := by
    simp only [ReadCall.refuse, waits]
    rfl
  rw [ends]
  refine ⟨.of_eq ring.read_le rfl, nofun, fun finish => ?_⟩
  cases finish
  exact .inr (.inl ⟨⟨lag, pos, rfl⟩, counts_overrun counts flavor written⟩)

variable {buffer : List quantum.Value} {pos writePos : UInt64} {p : ReadPoint}

theorem nextBatch_le_capacity (batch : ReadsBatch rc home call tally st)
    (counts : Counts rc home v q tally) : st.buffer.length ≤ home.capacity := by
  have fits := counts.fits
  rw [batch.length_eq, ReaderState.nextBatch]
  omega

theorem yields_judge (batch : ReadsBatch rc home call tally ⟨q, buffer, .judge writePos⟩)
    (ring : Ring wc home (home.view (home.memory s)) stream)
    (reading : AtRead rc home (home.view (home.memory s)) tally ⟨q, buffer, .judge writePos⟩
      (.judge writePos)) (late : Prop) (now : Instant) :
    Yields rc home call tally (home.view (home.memory s))
      (home.view (home.memory (call.step now s ⟨q, buffer, .judge writePos⟩).1)) late
      (call.step now s ⟨q, buffer, .judge writePos⟩).2 := by
  obtain ⟨counts, low, high⟩ := reading
  obtain ⟨wait, waits, -⟩ := batch.waiting
  have kin : Kin home q := counts.kin
  have here := toNat_readPos kin s
  have fits : buffer.length ≤ q.capacity := kin.capacity ▸ nextBatch_le_capacity batch counts
  have stays : ReadState.follow ⟨q, buffer, .judge writePos⟩ (q.readPos (q.memory s))
      = ⟨q, buffer, .judge writePos⟩ := by
    rw [ReadState.follow, Queue.follow_readPos]
  have behind : (q.readPos (q.memory s)).toNat ≤ writePos.toNat := here.symm ▸ low
  unfold ReadCall.step
  dsimp only
  rcases q.flavor.checkRead_cases q.capacity writePos (q.readPos (q.memory s)) buffer.length with
    ⟨ok, enough⟩ | ⟨e, short, -, -, retry⟩ | ⟨flavor, lag, overrun⟩
  · rw [ok]
    dsimp only
    rw [stays]
    refine yields_of_go ⟨q, buffer, .take _⟩ ring rfl rfl (batch.goto _) ⟨counts, here, ?_⟩
    rw [Flavor.availableToRead, distance_of_le behind] at enough
    have ends := Nat.add_le_of_le_sub' behind enough
    rw [here] at ends
    exact Nat.le_trans ends high
  · rw [short]
    dsimp only
    rw [stays]
    refine yields_of_go ⟨q, buffer, .expire⟩ ring rfl ?_ (batch.goto _) counts
    simp only [ReadCall.refuse, waits, retry fits]
    rfl
  · rw [overrun]
    exact yields_overrun counts batch ring (kin.flavor ▸ flavor) high lag

/-- The quanta are copied: those in slots that nobody may write are right. -/
theorem yields_take (batch : ReadsBatch rc home call tally ⟨q, buffer, .take pos⟩)
    (ring : Ring wc home (home.view (home.memory s)) stream)
    (ahead : Ahead rc home (home.view (home.memory s)) q tally buffer.length pos)
    (late : Prop) (now : Instant) :
    Yields rc home call tally (home.view (home.memory s))
      (home.view (home.memory (call.step now s ⟨q, buffer, .take pos⟩).1)) late
      (call.step now s ⟨q, buffer, .take pos⟩).2 := by
  have kin : Kin home q := batch.kin
  have fits : buffer.length ≤ q.capacity := kin.capacity ▸ nextBatch_le_capacity batch ahead.counts
  have length := ReadCall.length_take q (q.memory s) pos buffer.length
  have here : pos.toNat = q.place (home.view (home.memory s)) := ahead.pos_eq
  refine yields_of_go ⟨q, q.take (q.memory s) pos buffer.length, .confirm pos⟩ ring rfl rfl
    ⟨kin, length.trans batch.length_eq, batch.waiting⟩
    ⟨⟨ahead.counts, ahead.pos_eq, ?_⟩, fun i hi free => ?_⟩
  · rw [length]
    exact ahead.published
  · have taken := Queue.take_eq q (q.memory s) pos fits
    have inside : i < buffer.length := length ▸ hi
    have before : q.place (home.view (home.memory s)) + i < (home.view (home.memory s)).written :=
      Nat.lt_of_lt_of_le (Nat.add_lt_add_left inside _) ahead.published
    rw [← ring.intact _ before free]
    simp only [taken, Queue.getElem_quanta, here, ← kin.memory, ← kin.view]
    rfl

/-- A copy that the front has not got to is right. -/
theorem eq_samples (copied : Copied home v q buffer)
    (near : home.front v ≤ q.place v + home.capacity) :
    buffer = samples (q.place v) buffer.length := by
  apply List.ext_getElem
  · simp
  · intro i hi _
    rw [getElem_samples]
    exact copied i hi (by omega)

/-- The commit of a private reader looks at the higher one of the reservation
and the write position. -/
theorem toNat_reserved (sound : q.Sound) (flavor : q.flavor = .unsynchronized) (m : Memory)
    (writePos : UInt64) :
    (max (q.reserved m writePos) writePos).toNat
      = max (q.view m).reserved writePos.toNat := by
  have announced := sound.placed.writeReserve_isSome
  have flavor' : q.descriptor.flavor = .unsynchronized := flavor
  rw [flavor'] at announced
  obtain ⟨g, reserve⟩ := Option.isSome_iff_exists.mp announced
  simp only [Queue.reserved, Queue.view, Queue.reservation, reserve, toNat_max]
  omega

/-- The reservation tells whether the copy is right. -/
theorem yields_verify (batch : ReadsBatch rc home call tally ⟨q, buffer, .verify pos writePos⟩)
    (ring : Ring wc home (home.view (home.memory s)) stream)
    (reading : AtRead rc home (home.view (home.memory s)) tally ⟨q, buffer, .verify pos writePos⟩
      (.verify pos writePos)) (late : Prop) (now : Instant) :
    Yields rc home call tally (home.view (home.memory s))
      (home.view (home.memory (call.step now s ⟨q, buffer, .verify pos writePos⟩).1)) late
      (call.step now s ⟨q, buffer, .verify pos writePos⟩).2 := by
  obtain ⟨ahead, copied, low, high⟩ := reading
  have kin : Kin home q := batch.kin
  have here : pos.toNat = q.place (home.view (home.memory s)) := ahead.pos_eq
  have stays : ReadState.follow ⟨q, buffer, .verify pos writePos⟩ (q.readPos (q.memory s))
      = ⟨q, buffer, .verify pos writePos⟩ := by
    rw [ReadState.follow, Queue.follow_readPos]
  unfold ReadCall.step
  dsimp only
  cases flavor : q.flavor with
  | synchronized =>
    have near := kin.front_eq (kin.flavor ▸ flavor) (home.view (home.memory s))
    dsimp only [Flavor.checkCommit]
    rw [stays]
    exact yields_of_go ⟨q, buffer, .release pos⟩ ring rfl rfl (batch.goto _)
      ⟨ahead, eq_samples copied (Nat.le_of_eq near)⟩
  | unsynchronized =>
    have reserved := toNat_reserved kin.sound flavor (q.memory s) writePos
    rw [kin.view, kin.memory] at reserved
    rw [kin.memory] at stays
    have behind : pos.toNat ≤ (max (q.reserved (home.memory s) writePos) writePos).toNat := by
      rw [reserved, here]
      exact Nat.le_trans low (Nat.le_max_right _ _)
    dsimp only [Flavor.checkCommit]
    rw [kin.memory]
    by_cases far : q.capacity < distance (max (q.reserved (home.memory s) writePos) writePos) pos
    · rw [if_pos far]
      exact yields_overrun ahead.counts batch ring (kin.flavor ▸ flavor) high _
    · rw [if_neg far]
      rw [distance_of_le behind, reserved, here, kin.capacity] at far
      have near : home.front (home.view (home.memory s))
          ≤ q.place (home.view (home.memory s)) + home.capacity := by
        rw [Queue.front_unsynchronized (kin.flavor ▸ flavor)]
        omega
      dsimp only
      rw [stays]
      exact yields_of_go ⟨q, buffer, .release pos⟩ ring rfl rfl (batch.goto _)
        ⟨ahead, eq_samples copied near⟩

/-- The reader's position behind a batch. -/
theorem Ahead.toNat_stop {m : Memory} {count : Nat}
    (ahead : Ahead rc home (home.view m) q tally count pos) :
    (pos + UInt64.ofNat count).toNat = q.place (home.view m) + count := by
  have below : (home.view m).written < wordLimit := UInt64.toNat_lt _
  have fits : pos.toNat + count < wordLimit := by
    rw [ahead.pos_eq]
    exact Nat.lt_of_le_of_lt ahead.published below
  have stop : (Transaction.mk pos count).stop.toNat = pos.toNat + count :=
    Transaction.toNat_stop fits
  exact stop.trans (congrArg (· + count) ahead.pos_eq)

/-- A batch that was copied right is counted, and the reader stands behind it. -/
theorem counts_release {q' : Queue quantum} (kin : Kin home q') (received : ReadsBatch rc home call
      tally ⟨q, buffer, p⟩) (ahead : Ahead rc home v q tally buffer.length pos)
    (right : buffer = samples (q.place v) buffer.length) (written : v'.written = v.written)
    (place : q'.place v' = q.place v + buffer.length) :
    Counts rc home v' q' (tally.countAll buffer) := by
  have expects := Tally.countAll_samples ahead.counts.expects buffer.length
  have total := tally.received_countAll buffer
  rw [← right] at expects
  refine ⟨kin, ahead.counts.fits, ?_, ?_, ?_, fun flavor => ?_⟩
  · rw [place]
    exact expects
  · rw [place, written]
    exact ahead.published
  · have length : buffer.length = ReaderState.nextBatch rc tally.received := received.length_eq
    rw [total, length]
    exact ahead.counts.batches.next
  · rw [total, place, ahead.counts.whole flavor]

/-- The batch is released, and counted. -/
theorem yields_release (batch : ReadsBatch rc home call tally ⟨q, buffer, .release pos⟩)
    (homed : Homed home s) (ring : Ring wc home (home.view (home.memory s)) stream)
    (reading : AtRead rc home (home.view (home.memory s)) tally ⟨q, buffer, .release pos⟩
      (.release pos)) (late : Prop) (now : Instant) :
    Yields rc home call tally (home.view (home.memory s))
      (home.view (home.memory (call.step now s ⟨q, buffer, .release pos⟩).1)) late
      (call.step now s ⟨q, buffer, .release pos⟩).2 := by
  obtain ⟨ahead, right⟩ := reading
  obtain ⟨wait, waits, own⟩ := batch.waiting
  have kin : Kin home q := batch.kin
  have stop := ahead.toNat_stop
  have word : q.flagWord?.isSome = true := by
    rw [kin.flagWord?, own]
    rfl
  have kin' := kin.continues (Queue.continues_release q (q.memory s)
    (pos + UInt64.ofNat buffer.length))
  have memory : home.memory (call.step now s ⟨q, buffer, .release pos⟩).1
      = (q.release (q.memory s) (pos + UInt64.ofNat buffer.length)).2 := by
    rw [← kin.memory]
    exact Store.memory_setMemory (kin.memory_eq ▸ homed.mapped) _
  have next : (call.step now s ⟨q, buffer, .release pos⟩).2
      = .go ⟨(q.release (q.memory s) (pos + UInt64.ofNat buffer.length)).1, buffer, .raiseOwn⟩ := by
    unfold ReadCall.step
    dsimp only
    rw [word]
    rfl
  rw [memory, next]
  cases flavor : q.flavor with
  | synchronized =>
    obtain ⟨g, -, cursor⟩ := kin.sound.cursor_shared flavor
    have view := Queue.view_release kin.sound flavor (q.memory s) (pos + UInt64.ofNat buffer.length)
    have place := kin.sound.place_synchronized (v := home.view (home.memory s)) flavor
    have published := ahead.published
    rw [kin.view, kin.view, stop, kin.memory] at view
    rw [kin.memory, view, Queue.release_of_shared cursor]
    refine ⟨⟨rfl, rfl, rfl, ?_, fun _ => published⟩, fun goes => ?_, nofun⟩
    · exact Nat.le_trans (Nat.le_of_eq place.symm) (Nat.le_add_right _ _)
    · cases goes
      refine ⟨batch.goto _, counts_release kin batch ahead right rfl ?_⟩
      rw [kin.sound.place_synchronized flavor]
  | unsynchronized =>
    obtain ⟨own, cursor⟩ := kin.sound.cursor_own flavor
    rw [Queue.release_of_own cursor] at kin' ⊢
    rw [kin.memory]
    refine ⟨.of_eq ring.read_le rfl, fun goes => ?_, nofun⟩
    cases goes
    exact ⟨⟨kin', batch.length_eq, batch.waiting⟩,
      counts_release kin' batch ahead right rfl stop⟩

/-- Room is made, and the writer is told. -/
theorem yields_announce (ground : Ground wc home)
    (batch : ReadsBatch rc home call tally ⟨q, buffer, p⟩) (homed : Homed home s)
    (ring : Ring wc home (home.view (home.memory s)) stream)
    (announces : p ∈ [.raiseOwn, .signalOwn, .raiseNotify, .signalNotify, .done])
    (counts : Counts rc home (home.view (home.memory s)) q (tally.countAll buffer))
    (late : Prop) (now : Instant) :
    Yields rc home call tally (home.view (home.memory s))
      (home.view (home.memory (call.step now s ⟨q, buffer, p⟩).1)) late
      (call.step now s ⟨q, buffer, p⟩).2 := by
  obtain ⟨wait, waits, own⟩ := batch.waiting
  have kin : Kin home q := batch.kin
  have word : q.flagWord? = some wait.flag := kin.flagWord?.trans own
  have after : call.afterOwn = .raiseNotify := by rw [ReadCall.afterOwn, waits]
  have raised := view_raiseWord ground.sound own homed.mapped notFull
  have notified := view_raiseWord ground.sound own homed.mapped wait.notifyBits
  simp only [List.mem_cons, List.not_mem_nil, or_false] at announces
  rcases announces with rfl | rfl | rfl | rfl | rfl <;> unfold ReadCall.step <;> dsimp only
  · rw [word, after]
    dsimp only
    split
    · exact yields_of_go ⟨q, buffer, .signalOwn⟩ ring raised rfl (batch.goto _) counts
    · exact yields_of_go ⟨q, buffer, .raiseNotify⟩ ring raised rfl (batch.goto _) counts
  · rw [word, after]
    exact yields_of_go ⟨q, buffer, .raiseNotify⟩ ring rfl rfl (batch.goto _) counts
  · rw [waits]
    dsimp only
    split
    · exact yields_of_go ⟨q, buffer, .signalNotify⟩ ring notified rfl (batch.goto _) counts
    · exact yields_of_go ⟨q, buffer, .done⟩ ring notified rfl (batch.goto _) counts
  · rw [waits]
    exact yields_of_go ⟨q, buffer, .done⟩ ring rfl rfl (batch.goto _) counts
  · refine ⟨.of_eq ring.read_le rfl, nofun, fun finish => ?_⟩
    cases finish
    exact .inl ⟨rfl, counts⟩

/-- There is too little yet: the call waits, or gives up. -/
theorem yields_wait (ground : Ground wc home)
    (batch : ReadsBatch rc home call tally ⟨q, buffer, p⟩)
    (homed : Homed home s) (ring : Ring wc home (home.view (home.memory s)) stream)
    (waiting : p = .expire ∨ p = .clear ∨ p = .observe ∨ (∃ seen, p = .recount seen) ∨
      (∃ seen pos, p = .recheck seen pos) ∨ ∃ seen, p = .park seen)
    (counts : Counts rc home (home.view (home.memory s)) q tally) (now : Instant) :
    Yields rc home call tally (home.view (home.memory s))
      (home.view (home.memory (call.step now s ⟨q, buffer, p⟩).1))
      (TimesOut call now ⟨q, buffer, p⟩) (call.step now s ⟨q, buffer, p⟩).2 := by
  obtain ⟨wait, waits, own⟩ := batch.waiting
  have cleared := view_clearWord ground.sound own homed.mapped wait.waitBits
  rcases waiting with rfl | rfl | rfl | ⟨seen, rfl⟩ | ⟨seen, pos, rfl⟩ | ⟨seen, rfl⟩ <;>
    unfold ReadCall.step <;> dsimp only <;> rw [waits] <;> dsimp only
  · split
    · rename_i expired
      refine ⟨.of_eq ring.read_le rfl, nofun, fun finish => ?_⟩
      cases finish
      exact .inr (.inr ⟨rfl, counts, rfl, wait, waits, expired⟩)
    · exact yields_of_go ⟨q, buffer, .clear⟩ ring rfl rfl (batch.goto _) counts
  · exact yields_of_go ⟨q, buffer, .observe⟩ ring cleared rfl (batch.goto _) counts
  · split
    · exact yields_of_go ⟨q, buffer, .recount _⟩ ring rfl rfl (batch.goto _) counts
    · exact yields_of_go ⟨q, buffer, .begin⟩ ring rfl rfl (batch.goto _) counts
  · exact yields_of_go ⟨q, buffer, .recheck seen _⟩ ring rfl rfl (batch.goto _) counts
  · split
    · exact yields_of_go ⟨q, buffer, .begin⟩ ring rfl rfl (batch.goto _) counts
    · exact yields_of_go ⟨q, buffer, .park seen⟩ ring rfl rfl (batch.goto _) counts
  · split
    · exact yields_of_go ⟨q, buffer, .begin⟩ ring rfl rfl (batch.goto _) counts
    · exact yields_of_go ⟨q, buffer, .begin⟩ ring rfl rfl (batch.goto _) counts

/-- One step of the call for a batch. -/
theorem yields_step (ground : Ground wc home) (batch : ReadsBatch rc home call tally st)
    (homed : Homed home s) (ring : Ring wc home (home.view (home.memory s)) stream)
    (reading : AtRead rc home (home.view (home.memory s)) tally st st.point) (now : Instant) :
    Yields rc home call tally (home.view (home.memory s))
      (home.view (home.memory (call.step now s st).1)) (TimesOut call now st)
      (call.step now s st).2 := by
  obtain ⟨q, buffer, p⟩ := st
  have kin : Kin home q := batch.kin
  have written := toNat_writePos kin s
  cases p with
  | begin =>
    refine yields_of_go ⟨q, buffer, .judge _⟩ ring rfl rfl (batch.goto _) ⟨reading, ?_, ?_⟩
    · rw [written]
      exact Counts.place_le reading
    · exact Nat.le_of_eq written
  | judge writePos => exact yields_judge batch ring reading _ now
  | take pos => exact yields_take batch ring reading _ now
  | confirm pos =>
    obtain ⟨ahead, copied⟩ := reading
    refine yields_of_go ⟨q, buffer, .verify pos _⟩ ring rfl rfl (batch.goto _)
      ⟨ahead, copied, ?_, ?_⟩
    · rw [written]
      exact ahead.counts.place_le
    · exact Nat.le_of_eq written
  | verify pos writePos => exact yields_verify batch ring reading _ now
  | release pos => exact yields_release batch homed ring reading _ now
  | raiseOwn | signalOwn | raiseNotify | signalNotify | done =>
    exact yields_announce ground batch homed ring (by simp) reading _ now
  | expire | clear | observe | recount | recheck | park =>
    exact yields_wait ground batch homed ring (by simp) reading now

end Bench

end SharedQueue
