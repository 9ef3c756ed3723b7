/-
SharedQueue.Proofs.Bench.Stream — what the two programs make of the stream.

* `Pair.taken` — the quanta that the reading program has released;
  `Pair.tally?` — what it has counted.
* `Pair.Clean`, `clean_of_reachable` — whatever the two programs do, and
  whenever: the stream is published as it is meant to be, nothing is found out
  of sequence, in a synchronized queue what is unread and what was read make
  up the stream, and both programs end as they should.

A write that times out has published nothing, so trying it again loses and
doubles nothing; that is part of `Sends`. A reader that was overrun goes on
with a tally that expects nothing in particular; that is part of `Takes`.
-/
import SharedQueue.Proofs.Bench.Runs
import SharedQueue.Proofs.Counters

namespace SharedQueue

namespace Bench

/-- The quanta that the reading program has released. -/
def ReaderState.taken : ReaderState → Nat
  | .seek _ | .join _ => 0
  | .batch _ tally => tally.received
  | .reading _ tally st => tally.received + if st.point.released then st.buffer.length else 0

/-- What the reading program has counted, if it has joined the queue. -/
def ReaderState.tally? : ReaderState → Option Tally
  | .seek _ | .join _ => none
  | .batch _ tally => some tally
  | .reading _ tally _ => some tally

variable {wc : WriterConfig} {rc : ReaderConfig} {home : Queue quantum} {v : RingView quantum}
  {p : Pair}

namespace Pair

/-- The quanta that the reading program has released. -/
def taken (p : Pair) : Nat :=
  match p.reader with
  | .ready state | .parked _ _ _ state | .pausing _ state => state.taken
  | .finished (.ok tally) => tally.received
  | .finished (.error _) | .joining .. => 0

/-- What the reading program has counted, also when it has ended. -/
def tally? (p : Pair) : Option Tally :=
  match p.reader with
  | .ready state | .parked _ _ _ state | .pausing _ state => state.tally?
  | .finished (.ok tally) => some tally
  | .finished (.error _) | .joining .. => none

/-- The two programs work as they should. -/
structure Clean (wc : WriterConfig) (rc : ReaderConfig) (home : Queue quantum) (p : Pair) :
    Prop where
  /-- The numbers that count up from zero are published, and no others. -/
  stream : p.stream = samples 0 p.stream.length
  position : (home.writePos (home.memory p.host.store)).toNat = p.stream.length
  bounded : p.stream.length ≤ wc.messages
  /-- Between two batches the writing program knows how many. -/
  sent : ∀ {q written}, p.writer.state? = some (.batch q written) → written = p.stream.length
  allSent : ∀ {q stay}, p.writer.state? = some (.linger q stay) → p.stream.length = wc.messages
  mismatches : ∀ {tally}, p.tally? = some tally → tally.mismatches = 0
  /-- What was read and what is unread make up the stream. -/
  balance : home.flavor = .synchronized →
    p.taken + home.availableToRead (home.memory p.host.store) = p.stream.length
  /-- The reading program sees it in the same way. -/
  seen : home.flavor = .synchronized → ∀ {q tally}, p.reader.state? = some (.batch q tally) →
    tally.received + q.availableToRead (q.memory p.host.store) = p.stream.length
  /-- The writing program ends when all is published, and tells what is unread. -/
  writerEnds : ∀ {state now result}, p.writer.state? = some state →
    (state.step wc false now p.host).2 = .finish result →
      ∃ pending, result = .ok pending ∧ p.stream.length = wc.messages ∧
        (home.flavor = .synchronized → p.taken + pending = wc.messages)
  /-- The reading program, once it has joined, ends when it has all, or because
  it has waited too long for more. -/
  readerEnds : ∀ {state now result}, p.reader.state? = some state → state.joined = true →
    (state.step rc now p.host).2 = .finish result →
      ∃ tally, result = .ok tally ∧ (tally.received = rc.messages ∨ state.TimesOut now)

end Pair

/-! ## What the invariant says -/

/-- What was released is what a tally between two batches counts; before the
program has joined the queue it is nothing. -/
theorem ReaderState.Stands.taken_cases {state : ReaderState} (stands : state.Stands rc home v) :
    (state.taken = 0 ∧ (home.flavor = .synchronized → v.read = 0)) ∨
      ∃ q tally, Counts rc home v q tally ∧ state.taken = tally.received := by
  cases state with
  | seek since => exact .inl ⟨rfl, stands⟩
  | join d => exact .inl ⟨rfl, stands.2⟩
  | batch q tally => exact .inr ⟨q, tally, stands, rfl⟩
  | reading call tally st =>
    refine .inr ⟨st.queue, _, AtRead.counts stands.2, ?_⟩
    show tally.received + (if st.point.released then st.buffer.length else 0) = _
    split
    · exact (tally.received_countAll st.buffer).symm
    · rfl

/-- Nothing was found out of sequence. -/
theorem ReaderState.Stands.mismatches_eq {state : ReaderState} (stands : state.Stands rc home v)
    {tally : Tally} (counted : state.tally? = some tally) : tally.mismatches = 0 := by
  cases state with
  | seek since => cases counted
  | join d => cases counted
  | batch q t =>
    cases counted
    exact (Counts.expects stands).mismatches_eq
  | reading call t st =>
    cases counted
    have clean := (AtRead.counts stands.2).expects.mismatches_eq
    split at clean
    · exact Nat.le_zero.mp (clean ▸ tally.mismatches_le_countAll st.buffer)
    · exact clean

namespace Pair

theorem taken_of_state {state : ReaderState} (rests : p.reader.state? = some state) :
    p.taken = state.taken ∧ p.tally? = state.tally? := by
  unfold taken tally?
  cases reader : p.reader <;> rw [reader] at rests <;> cases rests <;> exact ⟨rfl, rfl⟩

theorem reader_of_result {result : ReaderResult} (done : p.reader.result? = some result) :
    p.reader = .finished result := by
  cases reader : p.reader <;> rw [reader] at done <;> cases done
  rfl

theorem Holds.taken_cases (holds : Holds wc rc home p) :
    (p.taken = 0 ∧ (home.flavor = .synchronized → (p.view home).read = 0)) ∨
      ∃ q tally, Counts rc home (p.view home) q tally ∧ p.taken = tally.received := by
  rcases holds.reads with rests | done
  · obtain ⟨state, rests⟩ := Option.isSome_iff_exists.mp rests
    rw [(taken_of_state rests).1]
    exact (holds.reader rests).taken_cases
  · obtain ⟨result, done⟩ := Option.isSome_iff_exists.mp done
    have ended := holds.ended done
    unfold taken
    rw [reader_of_result done]
    cases result with
    | error e => exact .inl ⟨rfl, ended⟩
    | ok tally =>
      obtain ⟨q, counts⟩ := ended
      exact .inr ⟨q, tally, counts, rfl⟩

/-- In a synchronized queue the reader's position is the number of quanta that
were released. -/
theorem Holds.taken_eq (holds : Holds wc rc home p) (flavor : home.flavor = .synchronized) :
    p.taken = (p.view home).read := by
  rcases holds.taken_cases with ⟨none, fresh⟩ | ⟨q, tally, counts, taken⟩
  · rw [none, fresh flavor]
  · rw [taken, ← counts.kin.sound.place_synchronized (counts.kin.flavor.trans flavor)]
    exact counts.whole flavor

/-- Whole batches were released, up to the last one. -/
theorem Holds.taken_batches (holds : Holds wc rc home p) :
    Batches rc.batch rc.messages p.taken := by
  rcases holds.taken_cases with ⟨none, -⟩ | ⟨q, tally, counts, taken⟩
  · rw [none]
    exact .zero _ _
  · rw [taken]
    exact counts.batches

theorem Holds.mismatches_eq (holds : Holds wc rc home p) {tally : Tally}
    (counted : p.tally? = some tally) : tally.mismatches = 0 := by
  rcases holds.reads with rests | done
  · obtain ⟨state, rests⟩ := Option.isSome_iff_exists.mp rests
    rw [(taken_of_state rests).2] at counted
    exact (holds.reader rests).mismatches_eq counted
  · obtain ⟨result, done⟩ := Option.isSome_iff_exists.mp done
    have ended := holds.ended done
    unfold tally? at counted
    rw [reader_of_result done] at counted
    cases result with
    | error e => cases counted
    | ok t =>
      cases counted
      obtain ⟨q, counts⟩ := ended
      exact counts.expects.mismatches_eq

theorem Holds.length_eq (holds : Holds wc rc home p) : p.stream.length = (p.view home).written := by
  rw [holds.ring.stream_eq, length_samples]

/-- What was read and what any handle of a synchronized queue finds unread make
up the stream. -/
theorem Holds.available_eq (holds : Holds wc rc home p) (flavor : home.flavor = .synchronized)
    {q : Queue quantum} (kin : Kin home q) {m : Memory} (same : home.view m = p.view home) :
    p.taken + q.availableToRead m = p.stream.length := by
  have behind := holds.ring.read_le flavor
  have view : q.view m = p.view home := (kin.view m).trans same
  rw [Queue.availableToRead_eq kin.sound (kin.flavor.trans flavor) (by rw [view]; exact behind),
    view, holds.taken_eq flavor, holds.length_eq]
  omega

theorem Holds.kin (holds : Holds wc rc home p) : Kin home home := ⟨rfl, rfl, holds.ground.sound⟩

/-! ## The stream -/

/-- Whatever the two programs do, and whenever, they work as they should. -/
theorem clean_of_reachable (accepted : Accepted wc rc) (reach : Reachable wc rc home p) :
    Clean wc rc home p := by
  have holds := holds_reachable accepted reach
  have length := holds.length_eq
  refine ⟨?_, length.symm, ?_, fun rests => ?_, fun rests => ?_, holds.mismatches_eq,
    fun flavor => holds.available_eq flavor holds.kin rfl, fun flavor {q tally} rests => ?_,
    fun {state now result} rests finish => ?_, fun {state now result} rests joined finish => ?_⟩
  · rw [length]
    exact holds.ring.stream_eq
  · rw [length]
    exact holds.ring.batches.le
  · exact (holds.writer rests).2.symm.trans length.symm
  · exact length.trans (holds.writer rests).2
  · have counts : Counts rc home (p.view home) q tally := holds.reader rests
    have unread := holds.available_eq flavor counts.kin (congrArg home.view (counts.kin.memory _))
    rwa [(taken_of_state rests).1] at unread
  · have sends := sends_step accepted holds.ground holds.homed holds.ring (holds.writer rests) now
    obtain ⟨rfl, same, all⟩ := sends.ends finish
    exact ⟨_, rfl, length.trans all, fun flavor =>
      (holds.available_eq flavor holds.kin same).trans (length.trans all)⟩
  · have guided : state.Guided rc home p.host := by
      rintro since d rfl
      cases joined
    exact (takes_step accepted holds.ground holds.homed holds.ring (holds.reader rests) guided
      now).done joined finish

end Pair

/-! ## Eight numbers through a queue of four -/

/-- A writing program that sends eight numbers, three at a time. -/
def fourWriter : WriterConfig where
  queue := { quantumCount := 4, eventFlag := true, name := some "four" }
  descriptorPath := "q"
  messages := 8
  batch := 3

/-- A reading program that takes some of them at a time. -/
def fourReader (batch : Nat) : ReaderConfig where
  descriptorPath := "q"
  messages := 8
  batch := batch

/-- The handle of the writing program. -/
def fourSamples : Queue quantum where
  descriptor := {
    name := "four"
    flavor := .synchronized
    quantumSize := 2
    quantumCount := 4
    regionSize := 200
    writeCounter := ⟨64, counterSize⟩
    data := ⟨192, 8⟩
    readCounter := some ⟨0, counterSize⟩
    writeReserve := none
    eventFlag := some ⟨128, flagSize⟩ }
  region := ⟨"four", 0, 200, true⟩
  cursor := .shared 0

theorem accepted_four {batch : Nat} (pos : 0 < batch) : Accepted fourWriter (fourReader batch) :=
  ⟨by decide, by decide, rfl, pos, rfl, by decide⟩

/-- Where there is no other queue one is created, and its descriptor saved. -/
theorem launched_of_create {wc : WriterConfig} {s : Store} (path : wc.descriptorPath = "q")
    (created : Queue.create quantum wc.flavor wc.queue .empty = .ok (home, s))
    (encodable : home.descriptor.Encodable) : ∃ files,
    WriterState.launched wc 0 ⟨.empty, .empty ["bench"]⟩ =
      (⟨s, files⟩, .pause (0 + milliseconds wc.startupDelayMs) (.batch home 0)) := by
  have resolved : (Directory.empty ["bench"]).resolve "q" = .ok ["bench", "q"] := by
    have single : "q".splitOn "/" = ["q"] := by
      rw [String.splitOn, if_neg (by decide), String.splitOnAux, if_neg (by decide),
        if_neg (by decide), String.splitOnAux, if_pos (by decide)]
      rfl
    unfold Directory.resolve
    rw [single]
    rfl
  have saved : ∃ files, home.descriptor.save (.empty ["bench"]) "q" = .ok files := by
    rw [Descriptor.save_eq (Descriptor.toText_eq encodable)]
    unfold Directory.writeText Directory.write
    rw [resolved]
    exact ⟨_, rfl⟩
  obtain ⟨files, saved⟩ := saved
  refine ⟨files, ?_⟩
  unfold WriterState.launched
  rw [created]
  dsimp only
  rw [path, saved]

/-- The queue is created. -/
theorem launched_four : ∃ files,
    WriterState.launched fourWriter 0 ⟨.empty, .empty ["bench"]⟩ =
      (⟨⟨#[.blank 200], [("four", 0)], 0⟩, files⟩, .pause 0 (.batch fourSamples 0)) := by
  have encodable : fourSamples.descriptor.Encodable := by
    unfold Descriptor.Encodable
    decide
  exact launched_of_create rfl rfl encodable

/-- Three numbers are written. -/
theorem exists_three {batch : Nat} (pos : 0 < batch) (small : batch ≤ 4) : ∃ p q tally,
    Pair.Reachable fourWriter (fourReader batch) fourSamples p ∧
      p.writer.state? = some (.batch fourSamples 3) ∧
      p.reader.state? = some (.batch q tally) ∧ tally.received = 0 := by
  obtain ⟨files, launched⟩ := launched_four
  obtain ⟨p, q, reach, writer, reader⟩ :=
    Pair.exists_joined (accepted_four pos) small rfl launched
  obtain ⟨p', reach', writer', reader', -⟩ :=
    Pair.writes_batch (accepted_four pos) reach writer (by decide)
      fun _ => Nat.le_trans (by decide) (Nat.le_add_left _ _)
  exact ⟨p', q, _, reach', writer', reader' ▸ reader, rfl⟩

/-- The writing program of the same queue without a shared read counter. -/
def freeWriter : WriterConfig := { fourWriter with flavor := .unsynchronized }

/-- A reading program of it. -/
def freeReader : ReaderConfig := { fourReader 2 with flavor := .unsynchronized }

/-- The handle of the writing program. -/
def freeSamples : Queue quantum where
  descriptor := {
    fourSamples.descriptor with
    flavor := .unsynchronized
    writeCounter := ⟨0, counterSize⟩
    readCounter := none
    writeReserve := some ⟨64, counterSize⟩ }
  region := fourSamples.region
  cursor := .own 0

theorem accepted_free : Accepted freeWriter freeReader :=
  ⟨by decide, by decide, rfl, by decide, rfl, by decide⟩

/-- Six numbers are written while the reader waits at the first: it finds out
that it was overrun. The last two numbers are written, and it reads these. -/
theorem exists_overrun : ∃ p q tally, Pair.Reachable freeWriter freeReader freeSamples p ∧
    p.writer.state? = some (.batch freeSamples 8) ∧ p.reader.state? = some (.batch q tally) ∧
    tally.received = 2 ∧ tally.overflows = 1 := by
  have encodable : freeSamples.descriptor.Encodable := by
    unfold Descriptor.Encodable
    decide
  obtain ⟨files, launched⟩ : ∃ files,
      WriterState.launched freeWriter 0 ⟨.empty, .empty ["bench"]⟩ =
        (⟨⟨#[.blank 200], [("four", 0)], 0⟩, files⟩, .pause 0 (.batch freeSamples 0)) :=
    launched_of_create rfl rfl encodable
  obtain ⟨p, q, reach, writer, reader⟩ :=
    Pair.exists_joined accepted_free (by decide) rfl launched
  have holds := Pair.holds_reachable accepted_free reach
  have first : q.place (p.view freeSamples) = 0 :=
    Nat.le_zero.mp ((holds.writer writer).2 ▸ Counts.place_le (holds.reader reader))
  -- the writer does not wait for the reader
  obtain ⟨p₁, reach₁, writer₁, reader₁, read₁⟩ :=
    Pair.writes_batch accepted_free reach writer (by decide) nofun
  obtain ⟨p₂, reach₂, writer₂, reader₂, read₂⟩ :=
    Pair.writes_batch accepted_free reach₁ writer₁ (by decide) nofun
  have six : (p₂.view freeSamples).written = 6 :=
    ((Pair.holds_reachable accepted_free reach₂).writer writer₂).2
  have far : q.place (p₂.view freeSamples) + freeSamples.capacity
      < (p₂.view freeSamples).written := by
    rw [Queue.place_congr (read₂.trans read₁), first, six]
    decide
  obtain ⟨p₃, q', reach₃, reader₃, place₃, writer₃, -⟩ :=
    Pair.overruns accepted_free rfl reach₂ (reader₂ ▸ reader₁ ▸ reader) (by decide) far
  obtain ⟨p₄, reach₄, writer₄, reader₄, read₄⟩ :=
    Pair.writes_batch accepted_free reach₃ (writer₃ ▸ writer₂) (by decide) nofun
  have holds₄ := Pair.holds_reachable accepted_free reach₄
  have eight : (p₄.view freeSamples).written = 8 := (holds₄.writer writer₄).2
  have place₄ : q'.place (p₄.view freeSamples) = 6 :=
    (Queue.place_congr read₄).trans (place₃.trans six)
  have announced := holds₄.ring.front_le rfl
  rw [eight] at announced
  obtain ⟨p₅, q₅, tally, reach₅, reader₅, received, overflows, writer₅, -⟩ :=
    Pair.reads_batch accepted_free reach₄ (reader₄ ▸ reader₃) (by decide)
      (by rw [place₄]; exact Nat.le_trans announced (by decide)) (by rw [place₄, eight]; decide)
  exact ⟨p₅, q₅, tally, reach₅, writer₅ ▸ writer₄, reader₅, received, overflows⟩

/-- Three numbers are written, and two of them are read. Without a shared read
counter all eight are written, and the reader that was overrun on the way finds
nothing out of sequence. -/
theorem clean_four :
    (∃ p, Accepted fourWriter (fourReader 2) ∧
      Pair.Reachable fourWriter (fourReader 2) fourSamples p ∧
      p.stream = [sample 0, sample 1, sample 2] ∧ p.taken = 2 ∧
      fourSamples.availableToRead (fourSamples.memory p.host.store) = 1 ∧
      ∀ tally, p.tally? = some tally → tally.mismatches = 0) ∧
    ∃ p tally, Accepted freeWriter freeReader ∧
      Pair.Reachable freeWriter freeReader freeSamples p ∧ p.stream = samples 0 8 ∧
      p.tally? = some tally ∧ tally.received = 2 ∧ tally.overflows = 1 ∧ tally.mismatches = 0 := by
  constructor
  · have accepted : Accepted fourWriter (fourReader 2) := accepted_four (by decide)
    obtain ⟨p, q, tally, reach, writer, reader, none⟩ := exists_three (show 0 < 2 by decide)
      (by decide)
    have three := ((Pair.holds_reachable accepted reach).writer writer).2
    obtain ⟨p', q', tally', reach', reader', received, -, writer', -⟩ :=
      Pair.reads_batch_of_synchronized accepted rfl reach reader (by rw [none]; decide)
        (by rw [none, three]; decide)
    rw [none] at received
    have clean := Pair.clean_of_reachable accepted reach'
    have length : 3 = p'.stream.length := clean.sent (writer' ▸ writer)
    have taken : p'.taken = 2 := (Pair.taken_of_state reader').1.trans received
    have balance := clean.balance rfl
    have stream := clean.stream
    rw [← length] at stream balance
    rw [taken] at balance
    exact ⟨p', accepted, reach', stream, taken, by omega, fun _ => clean.mismatches⟩
  · obtain ⟨p, q, tally, reach, writer, reader, received, overflows⟩ := exists_overrun
    have clean := Pair.clean_of_reachable accepted_free reach
    have length : 8 = p.stream.length := clean.sent writer
    have stream := clean.stream
    rw [← length] at stream
    have counted : p.tally? = some tally := (Pair.taken_of_state reader).2
    exact ⟨p, tally, accepted_free, reach, stream, counted, received, overflows,
      clean.mismatches counted⟩

end Bench

end SharedQueue
