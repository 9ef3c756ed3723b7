/-
SharedQueue.Proofs.Bench.Deadlock — when the two programs wait for each other.

A batch is written and read as a whole or not at all, and the sizes of the two
programs' batches have nothing to do with each other. So a queue can be too
full for the next batch of the writer and too empty for the next batch of the
reader at the same time, although either batch would fit into the queue.

* `Pair.CanWrite`, `CanRead`, `Stuck` — whether the next batch would be done at
  once.
* `Jammed` — the numbers of quanta at which neither would be.
* `Free` — no numbers of whole batches are such; `Compatible` — the condition
  on the sizes of the batches that comes to the same for a long stream.
* `Pair.stuck_forever` — a run does not get out of a jam.
* `Pair.deadlock_free` — under `Free`, and only then, one of the two programs
  can go on, whatever they have done before.

What the reader has not read is a multiple of the greatest common divisor of
the two sizes, and every multiple below the size of its batch is met
(`exists_jammed`, Bézout).
-/
import Mathlib.Data.Int.GCD
import Mathlib.Data.Nat.GCD.Basic
import Mathlib.Logic.Relation
import Mathlib.Tactic.Ring
import SharedQueue.Proofs.Bench.Stream

namespace SharedQueue

namespace Queue

variable {t : ElementType} {q : Queue t} {m : Memory}

theorem write_eq_ok_iff {data : List t.Value} (filled : 0 < data.length) :
    (q.write m data).1 = .ok () ↔
      q.flavor.checkWrite q.capacity (q.writePos m) (q.readPos m) data.length = .ok () := by
  unfold write beginWrite
  rw [if_neg (by simpa using List.length_pos_iff.mp filled)]
  dsimp only
  cases q.flavor.checkWrite q.capacity (q.writePos m) (q.readPos m) data.length with
  | error e => exact ⟨nofun, nofun⟩
  | ok u => exact ⟨fun _ => rfl, fun _ => rfl⟩

/-- Once a synchronized read is let through it cannot fail. -/
theorem read_eq_ok_iff (sound : q.Sound) (flavor : q.flavor = .synchronized)
    {buffer : List t.Value} (filled : 0 < buffer.length) :
    (q.read m buffer).answer = .ok () ↔ ∃ tx q', q.beginRead m buffer.length = (.ok tx, q') := by
  unfold read
  rw [if_neg (by simpa using List.length_pos_iff.mp filled)]
  rcases begun : q.beginRead m buffer.length with ⟨answer, q'⟩
  cases answer with
  | error e => exact ⟨(nomatch ·), fun ⟨_, _, ok⟩ => nomatch ok⟩
  | ok tx =>
    obtain ⟨rfl, rfl, -⟩ := beginRead_eq_ok begun
    dsimp only
    rw [commitRead_synchronized sound flavor (Nat.ne_of_gt filled)]
    exact ⟨fun _ => ⟨_, _, rfl⟩, fun _ => rfl⟩

end Queue

namespace Bench

/-! ## Settings -/

/-- Settings for one stream through a synchronized queue, as the two programs
accept them. -/
structure Matched (wc : WriterConfig) (rc : ReaderConfig) : Prop extends Accepted wc rc where
  synchronized : wc.flavor = .synchronized
  readBatch_le : rc.batch ≤ wc.queue.quantumCount
  messages_eq : rc.messages = wc.messages

/-- There is no room for the next batch, and not enough for the next read. -/
structure Jammed (wc : WriterConfig) (rc : ReaderConfig) (sent taken : Nat) : Prop where
  full : taken + wc.queue.quantumCount < sent + WriterState.nextBatch wc sent
  empty : sent < taken + ReaderState.nextBatch rc taken

/-- Whole batches never add up to such numbers. -/
def Free (wc : WriterConfig) (rc : ReaderConfig) : Prop :=
  ∀ i j, ¬ Jammed wc rc (i * wc.batch) (j * rc.batch)

/-- Together the two batches exceed the queue by no more than what divides
both. -/
def Compatible (wc : WriterConfig) (rc : ReaderConfig) : Prop :=
  wc.batch + rc.batch ≤ wc.queue.quantumCount + Nat.gcd wc.batch rc.batch

variable {wc : WriterConfig} {rc : ReaderConfig} {home q : Queue quantum} {p p' : Pair}
  {tally : Tally} {sent taken i j : Nat}

/-! ## What the sizes of the batches decide -/

theorem Jammed.sent_lt (jammed : Jammed wc rc sent taken) (matched : Matched wc rc) :
    sent < wc.messages := by
  obtain ⟨full, empty⟩ := jammed
  have small := matched.readBatch_le
  unfold WriterState.nextBatch at full
  unfold ReaderState.nextBatch at empty
  omega

theorem Jammed.taken_lt (jammed : Jammed wc rc sent taken) (matched : Matched wc rc) :
    taken < sent := by
  have full := jammed.full
  have small := matched.batch_le
  unfold WriterState.nextBatch at full
  omega

section Below

variable {a b : Nat} (jammed : Jammed wc rc (i * wc.batch) (j * rc.batch))
  (matched : Matched wc rc) (left : a ≤ i) (right : b ≤ j)

include jammed matched left right

/-- A batch that can be written before a jam is met is a whole one, and does
not lead past it. -/
theorem Jammed.next_write (room : a * wc.batch + WriterState.nextBatch wc (a * wc.batch)
      ≤ b * rc.batch + wc.queue.quantumCount) :
    a < i ∧ a * wc.batch + WriterState.nextBatch wc (a * wc.batch) = (a + 1) * wc.batch := by
  have more := jammed.sent_lt matched
  have taken := Nat.mul_le_mul_right rc.batch right
  have less : a < i := by
    refine Nat.lt_of_le_of_ne left ?_
    rintro rfl
    have full := jammed.full
    omega
  have next := Nat.mul_le_mul_right wc.batch less
  rw [Nat.succ_mul] at next ⊢
  unfold WriterState.nextBatch
  omega

theorem Jammed.next_read
    (enough : b * rc.batch + ReaderState.nextBatch rc (b * rc.batch) ≤ a * wc.batch) :
    b < j ∧ b * rc.batch + ReaderState.nextBatch rc (b * rc.batch) = (b + 1) * rc.batch := by
  have more := jammed.sent_lt matched
  have behind := jammed.taken_lt matched
  have messages := matched.messages_eq
  have sent := Nat.mul_le_mul_right wc.batch left
  have less : b < j := by
    refine Nat.lt_of_le_of_ne right ?_
    rintro rfl
    have empty := jammed.empty
    omega
  have next := Nat.mul_le_mul_right rc.batch less
  rw [Nat.succ_mul] at next ⊢
  unfold ReaderState.nextBatch
  omega

end Below

/-- What is unread is a multiple of what divides both batches. -/
theorem free_of_compatible (matched : Matched wc rc) (compatible : Compatible wc rc) :
    Free wc rc := by
  intro i j jammed
  have behind := jammed.taken_lt matched
  obtain ⟨full, empty⟩ := jammed
  unfold WriterState.nextBatch at full
  unfold ReaderState.nextBatch at empty
  have unread : Nat.gcd wc.batch rc.batch ∣ i * wc.batch - j * rc.batch :=
    Nat.dvd_sub (Nat.dvd_mul_left_of_dvd (Nat.gcd_dvd_left _ _) i)
      (Nat.dvd_mul_left_of_dvd (Nat.gcd_dvd_right _ _) j)
  have below : i * wc.batch - j * rc.batch + Nat.gcd wc.batch rc.batch ≤ rc.batch :=
    Nat.le_of_lt_add_of_dvd (n := Nat.gcd wc.batch rc.batch) (by omega)
      (Nat.dvd_add unread (Nat.dvd_refl _)) (Nat.gcd_dvd_right _ _)
  unfold Compatible at compatible
  omega

/-- Multiples of two numbers come as close to each other as the divisors of both
allow. -/
theorem exists_mul_add_gcd {m n : Nat} (more : Nat.gcd m n < m) :
    ∃ i j, i * m + Nat.gcd m n = (j + 1) * n ∧ (j + 1) * n ≤ Nat.lcm m n := by
  obtain ⟨g, a, b, pos, coprime, rfl, rfl⟩ :=
    Nat.exists_coprime' (Nat.gcd_pos_of_pos_left n (Nat.zero_lt_of_lt more))
  rw [Nat.gcd_mul_right, coprime.gcd_eq_one, Nat.one_mul] at more ⊢
  rw [Nat.lcm_mul_right, coprime.lcm_eq_mul]
  have two : 1 < a := by
    by_contra small
    have : a * g ≤ 1 * g := Nat.mul_le_mul_right g (Nat.le_of_not_lt small)
    omega
  obtain ⟨k, less, one⟩ := Nat.exists_mul_mod_eq_one_of_coprime coprime.symm two
  have some : k ≠ 0 := by
    rintro rfl
    rw [Nat.mul_zero, Nat.zero_mod] at one
    cases one
  refine ⟨b * k / a, k - 1, ?_, ?_⟩ <;> rw [Nat.sub_add_cancel (Nat.pos_of_ne_zero some)]
  · calc b * k / a * (a * g) + g = (a * (b * k / a) + b * k % a) * g := by rw [one]; ring
      _ = k * (b * g) := by rw [Nat.div_add_mod]; ring
  · calc k * (b * g) ≤ a * (b * g) := Nat.mul_le_mul_right _ (Nat.le_of_lt less)
      _ = a * b * g := (Nat.mul_assoc a b g).symm

/-- A stream that is long enough meets such numbers. -/
theorem exists_jammed (matched : Matched wc rc) (incompatible : ¬ Compatible wc rc)
    (long : Nat.lcm wc.batch rc.batch + wc.queue.quantumCount ≤ wc.messages) :
    ∃ i j, Jammed wc rc (i * wc.batch) (j * rc.batch) := by
  have small := matched.readBatch_le
  have filled := matched.readBatch_pos
  have pos : 0 < Nat.gcd wc.batch rc.batch := Nat.gcd_pos_of_pos_left _ matched.batch_pos
  have messages := matched.messages_eq
  unfold Compatible at incompatible
  obtain ⟨i, j, same, below⟩ := exists_mul_add_gcd (m := wc.batch) (n := rc.batch) (by omega)
  rw [Nat.succ_mul] at same below
  refine ⟨i, j, ?_, ?_⟩
  · unfold WriterState.nextBatch
    omega
  · unfold ReaderState.nextBatch
    omega

theorem compatible_of_free (matched : Matched wc rc) (free : Free wc rc)
    (long : Nat.lcm wc.batch rc.batch + wc.queue.quantumCount ≤ wc.messages) :
    Compatible wc rc := by
  by_contra incompatible
  obtain ⟨i, j, jammed⟩ := exists_jammed matched incompatible long
  exact free i j jammed

namespace Pair

/-! ## Whether the next batch would be done -/

/-- The next batch of the writing program would be written at once. -/
def CanWrite (wc : WriterConfig) (home : Queue quantum) (p : Pair) : Prop :=
  let count := WriterState.nextBatch wc p.stream.length
  let data := samples p.stream.length count
  0 < count ∧ (home.write (home.memory p.host.store) data).1 = .ok ()

/-- The next batch of the reading program would be read at once. -/
def CanRead (rc : ReaderConfig) (q : Queue quantum) (p : Pair) : Prop :=
  let count := ReaderState.nextBatch rc p.taken
  let buffer := List.replicate count (sample 0)
  0 < count ∧ (q.read (q.memory p.host.store) buffer).answer = .ok ()

/-- Both programs are before a batch, and neither batch can be done. -/
structure Stuck (wc : WriterConfig) (rc : ReaderConfig) (home : Queue quantum) (p : Pair) :
    Prop where
  unfinished : p.taken < rc.messages
  writer : p.writer.state? = some (.batch home p.stream.length)
  full : ¬ p.CanWrite wc home
  reader : ∃ q tally, p.reader.state? = some (.batch q tally) ∧ ¬ p.CanRead rc q

theorem Holds.synchronized (holds : Holds wc rc home p) (matched : Matched wc rc) :
    home.flavor = .synchronized :=
  holds.ground.flavor.trans matched.synchronized

/-- A batch is written at once if there is room for it. -/
theorem Holds.canWrite_iff (holds : Holds wc rc home p) (matched : Matched wc rc) :
    p.CanWrite wc home ↔ 0 < WriterState.nextBatch wc p.stream.length ∧
      p.stream.length + WriterState.nextBatch wc p.stream.length
        ≤ p.taken + wc.queue.quantumCount := by
  have flavor := holds.synchronized matched
  have sent := holds.length_eq
  refine and_congr_right fun filled => ?_
  rw [holds.taken_eq flavor, ← holds.ground.capacity,
    Queue.write_eq_ok_iff (by rwa [length_samples]), length_samples]
  constructor
  · intro ok
    have room := le_front_of_checkWrite holds.ground holds.ring flavor sent.symm sent.symm ok
    rwa [Queue.front_synchronized flavor] at room
  · exact fun room => checkWrite_of_room holds.ground holds.ring sent.symm sent.symm
      (nextBatch_le _ matched.toAccepted holds.ground) fun _ => room

/-- A batch is read at once if it is there. -/
theorem Holds.canRead_iff (holds : Holds wc rc home p) (matched : Matched wc rc)
    (kin : Kin home q) :
    p.CanRead rc q ↔ 0 < ReaderState.nextBatch rc p.taken ∧
      p.taken + ReaderState.nextBatch rc p.taken ≤ p.stream.length := by
  have flavor := kin.flavor.trans (holds.synchronized matched)
  have unread := holds.available_eq (holds.synchronized matched) kin
    (congrArg home.view (kin.memory p.host.store))
  refine and_congr_right fun filled => ?_
  rw [Queue.read_eq_ok_iff kin.sound flavor (by rwa [List.length_replicate]),
    List.length_replicate]
  have small := matched.readBatch_le
  have fits : ReaderState.nextBatch rc p.taken ≤ q.capacity := by
    rw [kin.capacity, holds.ground.capacity, ReaderState.nextBatch]
    omega
  constructor
  · rintro ⟨tx, q', begun⟩
    obtain ⟨-, -, -, enough, -⟩ := Queue.beginRead_eq_ok begun
    omega
  · intro enough
    have here : (q.readPos (q.memory p.host.store)).toNat = p.taken := by
      rw [toNat_readPos kin, ← kin.view, kin.sound.place_synchronized flavor, kin.view,
        holds.taken_eq (holds.synchronized matched)]
      rfl
    have enough : (q.readPos (q.memory p.host.store)).toNat + ReaderState.nextBatch rc p.taken
        ≤ (q.writePos (q.memory p.host.store)).toNat := by
      rw [here, toNat_writePos kin]
      exact Nat.le_trans enough (Nat.le_of_eq holds.length_eq)
    have admitted : q.flavor.checkRead q.capacity (q.writePos (q.memory p.host.store))
        (q.readPos (q.memory p.host.store)) (ReaderState.nextBatch rc p.taken) =
          ⟨.ok (q.readPos (q.memory p.host.store)), q.readPos (q.memory p.host.store)⟩ :=
      checkRead_of_enough fits enough (by simp [flavor])
    unfold Queue.beginRead
    rw [admitted]
    exact ⟨_, _, rfl⟩

/-- Of the two programs one can go on, unless the numbers are such that neither
can. -/
theorem Holds.progress (holds : Holds wc rc home p) (matched : Matched wc rc)
    (unfinished : p.taken < rc.messages) (free : ¬ Jammed wc rc p.stream.length p.taken)
    (kin : Kin home q) : p.CanWrite wc home ∨ p.CanRead rc q := by
  rw [holds.canWrite_iff matched, holds.canRead_iff matched kin]
  have filled := matched.readBatch_pos
  have write := matched.batch_pos
  have all := holds.ring.batches.le
  have messages := matched.messages_eq
  rw [← holds.length_eq] at all
  by_contra neither
  refine free ⟨?_, ?_⟩
  · unfold ReaderState.nextBatch WriterState.nextBatch at *
    omega
  · unfold ReaderState.nextBatch WriterState.nextBatch at *
    omega

/-! ## A jam stays -/

theorem Holds.jammed (holds : Holds wc rc home p) (matched : Matched wc rc)
    (stuck : Stuck wc rc home p) : Jammed wc rc p.stream.length p.taken := by
  by_contra free
  obtain ⟨q, tally, reader, empty⟩ := stuck.reader
  have counts : Counts rc home (p.view home) q tally := holds.reader reader
  exact (holds.progress matched stuck.unfinished free counts.kin).elim stuck.full empty

/-- While the queue is jammed no step publishes or releases anything: what
follows would have to be a whole batch more. -/
theorem Holds.jam_stays (holds : Holds wc rc home p) (matched : Matched wc rc)
    (jammed : Jammed wc rc p.stream.length p.taken) (step : Step wc rc home p p') :
    p'.stream = p.stream ∧ p'.taken = p.taken := by
  have accepted := matched.toAccepted
  have flavor := holds.synchronized matched
  have holds' := holds.step accepted step
  obtain ⟨full, empty⟩ := jammed
  rw [holds.taken_eq flavor, holds.length_eq] at full empty
  have room := holds'.ring.written_le_front
  rw [Queue.front_synchronized flavor, holds.ground.capacity] at room
  have behind := holds'.ring.read_le flavor
  have sent := holds.ring.batches.next_le holds'.ring.batches
  have taken := holds.taken_batches.next_le holds'.taken_batches
  rw [holds.taken_eq flavor, holds'.taken_eq flavor] at taken
  unfold WriterState.nextBatch at full
  unfold ReaderState.nextBatch at empty
  rw [holds.taken_eq flavor, holds'.taken_eq flavor, holds.ring.stream_eq, holds'.ring.stream_eq]
  rcases holds.moves accepted step with fed | drained
  · have read := fed.read_eq
    have more := fed.written_le
    have written : (p'.view home).written = (p.view home).written := by omega
    exact ⟨congrArg (samples 0) written, read⟩
  · have written := drained.written_eq
    have more := drained.read_le
    have read : (p'.view home).read = (p.view home).read := by omega
    exact ⟨congrArg (samples 0) written, read⟩

/-- Where both programs wait for each other nothing is published or read any
more, whatever happens. -/
theorem stuck_forever (matched : Matched wc rc) (reach : Reachable wc rc home p)
    (stuck : Stuck wc rc home p) (run : Relation.ReflTransGen (Step wc rc home) p p') :
    p'.stream = p.stream ∧ p'.taken = p.taken := by
  have jammed := (holds_reachable matched.toAccepted reach).jammed matched stuck
  have after : Reachable wc rc home p' ∧ p'.stream = p.stream ∧ p'.taken = p.taken := by
    induction run with
    | refl => exact ⟨reach, rfl, rfl⟩
    | tail before step ih =>
      obtain ⟨reached, stream, taken⟩ := ih
      rw [← stream, ← taken] at jammed ⊢
      have holds := holds_reachable matched.toAccepted reached
      exact ⟨reached.next step, holds.jam_stays matched jammed step⟩
  exact after.2

/-! ## Runs into the jam -/

theorem Holds.stuck (holds : Holds wc rc home p) (matched : Matched wc rc)
    (writer : p.writer.state? = some (.batch home sent))
    (reader : p.reader.state? = some (.batch q tally))
    (jammed : Jammed wc rc sent tally.received) : Stuck wc rc home p := by
  have length : sent = p.stream.length := (holds.writer writer).2.symm.trans holds.length_eq.symm
  have taken : p.taken = tally.received := (taken_of_state reader).1
  have counts : Counts rc home (p.view home) q tally := holds.reader reader
  subst length
  rw [← taken] at jammed
  have unfinished := Nat.lt_trans (jammed.taken_lt matched) (jammed.sent_lt matched)
  refine ⟨matched.messages_eq ▸ unfinished, writer, ?_, q, tally, reader, ?_⟩
  · rw [holds.canWrite_iff matched]
    exact fun can => Nat.not_lt.mpr can.2 jammed.full
  · rw [holds.canRead_iff matched counts.kin]
    exact fun can => Nat.not_lt.mpr can.2 jammed.empty

/-- From numbers of whole batches that are below those of a jam either program
goes on until they are met, or an earlier jam. -/
theorem exists_stuck_of_le (matched : Matched wc rc)
    (jammed : Jammed wc rc (i * wc.batch) (j * rc.batch)) {p : Pair} {q : Queue quantum}
    {tally : Tally} {a b : Nat} (reach : Reachable wc rc home p)
    (writer : p.writer.state? = some (.batch home (a * wc.batch)))
    (reader : p.reader.state? = some (.batch q tally)) (received : tally.received = b * rc.batch)
    (left : a ≤ i) (right : b ≤ j) : ∃ p, Reachable wc rc home p ∧ Stuck wc rc home p := by
  have accepted := matched.toAccepted
  have holds := holds_reachable accepted reach
  have flavor := holds.synchronized matched
  have written : (p.view home).written = a * wc.batch := (holds.writer writer).2
  have read : (p.view home).read = b * rc.batch := by
    rw [← holds.taken_eq flavor, (taken_of_state reader).1]
    exact received
  have more := jammed.sent_lt matched
  have behind := jammed.taken_lt matched
  have messages := matched.messages_eq
  by_cases here : Jammed wc rc (a * wc.batch) (b * rc.batch)
  · exact ⟨p, reach, holds.stuck matched writer reader (received ▸ here)⟩
  by_cases enough : b * rc.batch + ReaderState.nextBatch rc (b * rc.batch) ≤ a * wc.batch
  · obtain ⟨less, whole⟩ := jammed.next_read matched left right enough
    have taken := Nat.mul_le_mul_right rc.batch right
    obtain ⟨p', q', tally', reach', reader', received', -, writer', -⟩ :=
      reads_batch_of_synchronized accepted flavor reach reader (by omega)
        (by rwa [received, written])
    rw [received, whole] at received'
    exact exists_stuck_of_le matched jammed reach' (writer' ▸ writer) reader' received' left less
  · have room : a * wc.batch + WriterState.nextBatch wc (a * wc.batch)
        ≤ b * rc.batch + wc.queue.quantumCount := by
      by_contra full
      exact here ⟨Nat.lt_of_not_le full, Nat.lt_of_not_le enough⟩
    obtain ⟨less, whole⟩ := jammed.next_write matched left right room
    have sent := Nat.mul_le_mul_right wc.batch left
    obtain ⟨p', reach', writer', reader', -⟩ :=
      writes_batch accepted reach writer (by omega) fun _ => by rwa [read, holds.ground.capacity]
    rw [whole] at writer'
    exact exists_stuck_of_le matched jammed reach' writer' (reader' ▸ reader) received less right
termination_by (i - a) + (j - b)

/-- A jam is reached from the start. -/
theorem exists_stuck (matched : Matched wc rc)
    (jammed : Jammed wc rc (i * wc.batch) (j * rc.batch))
    (path : rc.descriptorPath = wc.descriptorPath) {host host' : Host} {now wake : Instant}
    (launched : WriterState.launched wc now host = (host', .pause wake (.batch home 0))) :
    ∃ p, Reachable wc rc home p ∧ Stuck wc rc home p := by
  obtain ⟨p, q, reach, writer, reader⟩ :=
    exists_joined matched.toAccepted matched.readBatch_le path launched
  exact exists_stuck_of_le matched jammed (a := 0) (b := 0) reach
    (by rwa [Nat.zero_mul]) reader (Nat.zero_mul _).symm (Nat.zero_le _) (Nat.zero_le _)

/-- Numbers that can be reached are numbers of whole batches, as long as
neither program has done all. -/
theorem Holds.not_jammed (holds : Holds wc rc home p) (matched : Matched wc rc)
    (free : Free wc rc) : ¬ Jammed wc rc p.stream.length p.taken := by
  intro jammed
  have more := jammed.sent_lt matched
  have behind := jammed.taken_lt matched
  have batches := holds.ring.batches
  rw [← holds.length_eq] at batches
  obtain ⟨i, sent⟩ := batches.exists_mul more
  obtain ⟨j, taken⟩ := holds.taken_batches.exists_mul
    (matched.messages_eq ▸ Nat.lt_trans behind more)
  rw [sent, taken] at jammed
  exact free i j jammed

/-- If no numbers of whole batches jam the queue, one of the two programs can
go on whenever the reader has not received everything; otherwise both can come
to a stop, for good. Batches whose sizes are compatible never jam the queue, and
in a long stream all others do. -/
theorem deadlock_free (matched : Matched wc rc) :
    (Free wc rc → ∀ {home p}, Reachable wc rc home p → p.taken < rc.messages →
      p.CanWrite wc home ∨ ∀ {q}, Kin home q → p.CanRead rc q) ∧
    (¬ Free wc rc → rc.descriptorPath = wc.descriptorPath → ∀ {home host host' now wake},
      WriterState.launched wc now host = (host', .pause wake (.batch home 0)) →
        ∃ p, Reachable wc rc home p ∧ Stuck wc rc home p ∧
          ∀ {p'}, Relation.ReflTransGen (Step wc rc home) p p' →
            p'.stream = p.stream ∧ p'.taken = p.taken) ∧
    (Compatible wc rc → Free wc rc) ∧
    (Nat.lcm wc.batch rc.batch + wc.queue.quantumCount ≤ wc.messages → Free wc rc →
      Compatible wc rc) := by
  refine ⟨fun free {home p} reach unfinished => ?_, fun jams path {_ _ _ _ _} launched => ?_,
    free_of_compatible matched, fun long free => compatible_of_free matched free long⟩
  · have holds := holds_reachable matched.toAccepted reach
    rw [or_iff_not_imp_left]
    intro full q kin
    exact (holds.progress matched unfinished (holds.not_jammed matched free) kin).resolve_left full
  · obtain ⟨i, jams⟩ := not_forall.mp jams
    obtain ⟨j, jams⟩ := not_forall.mp jams
    obtain ⟨p, reach, stuck⟩ := exists_stuck matched (not_not.mp jams) path launched
    exact ⟨p, reach, stuck, stuck_forever matched reach stuck⟩

end Pair

/-! ## Three at a time, and four -/

theorem matched_four {batch : Nat} (pos : 0 < batch) (small : batch ≤ 4) :
    Matched fourWriter (fourReader batch) :=
  ⟨accepted_four pos, rfl, small, rfl⟩

/-- A reader that takes two at a time never meets a jam. Where three numbers
are in the queue there is no room for three more, but it can take two. -/
theorem progress_four : Matched fourWriter (fourReader 2) ∧ Compatible fourWriter (fourReader 2) ∧
    ∃ p, Pair.Reachable fourWriter (fourReader 2) fourSamples p ∧ p.stream.length = 3 ∧
      p.taken = 0 ∧ (p.CanWrite fourWriter fourSamples ∨
        ∀ {q}, Kin fourSamples q → p.CanRead (fourReader 2) q) := by
  have matched : Matched fourWriter (fourReader 2) := matched_four (by decide) (by decide)
  have compatible : Compatible fourWriter (fourReader 2) := by
    unfold Compatible
    decide
  obtain ⟨p, q, tally, reach, writer, reader, none⟩ := exists_three matched.readBatch_pos
    matched.readBatch_le
  have holds := Pair.holds_reachable matched.toAccepted reach
  have three : p.stream.length = 3 := holds.length_eq.trans (holds.writer writer).2
  have taken : p.taken = 0 := (Pair.taken_of_state reader).1.trans none
  have free := (Pair.deadlock_free matched).2.2.1 compatible
  exact ⟨matched, compatible, p, reach, three, taken,
    (Pair.deadlock_free matched).1 free reach (by rw [taken]; decide)⟩

/-- Three numbers are in a queue of four. The writer has three more, for which
there is no room, and the reader waits for a fourth. -/
theorem stuck_four : Matched fourWriter (fourReader 4) ∧
    ∃ p, Pair.Reachable fourWriter (fourReader 4) fourSamples p ∧ p.taken = 0 ∧
      p.stream = [sample 0, sample 1, sample 2] ∧
      p.Stuck fourWriter (fourReader 4) fourSamples := by
  have matched : Matched fourWriter (fourReader 4) := matched_four (by decide) (by decide)
  obtain ⟨p, q, tally, reach, writer, reader, none⟩ := exists_three matched.readBatch_pos
    matched.readBatch_le
  have holds := Pair.holds_reachable matched.toAccepted reach
  have jammed : Jammed fourWriter (fourReader 4) 3 tally.received := by
    rw [none]
    exact ⟨by decide, by decide⟩
  have stream := holds.ring.stream_eq
  have three : (p.view fourSamples).written = 3 := (holds.writer writer).2
  rw [three] at stream
  exact ⟨matched, p, reach, (Pair.taken_of_state reader).1.trans none, stream,
    holds.stuck matched writer reader jammed⟩

end Bench

end SharedQueue
