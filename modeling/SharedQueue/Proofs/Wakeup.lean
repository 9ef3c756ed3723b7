/-
SharedQueue.Proofs.Wakeup — no wakeup is lost between a writer and a reader.

* `Duo` — a store, a party that writes and a party that reads, each in the
  middle of a call or between two calls.
* `Duo.Step` — a party begins a call, takes one step of it, or is woken by the
  clock. Steps of the two come in any order.
* `Duo.Paired` — the two handles are on one synchronized queue with a flag of
  its own; handles that were created and attached are (`paired_of_create`).
* `Duo.Holds`, `holds_reachable` — either party is guarded against sleeping on.
* `Duo.reader_goes_on`, `writer_goes_on` — the next two steps of the other
  party end such a sleep.
* `Duo.no_lost_wakeup` — whoever sleeps although it could go on is about to be
  woken by the other one.

Nothing is asked of the counters: they may have any values to begin with, and
may reach the end of the words.
-/
import SharedQueue.Proofs.Calls
import SharedQueue.Proofs.Traffic

namespace SharedQueue

/-! ## A writer and a reader -/

/-- A party that writes and a party that reads. -/
structure Duo (t : ElementType) where
  store : Store
  /-- The call that the writer makes, or made last. -/
  writing : WriteCall t
  writer : Party WritePoint (Except Error Unit)
  reading : ReadCall
  reader : Party (ReadState t) (ReadResult t)

namespace Duo

variable {t : ElementType}

/-- How a call waits on the queue's own flag. Without patience it does not. -/
def waiting (q : Queue t) (waitBits notifyBits : UInt32) (patience : Option Deadline) :
    Option Waiting :=
  patience.bind fun deadline =>
    q.flagWord?.map fun flag => ⟨flag, waitBits, notifyBits, deadline⟩

/-- A write begins: a single attempt, or a blocking one. -/
def beginWrite (d : Duo t) (data : List t.Value) (patience : Option Deadline) : Duo t :=
  let q := d.writing.queue
  { d with
    writing := ⟨q, data, waiting q notFull notEmpty patience⟩
    writer := .ofMove <| match patience with
      | none => if data.isEmpty then .finish (.ok ()) else .go .begin
      | some _ => WriteCall.startOwn q data notFull notEmpty }

/-- A read begins. -/
def beginRead (d : Duo t) (q : Queue t) (buffer : List t.Value) (patience : Option Deadline) :
    Duo t :=
  { d with
    reading := ⟨waiting q notEmpty notFull patience⟩
    reader := .ofMove <| match patience with
      | none =>
        if buffer.isEmpty then .finish ⟨.ok (), q, buffer⟩ else .go ⟨q, buffer, .begin⟩
      | some _ => ReadCall.startOwn q buffer notEmpty notFull }

/-- One step of the writer. -/
def stepWriter (d : Duo t) (now : Instant) (p : WritePoint) : Duo t :=
  let next := d.writing.step now d.store p
  { d with store := next.1, writer := .ofMove next.2, reader := next.2.heard d.reader }

/-- One step of the reader. -/
def stepReader (d : Duo t) (now : Instant) (st : ReadState t) : Duo t :=
  let next := d.reading.step now d.store st
  { d with store := next.1, reader := .ofMove next.2, writer := next.2.heard d.writer }

/-- One step of one party. The clock may wake a sleeper at any time. -/
inductive Step (d : Duo t) : Duo t → Prop
  | beginWrite {result : Except Error Unit} (between : d.writer = .finished result)
    (data : List t.Value) (patience : Option Deadline) : Step d (d.beginWrite data patience)
  | beginRead {result : ReadResult t} (between : d.reader = .finished result)
    (buffer : List t.Value) (patience : Option Deadline) :
    Step d (d.beginRead result.queue buffer patience)
  | writer {p : WritePoint} (ready : d.writer = .ready p) (now : Instant) :
    Step d (d.stepWriter now p)
  | reader {st : ReadState t} (ready : d.reader = .ready st) (now : Instant) :
    Step d (d.stepReader now st)
  | rouseWriter {word : FlagWord} {mask : UInt32} {wake : Deadline} {p : WritePoint}
    (asleep : d.writer = .parked word mask wake p) : Step d { d with writer := .ready p }
  | rouseReader {word : FlagWord} {mask : UInt32} {wake : Deadline} {st : ReadState t}
    (asleep : d.reader = .parked word mask wake st) : Step d { d with reader := .ready st }

/-- Neither party has begun. -/
def start (w r : Queue t) (s : Store) : Duo t where
  store := s
  writing := ⟨w, [], none⟩
  writer := .finished (.ok ())
  reading := ⟨none⟩
  reader := .finished ⟨.ok (), r, []⟩

/-- What comes of two parties with these handles. -/
inductive Reachable (w r : Queue t) (s : Store) : Duo t → Prop
  | start : Reachable w r s (start w r s)
  | next {d d' : Duo t} (before : Reachable w r s d) (step : Step d d') : Reachable w r s d'

/-- The two handles are on one synchronized queue with a flag of its own. -/
structure Paired (w r : Queue t) (flag : FlagWord) (s : Store) : Prop where
  writer : w.Equipped flag s
  reader : r.Equipped flag s
  descriptor_eq : r.descriptor = w.descriptor
  memory_eq : r.region.memory = w.region.memory

/-- The handle that created the queue, or one that is attached from its
descriptor. -/
def Joins (home : Queue t) (s : Store) (q : Queue t) : Prop :=
  q = home ∨ Queue.attach t .synchronized home.descriptor s = .ok q

theorem equipped_of_joins {home q : Queue t} {c : QueueConfig} {s s' : Store} {flag : FlagWord}
    (ok : Queue.create t .synchronized c s = .ok (home, s')) (own : home.flagWord? = some flag)
    (joins : Joins home s' q) :
    q.Equipped flag s' ∧ q.descriptor = home.descriptor ∧
      q.region.memory = home.region.memory := by
  have flavor := Queue.flavor_of_create ok
  have regular := Traffic.regular_begin ok
  rcases joins with rfl | attached
  · exact ⟨⟨Queue.sound_of_create ok, flavor, own, regular.mapped⟩, rfl, rfl⟩
  · have sound := Queue.sound_of_attach attached
    obtain ⟨-, -, -, -, -, descriptor, -⟩ := Queue.attach_eq_ok attached
    rw [← flavor] at attached
    have memory : q.region.memory = home.region.memory := regular.attached attached
    refine ⟨⟨sound, ?_, ?_, ?_⟩, descriptor, memory⟩
    · rw [Queue.flavor, descriptor]
      exact flavor
    · rw [Queue.flagWord?, descriptor, memory]
      exact own
    · rw [memory]
      exact regular.mapped

/-- Handles on a queue with a flag of its own are paired. -/
theorem paired_of_create {home w r : Queue t} {c : QueueConfig} {s s' : Store} {flag : FlagWord}
    (ok : Queue.create t .synchronized c s = .ok (home, s')) (own : home.flagWord? = some flag)
    (writer : Joins home s' w) (reader : Joins home s' r) : Paired w r flag s' := by
  obtain ⟨writerEquipped, writerDescriptor, writerMemory⟩ := equipped_of_joins ok own writer
  obtain ⟨readerEquipped, readerDescriptor, readerMemory⟩ := equipped_of_joins ok own reader
  exact ⟨writerEquipped, readerEquipped, readerDescriptor.trans writerDescriptor.symm,
    readerMemory.trans writerMemory.symm⟩

/-! ## The invariant -/

/-- The flag and the counters, as the writer looks at them. -/
def sight (d : Duo t) : Sight := d.writing.queue.sight (d.writing.queue.memory d.store)

/-- Both parties stand where they are expected, the reader in the middle of a
read of `n` quanta, and either is guarded against sleeping on. -/
structure Holds (r : Queue t) (flag : FlagWord) (n : Nat) (d : Duo t) : Prop where
  paired : Paired d.writing.queue r flag d.store
  writing : Usual flag notFull notEmpty d.writing.waiting
  reading : Usual flag notEmpty notFull d.reading.waiting
  writerFits : d.writing.role.Fits flag d.sight d.writer
  readerFits : (d.reading.role r n).Fits flag d.sight.swap d.reader
  writerGuarded : Guarded notFull d.writing.role.enough d.sight
    (d.writing.role.phaseOf d.writer) ((d.reading.role r n).phaseOf d.reader)
  readerGuarded : Guarded notEmpty (d.reading.role r n).enough d.sight.swap
    ((d.reading.role r n).phaseOf d.reader) (d.writing.role.phaseOf d.writer)

variable {w r : Queue t} {flag : FlagWord} {s : Store} {n : Nat} {d d' : Duo t}

theorem Paired.sight_eq (paired : Paired w r flag s) :
    r.sight (r.memory s) = w.sight (w.memory s) := by
  have same : r.memory s = w.memory s := congrArg s.memory paired.memory_eq
  rw [same]
  exact Queue.sight_congr paired.descriptor_eq _

theorem Paired.of_size (paired : Paired w r flag s) {s' : Store}
    (same : s'.memories.size = s.memories.size) : Paired w r flag s' :=
  ⟨paired.writer.of_size same, paired.reader.of_size same, paired.descriptor_eq,
    paired.memory_eq⟩

theorem usual_waiting {q : Queue t} (own : q.flagWord? = some flag) (wait notify : UInt32)
    (patience : Option Deadline) : Usual flag wait notify (waiting q wait notify patience) := by
  cases patience with
  | none => exact .inl rfl
  | some deadline =>
    refine .inr ⟨deadline, ?_⟩
    simp [waiting, own]

theorem holds_start (paired : Paired w r flag s) : Holds r flag 0 (start w r s) where
  paired := paired
  writing := .inl rfl
  reading := .inl rfl
  writerFits := trivial
  readerFits := rfl
  writerGuarded := trivial
  readerGuarded := trivial

theorem Holds.stepWriter (holds : Holds r flag n d) {p : WritePoint} (ready : d.writer = .ready p)
    (now : Instant) : Holds r flag n (d.stepWriter now p) := by
  have fits := holds.writerFits
  have guarded := holds.writerGuarded
  have wakes := holds.readerGuarded
  rw [ready] at fits guarded wakes
  have goes := d.writing.goes holds.paired.writer holds.writing now fits
  have size := d.writing.size_step now d.store p
  unfold Duo.stepWriter
  -- from here on only what `goes` says about the step counts
  generalize d.writing.step now d.store p = next at goes size
  have heard := holds.readerFits.phaseOf_heard goes.wakes twoBits_writer.notify_ne_zero
  constructor
  · exact holds.paired.of_size size
  · exact holds.writing
  · exact holds.reading
  · exact goes.fits
  · apply Role.Fits.heard
    exact holds.readerFits.of_good fun _ good => good
  · dsimp only
    rw [heard]
    exact guarded.own_stride goes.stride
  · dsimp only
    rw [heard]
    exact wakes.other_stride twoBits_writer goes.stride

theorem Holds.stepReader (holds : Holds r flag n d) {st : ReadState t}
    (ready : d.reader = .ready st) (now : Instant) : Holds r flag n (d.stepReader now st) := by
  have fits := holds.readerFits
  have guarded := holds.readerGuarded
  have wakes := holds.writerGuarded
  rw [ready] at fits guarded wakes
  have goes := d.reading.goes holds.paired.reader holds.reading now fits
  have size := d.reading.size_step now d.store st
  rw [(holds.paired.of_size size).sight_eq, holds.paired.sight_eq] at goes
  unfold Duo.stepReader
  generalize d.reading.step now d.store st = next at goes size
  have heard := holds.writerFits.phaseOf_heard goes.wakes twoBits_reader.notify_ne_zero
  have own := goes.stride.other_eq
  constructor
  · exact holds.paired.of_size size
  · exact holds.writing
  · exact holds.reading
  · apply Role.Fits.heard
    exact holds.writerFits.of_good fun _ => WriteCall.good_of_own own
  · exact goes.fits
  · dsimp only
    rw [heard]
    exact wakes.other_stride twoBits_reader goes.stride
  · dsimp only
    rw [heard]
    exact guarded.own_stride goes.stride

theorem Holds.rouseWriter (holds : Holds r flag n d) {word : FlagWord} {mask : UInt32}
    {wake : Deadline} {p : WritePoint} (asleep : d.writer = .parked word mask wake p) :
    Holds r flag n { d with writer := .ready p } := by
  have fits := holds.writerFits
  have wakes := holds.readerGuarded
  rw [asleep] at fits wakes
  obtain ⟨-, -, busy, good⟩ := fits
  constructor
  · exact holds.paired
  · exact holds.writing
  · exact holds.reading
  · exact good
  · exact holds.readerFits
  · show Guarded _ _ _ (d.writing.role.phase p) _
    rw [busy]
    trivial
  · show Guarded _ _ _ _ (d.writing.role.phase p)
    rw [busy]
    exact wakes.of_quiet rfl rfl rfl rfl

theorem Holds.rouseReader (holds : Holds r flag n d) {word : FlagWord} {mask : UInt32}
    {wake : Deadline} {st : ReadState t} (asleep : d.reader = .parked word mask wake st) :
    Holds r flag n { d with reader := .ready st } := by
  have fits := holds.readerFits
  have wakes := holds.writerGuarded
  rw [asleep] at fits wakes
  obtain ⟨-, -, busy, good⟩ := fits
  constructor
  · exact holds.paired
  · exact holds.writing
  · exact holds.reading
  · exact holds.writerFits
  · exact good
  · show Guarded _ _ _ _ ((d.reading.role r n).phase st)
    rw [busy]
    exact wakes.of_quiet rfl rfl rfl rfl
  · show Guarded _ _ _ ((d.reading.role r n).phase st) _
    rw [busy]
    trivial

/-- A write that begins is before its first step, or has ended already. -/
theorem writer_beginWrite (d : Duo t) (data : List t.Value) (patience : Option Deadline) :
    (d.beginWrite data patience).writer = .ready .begin ∨
      ∃ result, (d.beginWrite data patience).writer = .finished result := by
  unfold beginWrite WriteCall.startOwn WriteCall.startOn
  cases patience with
  | none =>
    dsimp only
    split
    · exact .inr ⟨_, rfl⟩
    · exact .inl rfl
  | some deadline =>
    dsimp only
    repeat' split
    · exact .inr ⟨_, rfl⟩
    · exact .inr ⟨_, rfl⟩
    · exact .inr ⟨_, rfl⟩
    · exact .inl rfl

/-- A read that begins is before its first step, or has ended already. -/
theorem reader_beginRead (d : Duo t) (q : Queue t) (buffer : List t.Value)
    (patience : Option Deadline) :
    (d.beginRead q buffer patience).reader = .ready ⟨q, buffer, .begin⟩ ∨
      ∃ answer, (d.beginRead q buffer patience).reader = .finished ⟨answer, q, buffer⟩ := by
  unfold beginRead ReadCall.startOwn ReadCall.startOn
  cases patience with
  | none =>
    dsimp only
    split
    · exact .inr ⟨_, rfl⟩
    · exact .inl rfl
  | some deadline =>
    dsimp only
    repeat' split
    · exact .inr ⟨_, rfl⟩
    · exact .inr ⟨_, rfl⟩
    · exact .inr ⟨_, rfl⟩
    · exact .inl rfl

theorem Holds.beginWrite (holds : Holds r flag n d) {result : Except Error Unit}
    (between : d.writer = .finished result) (data : List t.Value) (patience : Option Deadline) :
    Holds r flag n (d.beginWrite data patience) := by
  have wakes := holds.readerGuarded
  rw [between] at wakes
  have begun := writer_beginWrite d data patience
  have busy : (d.beginWrite data patience).writing.role.phaseOf
      (d.beginWrite data patience).writer = .busy := by
    rcases begun with ready | ⟨result, finished⟩
    · rw [ready]
      rfl
    · rw [finished]
      rfl
  constructor
  · exact holds.paired
  · exact usual_waiting holds.paired.writer.own _ _ _
  · exact holds.reading
  · rcases begun with ready | ⟨result, finished⟩
    · rw [ready]
      trivial
    · rw [finished]
      trivial
  · exact holds.readerFits
  · rw [busy]
    trivial
  · rw [busy]
    exact wakes

theorem Holds.beginRead (holds : Holds r flag n d) {result : ReadResult t}
    (between : d.reader = .finished result) (buffer : List t.Value)
    (patience : Option Deadline) :
    Holds r flag buffer.length (d.beginRead result.queue buffer patience) := by
  have fits := holds.readerFits
  have wakes := holds.writerGuarded
  rw [between] at fits wakes
  have same : result.queue = r := fits
  subst same
  have begun := reader_beginRead d result.queue buffer patience
  have busy : ((d.beginRead result.queue buffer patience).reading.role result.queue
      buffer.length).phaseOf (d.beginRead result.queue buffer patience).reader = .busy := by
    rcases begun with ready | ⟨result, finished⟩
    · rw [ready]
      rfl
    · rw [finished]
      rfl
  constructor
  · exact holds.paired
  · exact holds.writing
  · exact usual_waiting holds.paired.reader.own _ _ _
  · exact holds.writerFits
  · rcases begun with ready | ⟨result, finished⟩
    · rw [ready]
      exact ⟨rfl, rfl, nofun⟩
    · rw [finished]
      rfl
  · rw [busy]
    exact wakes
  · rw [busy]
    trivial

/-- The writer keeps its handle. -/
theorem handle_reachable (reach : Reachable w r s d) : d.writing.queue = w := by
  induction reach with
  | start => rfl
  | next before step ih => cases step <;> exact ih

theorem holds_reachable (paired : Paired w r flag s) (reach : Reachable w r s d) :
    ∃ n, Holds r flag n d := by
  induction reach with
  | start => exact ⟨0, holds_start paired⟩
  | next before step ih =>
    obtain ⟨n, holds⟩ := ih
    cases step with
    | beginWrite between data patience => exact ⟨n, holds.beginWrite between data patience⟩
    | beginRead between buffer patience => exact ⟨_, holds.beginRead between buffer patience⟩
    | writer ready now => exact ⟨n, holds.stepWriter ready now⟩
    | reader ready now => exact ⟨n, holds.stepReader ready now⟩
    | rouseWriter asleep => exact ⟨n, holds.rouseWriter asleep⟩
    | rouseReader asleep => exact ⟨n, holds.rouseReader asleep⟩

/-! ## What a sleeper relies on -/

/-- The writer has moved its counter and has not yet woken those who wait for
data. If the bit is still to be raised then it is clear, so raising it is
followed by waking. -/
def WriterAnnounces (flag : FlagWord) (d : Duo t) : Prop :=
  (d.writer = .ready .raiseOwn ∧ d.store.wordBits flag &&& notEmpty = 0) ∨
    d.writer = .ready .signalOwn

/-- The reader has moved its counter and has not yet woken those who wait for
room. -/
def ReaderAnnounces (flag : FlagWord) (d : Duo t) : Prop :=
  ∃ st, d.reader = .ready st ∧
    ((st.point = .raiseOwn ∧ d.store.wordBits flag &&& notFull = 0) ∨ st.point = .signalOwn)

theorem Holds.writer_announces (holds : Holds r flag n d) {word : FlagWord} {mask : UInt32}
    {wake : Deadline} {st : ReadState t} (asleep : d.reader = .parked word mask wake st)
    (enough : st.buffer.length ≤ r.availableToRead (r.memory d.store)) :
    d.WriterAnnounces flag := by
  have fits := holds.readerFits
  have guarded := holds.readerGuarded
  rw [asleep] at fits guarded
  obtain ⟨-, -, -, -, length, -⟩ := fits
  obtain ⟨announced, clear⟩ := guarded
  have able : n ≤ Flavor.availableToRead d.sight.own d.sight.other := by
    unfold Queue.availableToRead at enough
    rw [holds.paired.reader.readPos_eq, length] at enough
    rw [sight, ← holds.paired.sight_eq]
    exact enough
  rcases announced able with raising | signalling
  · obtain ⟨p, ready, same⟩ := Role.exists_ready (congrArg Phase.announcing raising)
    rw [WritePoint.eq_raiseOwn (same.symm.trans raising)] at ready
    refine .inl ⟨ready, ?_⟩
    rw [holds.paired.writer.wordBits_eq]
    by_contra set
    rw [raising] at clear
    simpa using clear set
  · obtain ⟨p, ready, same⟩ := Role.exists_ready (congrArg Phase.announcing signalling)
    rw [WritePoint.eq_signalOwn (same.symm.trans signalling)] at ready
    exact .inr ready

theorem Holds.reader_announces (holds : Holds r flag n d) {word : FlagWord} {mask : UInt32}
    {wake : Deadline} {p : WritePoint} (asleep : d.writer = .parked word mask wake p)
    (enough : d.writing.data.length ≤
      d.writing.queue.availableToWrite (d.writing.queue.memory d.store)) :
    d.ReaderAnnounces flag := by
  have guarded := holds.writerGuarded
  rw [asleep] at guarded
  obtain ⟨announced, clear⟩ := guarded
  have able : d.writing.data.length ≤
      Flavor.availableToWrite d.writing.queue.capacity d.sight.own d.sight.other := by
    unfold Queue.availableToWrite at enough
    rw [holds.paired.writer.readPos_eq] at enough
    exact enough
  rcases announced able with raising | signalling
  · obtain ⟨st, ready, same⟩ := Role.exists_ready (congrArg Phase.announcing raising)
    refine ⟨st, ready, .inl ⟨ReadPoint.eq_raiseOwn (same.symm.trans raising), ?_⟩⟩
    rw [holds.paired.writer.wordBits_eq]
    by_contra set
    rw [raising] at clear
    simpa using clear set
  · obtain ⟨st, ready, same⟩ := Role.exists_ready (congrArg Phase.announcing signalling)
    exact ⟨st, ready, .inr (ReadPoint.eq_signalOwn (same.symm.trans signalling))⟩

/-! ## What an announcement leads to -/

/-- Raising a bit that is clear is followed by waking. -/
theorem Holds.writer_signals (holds : Holds r flag n d)
    (clear : d.store.wordBits flag &&& notEmpty = 0) (now : Instant) :
    (d.stepWriter now .raiseOwn).writer = .ready .signalOwn ∧
      (d.stepWriter now .raiseOwn).reader = d.reader := by
  have rings := (twoBits_writer.signals_iff _).mpr clear
  unfold Duo.stepWriter WriteCall.step
  simp only [holds.paired.writer.own, rings]
  exact ⟨rfl, rfl⟩

theorem Holds.reader_woken (holds : Holds r flag n d) {word : FlagWord} {mask : UInt32}
    {wake : Deadline} {st : ReadState t} (asleep : d.reader = .parked word mask wake st)
    (now : Instant) : (d.stepWriter now .signalOwn).reader = .ready st := by
  have fits := holds.readerFits
  rw [asleep] at fits
  unfold Duo.stepWriter WriteCall.step
  simp only [holds.paired.writer.own]
  rw [asleep]
  exact fits.woken twoBits_writer.notify_ne_zero

theorem Holds.reader_signals (holds : Holds r flag n d) {st : ReadState t}
    (ready : d.reader = .ready st) (raising : st.point = .raiseOwn)
    (clear : d.store.wordBits flag &&& notFull = 0) (now : Instant) :
    (d.stepReader now st).reader = .ready { st with point := .signalOwn } ∧
      (d.stepReader now st).writer = d.writer := by
  have rings := (twoBits_reader.signals_iff _).mpr clear
  have fits := holds.readerFits
  rw [ready] at fits
  have own : st.queue.flagWord? = some flag := by
    rw [fits.queue_eq]
    exact holds.paired.reader.own
  unfold Duo.stepReader ReadCall.step
  simp only [raising, own, rings]
  exact ⟨rfl, rfl⟩

theorem Holds.writer_woken (holds : Holds r flag n d) {word : FlagWord} {mask : UInt32}
    {wake : Deadline} {p : WritePoint} (asleep : d.writer = .parked word mask wake p)
    {st : ReadState t} (ready : d.reader = .ready st) (signalling : st.point = .signalOwn)
    (now : Instant) : (d.stepReader now st).writer = .ready p := by
  have sleeps := holds.writerFits
  have fits := holds.readerFits
  rw [asleep] at sleeps
  rw [ready] at fits
  have own : st.queue.flagWord? = some flag := by
    rw [fits.queue_eq]
    exact holds.paired.reader.own
  unfold Duo.stepReader ReadCall.step
  simp only [signalling, own]
  rw [asleep]
  exact sleeps.woken twoBits_reader.notify_ne_zero

/-- A reader that sleeps although there is enough to read goes on after the
next step of the writer, or after the one behind it. -/
theorem reader_goes_on (paired : Paired w r flag s) (reach : Reachable w r s d)
    {word : FlagWord} {mask : UInt32} {wake : Deadline} {st : ReadState t}
    (asleep : d.reader = .parked word mask wake st)
    (enough : st.buffer.length ≤ r.availableToRead (r.memory d.store)) (now now' : Instant) :
    ∃ p, d.writer = .ready p ∧ ((d.stepWriter now p).reader = .ready st ∨
      (d.stepWriter now p).writer = .ready .signalOwn ∧
        ((d.stepWriter now p).stepWriter now' .signalOwn).reader = .ready st) := by
  obtain ⟨n, holds⟩ := holds_reachable paired reach
  rcases holds.writer_announces asleep enough with ⟨ready, clear⟩ | ready
  · obtain ⟨signals, same⟩ := holds.writer_signals clear now
    have next := holds.stepWriter ready now
    exact ⟨_, ready, .inr ⟨signals, next.reader_woken (same.trans asleep) now'⟩⟩
  · exact ⟨_, ready, .inl (holds.reader_woken asleep now)⟩

/-- A writer that sleeps although there is room goes on after the next step of
the reader, or after the one behind it. -/
theorem writer_goes_on (paired : Paired w r flag s) (reach : Reachable w r s d)
    {word : FlagWord} {mask : UInt32} {wake : Deadline} {p : WritePoint}
    (asleep : d.writer = .parked word mask wake p)
    (enough : d.writing.data.length ≤
      d.writing.queue.availableToWrite (d.writing.queue.memory d.store)) (now now' : Instant) :
    ∃ st, d.reader = .ready st ∧ ((d.stepReader now st).writer = .ready p ∨
      ∃ st', (d.stepReader now st).reader = .ready st' ∧
        ((d.stepReader now st).stepReader now' st').writer = .ready p) := by
  obtain ⟨n, holds⟩ := holds_reachable paired reach
  obtain ⟨st, ready, ⟨raising, clear⟩ | signalling⟩ := holds.reader_announces asleep enough
  · obtain ⟨signals, same⟩ := holds.reader_signals ready raising clear now
    have next := holds.stepReader ready now
    exact ⟨st, ready, .inr ⟨_, signals,
      next.writer_woken (same.trans asleep) signals rfl now'⟩⟩
  · exact ⟨st, ready, .inl (holds.writer_woken asleep ready signalling now)⟩

/-! ## No wakeup is lost -/

/-- No wakeup is lost. While the reader sleeps although there is enough to
read, the writer is between moving its counter and waking the reader, and
while the writer sleeps although there is room, so is the reader. -/
theorem no_lost_wakeup (paired : Paired w r flag s) (reach : Reachable w r s d) :
    (∀ {word mask wake st}, d.reader = .parked word mask wake st →
        st.buffer.length ≤ r.availableToRead (r.memory d.store) → d.WriterAnnounces flag) ∧
      (∀ {word mask wake p}, d.writer = .parked word mask wake p →
        d.writing.data.length ≤ w.availableToWrite (w.memory d.store) →
          d.ReaderAnnounces flag) := by
  obtain ⟨n, holds⟩ := holds_reachable paired reach
  have handle : d.writing.queue = w := handle_reachable reach
  refine ⟨fun asleep enough => holds.writer_announces asleep enough, fun asleep enough => ?_⟩
  apply holds.reader_announces asleep
  rw [handle]
  exact enough

/-- A queue of four bytes with a flag, as it is created in an empty store. -/
def flaggedBytes : Queue (.primitive .u8) where
  descriptor := {
    (fourBytes .synchronized).descriptor with
    regionSize := 196
    data := ⟨192, 4⟩
    eventFlag := some ⟨128, flagSize⟩ }
  region := ⟨"four", 0, 196, true⟩
  cursor := .shared 0

/-- The store with nothing in it but that queue. -/
def flaggedStore : Store := ⟨#[.blank 196], [("four", 0)], 0⟩

/-- A reader in the middle of reading one byte. -/
def oneByte (p : ReadPoint) : ReadState (.primitive .u8) := ⟨flaggedBytes, [byteQuantum 0], p⟩

/-- The reader has found nothing and fallen asleep; then the writer has
published a byte. -/
def sleeping : Duo (.primitive .u8) :=
  (start flaggedBytes flaggedBytes flaggedStore).beginRead flaggedBytes [byteQuantum 0] (some none)
    |>.stepReader 0 (oneByte .begin)
    |>.stepReader 0 (oneByte (.judge 0))
    |>.stepReader 0 (oneByte .expire)
    |>.stepReader 0 (oneByte .clear)
    |>.stepReader 0 (oneByte .observe)
    |>.stepReader 0 (oneByte (.recount 0))
    |>.stepReader 0 (oneByte (.recheck 0 0))
    |>.stepReader 0 (oneByte (.park 0))
    |>.beginWrite [byteQuantum 7] none
    |>.stepWriter 0 .begin
    |>.stepWriter 0 (.judge 0)
    |>.stepWriter 0 (.fill 0)
    |>.stepWriter 0 (.publish 0)

theorem reachable_sleeping : Reachable flaggedBytes flaggedBytes flaggedStore sleeping := by
  have between : (start flaggedBytes flaggedBytes flaggedStore).reader =
      .finished ⟨.ok (), flaggedBytes, []⟩ := rfl
  unfold sleeping
  iterate 4 refine .next ?_ (.writer rfl 0)
  refine .next ?_ (.beginWrite rfl _ _)
  iterate 8 refine .next ?_ (.reader rfl 0)
  exact .next .start (.beginRead between _ _)

theorem no_lost_wakeup_flaggedBytes :
    Paired flaggedBytes flaggedBytes ⟨0, 128⟩ flaggedStore ∧
      Reachable flaggedBytes flaggedBytes flaggedStore sleeping ∧
      sleeping.reader = .parked ⟨0, 128⟩ notEmpty none (oneByte .begin) ∧
      flaggedBytes.availableToRead (flaggedBytes.memory sleeping.store) = 1 ∧
      sleeping.WriterAnnounces ⟨0, 128⟩ := by
  have ok : Queue.create (.primitive .u8) .synchronized
      { quantumCount := 4, eventFlag := true, name := some "four" } .empty =
        .ok (flaggedBytes, flaggedStore) := rfl
  have paired : Paired flaggedBytes flaggedBytes ⟨0, 128⟩ flaggedStore :=
    paired_of_create ok rfl (.inl rfl) (.inl rfl)
  have asleep : sleeping.reader = .parked ⟨0, 128⟩ notEmpty none (oneByte .begin) := rfl
  have published : flaggedBytes.availableToRead (flaggedBytes.memory sleeping.store) = 1 := rfl
  have enough : (oneByte .begin).buffer.length ≤
      flaggedBytes.availableToRead (flaggedBytes.memory sleeping.store) := by
    rw [published]
    exact Nat.le_refl 1
  exact ⟨paired, reachable_sleeping, asleep, published,
    (no_lost_wakeup paired reachable_sleeping).1 asleep enough⟩

end Duo

end SharedQueue
