/-
SharedQueue.Proofs.Bench.Pair — the two measuring programs on one queue.

* `Pair` — a host, the writing program, the reading program, and a record of
  what has been published.
* `Pair.Step`, `Pair.Reachable` — either program takes a step, a rest ends, or
  something else happens on the host that leaves the queue alone. All of this
  in any order, at any time.
* `Ring` — what is true of the queue at every moment: the stream so far is the
  beginning of the numbers that count up, and the slots that nobody may write
  hold the end of it.
* `Fed`, `Drained` — what a step of the one program leaves to the other.

How far slots may have been written is a matter of the flavor
(`Queue.front`): in a synchronized queue the reader's position decides, in an
unsynchronized one the reservation.
-/
import SharedQueue.Bench.Reader
import SharedQueue.Bench.Writer
import SharedQueue.Proofs.BlockingRead
import SharedQueue.Proofs.World

namespace SharedQueue

/-! ## Parties that go on -/

namespace Party

variable {σ ρ : Type}

/-- What a party goes on with, at once or when its rest ends. -/
def state? : Party σ ρ → Option σ
  | ready state => some state
  | parked _ _ _ state => some state
  | pausing _ state => some state
  | joining .. => none
  | finished _ => none

theorem state?_ofMove (move : Move σ ρ) : (ofMove move).state? = move.next? := by
  cases move <;> rfl

theorem result?_ofMove {move : Move σ ρ} {result : ρ} :
    (ofMove move).result? = some result ↔ move = .finish result := by
  cases move <;> simp [ofMove, result?]

/-- After a move of its own a party waits for no other one. -/
theorem ofMove_goes (move : Move σ ρ) :
    (ofMove move).state?.isSome ∨ (ofMove move).result?.isSome := by
  cases move <;> simp [ofMove, state?, result?]

end Party

namespace Move

variable {ω σ τ ρ κ : Type} {world : ω} {move : Move σ ρ} {place : σ → τ} {done : ρ → ω × Move τ κ}

/-- What is true of all that a part can go on with is true of the whole. -/
theorem next?_within {P : τ → Prop} (goes : ∀ {next}, move.next? = some next → P (place next))
    (ends : ∀ {result state}, move = .finish result → (done result).2.next? = some state → P state)
    {state : τ} (next : (move.within world place done).2.next? = some state) : P state := by
  cases move with
  | finish result => exact ends rfl next
  | go | signal | park | pause =>
    cases next
    exact goes rfl

/-- The whole goes on with what a part goes on with. -/
theorem next?_within_eq {next : σ} (goes : move.next? = some next) :
    (move.within world place done).2.next? = some (place next) := by
  cases move with
  | finish result => cases goes
  | go | signal | park | pause =>
    cases goes
    rfl

/-- The whole can finish only where a part does. -/
theorem finish_within {result : κ} (finish : (move.within world place done).2 = .finish result) :
    ∃ r, move = .finish r ∧ (done r).2 = .finish result := by
  cases move with
  | finish r => exact ⟨r, rfl, finish⟩
  | go | signal | park | pause => cases finish

theorem world_within (keeps : ∀ {result}, move = .finish result → (done result).1 = world) :
    (move.within world place done).1 = world := by
  cases move with
  | finish result => exact keeps rfl
  | go | signal | park | pause => rfl

end Move

namespace Bench

/-! ## The programs and the rest of the host -/

/-- Settings that the programs accept, and that suit each other. -/
structure Accepted (wc : WriterConfig) (rc : ReaderConfig) : Prop where
  batch_pos : 0 < wc.batch
  batch_le : wc.batch ≤ wc.queue.quantumCount
  eventFlag : wc.queue.eventFlag = true
  readBatch_pos : 0 < rc.batch
  flavor : rc.flavor = wc.flavor
  /-- The number is a word of the settings. -/
  messages : wc.messages < wordLimit

/-- The writing program and the reading program on a host. -/
structure Pair where
  host : Host
  writer : Party WriterState WriterResult
  reader : Party ReaderState ReaderResult
  /-- What has been published, from the beginning. Nothing depends on it. -/
  stream : List quantum.Value

/-- What the next step of the writing program publishes. -/
def WriterState.publishes (s : Store) : WriterState → List quantum.Value
  | .writing call _ (.publish pos) => call.queue.take (call.queue.memory s) pos call.data.length
  | _ => []

/-- The descriptor that the reading program finds, if it finds one, is the
one of this queue. -/
def ReaderState.Guided (c : ReaderConfig) (home : Queue quantum) (host : Host)
    (state : ReaderState) : Prop :=
  ∀ since d, state = .seek since → Descriptor.load host.files c.descriptorPath = .ok d →
    d = home.descriptor

/-- Something happens on the host that leaves the queue alone, and its name. -/
structure Host.Spares (home : Queue quantum) (host host' : Host) : Prop where
  memory : home.memory host'.store = home.memory host.store
  mapped : host.store.memories.size ≤ host'.store.memories.size
  named : ∀ {id}, host'.store.lookup? home.descriptor.name = some id → id = home.region.memory

namespace Pair

/-- What all handles on the queue see. -/
def view (p : Pair) (home : Queue quantum) : RingView quantum :=
  home.view (home.memory p.host.store)

/-- One step of the writing program, which nobody asks to stop. -/
def stepWriter (p : Pair) (c : WriterConfig) (now : Instant) (state : WriterState) : Pair :=
  let next := state.step c false now p.host
  { p with
    host := next.1
    writer := .ofMove next.2
    stream := p.stream ++ state.publishes p.host.store }

/-- One step of the reading program. -/
def stepReader (p : Pair) (c : ReaderConfig) (now : Instant) (state : ReaderState) : Pair :=
  let next := state.step c now p.host
  { p with host := next.1, reader := .ofMove next.2 }

/-- One step of one program, or of the host. -/
inductive Step (wc : WriterConfig) (rc : ReaderConfig) (home : Queue quantum) (p : Pair) :
    Pair → Prop
  | writer {state : WriterState} (ready : p.writer = .ready state) (now : Instant) :
    Step wc rc home p (p.stepWriter wc now state)
  | reader {state : ReaderState} (ready : p.reader = .ready state) (now : Instant)
    (guided : state.Guided rc home p.host) : Step wc rc home p (p.stepReader rc now state)
  /-- A sleep or a pause ends. -/
  | rouseWriter {state : WriterState} (rests : p.writer.state? = some state) :
    Step wc rc home p { p with writer := .ready state }
  | rouseReader {state : ReaderState} (rests : p.reader.state? = some state) :
    Step wc rc home p { p with reader := .ready state }
  | elsewhere {host : Host} (spares : p.host.Spares home host) : Step wc rc home p { p with host }

/-- The writing program has created the queue and published its descriptor;
the reading program looks for it. -/
def begin (home : Queue quantum) (host : Host) (wake since : Instant) : Pair where
  host := host
  writer := .pausing wake (.batch home 0)
  reader := .ready (.seek since)
  stream := []

/-- What comes of the two programs. -/
inductive Reachable (wc : WriterConfig) (rc : ReaderConfig) (home : Queue quantum) : Pair → Prop
  | start {host host' : Host} {now wake : Instant} (since : Instant)
    (launched : WriterState.launched wc now host = (host', .pause wake (.batch home 0))) :
    Reachable wc rc home (begin home host' wake since)
  | next {p p' : Pair} (before : Reachable wc rc home p) (step : Step wc rc home p p') :
    Reachable wc rc home p'

end Pair

/-! ## The handle of the writing program -/

/-- What a handle of the writing program is. -/
structure Ground (wc : WriterConfig) (home : Queue quantum) : Prop where
  sound : home.Sound
  flavor : home.flavor = wc.flavor
  capacity : home.capacity = wc.queue.quantumCount
  flag : wc.queue.eventFlag = true → ∃ word, home.flagWord? = some word

/-- The memory is there, and whoever opens the name gets it. -/
structure Homed (home : Queue quantum) (s : Store) : Prop where
  mapped : home.region.memory < s.memories.size
  named : ∀ {id}, s.lookup? home.descriptor.name = some id → id = home.region.memory

variable {wc : WriterConfig} {rc : ReaderConfig} {home : Queue quantum} {v v' : RingView quantum}

theorem Homed.of_local {α : Type} {ids : MemoryId → Prop} {f : Store → Store × α} {s : Store}
    (homed : Homed home s) (inside : Local ids f) : Homed home (f s).1 := by
  refine ⟨?_, fun {id} found => homed.named ?_⟩
  · rw [inside.count]
    exact homed.mapped
  · unfold Store.lookup? at found ⊢
    rwa [inside.names] at found

theorem Homed.release {s : Store} (homed : Homed home s) (r : Region) :
    Homed home (s.release r) := by
  refine ⟨?_, fun found => homed.named (Store.lookup?_release found)⟩
  rw [Store.memories_release]
  exact homed.mapped

theorem Homed.spares {host host' : Host} (homed : Homed home host.store)
    (spares : host.Spares home host') : Homed home host'.store :=
  ⟨Nat.lt_of_lt_of_le homed.mapped spares.mapped, spares.named⟩

theorem launched_eq {host host' : Host} {now wake : Instant}
    (launched : WriterState.launched wc now host = (host', .pause wake (.batch home 0))) :
    Queue.create quantum wc.flavor wc.queue host.store = .ok (home, host'.store) ∧
      home.descriptor.save host.files wc.descriptorPath = .ok host'.files := by
  unfold WriterState.launched at launched
  split at launched
  · cases launched
  · rename_i queue store created
    dsimp only at launched
    split at launched
    · cases launched
    · rename_i files saved
      cases launched
      exact ⟨created, saved⟩

theorem ground_of_create {s s' : Store}
    (ok : Queue.create quantum wc.flavor wc.queue s = .ok (home, s')) : Ground wc home := by
  obtain ⟨layout, plan, -, descriptor, -⟩ := Queue.create_eq_ok ok
  refine ⟨Queue.sound_of_create ok, Queue.flavor_of_create ok, ?_, fun wanted => ?_⟩
  · rw [Queue.capacity, descriptor]
    rfl
  · have placed : layout.eventFlag.isSome = true := by
      rw [(Layout.plan_eq_ok plan).2.2]
      simp [Layout.place, wanted]
    obtain ⟨g, flag⟩ := Option.isSome_iff_exists.mp placed
    refine ⟨⟨home.region.memory, g.offset⟩, ?_⟩
    rw [Queue.flagWord?, descriptor]
    simp [Descriptor.ofLayout, flag]

/-! ## The stream -/

@[simp] theorem length_samples (start count : Nat) : (samples start count).length = count := by
  simp [samples]

@[simp] theorem getElem_samples (start count i : Nat) (hi : i < (samples start count).length) :
    (samples start count)[i] = sample (start + i) := by
  simp [samples]

theorem samples_append (start m n : Nat) :
    samples start m ++ samples (start + m) n = samples start (m + n) := by
  apply List.ext_getElem
  · simp
  · intro i _ _
    rw [List.getElem_append]
    split
    · simp
    · rename_i behind
      rw [length_samples] at behind
      rw [getElem_samples, getElem_samples, length_samples]
      congr 1
      omega

/-! ## Batches -/

/-- So many quanta are a number of whole batches, or all that there are. -/
def Batches (batch messages n : Nat) : Prop := ∃ i, n = min (i * batch) messages

namespace Batches

variable {batch messages n : Nat}

theorem zero (batch messages : Nat) : Batches batch messages 0 := ⟨0, by simp⟩

theorem le (batches : Batches batch messages n) : n ≤ messages := by
  obtain ⟨i, rfl⟩ := batches
  exact Nat.min_le_right _ _

/-- The next batch is a whole one, or the rest. -/
theorem next (batches : Batches batch messages n) :
    Batches batch messages (n + min batch (messages - n)) := by
  obtain ⟨i, rfl⟩ := batches
  refine ⟨i + 1, ?_⟩
  rw [Nat.succ_mul]
  omega

/-- There is nothing between two numbers of batches that follow each other. -/
theorem next_le {n' : Nat} (batches : Batches batch messages n) (batches' : Batches batch messages n')
    (less : n < n') : n + min batch (messages - n) ≤ n' := by
  obtain ⟨i, rfl⟩ := batches
  obtain ⟨j, rfl⟩ := batches'
  have before : i < j := by
    by_contra behind
    have := Nat.mul_le_mul_right batch (Nat.le_of_not_lt behind)
    omega
  have next := Nat.mul_le_mul_right batch before
  rw [Nat.succ_mul] at next
  omega

/-- As long as something is left all batches were whole ones. -/
theorem exists_mul (batches : Batches batch messages n) (more : n < messages) :
    ∃ i, n = i * batch := by
  obtain ⟨i, same⟩ := batches
  exact ⟨i, by omega⟩

end Batches

/-! ## The queue at every moment -/

end Bench

namespace Queue

variable {t : ElementType}

/-- Up to where slots may have been written. -/
def front (q : Queue t) (v : RingView t) : Nat :=
  match q.flavor with
  | .synchronized => v.read + q.capacity
  | .unsynchronized => v.reserved

/-- Where a reader stands. -/
def place (q : Queue t) (v : RingView t) : Nat :=
  match q.cursor with
  | .shared _ => v.read
  | .own pos => pos.toNat

variable {q : Queue t} {v v' : RingView t}

theorem front_synchronized (flavor : q.flavor = .synchronized) :
    q.front v = v.read + q.capacity := by
  simp only [front, flavor]

theorem front_unsynchronized (flavor : q.flavor = .unsynchronized) : q.front v = v.reserved := by
  simp only [front, flavor]

theorem Sound.place_synchronized (sound : q.Sound) (flavor : q.flavor = .synchronized) :
    q.place v = v.read := by
  obtain ⟨g, -, cursor⟩ := sound.cursor_shared flavor
  simp only [place, cursor]

theorem Sound.toNat_readPos (sound : q.Sound) (m : Memory) :
    (q.readPos m).toNat = q.place (q.view m) := by
  cases flavor : q.flavor with
  | synchronized =>
    rw [sound.place_synchronized flavor, sound.readPos_eq flavor]
    rfl
  | unsynchronized =>
    obtain ⟨pos, cursor⟩ := sound.cursor_own flavor
    simp only [readPos, place, cursor, Cursor.load]

/-- A reader stays where it is as long as nobody moves the shared counter. -/
theorem place_congr (same : v'.read = v.read) : q.place v' = q.place v := by
  unfold place
  split <;> simp only [same]

end Queue

namespace Bench

/-- What is true of the queue at every moment. -/
structure Ring (wc : WriterConfig) (home : Queue quantum) (v : RingView quantum)
    (stream : List quantum.Value) : Prop where
  stream_eq : stream = samples 0 v.written
  batches : Batches wc.batch wc.messages v.written
  written_le_front : v.written ≤ home.front v
  /-- No more than the next batch is announced. -/
  front_le : home.flavor = .unsynchronized →
    home.front v ≤ v.written + WriterState.nextBatch wc v.written
  read_le : home.flavor = .synchronized → v.read ≤ v.written
  /-- The slots that nobody may write hold the end of the stream. -/
  intact : ∀ p < v.written, home.front v ≤ p + home.capacity → v.quantum p = sample p

/-- What a step of the writing program leaves to the reading one. -/
structure Fed (home : Queue quantum) (v v' : RingView quantum) : Prop where
  read_eq : v'.read = v.read
  written_le : v.written ≤ v'.written
  front_le : home.front v ≤ home.front v'

/-- What a step of the reading program leaves to the writing one. -/
structure Drained (home : Queue quantum) (v v' : RingView quantum) : Prop where
  written_eq : v'.written = v.written
  reserved_eq : v'.reserved = v.reserved
  quantum_eq : v'.quantum = v.quantum
  read_le : v.read ≤ v'.read
  within : home.flavor = .synchronized → v'.read ≤ v.written

theorem Fed.refl (home : Queue quantum) (v : RingView quantum) : Fed home v v :=
  ⟨rfl, Nat.le_refl _, Nat.le_refl _⟩

theorem Drained.of_eq (within : home.flavor = .synchronized → v.read ≤ v.written) (same : v' = v) :
    Drained home v v' := by
  subst same
  exact ⟨rfl, rfl, rfl, Nat.le_refl _, within⟩

theorem Drained.front_le (drained : Drained home v v') : home.front v ≤ home.front v' := by
  cases flavor : home.flavor with
  | synchronized =>
    rw [Queue.front_synchronized flavor, Queue.front_synchronized flavor]
    exact Nat.add_le_add_right drained.read_le _
  | unsynchronized =>
    rw [Queue.front_unsynchronized flavor, Queue.front_unsynchronized flavor]
    exact Nat.le_of_eq drained.reserved_eq.symm

theorem Ring.drained {stream : List quantum.Value} (ring : Ring wc home v stream)
    (drained : Drained home v v') : Ring wc home v' stream where
  stream_eq := by rw [drained.written_eq, ring.stream_eq]
  batches := by rw [drained.written_eq]; exact ring.batches
  written_le_front := by
    rw [drained.written_eq]
    exact Nat.le_trans ring.written_le_front drained.front_le
  front_le flavor := by
    have announced := ring.front_le flavor
    rw [Queue.front_unsynchronized flavor] at announced ⊢
    rwa [drained.reserved_eq, drained.written_eq]
  read_le flavor := by rw [drained.written_eq]; exact drained.within flavor
  intact p before free := by
    rw [drained.written_eq] at before
    rw [drained.quantum_eq]
    exact ring.intact p before (Nat.le_trans drained.front_le free)

/-- The queue is new. -/
theorem ring_begin {s s' : Store}
    (ok : Queue.create quantum wc.flavor wc.queue s = .ok (home, s')) :
    Ring wc home (home.view (home.memory s')) [] := by
  obtain ⟨written, read, reserved⟩ := Traffic.view_begin ok
  have written : (home.view (home.memory s')).written = 0 := written
  refine ⟨?_, ?_, ?_, fun flavor => ?_, fun _ => ?_, fun p before => ?_⟩
  · rw [written]
    rfl
  · rw [written]
    exact .zero _ _
  · rw [written]
    exact Nat.zero_le _
  · rw [Queue.front_unsynchronized flavor]
    exact Nat.le_trans (Nat.le_of_eq reserved) (Nat.zero_le _)
  · exact Nat.le_of_eq (read.trans written.symm)
  · rw [written] at before
    cases before

section Flag

variable {q : Queue quantum} {s : Store} {flag : FlagWord}

/-- Raising bits of the queue's own flag changes nothing that the ring consists
of. -/
theorem view_raiseWord (sound : q.Sound) (own : q.flagWord? = some flag)
    (mapped : q.region.memory < s.memories.size) (mask : UInt32) :
    q.view (q.memory (s.raiseWord flag mask)) = q.view (q.memory s) :=
  Queue.view_of_agree sound (Queue.agree_update (Queue.aside_own sound own) mapped fun _ => rfl)

theorem view_clearWord (sound : q.Sound) (own : q.flagWord? = some flag)
    (mapped : q.region.memory < s.memories.size) (mask : UInt32) :
    q.view (q.memory (s.clearWord flag mask)) = q.view (q.memory s) :=
  Queue.view_of_agree sound (Queue.agree_update (Queue.aside_own sound own) mapped fun _ => rfl)

end Flag

end Bench

end SharedQueue
