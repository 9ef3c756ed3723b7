/-
SharedQueue.Proofs.Bench.Runs — what every run of the two programs keeps, and
what either program can do by itself.

* `Pair.Holds`, `holds_reachable` — the queue and both programs are as they
  should be, whatever the order of the steps.
* `Pair.writes_batch`, `reads_batch` — while the other program rests, a write
  for which there is room comes to its end, and so does a read of what is there
  and cannot have been written over; in a synchronized queue nothing can
  (`reads_batch_of_synchronized`).
* `Pair.overruns` — a private reader that was overrun finds it out.
* `Pair.exists_joined` — the reading program can join the queue at once.

That a call comes to its end is shown by a count of the points that are left
(`WritePoint.left`, `ReadPoint.left`): from each of them the call goes on to a
later one.
-/
import SharedQueue.Proofs.Attaching
import SharedQueue.Proofs.Bench.Programs

namespace SharedQueue

/-! ## How much is left of a call -/

/-- The points that are left of a write that is not held up. -/
def WritePoint.left : WritePoint → Nat
  | .begin => 9
  | .judge _ => 8
  | .reserve _ => 7
  | .fill _ => 6
  | .publish _ => 5
  | .raiseOwn => 4
  | .signalOwn => 3
  | .raiseNotify => 2
  | .signalNotify => 1
  | _ => 0

/-- The points that are left of a read that is not held up. -/
def ReadPoint.left : ReadPoint → Nat
  | .begin => 10
  | .judge _ => 9
  | .take _ => 8
  | .confirm _ => 7
  | .verify .. => 6
  | .release _ => 5
  | .raiseOwn => 4
  | .signalOwn => 3
  | .raiseNotify => 2
  | .signalNotify => 1
  | _ => 0

namespace Bench

variable {wc : WriterConfig} {rc : ReaderConfig} {home : Queue quantum} {p p' : Pair}

namespace Pair

/-! ## The invariant -/

/-- The queue and both programs are as they should be. -/
structure Holds (wc : WriterConfig) (rc : ReaderConfig) (home : Queue quantum) (p : Pair) :
    Prop where
  ground : Ground wc home
  homed : Homed home p.host.store
  ring : Ring wc home (p.view home) p.stream
  writer : ∀ {state}, p.writer.state? = some state → state.Stands wc home (p.view home)
  written : ∀ {result}, p.writer.result? = some result → (p.view home).written = wc.messages
  reader : ∀ {state}, p.reader.state? = some state → state.Stands rc home (p.view home)
  ended : ∀ {result}, p.reader.result? = some result → Ended rc home (p.view home) result
  /-- The reading program waits for no other one. -/
  reads : p.reader.state?.isSome ∨ p.reader.result?.isSome

theorem holds_begin {host host' : Host} {now wake since : Instant}
    (launched : WriterState.launched wc now host = (host', .pause wake (.batch home 0))) :
    Holds wc rc home (begin home host' wake since) := by
  obtain ⟨created, -⟩ := launched_eq launched
  have regular := Traffic.regular_begin created
  obtain ⟨written, read, -⟩ := Traffic.view_begin created
  refine ⟨ground_of_create created, ⟨regular.mapped, regular.named⟩, ring_begin created, ?_, nofun,
    ?_, nofun, .inl rfl⟩
  · intro state next
    cases next
    exact ⟨rfl, written⟩
  · intro state next
    cases next
    exact fun _ => read

theorem Holds.stepWriter (holds : Holds wc rc home p) (accepted : Accepted wc rc)
    {state : WriterState} (ready : p.writer = .ready state) (now : Instant) :
    Holds wc rc home (p.stepWriter wc now state) := by
  have stands : state.Stands wc home (p.view home) := holds.writer (by rw [ready]; rfl)
  have sends := sends_step accepted holds.ground holds.homed holds.ring stands now
  refine ⟨holds.ground, sends.homed, sends.ring, ?_, ?_, ?_, ?_, holds.reads⟩
  · intro next rests
    exact sends.goes ((Party.state?_ofMove _).symm.trans rests)
  · intro result done
    obtain ⟨-, same, all⟩ := sends.ends (Party.result?_ofMove.mp done)
    exact (congrArg RingView.written same).trans all
  · exact fun rests => (holds.reader rests).fed sends.fed
  · exact fun done => (holds.ended done).fed sends.fed

theorem Holds.stepReader (holds : Holds wc rc home p) (accepted : Accepted wc rc)
    {state : ReaderState} (ready : p.reader = .ready state) (guided : state.Guided rc home p.host)
    (now : Instant) : Holds wc rc home (p.stepReader rc now state) := by
  have stands : state.Stands rc home (p.view home) := holds.reader (by rw [ready]; rfl)
  have takes := takes_step accepted holds.ground holds.homed holds.ring stands guided now
  refine ⟨holds.ground, takes.homed, holds.ring.drained takes.drained, ?_, ?_, ?_, ?_,
    Party.ofMove_goes _⟩
  · exact fun rests => (holds.writer rests).drained takes.drained
  · exact fun done => takes.drained.written_eq.trans (holds.written done)
  · intro next rests
    exact takes.goes ((Party.state?_ofMove _).symm.trans rests)
  · intro result done
    exact takes.ends (Party.result?_ofMove.mp done)

/-- Nothing that happens elsewhere matters. -/
theorem Holds.elsewhere (holds : Holds wc rc home p) {host : Host}
    (spares : p.host.Spares home host) : Holds wc rc home { p with host } := by
  have view : view { p with host } home = p.view home := congrArg home.view spares.memory
  refine ⟨holds.ground, holds.homed.spares spares, ?_, ?_, ?_, ?_, ?_, holds.reads⟩ <;> rw [view]
  · exact holds.ring
  · exact holds.writer
  · exact holds.written
  · exact holds.reader
  · exact holds.ended

theorem Holds.step (holds : Holds wc rc home p) (accepted : Accepted wc rc)
    (step : Step wc rc home p p') : Holds wc rc home p' := by
  cases step with
  | writer ready now => exact holds.stepWriter accepted ready now
  | reader ready now guided => exact holds.stepReader accepted ready guided now
  | rouseWriter rests =>
    exact ⟨holds.ground, holds.homed, holds.ring, fun next => holds.writer (rests.trans next),
      nofun, holds.reader, holds.ended, holds.reads⟩
  | rouseReader rests =>
    exact ⟨holds.ground, holds.homed, holds.ring, holds.writer, holds.written,
      fun next => holds.reader (rests.trans next), nofun, .inl rfl⟩
  | elsewhere spares => exact holds.elsewhere spares

/-- A step of a run leaves one of the two positions as it is, and nothing that
was published or read is taken back. -/
theorem Holds.moves (holds : Holds wc rc home p) (accepted : Accepted wc rc)
    (step : Step wc rc home p p') :
    Fed home (p.view home) (p'.view home) ∨ Drained home (p.view home) (p'.view home) := by
  cases step with
  | @writer state ready now =>
    have stands : state.Stands wc home (p.view home) := holds.writer (by rw [ready]; rfl)
    exact .inl (sends_step accepted holds.ground holds.homed holds.ring stands now).fed
  | @reader state ready now guided =>
    have stands : state.Stands rc home (p.view home) := holds.reader (by rw [ready]; rfl)
    exact .inr (takes_step accepted holds.ground holds.homed holds.ring stands guided now).drained
  | rouseWriter | rouseReader => exact .inl (.refl _ _)
  | @elsewhere host spares =>
    have same : view { p with host } home = p.view home := congrArg home.view spares.memory
    rw [same]
    exact .inl (.refl _ _)

theorem holds_reachable (accepted : Accepted wc rc) (reach : Reachable wc rc home p) :
    Holds wc rc home p := by
  induction reach with
  | start since launched => exact holds_begin launched
  | next before step ih => exact ih.step accepted step

/-! ## A batch that is written -/

section Writes

variable {call : WriteCall quantum} {written count : Nat} {v : RingView quantum} {s : Store}
  {stream : List quantum.Value}

/-- A write that is not held up: there is room for it, or none is needed, or it
has been let through. -/
def Roomy (home : Queue quantum) (v : RingView quantum) (written count : Nat) : WritePoint → Prop
  | .begin | .judge _ =>
    home.flavor = .synchronized → written + count ≤ v.read + home.capacity
  | .reserve _ | .fill _ | .publish _ | .raiseOwn | .signalOwn | .raiseNotify | .signalNotify
  | .done => True
  | .expire | .clear | .observe | .recount _ | .recheck .. | .park _ => False

/-- A write for which there is room is let through. -/
theorem checkWrite_of_room (ground : Ground wc home) {m : Memory}
    (ring : Ring wc home (home.view m) stream) {pos : UInt64}
    (same : (home.view m).written = written) (here : pos.toNat = written)
    (fits : count ≤ home.capacity)
    (room : home.flavor = .synchronized → written + count ≤ (home.view m).read + home.capacity) :
    home.flavor.checkWrite home.capacity pos (home.readPos m) count = .ok () := by
  unfold Flavor.checkWrite Flavor.checkCapacity
  rw [if_neg (Nat.not_lt.mpr fits)]
  cases flavor : home.flavor with
  | unsynchronized => rfl
  | synchronized =>
    have room := room flavor
    have read : (home.readPos m).toNat = (home.view m).read := by
      rw [ground.sound.toNat_readPos, ground.sound.place_synchronized flavor]
    have behind := ring.read_le flavor
    have enough : ¬ Flavor.availableToWrite home.capacity pos (home.readPos m) < count := by
      unfold Flavor.availableToWrite
      rw [distance_of_le (by omega), read, here]
      omega
    show (if _ then _ else _) = _
    rw [if_neg enough]

/-- Such a write goes on to a later point, or is done. -/
theorem write_goes_on (accepted : Accepted wc rc) (ground : Ground wc home)
    (batch : WritesBatch wc home call written)
    (ring : Ring wc home (home.view (home.memory s)) stream) {point : WritePoint}
    (writing : AtWrite home (home.view (home.memory s)) written (WriterState.nextBatch wc written)
      point)
    (roomy : Roomy home (home.view (home.memory s)) written (WriterState.nextBatch wc written)
      point) (now : Instant) :
    (call.step now s point).2 = .finish (.ok ()) ∨
      ∃ next, (call.step now s point).2.next? = some next ∧ next.left < point.left ∧
        ∀ v, v.read = (home.view (home.memory s)).read →
          Roomy home v written (WriterState.nextBatch wc written) next := by
  obtain ⟨wait, waits, own⟩ := batch.waiting
  have length := batch.length_eq
  have fits := nextBatch_le written accepted ground
  obtain rfl : call.queue = home := batch.queue_eq
  have after : call.afterOwn = .raiseNotify := by rw [WriteCall.afterOwn, waits]
  cases point with
  | begin =>
    refine .inr ⟨.judge _, rfl, Nat.le_of_ble_eq_true rfl, fun v read => ?_⟩
    show _ → written + _ ≤ v.read + _
    rw [read]
    exact roomy
  | judge pos =>
    obtain ⟨same, here⟩ := writing
    have ok := checkWrite_of_room ground ring same here fits roomy
    unfold WriteCall.step
    dsimp only
    rw [length, ok]
    dsimp only
    right
    split
    · exact ⟨.reserve pos, rfl, Nat.le_of_ble_eq_true rfl, fun _ _ => trivial⟩
    · exact ⟨.fill pos, rfl, Nat.le_of_ble_eq_true rfl, fun _ _ => trivial⟩
  | reserve pos => exact .inr ⟨.fill pos, rfl, Nat.le_of_ble_eq_true rfl, fun _ _ => trivial⟩
  | fill pos => exact .inr ⟨.publish pos, rfl, Nat.le_of_ble_eq_true rfl, fun _ _ => trivial⟩
  | publish pos =>
    refine .inr ⟨.raiseOwn, ?_, Nat.le_of_ble_eq_true rfl, fun _ _ => trivial⟩
    unfold WriteCall.step
    dsimp only
    rw [own]
    rfl
  | raiseOwn =>
    unfold WriteCall.step
    dsimp only
    rw [own, after]
    dsimp only
    right
    split
    · exact ⟨.signalOwn, rfl, Nat.le_of_ble_eq_true rfl, fun _ _ => trivial⟩
    · exact ⟨.raiseNotify, rfl, Nat.le_of_ble_eq_true rfl, fun _ _ => trivial⟩
  | signalOwn =>
    refine .inr ⟨.raiseNotify, ?_, Nat.le_of_ble_eq_true rfl, fun _ _ => trivial⟩
    unfold WriteCall.step
    dsimp only
    rw [own, after]
    rfl
  | raiseNotify =>
    unfold WriteCall.step
    dsimp only
    rw [waits]
    dsimp only
    right
    split
    · exact ⟨.signalNotify, rfl, Nat.le_of_ble_eq_true rfl, fun _ _ => trivial⟩
    · exact ⟨.done, rfl, Nat.le_of_ble_eq_true rfl, fun _ _ => trivial⟩
  | signalNotify =>
    refine .inr ⟨.done, ?_, Nat.le_of_ble_eq_true rfl, fun _ _ => trivial⟩
    unfold WriteCall.step
    dsimp only
    rw [waits]
    rfl
  | done => exact .inl rfl
  | expire | clear | observe | recount | recheck | park => exact roomy.elim

/-- A write that is not held up comes to its end. -/
theorem writes_on (accepted : Accepted wc rc) {p : Pair} (reach : Reachable wc rc home p)
    {point : WritePoint}
    (rests : p.writer.state? = some (.writing call written point))
    (roomy : Roomy home (p.view home) written (WriterState.nextBatch wc written) point) :
    ∃ p', Reachable wc rc home p' ∧
      p'.writer.state? = some (.batch home (written + WriterState.nextBatch wc written)) ∧
      p'.reader = p.reader ∧ (p'.view home).read = (p.view home).read := by
  have holds := holds_reachable accepted reach
  have stands := holds.writer rests
  have batch : WritesBatch wc home call written := stands.1
  -- the program is woken, if need be, and takes one step
  have reach' := (reach.next (.rouseWriter rests)).next (.writer rfl 0)
  have sends := sends_step accepted holds.ground holds.homed holds.ring stands 0
  have moved : ((WriterState.writing call written point).step wc false 0 p.host).2 =
      ((call.step 0 p.host.store point).2.within
        { p.host with store := (call.step 0 p.host.store point).1 } (.writing call written)
        (WriterState.writeDone { p.host with store := (call.step 0 p.host.store point).1 }
          call.queue written call.data.length)).2 := rfl
  rcases write_goes_on accepted holds.ground batch holds.ring stands.2 roomy 0 with
    finish | ⟨next, goes, less, later⟩
  · refine ⟨_, reach', ?_, rfl, sends.fed.read_eq⟩
    refine (Party.state?_ofMove _).trans ?_
    rw [moved, finish, batch.queue_eq, batch.length_eq]
    rfl
  · have rests' := (congrArg Move.next? moved).trans (Move.next?_within_eq goes)
    obtain ⟨p', reached, done, reader, read⟩ := writes_on accepted reach'
      ((Party.state?_ofMove _).trans rests') (later _ sends.fed.read_eq)
    exact ⟨p', reached, done, reader, read.trans sends.fed.read_eq⟩
termination_by point.left

/-- The next batch is written if there is room for it, or none is needed. -/
theorem writes_batch (accepted : Accepted wc rc) {p : Pair} (reach : Reachable wc rc home p)
    (rests : p.writer.state? = some (.batch home written)) (more : written < wc.messages)
    (room : home.flavor = .synchronized →
      written + WriterState.nextBatch wc written ≤ (p.view home).read + home.capacity) :
    ∃ p', Reachable wc rc home p' ∧
      p'.writer.state? = some (.batch home (written + WriterState.nextBatch wc written)) ∧
      p'.reader = p.reader ∧ (p'.view home).read = (p.view home).read := by
  have holds := holds_reachable accepted reach
  obtain ⟨word, own⟩ := holds.ground.flag accepted.eventFlag
  have reach' := (reach.next (.rouseWriter rests)).next (.writer rfl 0)
  unfold stepWriter WriterState.step at reach'
  dsimp only at reach'
  rw [nextWrite_eq accepted own more] at reach'
  obtain ⟨p', reached, done, reader, read⟩ := writes_on accepted reach' rfl room
  exact ⟨p', reached, done, reader, read⟩

end Writes

/-! ## A batch that is read -/

section Reads

variable {call : ReadCall} {tally : Tally} {st : ReadState quantum} {q : Queue quantum} {s : Store}
  {v : RingView quantum} {stream : List quantum.Value}

/-- A read that is not held up: what it asks for is there and has not been
written over, or it has been let through. -/
def Plenty (home : Queue quantum) (v : RingView quantum) (st : ReadState quantum) :
    ReadPoint → Prop
  | .begin => home.front v ≤ st.queue.place v + home.capacity ∧
    st.queue.place v + st.buffer.length ≤ v.written
  | .judge writePos => home.front v ≤ st.queue.place v + home.capacity ∧
    st.queue.place v + st.buffer.length ≤ writePos.toNat
  | .take _ | .confirm _ | .verify .. => home.front v ≤ st.queue.place v + home.capacity
  | .release _ | .raiseOwn | .signalOwn | .raiseNotify | .signalNotify | .done => True
  | .expire | .clear | .observe | .recount _ | .recheck .. | .park _ => False

/-- A read of what is there is let through, unless the reader was overrun. -/
theorem checkRead_of_enough {flavor : Flavor} {capacity count : Nat} {writePos cursor : UInt64}
    (fits : count ≤ capacity) (enough : cursor.toNat + count ≤ writePos.toNat)
    (near : flavor = .unsynchronized → writePos.toNat ≤ cursor.toNat + capacity) :
    flavor.checkRead capacity writePos cursor count = ⟨.ok cursor, cursor⟩ := by
  have available : Flavor.availableToRead writePos cursor = writePos.toNat - cursor.toNat :=
    distance_of_le (by omega)
  have kept : ¬ (flavor = .unsynchronized ∧ capacity < writePos.toNat - cursor.toNat) := by
    rintro ⟨own, far⟩
    have near := near own
    omega
  have ready : ¬ writePos.toNat - cursor.toNat < count := by omega
  unfold Flavor.checkRead
  dsimp only
  rw [available, if_neg (Nat.not_lt.mpr fits), if_neg kept, if_neg ready]

/-- A reader that was overrun is sent to the write position. -/
theorem checkRead_of_overrun {capacity count : Nat} {writePos cursor : UInt64}
    (fits : count ≤ capacity) (far : cursor.toNat + capacity < writePos.toNat) :
    ∃ lag, Flavor.checkRead .unsynchronized capacity writePos cursor count =
      ⟨.error (.overflow lag writePos), writePos⟩ := by
  have available : Flavor.availableToRead writePos cursor = writePos.toNat - cursor.toNat :=
    distance_of_le (by omega)
  have lost : capacity < writePos.toNat - cursor.toNat := by omega
  unfold Flavor.checkRead
  dsimp only
  rw [available, if_neg (Nat.not_lt.mpr fits), if_pos ⟨rfl, lost⟩]
  exact ⟨_, rfl⟩

/-- A copy of what has not been written over is let through. -/
theorem checkCommit_of_near (kin : Kin home q) {m : Memory} {pos writePos : UInt64}
    (here : pos.toNat = q.place (home.view m)) (low : q.place (home.view m) ≤ writePos.toNat)
    (high : writePos.toNat ≤ home.front (home.view m))
    (near : home.front (home.view m) ≤ q.place (home.view m) + home.capacity) :
    q.flavor.checkCommit q.capacity writePos (q.reserved m writePos) pos (q.readPos m) =
      ⟨.ok (), q.readPos m⟩ := by
  cases flavor : q.flavor with
  | synchronized => rfl
  | unsynchronized =>
    have reserved := toNat_reserved kin.sound flavor m writePos
    rw [kin.view] at reserved
    rw [Queue.front_unsynchronized (kin.flavor ▸ flavor)] at near high
    have kept : ¬ q.capacity < distance (max (q.reserved m writePos) writePos) pos := by
      rw [distance_of_le (by omega), reserved, here, kin.capacity]
      omega
    dsimp only [Flavor.checkCommit]
    rw [if_neg kept]

/-- Such a read goes on to a later point, or is done. -/
theorem read_goes_on (batch : ReadsBatch rc home call tally st)
    (ring : Ring wc home (home.view (home.memory s)) stream)
    (reading : AtRead rc home (home.view (home.memory s)) tally st st.point)
    (plenty : Plenty home (home.view (home.memory s)) st st.point) (now : Instant) :
    (call.step now s st).2 = .finish ⟨.ok (), st.queue, st.buffer⟩ ∨
      ∃ next, (call.step now s st).2.next? = some next ∧ next.point.left < st.point.left ∧
        Plenty home (home.view (home.memory (call.step now s st).1)) next next.point := by
  obtain ⟨wait, waits, own⟩ := batch.waiting
  have published := ring.written_le_front
  obtain ⟨q, buffer, point⟩ := st
  have kin : Kin home q := batch.kin
  have here := toNat_readPos kin s
  have word : q.flagWord? = some wait.flag := kin.flagWord?.trans own
  have after : call.afterOwn = .raiseNotify := by rw [ReadCall.afterOwn, waits]
  cases point with
  | begin =>
    obtain ⟨near, enough⟩ := plenty
    refine .inr ⟨⟨q, buffer, .judge _⟩, rfl, Nat.le_of_ble_eq_true rfl, near, ?_⟩
    show _ ≤ (q.writePos (q.memory s)).toNat
    exact Nat.le_trans enough (Nat.le_of_eq (toNat_writePos kin s).symm)
  | judge writePos =>
    obtain ⟨near, enough⟩ := plenty
    obtain ⟨counts, -, high⟩ := reading
    have fits : buffer.length ≤ home.capacity := nextBatch_le_capacity batch counts
    have there : (q.readPos (q.memory s)).toNat + buffer.length ≤ writePos.toNat := by
      rw [here]
      exact enough
    have whole : writePos.toNat ≤ (q.readPos (q.memory s)).toNat + q.capacity := by
      rw [here, kin.capacity]
      exact Nat.le_trans high (Nat.le_trans published near)
    have ok : q.flavor.checkRead q.capacity writePos (q.readPos (q.memory s)) buffer.length =
        ⟨.ok (q.readPos (q.memory s)), q.readPos (q.memory s)⟩ :=
      checkRead_of_enough (kin.capacity ▸ fits) there fun _ => whole
    have goes : call.step now s ⟨q, buffer, .judge writePos⟩ =
        (s, .go ⟨q, buffer, .take (q.readPos (q.memory s))⟩) := by
      unfold ReadCall.step
      dsimp only
      rw [ok]
      dsimp only
      rw [ReadState.follow, Queue.follow_readPos]
      rfl
    rw [goes]
    exact .inr ⟨_, rfl, Nat.le_of_ble_eq_true rfl, near⟩
  | take pos => exact .inr ⟨_, rfl, Nat.le_of_ble_eq_true rfl, plenty⟩
  | confirm pos => exact .inr ⟨_, rfl, Nat.le_of_ble_eq_true rfl, plenty⟩
  | verify pos writePos =>
    obtain ⟨ahead, -, low, high⟩ := reading
    have ok := checkCommit_of_near kin ahead.pos_eq low (Nat.le_trans high published) plenty
    refine .inr ⟨⟨q, buffer, .release pos⟩, ?_, Nat.le_of_ble_eq_true rfl, trivial⟩
    unfold ReadCall.step
    dsimp only
    rw [kin.memory, ok]
    dsimp only
    rw [ReadState.follow, Queue.follow_readPos]
    rfl
  | release pos =>
    refine .inr ⟨⟨(q.release (q.memory s) (pos + UInt64.ofNat buffer.length)).1, buffer, .raiseOwn⟩,
      ?_, Nat.le_of_ble_eq_true rfl, trivial⟩
    unfold ReadCall.step
    dsimp only
    rw [word]
    rfl
  | raiseOwn =>
    unfold ReadCall.step
    dsimp only
    rw [word, after]
    dsimp only
    right
    split
    · exact ⟨⟨q, buffer, .signalOwn⟩, rfl, Nat.le_of_ble_eq_true rfl, trivial⟩
    · exact ⟨⟨q, buffer, .raiseNotify⟩, rfl, Nat.le_of_ble_eq_true rfl, trivial⟩
  | signalOwn =>
    refine .inr ⟨⟨q, buffer, .raiseNotify⟩, ?_, Nat.le_of_ble_eq_true rfl, trivial⟩
    unfold ReadCall.step
    dsimp only
    rw [word, after]
    rfl
  | raiseNotify =>
    unfold ReadCall.step
    dsimp only
    rw [waits]
    dsimp only
    right
    split
    · exact ⟨⟨q, buffer, .signalNotify⟩, rfl, Nat.le_of_ble_eq_true rfl, trivial⟩
    · exact ⟨⟨q, buffer, .done⟩, rfl, Nat.le_of_ble_eq_true rfl, trivial⟩
  | signalNotify =>
    refine .inr ⟨⟨q, buffer, .done⟩, ?_, Nat.le_of_ble_eq_true rfl, trivial⟩
    unfold ReadCall.step
    dsimp only
    rw [waits]
    rfl
  | done => exact .inl rfl
  | expire | clear | observe | recount | recheck | park => exact plenty.elim

/-- A read that is not held up comes to its end. -/
theorem reads_on (accepted : Accepted wc rc) {p : Pair} (reach : Reachable wc rc home p)
    {st : ReadState quantum} (rests : p.reader.state? = some (.reading call tally st))
    (plenty : Plenty home (p.view home) st st.point) :
    ∃ p' q' tally', Reachable wc rc home p' ∧ p'.reader.state? = some (.batch q' tally') ∧
      tally'.received = tally.received + ReaderState.nextBatch rc tally.received ∧
      tally'.overflows = tally.overflows ∧ p'.writer = p.writer ∧
      (p'.view home).written = (p.view home).written := by
  have holds := holds_reachable accepted reach
  have stands := holds.reader rests
  have batch : ReadsBatch rc home call tally st := stands.1
  have guided : (ReaderState.reading call tally st).Guided rc home p.host := nofun
  have reach' := (reach.next (.rouseReader rests)).next (.reader rfl 0 guided)
  have takes := takes_step accepted holds.ground holds.homed holds.ring stands guided 0
  have moved : ((ReaderState.reading call tally st).step rc 0 p.host).2 =
      ((call.step 0 p.host.store st).2.within
        { p.host with store := (call.step 0 p.host.store st).1 } (.reading call tally)
        (ReaderState.readDone { p.host with store := (call.step 0 p.host.store st).1 } tally)).2 :=
    rfl
  rcases read_goes_on batch holds.ring stands.2 plenty 0 with finish | ⟨next, goes, less, later⟩
  · refine ⟨_, st.queue, tally.countAll st.buffer, reach', ?_, ?_, tally.overflows_countAll _, rfl,
      takes.drained.written_eq⟩
    · refine (Party.state?_ofMove _).trans ?_
      rw [moved, finish]
      rfl
    · rw [Tally.received_countAll, batch.length_eq]
  · have rests' := (congrArg Move.next? moved).trans (Move.next?_within_eq goes)
    have world : ((ReaderState.reading call tally st).step rc 0 p.host).1.store
        = (call.step 0 p.host.store st).1 := by
      unfold ReaderState.step
      dsimp only
      rw [Move.world_within]
      intro r finish
      rw [finish] at goes
      cases goes
    rw [← world] at later
    obtain ⟨p', q', tally', reached, done, received, lost, writer, written⟩ :=
      reads_on accepted reach' ((Party.state?_ofMove _).trans rests') later
    exact ⟨p', q', tally', reached, done, received, lost, writer,
      written.trans takes.drained.written_eq⟩
termination_by st.point.left

/-- The program begins the next batch. -/
theorem begins_reading (accepted : Accepted wc rc) {p : Pair} (reach : Reachable wc rc home p)
    (rests : p.reader.state? = some (.batch q tally)) (more : tally.received < rc.messages) :
    ∃ p' call, Reachable wc rc home p' ∧
      p'.reader = .ready (.reading call tally
        ⟨q, List.replicate (ReaderState.nextBatch rc tally.received) (sample 0), .begin⟩) ∧
      p'.writer = p.writer ∧ p'.host = p.host := by
  have counts : Counts rc home (p.view home) q tally :=
    (holds_reachable accepted reach).reader rests
  obtain ⟨word, own⟩ := (holds_reachable accepted reach).ground.flag accepted.eventFlag
  have reach' := (reach.next (.rouseReader rests)).next (.reader rfl 0 nofun)
  unfold stepReader ReaderState.step at reach'
  dsimp only at reach'
  rw [nextRead_eq accepted (counts.kin.flagWord?.trans own) more] at reach'
  exact ⟨_, _, reach', rfl, rfl, rfl⟩

/-- The next batch is read if it is there and has not been written over. -/
theorem reads_batch (accepted : Accepted wc rc) {p : Pair} (reach : Reachable wc rc home p)
    (rests : p.reader.state? = some (.batch q tally)) (more : tally.received < rc.messages)
    (near : home.front (p.view home) ≤ q.place (p.view home) + home.capacity)
    (enough : q.place (p.view home) + ReaderState.nextBatch rc tally.received
      ≤ (p.view home).written) :
    ∃ p' q' tally', Reachable wc rc home p' ∧ p'.reader.state? = some (.batch q' tally') ∧
      tally'.received = tally.received + ReaderState.nextBatch rc tally.received ∧
      tally'.overflows = tally.overflows ∧ p'.writer = p.writer ∧
      (p'.view home).written = (p.view home).written := by
  obtain ⟨p', call, reach', reader, writer, host⟩ := begins_reading accepted reach rests more
  have same : p'.view home = p.view home := by rw [view, host, view]
  have plenty : Plenty home (p'.view home)
      ⟨q, List.replicate (ReaderState.nextBatch rc tally.received) (sample 0), .begin⟩ .begin := by
    rw [same]
    exact ⟨near, by rwa [List.length_replicate]⟩
  rw [← writer, ← same]
  exact reads_on accepted reach' (by rw [reader]; rfl) plenty

/-- In a synchronized queue the next batch is read if it is there. -/
theorem reads_batch_of_synchronized (accepted : Accepted wc rc)
    (flavor : home.flavor = .synchronized) {p : Pair} (reach : Reachable wc rc home p)
    (rests : p.reader.state? = some (.batch q tally)) (more : tally.received < rc.messages)
    (enough : tally.received + ReaderState.nextBatch rc tally.received ≤ (p.view home).written) :
    ∃ p' q' tally', Reachable wc rc home p' ∧ p'.reader.state? = some (.batch q' tally') ∧
      tally'.received = tally.received + ReaderState.nextBatch rc tally.received ∧
      tally'.overflows = tally.overflows ∧ p'.writer = p.writer ∧
      (p'.view home).written = (p.view home).written := by
  have counts : Counts rc home (p.view home) q tally :=
    (holds_reachable accepted reach).reader rests
  refine reads_batch accepted reach rests more (Nat.le_of_eq (counts.kin.front_eq flavor _)) ?_
  rw [← counts.whole flavor]
  exact enough

/-- The decision at which an overrun is found out. -/
theorem step_overrun (flavor : q.flavor = .unsynchronized) {host : Host}
    {buffer : List quantum.Value} {writePos : UInt64} (fits : buffer.length ≤ q.capacity)
    (far : (q.readPos (q.memory host.store)).toNat + q.capacity < writePos.toNat) (now : Instant) :
    (ReaderState.reading call tally ⟨q, buffer, .judge writePos⟩).step rc now host =
      (host, .go (.batch (q.follow writePos) tally.overrun)) := by
  obtain ⟨lag, lost⟩ := checkRead_of_overrun fits far
  have ends : call.step now host.store ⟨q, buffer, .judge writePos⟩ = (host.store,
      .finish ⟨.error (.overflow lag writePos), q.follow writePos, buffer⟩) := by
    unfold ReadCall.step
    dsimp only
    rw [flavor, lost]
    dsimp only [ReadCall.refuse]
    cases call.waiting <;> rfl
  unfold ReaderState.step
  dsimp only
  rw [ends]
  rfl

/-- A private reader that was overrun finds it out with its next batch, and goes
on with what will be written next. -/
theorem overruns (accepted : Accepted wc rc) (flavor : home.flavor = .unsynchronized) {p : Pair}
    (reach : Reachable wc rc home p) (rests : p.reader.state? = some (.batch q tally))
    (more : tally.received < rc.messages)
    (far : q.place (p.view home) + home.capacity < (p.view home).written) :
    ∃ p' q', Reachable wc rc home p' ∧ p'.reader.state? = some (.batch q' tally.overrun) ∧
      q'.place (p'.view home) = (p.view home).written ∧ p'.writer = p.writer ∧
      p'.view home = p.view home := by
  have counts : Counts rc home (p.view home) q tally :=
    (holds_reachable accepted reach).reader rests
  obtain ⟨p', call, reach', reader, writer, host⟩ := begins_reading accepted reach rests more
  have kin := counts.kin
  have same : p'.view home = p.view home := by rw [view, host, view]
  have written := toNat_writePos kin p'.host.store
  have fits : (List.replicate (ReaderState.nextBatch rc tally.received) (sample 0)).length
      ≤ q.capacity := by
    rw [List.length_replicate, kin.capacity]
    exact Nat.le_trans (Nat.min_le_left _ _) counts.fits
  have lost : (q.readPos (q.memory p'.host.store)).toNat + q.capacity
      < (q.writePos (q.memory p'.host.store)).toNat := by
    rw [toNat_readPos kin, written, kin.capacity]
    show q.place (p'.view home) + home.capacity < (p'.view home).written
    rw [same]
    exact far
  -- the write position is loaded, and then the program decides
  have loaded : Reachable wc rc home { p' with reader := .ready (.reading call tally ⟨q,
      List.replicate (ReaderState.nextBatch rc tally.received) (sample 0),
      .judge (q.writePos (q.memory p'.host.store))⟩) } :=
    reach'.next (.reader reader 0 nofun)
  have decided := loaded.next (.reader rfl 0 nofun)
  unfold stepReader at decided
  dsimp only at decided
  rw [step_overrun (kin.flavor.trans flavor) fits lost] at decided
  refine ⟨_, _, decided, rfl, ?_, writer, same⟩
  rw [kin.place_follow flavor, written, ← same]
  rfl

end Reads

/-! ## Joining -/

/-- A queue that was just created can be joined. -/
theorem exists_attach {s s' : Store} {c : QueueConfig} {flavor : Flavor}
    (created : Queue.create quantum flavor c s = .ok (home, s')) :
    ∃ q, Queue.attach quantum flavor home.descriptor s' = .ok q := by
  obtain ⟨layout, -, made, -⟩ := Queue.create_eq_ok created
  obtain ⟨memory, size, -, -, -, names⟩ := Store.create_eq_ok made
  obtain ⟨-, valid, -⟩ := Store.create_name made
  have there : s'.lookup? home.region.name = some home.region.memory := by
    unfold Store.lookup?
    rw [names, memory]
    exact List.lookup_cons_self
  have room : (s'.memory home.region.memory).size = home.region.size := by
    rw [(Store.memory_create made).1, size]
    rfl
  have hosts := (Queue.joinable_of_create created).hosts (Queue.sound_of_create created)
    (Store.openNamed_of_lookup valid there) rfl room
  obtain ⟨q, attached, -⟩ := hosts.joined quantum rfl
  exact ⟨q, Queue.flavor_of_create created ▸ attached⟩

/-- The reading program can join the queue before anything is written. -/
theorem exists_joined (accepted : Accepted wc rc)
    (fits : rc.batch ≤ wc.queue.quantumCount) (path : rc.descriptorPath = wc.descriptorPath)
    {host host' : Host} {now wake : Instant}
    (launched : WriterState.launched wc now host = (host', .pause wake (.batch home 0))) :
    ∃ p q, Reachable wc rc home p ∧ p.writer.state? = some (.batch home 0) ∧
      p.reader.state? = some (.batch q (.start rc.flavor)) := by
  obtain ⟨created, saved⟩ := launched_eq launched
  obtain ⟨q, attached⟩ := exists_attach created
  have ground := ground_of_create created
  have loaded : Descriptor.load host'.files rc.descriptorPath = .ok home.descriptor := by
    rw [path]
    exact Descriptor.load_save saved
  have seeks : ReaderState.step rc 0 host' (.seek 0) = (host', .go (.join home.descriptor)) := by
    unfold ReaderState.step ReaderState.seeking
    dsimp only
    rw [loaded]
  have joins : ReaderState.step rc 0 host' (.join home.descriptor) =
      (host', .go (.batch q (.start rc.flavor))) := by
    have roomy : ¬ q.capacity < rc.batch := by
      obtain ⟨-, -, -, -, -, descriptor, -⟩ := Queue.attach_eq_ok attached
      have capacity : q.capacity = home.capacity := congrArg Descriptor.quantumCount descriptor
      rw [capacity, ground.capacity]
      exact Nat.not_lt.mpr fits
    unfold ReaderState.step ReaderState.joining
    dsimp only
    rw [accepted.flavor, attached]
    dsimp only
    rw [if_neg roomy]
  have guided : (ReaderState.seek 0).Guided rc home host' := by
    intro since d _ found
    exact Except.ok.inj (found.symm.trans loaded)
  have start : Reachable wc rc home (begin home host' wake 0) := .start 0 launched
  have sought := start.next (.reader rfl 0 guided)
  unfold stepReader at sought
  rw [show (begin home host' wake 0).host = host' from rfl, seeks] at sought
  have joined := sought.next (.reader rfl 0 nofun)
  unfold stepReader at joined
  dsimp only at joined
  rw [joins] at joined
  exact ⟨_, q, joined, rfl, rfl⟩

end Pair

end Bench

end SharedQueue
