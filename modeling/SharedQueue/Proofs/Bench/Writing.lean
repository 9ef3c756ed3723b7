/-
SharedQueue.Proofs.Bench.Writing — the writing program, step by step.

* `WritesBatch` — the call that the program makes for the batch behind
  `written` quanta.
* `AtWrite` — what is known at each point of such a call.
* `Leads`, `leads_step` — what one step of the call does to the queue, and that
  the next point is known in the same way.

A batch is announced before its slots are filled, and published after. The
fill hits no slot of the end of the stream, since what it hits lies before the
front (`intact_fill`).
-/
import SharedQueue.Proofs.Bench.Pair

namespace SharedQueue.Bench

variable {wc : WriterConfig} {rc : ReaderConfig} {home : Queue quantum} {s : Store}
  {v v' : RingView quantum} {stream : List quantum.Value} {call : WriteCall quantum}
  {written count : Nat}

/-! ## One batch -/

/-- The call for the batch behind `written` quanta. -/
structure WritesBatch (wc : WriterConfig) (home : Queue quantum) (call : WriteCall quantum)
    (written : Nat) : Prop where
  queue_eq : call.queue = home
  data_eq : call.data = samples written (WriterState.nextBatch wc written)
  waiting : ∃ wait, call.waiting = some wait ∧ home.flagWord? = some wait.flag
  more : written < wc.messages

/-- What is known at a point of writing the `count` quanta behind `written`. -/
def AtWrite (home : Queue quantum) (v : RingView quantum) (written count : Nat) :
    WritePoint → Prop
  | .judge pos => v.written = written ∧ pos.toNat = written
  | .reserve pos => v.written = written ∧ pos.toNat = written ∧ home.flavor = .unsynchronized
  | .fill pos => v.written = written ∧ pos.toNat = written ∧ written + count ≤ home.front v
  | .publish pos => v.written = written ∧ pos.toNat = written ∧ written + count ≤ home.front v ∧
    v.stretch written count = samples written count
  | .raiseOwn | .signalOwn | .raiseNotify | .signalNotify | .done => v.written = written + count
  | .begin | .expire | .clear | .observe | .recount _ | .recheck .. | .park _ =>
    v.written = written

/-- What a step of the call leads to. -/
structure Leads (wc : WriterConfig) (home : Queue quantum) (written count : Nat)
    (v v' : RingView quantum) (stream : List quantum.Value) (move : WriteCall.Next) : Prop where
  ring : Ring wc home v' stream
  fed : Fed home v v'
  goes : ∀ {p}, move.next? = some p → AtWrite home v' written count p
  ends : ∀ {answer}, move = .finish answer →
    answer = .ok () ∧ v'.written = written + count ∨
      answer = .error .timeout ∧ v'.written = written

theorem AtWrite.drained {p : WritePoint} (writing : AtWrite home v written count p)
    (drained : Drained home v v') : AtWrite home v' written count p := by
  have stretch : v'.stretch written count = v.stretch written count := by
    simp only [RingView.stretch, drained.quantum_eq]
  have front := drained.front_le
  cases p <;> simp only [AtWrite, drained.written_eq, stretch] at writing ⊢
  case fill => exact ⟨writing.1, writing.2.1, Nat.le_trans writing.2.2 front⟩
  case publish =>
    obtain ⟨same, pos, room, filled⟩ := writing
    exact ⟨same, pos, Nat.le_trans room front, filled⟩
  all_goals exact writing

/-- Nothing in view has changed. -/
theorem leads_of_still {move : WriteCall.Next} (ring : Ring wc home v stream) (same : v' = v)
    (goes : ∀ {p}, move.next? = some p → AtWrite home v written count p)
    (ends : ∀ {answer}, move = .finish answer →
      answer = .ok () ∧ v.written = written + count ∨
        answer = .error .timeout ∧ v.written = written) :
    Leads wc home written count v v' stream move := by
  subst same
  exact ⟨ring, .refl _ _, goes, ends⟩

/-- Nothing in view has changed, and the call goes on. -/
theorem leads_of_go {move : WriteCall.Next} {p : WritePoint} (ring : Ring wc home v stream)
    (same : v' = v) (next : move.next? = some p) (writing : AtWrite home v written count p) :
    Leads wc home written count v v' stream move := by
  refine leads_of_still ring same (fun next' => ?_) (fun finish => ?_)
  · cases next.symm.trans next'
    exact writing
  · rw [finish] at next
    cases next

/-! ## The points of a call -/

theorem nextBatch_pos (accepted : Accepted wc rc) (more : written < wc.messages) :
    0 < WriterState.nextBatch wc written := by
  have pos := accepted.batch_pos
  unfold WriterState.nextBatch
  omega

theorem written_add_le (more : written < wc.messages) :
    written + WriterState.nextBatch wc written ≤ wc.messages := by
  unfold WriterState.nextBatch
  omega

theorem nextBatch_le (written : Nat) (accepted : Accepted wc rc) (ground : Ground wc home) :
    WriterState.nextBatch wc written ≤ home.capacity := by
  have fits := accepted.batch_le
  rw [ground.capacity]
  unfold WriterState.nextBatch
  omega

theorem WritesBatch.length_eq (batch : WritesBatch wc home call written) :
    call.data.length = WriterState.nextBatch wc written := by
  rw [batch.data_eq, length_samples]

/-- Positions do not reach the end of the words. -/
theorem WritesBatch.toNat_stop (batch : WritesBatch wc home call written)
    (accepted : Accepted wc rc) {pos : UInt64} (here : pos.toNat = written) :
    (call.stop pos).toNat = written + WriterState.nextBatch wc written := by
  have below := Nat.lt_of_le_of_lt (written_add_le batch.more) accepted.messages
  rw [← batch.length_eq] at below ⊢
  rw [← here] at below ⊢
  have stop : (Transaction.mk pos call.data.length).stop.toNat = pos.toNat + call.data.length :=
    Transaction.toNat_stop below
  exact stop

/-- A write that may go ahead stays behind the front. -/
theorem le_front_of_checkWrite (ground : Ground wc home) {m : Memory} {pos : UInt64}
    (ring : Ring wc home (home.view m) stream) (flavor : home.flavor = .synchronized)
    (same : (home.view m).written = written) (here : pos.toNat = written)
    (ok : home.flavor.checkWrite home.capacity pos (home.readPos m) count = .ok ()) :
    written + count ≤ home.front (home.view m) := by
  have read : (home.readPos m).toNat = (home.view m).read := by
    rw [ground.sound.toNat_readPos, ground.sound.place_synchronized flavor]
  have behind := ring.read_le flavor
  have near := ring.written_le_front
  have room := (Queue.checkWrite_eq_ok ok).2 flavor
  unfold Flavor.availableToWrite at room
  rw [distance_of_le (by omega), read, here] at room
  rw [Queue.front_synchronized flavor] at near ⊢
  omega

theorem leads_judge (accepted : Accepted wc rc) (ground : Ground wc home)
    (batch : WritesBatch wc home call written)
    (ring : Ring wc home (home.view (home.memory s)) stream) {pos : UInt64}
    (point : AtWrite home (home.view (home.memory s)) written (WriterState.nextBatch wc written)
      (.judge pos)) (now : Instant) :
    Leads wc home written (WriterState.nextBatch wc written) (home.view (home.memory s))
      (home.view (home.memory (call.step now s (.judge pos)).1)) stream
      (call.step now s (.judge pos)).2 := by
  obtain ⟨same, here⟩ := point
  obtain ⟨wait, waits, -⟩ := batch.waiting
  obtain ⟨queue, data, waiting⟩ := call
  have length := batch.length_eq
  obtain rfl : queue = home := batch.queue_eq
  unfold WriteCall.step
  dsimp only at length waits ⊢
  rw [length]
  split
  · rename_i e refused
    have retry := (checkWrite_error refused).2 (nextBatch_le _ accepted ground)
    refine leads_of_go (p := .expire) ring rfl ?_ same
    simp only [WriteCall.refuse, waits, retry]
    rfl
  · rename_i ok
    cases flavor : queue.flavor with
    | synchronized =>
      have unannounced := ground.sound.placed.writeReserve_isSome
      have flavor' : queue.descriptor.flavor = .synchronized := flavor
      rw [flavor'] at unannounced
      refine leads_of_go (p := .fill pos) ring rfl ?_
        ⟨same, here, le_front_of_checkWrite ground ring flavor same here ok⟩
      rw [unannounced]
      rfl
    | unsynchronized =>
      have announced := ground.sound.placed.writeReserve_isSome
      have flavor' : queue.descriptor.flavor = .unsynchronized := flavor
      rw [flavor'] at announced
      refine leads_of_go (p := .reserve pos) ring rfl ?_ ⟨same, here, flavor⟩
      rw [announced]
      rfl

/-- The batch is announced. -/
theorem leads_reserve (accepted : Accepted wc rc) (ground : Ground wc home)
    (batch : WritesBatch wc home call written) (homed : Homed home s)
    (ring : Ring wc home (home.view (home.memory s)) stream) {pos : UInt64}
    (point : AtWrite home (home.view (home.memory s)) written (WriterState.nextBatch wc written)
      (.reserve pos)) (now : Instant) :
    Leads wc home written (WriterState.nextBatch wc written) (home.view (home.memory s))
      (home.view (home.memory (call.step now s (.reserve pos)).1)) stream
      (call.step now s (.reserve pos)).2 := by
  obtain ⟨same, here, flavor⟩ := point
  have stop := batch.toNat_stop accepted here
  obtain rfl : call.queue = home := batch.queue_eq
  have memory : call.queue.memory (call.step now s (.reserve pos)).1
      = call.queue.reserve (call.queue.memory s) (call.stop pos) :=
    WriteCall.memory_change homed.mapped _
  rw [memory, Queue.view_reserve ground.sound flavor, stop]
  generalize call.queue.view (call.queue.memory s) = v at same ring
  have grows : call.queue.front v ≤ call.queue.front { v with
      reserved := max v.reserved (written + WriterState.nextBatch wc written) } := by
    rw [Queue.front_unsynchronized flavor, Queue.front_unsynchronized flavor]
    exact Nat.le_max_left _ _
  refine ⟨?_, ⟨rfl, Nat.le_refl _, grows⟩, fun next => ?_, nofun⟩
  · refine ⟨ring.stream_eq, ring.batches, Nat.le_trans ring.written_le_front grows, fun _ => ?_,
      ring.read_le, fun p before free => ring.intact p before (Nat.le_trans grows free)⟩
    have announced := ring.front_le flavor
    rw [Queue.front_unsynchronized flavor] at announced ⊢
    rw [same] at announced ⊢
    exact Nat.max_le.mpr ⟨announced, Nat.le_refl _⟩
  · cases next
    refine ⟨same, here, ?_⟩
    rw [Queue.front_unsynchronized flavor]
    exact Nat.le_max_right _ _

/-- Filling the slots of a batch that lies before the front hits no slot of the
end of the stream. -/
theorem intact_fill (ground : Ground wc home) {m : Memory} {pos : UInt64}
    {data : List quantum.Value} (fits : data.length ≤ home.capacity)
    (room : pos.toNat + data.length ≤ home.front (home.view m)) {p : Nat} (before : p < pos.toNat)
    (free : home.front (home.view m) ≤ p + home.capacity) :
    home.quantumAt (home.fill m pos data) p = home.quantumAt m p := by
  refine Queue.quantumAt_fill_of_ne home m pos ground.sound.capacity_pos fits fun i hi => ?_
  exact mod_ne_of_near (by omega) (by omega)

/-- The slots of the batch are filled. -/
theorem leads_fill (accepted : Accepted wc rc) (ground : Ground wc home)
    (batch : WritesBatch wc home call written) (homed : Homed home s)
    (ring : Ring wc home (home.view (home.memory s)) stream) {pos : UInt64}
    (point : AtWrite home (home.view (home.memory s)) written (WriterState.nextBatch wc written)
      (.fill pos)) (now : Instant) :
    Leads wc home written (WriterState.nextBatch wc written) (home.view (home.memory s))
      (home.view (home.memory (call.step now s (.fill pos)).1)) stream
      (call.step now s (.fill pos)).2 := by
  obtain ⟨same, here, room⟩ := point
  have length := batch.length_eq
  have data := batch.data_eq
  obtain rfl : call.queue = home := batch.queue_eq
  have fits : call.data.length ≤ call.queue.capacity := length ▸ nextBatch_le _ accepted ground
  have memory : call.queue.memory (call.step now s (.fill pos)).1
      = call.queue.fill (call.queue.memory s) pos call.data :=
    WriteCall.memory_change homed.mapped _
  have filled := Queue.stretch_fill call.queue (call.queue.memory s) pos fits
  have view := Queue.view_fill ground.sound (call.queue.memory s) pos fits
  have front :
      call.queue.front (call.queue.view (call.queue.fill (call.queue.memory s) pos call.data))
        = call.queue.front (call.queue.view (call.queue.memory s)) := by
    rw [view]
    rfl
  rw [memory]
  refine ⟨?_, ⟨?_, ?_, Nat.le_of_eq front.symm⟩, ?_, nofun⟩
  · constructor
    · rw [view]
      exact ring.stream_eq
    · rw [view]
      exact ring.batches
    · rw [front, view]
      exact ring.written_le_front
    · rw [front, view]
      exact ring.front_le
    · rw [view]
      exact ring.read_le
    · intro p before free
      rw [front] at free
      rw [view] at before ⊢
      have before : p < pos.toNat := by rw [here, ← same]; exact before
      refine Eq.trans ?_ (ring.intact p (by omega) free)
      exact intact_fill ground fits (by omega) before free
  · rw [view]
  · exact Nat.le_of_eq (congrArg RingView.written view).symm
  · intro p next
    cases next
    refine ⟨?_, here, by rw [front]; exact room, ?_⟩
    · rw [view]
      exact same
    · rw [here, length] at filled
      exact filled.symm.trans data

/-- The batch is published: the stream is longer by what the slots hold. -/
theorem leads_publish (accepted : Accepted wc rc) (ground : Ground wc home)
    (batch : WritesBatch wc home call written) (homed : Homed home s)
    (ring : Ring wc home (home.view (home.memory s)) stream) {pos : UInt64}
    (point : AtWrite home (home.view (home.memory s)) written (WriterState.nextBatch wc written)
      (.publish pos)) (now : Instant) :
    Leads wc home written (WriterState.nextBatch wc written) (home.view (home.memory s))
      (home.view (home.memory (call.step now s (.publish pos)).1))
      (stream ++ home.take (home.memory s) pos call.data.length)
      (call.step now s (.publish pos)).2 := by
  obtain ⟨same, here, room, filled⟩ := point
  have stop := batch.toNat_stop accepted here
  have length := batch.length_eq
  obtain ⟨wait, waits, own⟩ := batch.waiting
  obtain rfl : call.queue = home := batch.queue_eq
  have fits := nextBatch_le written accepted ground
  have memory : call.queue.memory (call.step now s (.publish pos)).1
      = call.queue.publish (call.queue.memory s) (call.stop pos) :=
    WriteCall.memory_change homed.mapped _
  have taken : call.queue.take (call.queue.memory s) pos call.data.length
      = samples written (WriterState.nextBatch wc written) := by
    rw [length, Queue.take_eq _ _ _ fits, Queue.quanta_eq, here]
    exact filled
  rw [memory, Queue.view_publish ground.sound, stop, taken]
  generalize call.queue.view (call.queue.memory s) = v at same ring room filled
  refine ⟨⟨?_, same ▸ ring.batches.next, room, fun flavor => ?_, fun flavor => ?_,
      fun p before free => ?_⟩,
    ⟨rfl, ?_, Nat.le_refl _⟩, fun next => ?_, nofun⟩
  · have joined := samples_append 0 written (WriterState.nextBatch wc written)
    rw [Nat.zero_add] at joined
    rw [ring.stream_eq, same, joined]
  · have announced := ring.front_le flavor
    rw [same] at announced
    exact Nat.le_trans announced (Nat.le_add_right _ _)
  · exact Nat.le_trans (ring.read_le flavor) (by simp [same])
  · by_cases old : p < v.written
    · exact ring.intact p old free
    · -- a slot of the new batch
      have inside : p - written < WriterState.nextBatch wc written := by
        simp only at before
        omega
      have quantum : (v.stretch written (WriterState.nextBatch wc written))[p - written]? =
          (samples written (WriterState.nextBatch wc written))[p - written]? := by rw [filled]
      rw [List.getElem?_eq_getElem (by simpa using inside),
        List.getElem?_eq_getElem (by simpa using inside), RingView.getElem_stretch,
        getElem_samples] at quantum
      have back : written + (p - written) = p := by omega
      rw [back] at quantum
      exact Option.some.inj quantum
  · exact Nat.le_trans (Nat.le_of_eq same) (Nat.le_add_right _ _)
  · unfold WriteCall.step at next
    dsimp only at next
    rw [own] at next
    cases next
    rfl

/-- The batch is published, and the readers are told. -/
theorem leads_announce (ground : Ground wc home) (batch : WritesBatch wc home call written)
    (homed : Homed home s) (ring : Ring wc home (home.view (home.memory s)) stream)
    {p : WritePoint} (announces : p ∈ [.raiseOwn, .signalOwn, .raiseNotify, .signalNotify, .done])
    (point : (home.view (home.memory s)).written = written + count) (now : Instant) :
    Leads wc home written count (home.view (home.memory s))
      (home.view (home.memory (call.step now s p).1)) stream (call.step now s p).2 := by
  obtain ⟨wait, waits, own⟩ := batch.waiting
  obtain rfl : call.queue = home := batch.queue_eq
  have after : call.afterOwn = .raiseNotify := by rw [WriteCall.afterOwn, waits]
  have raised := view_raiseWord ground.sound own homed.mapped notEmpty
  have notified := view_raiseWord ground.sound own homed.mapped wait.notifyBits
  simp only [List.mem_cons, List.not_mem_nil, or_false] at announces
  rcases announces with rfl | rfl | rfl | rfl | rfl <;> unfold WriteCall.step <;> dsimp only
  · rw [own, after]
    refine leads_of_still ring raised (fun next => ?_) nofun
    cases next
    split <;> exact point
  · rw [own, after]
    exact leads_of_go ring rfl rfl point
  · rw [waits]
    refine leads_of_still ring notified (fun next => ?_) nofun
    cases next
    split <;> exact point
  · rw [waits]
    exact leads_of_go ring rfl rfl point
  · refine leads_of_still ring rfl nofun fun finish => ?_
    cases finish
    exact .inl ⟨rfl, point⟩

/-- There is no room yet: the call waits, or gives up. -/
theorem leads_wait (ground : Ground wc home) (batch : WritesBatch wc home call written)
    (homed : Homed home s) (ring : Ring wc home (home.view (home.memory s)) stream)
    {p : WritePoint}
    (waiting : p = .expire ∨ p = .clear ∨ p = .observe ∨ (∃ seen, p = .recount seen) ∨
      (∃ seen pos, p = .recheck seen pos) ∨ ∃ seen, p = .park seen)
    (point : (home.view (home.memory s)).written = written) (now : Instant) :
    Leads wc home written count (home.view (home.memory s))
      (home.view (home.memory (call.step now s p).1)) stream (call.step now s p).2 := by
  obtain ⟨wait, waits, own⟩ := batch.waiting
  obtain rfl : call.queue = home := batch.queue_eq
  have cleared := view_clearWord ground.sound own homed.mapped wait.waitBits
  rcases waiting with rfl | rfl | rfl | ⟨seen, rfl⟩ | ⟨seen, pos, rfl⟩ | ⟨seen, rfl⟩ <;>
    unfold WriteCall.step <;> dsimp only <;> rw [waits] <;> dsimp only
  · split
    · refine leads_of_still ring rfl nofun fun finish => ?_
      cases finish
      exact .inr ⟨rfl, point⟩
    · exact leads_of_go ring rfl rfl point
  · exact leads_of_go ring cleared rfl point
  · split <;> exact leads_of_go ring rfl rfl point
  · exact leads_of_go ring rfl rfl point
  · split <;> exact leads_of_go ring rfl rfl point
  · split <;> exact leads_of_go ring rfl rfl point

/-- One step of the call for a batch. -/
theorem leads_step (accepted : Accepted wc rc) (ground : Ground wc home)
    (batch : WritesBatch wc home call written) (homed : Homed home s)
    (ring : Ring wc home (home.view (home.memory s)) stream) {p : WritePoint}
    (point : AtWrite home (home.view (home.memory s)) written (WriterState.nextBatch wc written) p)
    (now : Instant) :
    Leads wc home written (WriterState.nextBatch wc written) (home.view (home.memory s))
      (home.view (home.memory (call.step now s p).1))
      (stream ++ (WriterState.writing call written p).publishes s) (call.step now s p).2 := by
  have queue := batch.queue_eq
  cases p with
  | publish pos =>
    have leads := leads_publish accepted ground batch homed ring point now
    subst queue
    exact leads
  | begin =>
    simp only [WriterState.publishes, List.append_nil]
    subst queue
    exact leads_of_go ring rfl rfl ⟨point, point⟩
  | judge pos =>
    simp only [WriterState.publishes, List.append_nil]
    exact leads_judge accepted ground batch ring point now
  | reserve pos =>
    simp only [WriterState.publishes, List.append_nil]
    exact leads_reserve accepted ground batch homed ring point now
  | fill pos =>
    simp only [WriterState.publishes, List.append_nil]
    exact leads_fill accepted ground batch homed ring point now
  | raiseOwn | signalOwn | raiseNotify | signalNotify | done =>
    simp only [WriterState.publishes, List.append_nil]
    exact leads_announce ground batch homed ring (by simp) point now
  | expire | clear | observe | recount | recheck | park =>
    simp only [WriterState.publishes, List.append_nil]
    exact leads_wait ground batch homed ring (by simp) point now

end SharedQueue.Bench
