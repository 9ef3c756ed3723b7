/-
SharedQueue.Proofs.Bench.Programs — the two programs, step by step.

* `WriterState.Stands`, `ReaderState.Stands` — what is known where a program
  stands: between two batches, or at a point of a call.
* `Sends`, `sends_step` — what a step of the writing program leads to. It ends
  only when everything is published.
* `Takes`, `takes_step` — what a step of the reading program leads to. Once it
  has joined the queue it ends with all of the stream, or because it has
  waited too long.
-/
import SharedQueue.Proofs.Bench.Reading
import SharedQueue.Proofs.Bench.Writing

namespace SharedQueue.Bench

variable {wc : WriterConfig} {rc : ReaderConfig} {home q : Queue quantum} {s : Store}
  {v v' : RingView quantum} {stream : List quantum.Value} {tally : Tally}

/-! ## The writing program -/

section Writer

variable {call : WriteCall quantum} {written : Nat}

/-- What is known where the writing program stands. -/
def WriterState.Stands (wc : WriterConfig) (home : Queue quantum) (v : RingView quantum) :
    WriterState → Prop
  | .launch => False
  | .batch queue written => queue = home ∧ v.written = written
  | .writing call written point => WritesBatch wc home call written ∧
    AtWrite home v written (WriterState.nextBatch wc written) point
  | .linger queue _ => queue = home ∧ v.written = wc.messages

/-- What a step of the writing program leads to. -/
structure Sends (wc : WriterConfig) (home : Queue quantum) (v : RingView quantum) (s : Store)
    (stream : List quantum.Value) (move : Move WriterState WriterResult) : Prop where
  homed : Homed home s
  ring : Ring wc home (home.view (home.memory s)) stream
  fed : Fed home v (home.view (home.memory s))
  goes : ∀ {state}, move.next? = some state → state.Stands wc home (home.view (home.memory s))
  /-- It ends when everything is published, and tells what is unread. -/
  ends : ∀ {result}, move = .finish result → result = .ok (home.availableToRead (home.memory s)) ∧
    home.view (home.memory s) = v ∧ v.written = wc.messages

theorem WriterState.Stands.drained {state : WriterState} (stands : state.Stands wc home v)
    (drained : Drained home v v') : state.Stands wc home v' := by
  cases state with
  | launch => exact stands
  | batch queue written => exact ⟨stands.1, drained.written_eq.trans stands.2⟩
  | writing call written point => exact ⟨stands.1, stands.2.drained drained⟩
  | linger queue stay => exact ⟨stands.1, drained.written_eq.trans stands.2⟩

/-- A batch that is not empty begins with an attempt. -/
theorem startOwn_eq {q : Queue quantum} {word : FlagWord} (own : q.flagWord? = some word)
    {data : List quantum.Value} (some : 0 < data.length) :
    WriteCall.startOwn q data notFull notEmpty = .go .begin := by
  have filled : data.isEmpty = false :=
    List.isEmpty_eq_false_iff.mpr (List.length_pos_iff.mp some)
  unfold WriteCall.startOwn WriteCall.startOn
  rw [filled, own]
  rfl

/-- As long as something is left the program begins a batch. -/
theorem nextWrite_eq (accepted : Accepted wc rc) {word : FlagWord}
    (own : home.flagWord? = some word) (more : written < wc.messages) (now : Instant)
    (host : Host) :
    WriterState.nextWrite wc false now host home written =
      (host, .go (.writing ⟨home, samples written (WriterState.nextBatch wc written),
        some ⟨word, notFull, notEmpty, Deadline.after now (some (milliseconds wc.timeoutMs))⟩⟩
        written .begin)) := by
  have filled := nextBatch_pos accepted more
  have notAll : ¬ (wc.messages ≤ written ∨ false = true) := by simpa using more
  unfold WriterState.nextWrite
  rw [if_neg notAll]
  dsimp only
  rw [startOwn_eq own (by rwa [length_samples]), own]
  rfl

theorem sends_nextWrite (accepted : Accepted wc rc) (ground : Ground wc home) {host : Host}
    (homed : Homed home host.store)
    (ring : Ring wc home (home.view (home.memory host.store)) stream)
    (same : (home.view (home.memory host.store)).written = written) (now : Instant) :
    Sends wc home (home.view (home.memory host.store))
      (WriterState.nextWrite wc false now host home written).1.store stream
      (WriterState.nextWrite wc false now host home written).2 := by
  obtain ⟨word, own⟩ := ground.flag accepted.eventFlag
  by_cases more : written < wc.messages
  · rw [nextWrite_eq accepted own more]
    refine ⟨homed, ring, .refl _ _, fun next => ?_, nofun⟩
    cases next
    exact ⟨⟨rfl, rfl, ⟨_, rfl, own⟩, more⟩, same⟩
  · have all : wc.messages ≤ written := Nat.le_of_not_lt more
    unfold WriterState.nextWrite
    rw [if_pos (.inl all)]
    refine ⟨homed, ring, .refl _ _, fun next => ?_, nofun⟩
    cases next
    exact ⟨rfl, Nat.le_antisymm ring.batches.le (same ▸ all)⟩

theorem sends_writing (accepted : Accepted wc rc) (ground : Ground wc home) {host : Host}
    (homed : Homed home host.store)
    (ring : Ring wc home (home.view (home.memory host.store)) stream)
    {point : WritePoint} (batch : WritesBatch wc home call written)
    (writing : AtWrite home (home.view (home.memory host.store)) written
      (WriterState.nextBatch wc written) point) (now : Instant) :
    Sends wc home (home.view (home.memory host.store))
      ((WriterState.writing call written point).step wc false now host).1.store
      (stream ++ (WriterState.writing call written point).publishes host.store)
      ((WriterState.writing call written point).step wc false now host).2 := by
  have leads := leads_step accepted ground batch homed ring writing now
  have inside : Local (fun _ => True) fun s => call.step now s point :=
    call.local_step trivial (fun _ => trivial) now point
  have homed' := homed.of_local inside
  have queue := batch.queue_eq
  have length := batch.length_eq
  unfold WriterState.step
  dsimp only at homed' ⊢
  generalize call.step now host.store point = next at leads homed' ⊢
  generalize (WriterState.writing call written point).publishes host.store = published at leads ⊢
  obtain ⟨store, move⟩ := next
  dsimp only at leads homed' ⊢
  have world : (move.within { host with store } (WriterState.writing call written)
      (WriterState.writeDone { host with store } call.queue written call.data.length)).1
      = { host with store } := by
    apply Move.world_within
    intro answer finish
    rcases leads.ends finish with ⟨rfl, -⟩ | ⟨rfl, -⟩ <;> rfl
  rw [world]
  refine ⟨homed', leads.ring, leads.fed, fun next => ?_, fun finish => ?_⟩
  · refine Move.next?_within (fun goes => ⟨batch, leads.goes goes⟩) (fun finish done => ?_) next
    rcases leads.ends finish with ⟨rfl, landed⟩ | ⟨rfl, missed⟩ <;> cases done
    · exact ⟨queue, landed.trans (by rw [length])⟩
    · exact ⟨queue, missed⟩
  · obtain ⟨answer, ends, done⟩ := Move.finish_within finish
    rcases leads.ends ends with ⟨rfl, -⟩ | ⟨rfl, -⟩ <;> cases done

theorem sends_lingering {host : Host} (homed : Homed home host.store)
    (ring : Ring wc home (home.view (home.memory host.store)) stream)
    (all : (home.view (home.memory host.store)).written = wc.messages) (now stay : Instant) :
    Sends wc home (home.view (home.memory host.store))
      (WriterState.lingering false now host home stay).1.store stream
      (WriterState.lingering false now host home stay).2 := by
  have memory : home.memory (host.store.release home.region) = home.memory host.store :=
    Store.memory_release _ _ _
  unfold WriterState.lingering
  dsimp only
  split
  · refine ⟨homed.release _, ?_, ?_, nofun, fun finish => ?_⟩
    · exact memory.symm ▸ ring
    · exact memory.symm ▸ .refl _ _
    · cases finish
      dsimp only [WriterState.stop]
      rw [memory]
      exact ⟨rfl, rfl, all⟩
  · refine ⟨homed, ring, .refl _ _, fun next => ?_, nofun⟩
    cases next
    exact ⟨rfl, all⟩

/-- One step of the writing program. -/
theorem sends_step (accepted : Accepted wc rc) (ground : Ground wc home) {host : Host}
    (homed : Homed home host.store)
    (ring : Ring wc home (home.view (home.memory host.store)) stream)
    {state : WriterState} (stands : state.Stands wc home (home.view (home.memory host.store)))
    (now : Instant) :
    Sends wc home (home.view (home.memory host.store)) (state.step wc false now host).1.store
      (stream ++ state.publishes host.store) (state.step wc false now host).2 := by
  cases state with
  | launch => exact stands.elim
  | batch queue written =>
    obtain ⟨rfl, same⟩ := stands
    simp only [WriterState.publishes, List.append_nil]
    exact sends_nextWrite accepted ground homed ring same now
  | writing call written point =>
    obtain ⟨batch, writing⟩ := stands
    exact sends_writing accepted ground homed ring batch writing now
  | linger queue stay =>
    obtain ⟨rfl, all⟩ := stands
    simp only [WriterState.publishes, List.append_nil]
    exact sends_lingering homed ring all now stay

end Writer

/-! ## The reading program -/

section Reader

variable {call : ReadCall} {st : ReadState quantum}

/-- What is known where the reading program stands. -/
def ReaderState.Stands (rc : ReaderConfig) (home : Queue quantum) (v : RingView quantum) :
    ReaderState → Prop
  | .seek _ => home.flavor = .synchronized → v.read = 0
  | .join d => d = home.descriptor ∧ (home.flavor = .synchronized → v.read = 0)
  | .batch q tally => Counts rc home v q tally
  | .reading call tally st => ReadsBatch rc home call tally st ∧ AtRead rc home v tally st st.point

/-- The program has joined the queue. -/
def ReaderState.joined : ReaderState → Bool
  | .seek _ | .join _ => false
  | .batch .. | .reading .. => true

/-- The program has waited too long for more data. -/
def ReaderState.TimesOut (now : Instant) : ReaderState → Prop
  | .reading call _ st => Bench.TimesOut call now st
  | _ => False

/-- What is known when the reading program has ended. -/
def Ended (rc : ReaderConfig) (home : Queue quantum) (v : RingView quantum) : ReaderResult → Prop
  | .ok tally => ∃ q, Counts rc home v q tally
  | .error _ => home.flavor = .synchronized → v.read = 0

/-- What a step of the reading program leads to. -/
structure Takes (rc : ReaderConfig) (home : Queue quantum) (v : RingView quantum) (s : Store)
    (state : ReaderState) (now : Instant) (move : Move ReaderState ReaderResult) : Prop where
  homed : Homed home s
  drained : Drained home v (home.view (home.memory s))
  goes : ∀ {next}, move.next? = some next → next.Stands rc home (home.view (home.memory s))
  ends : ∀ {result}, move = .finish result → Ended rc home (home.view (home.memory s)) result
  /-- A program that has joined ends with all of the stream, or because no
  more data came. -/
  done : state.joined = true → ∀ {result}, move = .finish result →
    ∃ tally, result = .ok tally ∧ (tally.received = rc.messages ∨ state.TimesOut now)

theorem ReaderState.Stands.fed {state : ReaderState} (stands : state.Stands rc home v)
    (fed : Fed home v v') : state.Stands rc home v' := by
  cases state with
  | seek since => exact fun flavor => fed.read_eq.trans (stands flavor)
  | join d => exact ⟨stands.1, fun flavor => fed.read_eq.trans (stands.2 flavor)⟩
  | batch q tally => exact Counts.fed stands fed
  | reading call tally st => exact ⟨stands.1, stands.2.fed fed⟩

theorem Ended.fed {result : ReaderResult} (ended : Ended rc home v result) (fed : Fed home v v') :
    Ended rc home v' result := by
  cases result with
  | error e => exact fun flavor => fed.read_eq.trans (ended flavor)
  | ok tally =>
    obtain ⟨q, counts⟩ := ended
    exact ⟨q, counts.fed fed⟩

/-- The program looks for the descriptor. -/
theorem takes_seeking {host : Host} {since : Instant} (homed : Homed home host.store)
    (ring : Ring wc home (home.view (home.memory host.store)) stream)
    (untouched : home.flavor = .synchronized → (home.view (home.memory host.store)).read = 0)
    (guided : (ReaderState.seek since).Guided rc home host) (now : Instant) :
    Takes rc home (home.view (home.memory host.store))
      (ReaderState.seeking rc now host since).1.store (.seek since) now
      (ReaderState.seeking rc now host since).2 := by
  unfold ReaderState.seeking
  split
  · rename_i d found
    refine ⟨homed, .of_eq ring.read_le rfl, fun goes => ?_, nofun, nofun⟩
    cases goes
    exact ⟨guided since d rfl found, untouched⟩
  · split
    · refine ⟨homed, .of_eq ring.read_le rfl, fun goes => ?_, nofun, nofun⟩
      cases goes
      exact untouched
    · refine ⟨homed, .of_eq ring.read_le rfl, nofun, fun finish => ?_, nofun⟩
      cases finish
      exact untouched

theorem kin_of_attach {q : Queue quantum} {flavor : Flavor} (homed : Homed home s)
    (ok : Queue.attach quantum flavor home.descriptor s = .ok q) : Kin home q := by
  obtain ⟨-, -, -, opened, -, descriptor, -⟩ := Queue.attach_eq_ok ok
  exact ⟨descriptor, homed.named (Store.openNamed_eq_ok opened).1, Queue.sound_of_attach ok⟩

/-- A new handle stands at the beginning of the stream, or, if it reads for
itself, at the end of it. -/
theorem place_of_attach {q : Queue quantum} {flavor : Flavor} (kin : Kin home q)
    (ok : Queue.attach quantum flavor home.descriptor s = .ok q)
    (own : home.flavor = .unsynchronized) :
    q.place (home.view (home.memory s)) = (home.view (home.memory s)).written := by
  obtain ⟨-, -, -, -, -, -, first⟩ := Queue.attach_eq_ok ok
  have flavor' : home.descriptor.flavor = .unsynchronized := own
  rw [Queue.firstCursor_unsynchronized flavor'] at first
  rw [Queue.place, ← Except.ok.inj first]
  show ((q.memory s).load64 home.descriptor.writeCounter.offset).toNat = _
  rw [kin.memory]
  rfl

theorem counts_of_attach (accepted : Accepted wc rc) (ground : Ground wc home)
    {q : Queue quantum} (homed : Homed home s)
    (ok : Queue.attach quantum rc.flavor home.descriptor s = .ok q) (fits : rc.batch ≤ q.capacity)
    (untouched : home.flavor = .synchronized → (home.view (home.memory s)).read = 0) :
    Counts rc home (home.view (home.memory s)) q (.start rc.flavor) := by
  have kin := kin_of_attach homed ok
  have same : home.flavor = rc.flavor := ground.flavor.trans accepted.flavor.symm
  cases flavor : home.flavor with
  | synchronized =>
    have place : q.place (home.view (home.memory s)) = 0 := by
      rw [kin.sound.place_synchronized (kin.flavor.trans flavor)]
      exact untouched flavor
    refine ⟨kin, kin.capacity ▸ fits, ⟨rfl, fun e expected => ?_⟩, ?_, .zero _ _, fun _ => ?_⟩
    · rw [place]
      rw [← same, flavor] at expected
      exact (Option.some.inj expected).symm
    · rw [place]
      exact Nat.zero_le _
    · exact place.symm
  | unsynchronized =>
    have place := place_of_attach kin ok flavor
    refine ⟨kin, kin.capacity ▸ fits, ⟨rfl, fun e expected => ?_⟩, Nat.le_of_eq place,
      .zero _ _, fun shared => ?_⟩
    · rw [← same, flavor] at expected
      cases expected
    · cases flavor.symm.trans shared

/-- The program joins the queue. -/
theorem takes_joining (accepted : Accepted wc rc) (ground : Ground wc home) {host : Host}
    (homed : Homed home host.store)
    (ring : Ring wc home (home.view (home.memory host.store)) stream)
    (untouched : home.flavor = .synchronized → (home.view (home.memory host.store)).read = 0)
    (now : Instant) :
    Takes rc home (home.view (home.memory host.store))
      (ReaderState.joining rc host home.descriptor).1.store (.join home.descriptor) now
      (ReaderState.joining rc host home.descriptor).2 := by
  unfold ReaderState.joining
  split
  · refine ⟨homed, .of_eq ring.read_le rfl, nofun, fun finish => ?_, nofun⟩
    cases finish
    exact untouched
  · rename_i q attached
    split
    · refine ⟨homed, .of_eq ring.read_le rfl, nofun, fun finish => ?_, nofun⟩
      cases finish
      exact untouched
    · rename_i fits
      refine ⟨homed, .of_eq ring.read_le rfl, fun goes => ?_, nofun, nofun⟩
      cases goes
      exact counts_of_attach accepted ground homed attached (Nat.le_of_not_lt fits) untouched

/-- A batch that is not empty begins with an attempt. -/
theorem readOwn_eq {word : FlagWord} (own : q.flagWord? = some word) {buffer : List quantum.Value}
    (some : 0 < buffer.length) :
    ReadCall.startOwn q buffer notEmpty notFull = .go ⟨q, buffer, .begin⟩ := by
  have filled : buffer.isEmpty = false :=
    List.isEmpty_eq_false_iff.mpr (List.length_pos_iff.mp some)
  unfold ReadCall.startOwn ReadCall.startOn
  rw [filled, own]
  rfl

/-- As long as something is missing the program begins a batch. -/
theorem nextRead_eq (accepted : Accepted wc rc) {word : FlagWord}
    (own : q.flagWord? = some word) (more : tally.received < rc.messages) (now : Instant)
    (host : Host) :
    ReaderState.nextRead rc now host q tally =
      (host, .go (.reading
        ⟨some ⟨word, notEmpty, notFull, Deadline.after now (some (milliseconds rc.idleTimeoutMs))⟩⟩
        tally ⟨q, List.replicate (ReaderState.nextBatch rc tally.received) (sample 0), .begin⟩)) :=
      by
  have pos := accepted.readBatch_pos
  have filled : 0 < ReaderState.nextBatch rc tally.received := by
    unfold ReaderState.nextBatch
    omega
  unfold ReaderState.nextRead
  rw [if_neg (Nat.not_le.mpr more)]
  dsimp only
  rw [readOwn_eq own (by rwa [List.length_replicate]), own]
  rfl

/-- The program begins a batch, or has all of the stream. -/
theorem takes_nextRead (accepted : Accepted wc rc) (ground : Ground wc home) {host : Host}
    (homed : Homed home host.store)
    (ring : Ring wc home (home.view (home.memory host.store)) stream)
    (counts : Counts rc home (home.view (home.memory host.store)) q tally) (now : Instant) :
    Takes rc home (home.view (home.memory host.store))
      (ReaderState.nextRead rc now host q tally).1.store (.batch q tally) now
      (ReaderState.nextRead rc now host q tally).2 := by
  obtain ⟨word, own⟩ := ground.flag accepted.eventFlag
  by_cases more : tally.received < rc.messages
  · rw [nextRead_eq accepted (counts.kin.flagWord?.trans own) more]
    refine ⟨homed, .of_eq ring.read_le rfl, fun goes => ?_, nofun, nofun⟩
    cases goes
    exact ⟨⟨counts.kin, List.length_replicate, _, rfl, own⟩, counts⟩
  · have all : rc.messages ≤ tally.received := Nat.le_of_not_lt more
    unfold ReaderState.nextRead
    rw [if_pos all]
    refine ⟨homed, .of_eq ring.read_le rfl, nofun, fun finish => ?_, fun _ {result} finish => ?_⟩
    · cases finish
      exact ⟨q, counts⟩
    · cases finish
      exact ⟨tally, rfl, .inl (Nat.le_antisymm counts.batches.le all)⟩

/-- The program goes on with a batch. -/
theorem takes_reading (ground : Ground wc home) {host : Host} (homed : Homed home host.store)
    (ring : Ring wc home (home.view (home.memory host.store)) stream)
    (batch : ReadsBatch rc home call tally st)
    (reading : AtRead rc home (home.view (home.memory host.store)) tally st st.point)
    (now : Instant) :
    Takes rc home (home.view (home.memory host.store))
      ((ReaderState.reading call tally st).step rc now host).1.store (.reading call tally st) now
      ((ReaderState.reading call tally st).step rc now host).2 := by
  have yields := yields_step ground batch homed ring reading now
  have inside : Local (fun _ => True) fun s => call.step now s st :=
    call.local_step st trivial (fun _ => trivial) now
  have homed' := homed.of_local inside
  unfold ReaderState.step
  dsimp only at homed' ⊢
  generalize call.step now host.store st = next at yields homed' ⊢
  obtain ⟨store, move⟩ := next
  dsimp only at yields homed' ⊢
  have world : (move.within { host with store } (ReaderState.reading call tally)
      (ReaderState.readDone { host with store } tally)).1 = { host with store } := by
    apply Move.world_within
    intro r finish
    rcases yields.ends finish with ⟨answer, -⟩ | ⟨⟨lag, pos, answer⟩, -⟩ | ⟨answer, -⟩ <;>
      (unfold ReaderState.readDone; rw [answer])
  rw [world]
  refine ⟨homed', yields.drained, fun next => ?_, fun finish => ?_, fun _ {result} finish => ?_⟩
  · refine Move.next?_within
      (P := fun state => state.Stands rc home (home.view (home.memory store)))
      (fun goes => yields.goes goes) (fun {r state} finish done => ?_) next
    unfold ReaderState.readDone at done
    rcases yields.ends finish with ⟨answer, counts⟩ | ⟨⟨lag, pos, answer⟩, counts⟩ | ⟨answer, -⟩ <;>
      rw [answer] at done <;> cases done
    · exact counts
    · exact counts
  · obtain ⟨r, ends, done⟩ := Move.finish_within finish
    unfold ReaderState.readDone at done
    rcases yields.ends ends with ⟨answer, -⟩ | ⟨⟨lag, pos, answer⟩, -⟩ | ⟨answer, counts, -⟩ <;>
      rw [answer] at done <;> cases done
    exact ⟨r.queue, counts⟩
  · obtain ⟨r, ends, done⟩ := Move.finish_within finish
    unfold ReaderState.readDone at done
    rcases yields.ends ends with ⟨answer, -⟩ | ⟨⟨lag, pos, answer⟩, -⟩ | ⟨answer, -, late⟩ <;>
      rw [answer] at done <;> cases done
    exact ⟨tally, rfl, .inr late⟩

/-- One step of the reading program. -/
theorem takes_step (accepted : Accepted wc rc) (ground : Ground wc home) {host : Host}
    (homed : Homed home host.store)
    (ring : Ring wc home (home.view (home.memory host.store)) stream) {state : ReaderState}
    (stands : state.Stands rc home (home.view (home.memory host.store)))
    (guided : state.Guided rc home host) (now : Instant) :
    Takes rc home (home.view (home.memory host.store)) (state.step rc now host).1.store state now
      (state.step rc now host).2 := by
  cases state with
  | seek since => exact takes_seeking homed ring stands guided now
  | join d =>
    obtain ⟨rfl, untouched⟩ := stands
    exact takes_joining accepted ground homed ring untouched now
  | batch q tally => exact takes_nextRead accepted ground homed ring stands now
  | reading call tally st => exact takes_reading ground homed ring stands.1 stands.2 now

end Reader

end SharedQueue.Bench
