/-
SharedQueue.Proofs.LoneWrite — a blocking write while nobody else does anything.

* `Store.served` — what a call that succeeds does to the flag that it waits on.
* `WriteCall.ends_publish` — from the store of the write counter on, a call does
  what a commit does. `ends_of_write` says the same of the whole attempt and a
  plain write.
* `WriteCall.Waits` — where a call stands that goes around in circles, and what it
  keeps: the store with the bits it waits for cleared, and no room in it.
* `Queue.LoneWrite`, `WriteCall.lone` — how a blocking write ends in each case.

A call clears its bits each time around. Nobody sets them again and nobody makes
room, so after the first time around it only repeats itself until its deadline.
-/
import SharedQueue.Proofs.Alone
import SharedQueue.Proofs.BlockingWrite

namespace SharedQueue

/-! ## Changes one after the other -/

/-- The store when a call has told the flag that it waits on of its success. -/
def Store.served (s : Store) (waiting : Option Waiting) : Store :=
  match waiting with
  | some wait => s.raiseWord wait.flag wait.notifyBits
  | none => s

namespace Queue

variable {t : ElementType} {q : Queue t} {w : FlagWord}

/-- A notice changes the word of the queue's own flag. -/
theorem update_notify (own : q.flagWord? = some w) (s : Store) (mask : UInt32) :
    (s.update q.region.memory fun m => q.notify m mask) = s.raiseWord w mask := by
  obtain ⟨g, there, rfl⟩ := Option.map_eq_some_iff.mp own
  unfold notify
  rw [there]
  rfl

theorem update_notify_none (own : q.flagWord? = none) (s : Store) (mask : UInt32) :
    (s.update q.region.memory fun m => q.notify m mask) = s := by
  have absent : q.descriptor.eventFlag = none := Option.map_eq_none_iff.mp own
  unfold notify
  rw [absent]
  exact s.setMemory_memory q.region.memory

/-- A plain write, with the one decision that it takes. -/
theorem write_eq (q : Queue t) (m : Memory) {data : List t.Value} (some : data ≠ []) :
    q.write m data =
      match q.flavor.checkWrite q.capacity (q.writePos m) (q.readPos m) data.length with
      | .error e => (.error e, m)
      | .ok () => (.ok (), q.commitWrite
          (q.fill (q.reserve m (q.writePos m + UInt64.ofNat data.length)) (q.writePos m) data)
          ⟨q.writePos m, data.length⟩) := by
  have count : data.length ≠ 0 := by simpa using some
  rw [write, if_neg (by simpa using some), beginWrite]
  cases q.flavor.checkWrite q.capacity (q.writePos m) (q.readPos m) data.length with
  | error e => rfl
  | ok _ =>
    simp only [bind, Except.bind, pure, Except.pure, if_neg count]
    rfl

/-- A plain write that is refused has done nothing. -/
theorem write_eq_error {m m' : Memory} {data : List t.Value} {e : Error} (some : data ≠ [])
    (refused : q.write m data = (.error e, m')) :
    m' = m ∧ q.flavor.checkWrite q.capacity (q.writePos m) (q.readPos m) data.length =
      .error e := by
  rw [write_eq q m some] at refused
  split at refused
  · rename_i judged
    cases refused
    exact ⟨rfl, judged⟩
  · cases refused

end Queue

namespace WriteCall

variable {t : ElementType} {c : WriteCall t} {s : Store}

/-! ## The end of a write that succeeds -/

theorem ends_done (c : WriteCall t) (s : Store) : Ends c.step (.ok ()) s s .done :=
  .last fun _ => rfl

theorem ends_afterOwn (c : WriteCall t) (s : Store) :
    Ends c.step (.ok ()) (s.served c.waiting) s c.afterOwn := by
  obtain ⟨queue, data, waiting⟩ := c
  cases waiting with
  | none => exact ends_done _ s
  | some wait =>
    refine .go (fun _ => rfl) ?_
    split
    · exact .signal (fun _ => rfl) (ends_done _ _)
    · exact ends_done _ _

theorem ends_signalOwn (c : WriteCall t) (s : Store) :
    Ends c.step (.ok ()) (s.served c.waiting) s .signalOwn := by
  cases own : c.queue.flagWord? with
  | none =>
    refine .go (fun _ => ?_) (ends_afterOwn c s)
    unfold step
    simp only [own]
  | some w =>
    have signalled (now : Instant) :
        c.step now s .signalOwn = (s, .signal w notEmpty c.afterOwn) := by
      unfold step
      simp only [own]
    exact .signal signalled (ends_afterOwn c s)

/-- What comes after the store of the write counter. -/
theorem ends_announce (c : WriteCall t) (s : Store) :
    Ends c.step (.ok ())
      ((c.change s fun m => c.queue.notify m notEmpty).served c.waiting) s
      (if c.queue.flagWord?.isSome then .raiseOwn else c.afterOwn) := by
  unfold change
  cases own : c.queue.flagWord? with
  | none =>
    rw [Queue.update_notify_none own]
    exact ends_afterOwn c s
  | some w =>
    rw [Queue.update_notify own]
    have raised (now : Instant) : c.step now s .raiseOwn = (s.raiseWord w notEmpty,
        .go (if EventFlag.signals (s.wordBits w) notEmpty then .signalOwn else c.afterOwn)) := by
      unfold step
      simp only [own]
    refine .go raised ?_
    split
    · exact ends_signalOwn c _
    · exact ends_afterOwn c _

theorem change_change (mapped : c.queue.region.memory < s.memories.size) (f g : Memory → Memory) :
    c.change (c.change s f) g = c.change s fun m => g (f m) :=
  Store.update_update mapped f g

theorem mapped_change (mapped : c.queue.region.memory < s.memories.size) (f : Memory → Memory) :
    c.queue.region.memory < (c.change s f).memories.size := by
  unfold change
  rwa [Store.size_update]

/-- From here on nothing can go wrong any more, and what is left to do is what a
commit does. -/
theorem ends_publish (mapped : c.queue.region.memory < s.memories.size) (some : c.data ≠ [])
    (pos : UInt64) :
    Ends c.step (.ok ())
      ((c.change s fun m => c.queue.commitWrite m ⟨pos, c.data.length⟩).served c.waiting) s
      (.publish pos) := by
  have commits : (fun m => c.queue.commitWrite m ⟨pos, c.data.length⟩) =
      fun m => c.queue.notify (c.queue.publish m (c.stop pos)) notEmpty := by
    funext m
    exact if_neg (by simpa using some)
  have both := change_change mapped (fun m => c.queue.publish m (c.stop pos))
    fun m => c.queue.notify m notEmpty
  rw [commits, ← both]
  exact .go (fun _ => rfl) (ends_announce c _)

theorem ends_fill (mapped : c.queue.region.memory < s.memories.size) (some : c.data ≠ [])
    (pos : UInt64) :
    Ends c.step (.ok ())
      ((c.change s fun m => c.queue.commitWrite (c.queue.fill m pos c.data)
        ⟨pos, c.data.length⟩).served c.waiting) s (.fill pos) := by
  have both := change_change mapped (fun m => c.queue.fill m pos c.data)
    fun m => c.queue.commitWrite m ⟨pos, c.data.length⟩
  rw [← both]
  exact .go (fun _ => rfl) (ends_publish (mapped_change mapped _) some pos)

/-! ## One attempt -/

/-- If there is room, the call does what a plain write does. -/
theorem ends_of_write (mapped : c.queue.region.memory < s.memories.size) (some : c.data ≠ [])
    {m' : Memory} (written : c.queue.write (c.queue.memory s) c.data = (.ok (), m')) :
    Ends c.step (.ok ()) ((s.setMemory c.queue.region.memory m').served c.waiting) s .begin := by
  rw [Queue.write_eq _ _ some] at written
  split at written
  · cases written
  rename_i admitted
  cases written
  refine .go (fun _ => rfl) ?_
  have judged (now : Instant) :
      c.step now s (.judge (c.queue.writePos (c.queue.memory s))) =
        (s, .go (if c.queue.descriptor.writeReserve.isSome
          then .reserve (c.queue.writePos (c.queue.memory s))
          else .fill (c.queue.writePos (c.queue.memory s)))) := by
    unfold step
    simp only [admitted]
  refine .go judged ?_
  cases reserve : c.queue.descriptor.writeReserve with
  | none =>
    have same (stop : UInt64) : c.queue.reserve (c.queue.memory s) stop = c.queue.memory s := by
      unfold Queue.reserve
      rw [reserve]
    rw [same]
    exact ends_fill mapped some _
  | some g =>
    have both := change_change mapped
      (fun m => c.queue.reserve m (c.stop (c.queue.writePos (c.queue.memory s))))
      fun m => c.queue.commitWrite (c.queue.fill m (c.queue.writePos (c.queue.memory s)) c.data)
        ⟨c.queue.writePos (c.queue.memory s), c.data.length⟩
    have later := ends_fill (mapped_change mapped fun m =>
      c.queue.reserve m (c.stop (c.queue.writePos (c.queue.memory s)))) some
      (c.queue.writePos (c.queue.memory s))
    rw [both] at later
    exact .go (fun _ => rfl) later

theorem judge_refused {e : Error}
    (refused : c.queue.flavor.checkWrite c.queue.capacity (c.queue.writePos (c.queue.memory s))
      (c.queue.readPos (c.queue.memory s)) c.data.length = .error e) (now : Instant) :
    c.step now s (.judge (c.queue.writePos (c.queue.memory s))) = (s, c.refuse e) := by
  unfold step
  simp only [refused]

end WriteCall

/-! ## Waiting in vain -/

/-- How many steps there may be before the next look at the clock. -/
def WritePoint.toClock : WritePoint → Nat
  | .expire => 0
  | .judge _ => 1
  | .begin => 2
  | .park _ => 3
  | .recheck .. => 4
  | .recount _ => 5
  | .observe => 6
  | _ => 7

/-- A call that waits stands here, with the write counter it has seen, if any. -/
def WritePoint.Around (writePos : UInt64) : WritePoint → Prop
  | .judge pos => pos = writePos
  | .begin | .expire | .clear | .observe | .recount _ | .recheck .. | .park _ => True
  | _ => False

namespace WriteCall

variable {t : ElementType} {c : WriteCall t} {s₀ s : Store} {p : WritePoint} {wait : Waiting}

/-- A call that has cleared its bits and found no room. -/
structure Waits (c : WriteCall t) (wait : Waiting) (s₀ s : Store) (p : WritePoint) : Prop where
  same : (s₀.clearWord wait.flag wait.waitBits).Same s
  around : p.Around (c.queue.writePos (c.queue.memory s₀))

/-- The flag is all that has changed. -/
theorem agree_of_same {q : Queue t} (wait : Waiting) (aside : q.Aside wait.flag)
    (mapped : q.region.memory < s₀.memories.size)
    (same : (s₀.clearWord wait.flag wait.waitBits).Same s) :
    q.descriptor.AgreeUpTo 0 (q.memory s₀) (q.memory s) :=
  (Queue.agree_update aside mapped fun _ => rfl).trans ((same.memory _).agree _)

/-- As long as there is no room, a call that waits goes around until its
deadline. -/
theorem circles {q : Queue t} {data : List t.Value} (sound : q.Sound) (aside : q.Aside wait.flag)
    (mapped : q.region.memory < s₀.memories.size) {e : Error} (later : e.retryable = true)
    (refused : q.flavor.checkWrite q.capacity (q.writePos (q.memory s₀))
      (q.readPos (q.memory s₀)) data.length = .error e) :
    Circles (step ⟨q, data, some wait⟩) wait.deadline (.error .timeout)
      (Waits ⟨q, data, some wait⟩ wait s₀) WritePoint.toClock := by
  constructor
  · rintro s p now ⟨same, around⟩ far
    have agree := agree_of_same wait aside mapped same
    cases p with
    | begin =>
      exact ⟨_, _, _, rfl, rfl, ⟨same, Queue.writePos_of_agree agree⟩, (by decide : 1 < 2)⟩
    | judge pos =>
      have seen : pos = q.writePos (q.memory s₀) := around
      have judged : step ⟨q, data, some wait⟩ now s (.judge pos) = (s, .go .expire) := by
        unfold step refuse
        simp only [seen, Queue.readPos_of_agree sound agree, refused, later, if_true]
      exact ⟨_, _, _, judged, rfl, ⟨same, trivial⟩, (by decide : 0 < 1)⟩
    | clear =>
      have again := (s₀.clearWord_clearWord wait.flag wait.waitBits).trans
        (same.clearWord wait.flag wait.waitBits)
      exact ⟨_, _, _, rfl, rfl, ⟨again, trivial⟩, (by decide : 6 < 7)⟩
    | observe =>
      refine ⟨_, _, _, rfl, rfl, ⟨same, ?_⟩, ?_⟩
      · split <;> trivial
      · split
        · exact (by decide : 5 < 6)
        · exact (by decide : 2 < 6)
    | recount seen => exact ⟨_, _, _, rfl, rfl, ⟨same, trivial⟩, (by decide : 4 < 5)⟩
    | recheck seen pos =>
      refine ⟨_, _, _, rfl, rfl, ⟨same, ?_⟩, ?_⟩
      · split <;> trivial
      · split
        · exact (by decide : 2 < 4)
        · exact (by decide : 3 < 4)
    | park seen =>
      refine ⟨s, _, .begin, rfl, ?_, ⟨same, trivial⟩, (by decide : 2 < 3)⟩
      split <;> rfl
    | expire => exact absurd rfl far
    | _ => exact absurd around id
  · rintro s p now ⟨-, around⟩ here expired
    cases p with
    | expire =>
      unfold step
      simp only [expired, if_true]
    | _ => cases here
  · rintro s p now ⟨same, around⟩ here ahead
    cases p with
    | expire =>
      refine ⟨.go .clear, .clear, ?_, rfl, ⟨same, trivial⟩⟩
      unfold step
      simp only [ahead]
      rfl
    | _ => cases here

/-- The third step of a call that finds no room is the first look at the clock. -/
theorem third_step {q : Queue t} {data : List t.Value} (wait : Waiting) {e : Error}
    (later : e.retryable = true)
    (refused : q.flavor.checkWrite q.capacity (q.writePos (q.memory s)) (q.readPos (q.memory s))
      data.length = .error e) (clock : Nat → Instant) :
    alone (step ⟨q, data, some wait⟩) clock s (.go .begin) 2 = (s, .go .expire) := by
  have second : alone (step ⟨q, data, some wait⟩) clock s (.go .begin) 1 =
      (s, .go (.judge (q.writePos (q.memory s)))) := rfl
  rw [alone_succ second rfl, judge_refused (c := ⟨q, data, some wait⟩) refused]
  simp only [refuse, later, if_true]

/-- If it is too late by then the call ends at once, and otherwise it clears its bits
and goes around until it is too late. -/
theorem gives_up {q : Queue t} {data : List t.Value} (wait : Waiting) (sound : q.Sound)
    (aside : q.Aside wait.flag)
    (mapped : q.region.memory < s.memories.size) {e : Error} (later : e.retryable = true)
    (refused : q.flavor.checkWrite q.capacity (q.writePos (q.memory s)) (q.readPos (q.memory s))
      data.length = .error e) {clock : Nat → Instant} (monotone : Monotone clock) {n : Nat}
    (reached : wait.deadline.expired (clock n) = true) :
    ∃ s', EndsAt (step ⟨q, data, some wait⟩) clock s (.go .begin) (.error .timeout) s' ∧
      if wait.deadline.expired (clock 2) then s' = s
      else (s.clearWord wait.flag wait.waitBits).Same s' := by
  have fourth := alone_succ (third_step wait later refused clock) rfl
  cases expired : wait.deadline.expired (clock 2) with
  | true =>
    refine ⟨s, ⟨3, ?_⟩, rfl⟩
    rw [fourth]
    unfold step
    simp only [expired, if_true]
  | false =>
    have ahead : alone (step ⟨q, data, some wait⟩) clock s (.go .begin) 3 = (s, .go .clear) := by
      rw [fourth]
      unfold step
      simp only [expired]
      rfl
    obtain ⟨s', p, ⟨same, -⟩, ends⟩ := (circles sound aside mapped later refused).ends_at
      monotone reached (alone_succ ahead rfl) rfl ⟨.refl _, trivial⟩
    exact ⟨s', ends, same⟩

end WriteCall

/-! ## The result -/

/-- How a blocking write ends while nobody else does anything: it writes, or is
refused, or gives up at its deadline, as the plain write tells at the beginning.
Its third step is the first look at the clock. -/
structure Queue.LoneWrite {t : ElementType} (q : Queue t) (data : List t.Value) (a : Manner)
    (w : FlagWord) (clock : Nat → Instant) (s : Store) : Prop where
  written : ∀ {m'}, q.write (q.memory s) data = (.ok (), m') →
    EndsAt (WriteCall.inManner q data a).step clock s (WriteCall.first q data a) (.ok ())
      ((s.setMemory q.region.memory m').raiseWord w a.notifyBits)
  refused : ∀ {e m'}, q.write (q.memory s) data = (.error e, m') → e.retryable = false →
    EndsAt (WriteCall.inManner q data a).step clock s (WriteCall.first q data a) (.error e) s ∧
      m' = q.memory s
  late : ∀ {e m'}, q.write (q.memory s) data = (.error e, m') → e.retryable = true →
    alone (WriteCall.inManner q data a).step clock s (WriteCall.first q data a) 2 =
        (s, .go .expire) ∧
      ∃ s', EndsAt (WriteCall.inManner q data a).step clock s (WriteCall.first q data a)
          (.error .timeout) s' ∧
        (if a.deadline.expired (clock 2) then s' = s else (s.clearWord w a.waitBits).Same s') ∧
        q.descriptor.AgreeUpTo 0 m' (q.memory s')

/-- In each case there is an end, and it is the only one. -/
theorem Queue.LoneWrite.existsUnique {t : ElementType} {q : Queue t} {data : List t.Value}
    {a : Manner} {w : FlagWord} {clock : Nat → Instant} {s : Store}
    (lone : q.LoneWrite data a w clock s) :
    ∃! last : Except Error Unit × Store,
      EndsAt (WriteCall.inManner q data a).step clock s (WriteCall.first q data a) last.1
        last.2 := by
  rcases plain : q.write (q.memory s) data with ⟨answer, m'⟩
  cases answer with
  | ok _ => exact (lone.written plain).existsUnique
  | error e =>
    cases later : e.retryable with
    | false => exact (lone.refused plain later).1.existsUnique
    | true =>
      obtain ⟨-, s', ends, -⟩ := lone.late plain later
      exact ends.existsUnique

theorem WriteCall.lone {t : ElementType} {q : Queue t} (sound : q.Sound) {s : Store}
    (mapped : q.region.memory < s.memories.size) {a : Manner}
    (aside : ∀ flag, a.external = some flag → q.Aside flag) {w : FlagWord}
    (flag : a.flag? q = some w) (masks : a.waitBits ≠ 0 ∧ a.notifyBits ≠ 0)
    {clock : Nat → Instant} (monotone : Monotone clock) {n : Nat}
    (reached : a.deadline.expired (clock n) = true) {data : List t.Value} (some : data ≠ []) :
    q.LoneWrite data a w clock s := by
  have beside := a.aside_flag sound aside flag
  have first : first q data a = .go .begin := by
    rw [first_eq, if_neg some, if_neg (by simp [flag]), if_neg (by simp [masks])]
  have manner : inManner q data a = ⟨q, data, .some ⟨w, a.waitBits, a.notifyBits, a.deadline⟩⟩ := by
    simp [inManner, Manner.waiting?, flag]
  constructor
  · intro m' written
    rw [first, manner]
    exact (ends_of_write mapped some written).alone (n := 0) rfl rfl
  · intro e m' refused now
    rw [first, manner]
    obtain ⟨same, judged⟩ := Queue.write_eq_error some refused
    have last (now' : Instant) : step ⟨q, data, .some ⟨w, a.waitBits, a.notifyBits, a.deadline⟩⟩
        now' s (.judge (q.writePos (q.memory s))) = (s, .finish (.error e)) := by
      rw [judge_refused judged]
      simp only [refuse, now]
      rfl
    exact ⟨(Ends.go (fun _ => rfl) (.last last)).alone (n := 0) rfl rfl, same⟩
  · intro e m' refused later
    rw [first, manner]
    obtain ⟨rfl, judged⟩ := Queue.write_eq_error some refused
    obtain ⟨s', ends, kept⟩ := gives_up ⟨w, a.waitBits, a.notifyBits, a.deadline⟩
      sound beside mapped later judged monotone reached
    refine ⟨third_step _ later judged clock, s', ends, kept, ?_⟩
    split at kept
    · exact kept ▸ .refl ..
    · exact agree_of_same ⟨w, a.waitBits, a.notifyBits, a.deadline⟩ beside mapped kept

end SharedQueue
