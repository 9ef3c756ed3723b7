/-
SharedQueue.Proofs.BlockingWrite — a write that waits for room, among others
who may do anything.

* `Manner` — how a call is asked to wait; `Manner.waiting?` and
  `WriteCall.first` are how it then waits and begins, in a session too
  (`Session.beginWrite_eq`).
* `Queue.Calm` — steps that change nothing of a queue but flag words;
  `Queue.Aside` — a flag word that is no part of the ring.
* `Queue.Writes` — steps among which exactly one write was carried through.
* `WriteCall.Stands` — where a call stands tells what its steps have done:
  nothing before the attempt that succeeds, and nothing more after it
  (`WriteCall.stands_step`).
* `Queue.WroteOnce`, `wrote_once` — what a call that has ended has done.
* `Queue.Landed` — what that comes to, if nobody else writes.
-/
import SharedQueue.Proofs.Among
import SharedQueue.Proofs.Calls
import SharedQueue.Proofs.Likeness
import SharedQueue.Session.Task

namespace SharedQueue

/-! ## How a call waits -/

/-- How a call is asked to wait. -/
structure Manner where
  /-- A flag to wait on, instead of the queue's own. -/
  external : Option FlagWord
  waitBits : UInt32
  notifyBits : UInt32
  deadline : Deadline

namespace Manner

variable {t : ElementType}

/-- The flag to wait on, if there is one. -/
def flag? (a : Manner) (q : Queue t) : Option FlagWord :=
  match a.external with
  | some flag => some flag
  | none => q.flagWord?

/-- How the call waits. -/
def waiting? (a : Manner) (q : Queue t) : Option Waiting :=
  (a.flag? q).map fun flag => ⟨flag, a.waitBits, a.notifyBits, a.deadline⟩

end Manner

/-- How a blocking write begins. -/
def WriteCall.first {t : ElementType} (q : Queue t) (data : List t.Value) (a : Manner) :
    WriteCall.Next :=
  match a.external with
  | some _ => startOn data a.waitBits a.notifyBits
  | none => startOwn q data a.waitBits a.notifyBits

/-- A write that waits. -/
def WriteCall.inManner {t : ElementType} (q : Queue t) (data : List t.Value) (a : Manner) :
    WriteCall t :=
  ⟨q, data, a.waiting? q⟩

/-- The manner of a call in a session. -/
def Session.manner (s : Session) (now : Instant) (p : Patience) : Manner where
  external := p.flag.bind fun name => (s.flag? name).map Session.regionWord
  waitBits := p.waitBits
  notifyBits := p.notifyBits
  deadline := Deadline.after now p.timeout

/-- This is how writes in a session begin and go on. -/
theorem Session.beginWrite_eq {s : Session} {p : Patience} (named : s.lacksFlag p = false)
    (now : Instant) {t : ElementType} (q : Queue t) (data : List t.Value) :
    s.beginWrite now q data p =
      (WriteCall.first q data (s.manner now p)).within s
        (.writing t (.inManner q data (s.manner now p))) (s.writeDone ·) := by
  obtain ⟨flag, waitBits, notifyBits, timeout⟩ := p
  cases flag with
  | none => rfl
  | some name =>
    cases there : s.flag? name with
    | none => simp [Session.lacksFlag, there] at named
    | some region =>
      simp [Session.beginWrite, Session.manner, WriteCall.first, WriteCall.inManner,
        Manner.waiting?, Manner.flag?, Session.waitWord?, Session.waiting, there]

/-! ## Steps that leave the ring alone -/

namespace Queue

variable {t : ElementType} {q : Queue t} {flag : FlagWord} {s : Store} {log log' : Log}

/-- The steps change nothing of the queue but flag words. -/
def Calm (q : Queue t) (log : Log) : Prop :=
  ∀ entry ∈ log, q.descriptor.AgreeUpTo 0 entry.1 entry.2

/-- The word is no part of the ring. -/
def Aside (q : Queue t) (flag : FlagWord) : Prop :=
  flag.memory = q.region.memory → ∀ cell g, cell ≠ .word .eventFlag →
    q.descriptor.cell? cell = some g → Grantor.Apart ⟨flag.offset, flagSize⟩ g

theorem calm_nil (q : Queue t) : q.Calm [] := by
  simp [Calm]

theorem Calm.append (left : q.Calm log) (right : q.Calm log') : q.Calm (log ++ log') := by
  intro entry mem
  rcases List.mem_append.mp mem with mem | mem
  · exact left entry mem
  · exact right entry mem

theorem Calm.step (calm : q.Calm log) {m m' : Memory} (agree : q.descriptor.AgreeUpTo 0 m m') :
    q.Calm (log ++ [(m, m')]) := by
  refine calm.append fun entry mem => ?_
  rw [List.mem_singleton.mp mem]
  exact agree

/-- A step that only looks. -/
theorem Calm.look (calm : q.Calm log) (m : Memory) : q.Calm (log ++ [(m, m)]) :=
  calm.step (.refl _ 0 m)

/-- The queue's own flag is no part of its ring. -/
theorem aside_own (sound : q.Sound) (own : q.flagWord? = some flag) : q.Aside flag := by
  obtain ⟨g, there, rfl⟩ := Option.map_eq_some_iff.mp own
  intro _ cell h other cell?
  have place : q.descriptor.place? .eventFlag = some ⟨g.offset, flagSize⟩ := by
    simp [Descriptor.place?, there]
  exact sound.spread.apart other.symm (Descriptor.word_of_place (by decide) place) cell?

theorem agree_store32 (aside : q.Aside flag) (same : flag.memory = q.region.memory) (m : Memory)
    (v : UInt32) : q.descriptor.AgreeUpTo 0 m (m.store32 flag.offset v) := by
  refine ⟨fun {cell g a} other there covers => ?_, fun _ => by simp⟩
  have apart := aside same cell g other there
  have outside : ¬ Grantor.Covers ⟨flag.offset, flagSize⟩ a := apart.symm.not_covers covers
  unfold Memory.store32 Memory.storeNat
  rw [Memory.byte_setBytes]
  unfold Grantor.Covers at outside
  split
  · rename_i after
    have beyond : (Bytes.ofNat 4 v.toNat).length ≤ a - flag.offset := by
      simp only [Grantor.stop, flagSize] at outside
      rw [Bytes.length_ofNat]
      omega
    rw [List.getElem?_eq_none beyond, Option.getD_none]
  · rfl

/-- An access to a flag word that is no part of the ring. -/
theorem agree_update (aside : q.Aside flag) (mapped : q.region.memory < s.memories.size)
    {f : Memory → Memory} {v : Memory → UInt32}
    (stores : ∀ m, f m = m.store32 flag.offset (v m)) :
    q.descriptor.AgreeUpTo 0 (q.memory s) (q.memory (s.update flag.memory f)) := by
  by_cases same : flag.memory = q.region.memory
  · have there : q.memory (s.update flag.memory f) = f (q.memory s) := by
      rw [same]
      exact Store.memory_setMemory mapped _
    rw [there, stores]
    exact agree_store32 aside same _ _
  · have there : q.memory (s.update flag.memory f) = q.memory s := by
      simp [Queue.memory, Store.update, Store.setMemory, Store.memory, same]
    rw [there]
    exact .refl _ 0 _

theorem Calm.raiseWord (calm : q.Calm log) (aside : q.Aside flag)
    (mapped : q.region.memory < s.memories.size) (mask : UInt32) :
    q.Calm (log ++ [(q.memory s, q.memory (s.raiseWord flag mask))]) :=
  calm.step (agree_update aside mapped fun _ => rfl)

theorem Calm.clearWord (calm : q.Calm log) (aside : q.Aside flag)
    (mapped : q.region.memory < s.memories.size) (mask : UInt32) :
    q.Calm (log ++ [(q.memory s, q.memory (s.clearWord flag mask))]) :=
  calm.step (agree_update aside mapped fun _ => rfl)

/-! ## A write that is carried through -/

/-- The steps that open a write: the counters are looked at and leave room, and
then it is announced, if that is done at all. -/
def Opens (q : Queue t) (pos : UInt64) (count : Nat) (steps : Log) : Prop :=
  ∃ m₁ m₂, pos = q.writePos m₁ ∧
    q.flavor.checkWrite q.capacity pos (q.readPos m₂) count = .ok () ∧
    ((q.descriptor.writeReserve = none ∧ steps = [(m₁, m₁), (m₂, m₂)]) ∨
      q.descriptor.writeReserve.isSome ∧ ∃ m₃,
        steps = [(m₁, m₁), (m₂, m₂), (m₃, q.reserve m₃ (pos + UInt64.ofNat count))])

/-- The steps contain one write of the data: the slots of a single stretch of
positions are filled and then published. All other steps leave the ring
alone. -/
def Writes (q : Queue t) (data : List t.Value) (log : Log) : Prop :=
  ∃ before opening after pos m₄ m₅,
    log = before ++ opening ++ [(m₄, q.fill m₄ pos data),
      (m₅, q.publish m₅ (pos + UInt64.ofNat data.length))] ++ after ∧
    q.Calm before ∧ q.Opens pos data.length opening ∧ q.Calm after

theorem Writes.append {data : List t.Value} (writes : q.Writes data log) {m m' : Memory}
    (calm : q.Calm (([] : Log) ++ [(m, m')])) : q.Writes data (log ++ [(m, m')]) := by
  obtain ⟨before, opening, after, pos, m₄, m₅, rfl, left, opens, right⟩ := writes
  exact ⟨before, opening, after ++ [(m, m')], pos, m₄, m₅, by simp, left, opens,
    right.append calm⟩

end Queue

/-! ## Where a write stands -/

/-- Only a call that has not begun ends in it. -/
def Error.early : Error → Bool
  | .noEventFlag | .emptyBitmask => true
  | _ => false

theorem Error.ne_of_late {e : Error} (late : e.early = false) :
    e ≠ .noEventFlag ∧ e ≠ .emptyBitmask := by
  constructor
  · rintro rfl
    cases late
  · rintro rfl
    cases late

/-- A write is refused late, and for now only if it fits the ring. -/
theorem checkWrite_error {flavor : Flavor} {capacity count : Nat} {writePos readPos : UInt64}
    {e : Error} (refused : flavor.checkWrite capacity writePos readPos count = .error e) :
    e.early = false ∧ (count ≤ capacity → e.retryable = true) := by
  unfold Flavor.checkWrite Flavor.checkCapacity at refused
  by_cases large : capacity < count
  · rw [if_pos large] at refused
    cases refused
    exact ⟨rfl, fun fits => absurd large (Nat.not_lt.mpr fits)⟩
  · rw [if_neg large] at refused
    cases flavor with
    | unsynchronized => cases refused
    | synchronized =>
      simp only [bind, Except.bind] at refused
      split at refused
      · cases refused
        exact ⟨rfl, fun _ => rfl⟩
      · cases refused

namespace WriteCall

variable {t : ElementType} {c : WriteCall t} {log : Log} {s : Store} {p : WritePoint}

/-- What the steps of a call have done when it stands at a point. -/
def At (c : WriteCall t) (log : Log) : WritePoint → Prop
  | .begin | .expire | .clear | .observe | .recount _ | .recheck .. | .park _ =>
    c.queue.Calm log
  | .judge pos => ∃ calm m, log = calm ++ [(m, m)] ∧ c.queue.Calm calm ∧
    pos = c.queue.writePos m
  | .reserve pos => ∃ calm m₁ m₂, log = calm ++ [(m₁, m₁), (m₂, m₂)] ∧ c.queue.Calm calm ∧
    pos = c.queue.writePos m₁ ∧ c.queue.descriptor.writeReserve.isSome ∧
    c.queue.flavor.checkWrite c.queue.capacity pos (c.queue.readPos m₂) c.data.length = .ok ()
  | .fill pos => ∃ calm opening, log = calm ++ opening ∧ c.queue.Calm calm ∧
    c.queue.Opens pos c.data.length opening
  | .publish pos => ∃ calm opening m, log = calm ++ opening ++ [(m, c.queue.fill m pos c.data)] ∧
    c.queue.Calm calm ∧ c.queue.Opens pos c.data.length opening
  | .raiseOwn | .signalOwn | .raiseNotify | .signalNotify | .done => c.queue.Writes c.data log

/-- The same for a move: a call that ends well has written, and one that ends
in an error has not. -/
def Stands (c : WriteCall t) (log : Log) (move : Next) : Prop :=
  match move with
  | .finish (.ok ()) => c.queue.Writes c.data log
  | .finish (.error e) => c.queue.Calm log ∧ e.early = false
  | .go p | .signal _ _ p | .park _ _ _ p | .pause _ p => c.At log p

theorem stands_refuse {e : Error} (calm : c.queue.Calm log) (late : e.early = false) :
    c.Stands log (c.refuse e) := by
  unfold refuse
  split
  · split
    · exact calm
    · exact ⟨calm, late⟩
  · exact ⟨calm, late⟩

theorem at_afterOwn (writes : c.queue.Writes c.data log) : c.At log c.afterOwn := by
  unfold afterOwn
  split <;> exact writes

theorem memory_change (mapped : c.queue.region.memory < s.memories.size) (f : Memory → Memory) :
    c.queue.memory (c.change s f) = f (c.queue.memory s) :=
  Store.memory_setMemory mapped _

/-- The steps of an attempt. -/
theorem stands_attempt (sound : c.queue.Sound) (mapped : c.queue.region.memory < s.memories.size)
    (early : p.late = false) (here : c.At log p) (now : Instant) :
    c.Stands (log ++ [(c.queue.memory s, c.queue.memory (c.step now s p).1)])
      (c.step now s p).2 := by
  cases p with
  | begin => exact ⟨log, _, rfl, here, rfl⟩
  | judge pos =>
    obtain ⟨calm, m, rfl, still, rfl⟩ := here
    unfold step
    dsimp only
    split
    · rename_i e refused
      exact stands_refuse ((still.look m).look _) (checkWrite_error refused).1
    · rename_i admitted
      cases reserve : c.queue.descriptor.writeReserve with
      | none => exact ⟨calm, _, by simp, still, m, _, rfl, admitted, .inl ⟨reserve, rfl⟩⟩
      | some g => exact ⟨calm, m, _, by simp, still, rfl, by simp [reserve], admitted⟩
  | reserve pos =>
    obtain ⟨calm, m₁, m₂, rfl, still, rfl, announced, admitted⟩ := here
    unfold step
    dsimp only
    rw [memory_change mapped]
    exact ⟨calm, _, List.append_assoc .., still, m₁, m₂, rfl, admitted,
      .inr ⟨announced, _, rfl⟩⟩
  | fill pos =>
    obtain ⟨calm, opening, rfl, still, opens⟩ := here
    unfold step
    dsimp only
    rw [memory_change mapped]
    exact ⟨calm, opening, _, rfl, still, opens⟩
  | publish pos =>
    obtain ⟨calm, opening, m, rfl, still, opens⟩ := here
    unfold step
    dsimp only
    rw [memory_change mapped]
    have writes : c.queue.Writes c.data (calm ++ opening ++ [(m, c.queue.fill m pos c.data)] ++
        [(c.queue.memory s, c.queue.publish (c.queue.memory s) (c.stop pos))]) :=
      ⟨calm, opening, [], pos, m, c.queue.memory s, by simp [stop], still, opens,
        c.queue.calm_nil⟩
    split
    · exact writes
    · exact at_afterOwn writes
  | raiseOwn =>
    have writes : c.queue.Writes c.data log := here
    unfold step
    dsimp only
    split
    · exact at_afterOwn (writes.append (c.queue.calm_nil.look _))
    · rename_i w own
      have raised := writes.append
        (c.queue.calm_nil.raiseWord (Queue.aside_own sound own) mapped notEmpty)
      dsimp only [Stands]
      split
      · exact raised
      · exact at_afterOwn raised
  | signalOwn =>
    have writes : c.queue.Writes c.data log := here
    unfold step
    dsimp only
    split
    · exact at_afterOwn (writes.append (c.queue.calm_nil.look _))
    · exact at_afterOwn (writes.append (c.queue.calm_nil.look _))
  | done => exact here.append (c.queue.calm_nil.look _)
  | _ => cases early

/-- The steps of a call besides those of its attempts. -/
theorem stands_waiting {wait : Waiting} (waits : c.waiting = some wait)
    (aside : c.queue.Aside wait.flag) (mapped : c.queue.region.memory < s.memories.size)
    (late : p.late = true) (here : c.At log p) (now : Instant) :
    c.Stands (log ++ [(c.queue.memory s, c.queue.memory (c.step now s p).1)])
      (c.step now s p).2 := by
  cases p with
  | raiseNotify =>
    have writes : c.queue.Writes c.data log := here
    have raised := writes.append (c.queue.calm_nil.raiseWord aside mapped wait.notifyBits)
    unfold step
    simp only [waits, Stands]
    split
    · exact raised
    · exact raised
  | signalNotify =>
    have writes : c.queue.Writes c.data log := here
    unfold step
    simp only [waits]
    exact writes.append (c.queue.calm_nil.look _)
  | expire =>
    have calm : c.queue.Calm log := here
    unfold step
    simp only [waits]
    split
    · exact ⟨calm.look _, rfl⟩
    · exact calm.look _
  | clear =>
    have calm : c.queue.Calm log := here
    unfold step
    simp only [waits]
    exact calm.clearWord aside mapped wait.waitBits
  | observe =>
    have calm : c.queue.Calm log := here
    unfold step
    simp only [waits, Stands]
    split
    · exact calm.look _
    · exact calm.look _
  | recount seen =>
    have calm : c.queue.Calm log := here
    unfold step
    simp only [waits]
    exact calm.look _
  | recheck seen pos =>
    have calm : c.queue.Calm log := here
    unfold step
    simp only [waits, Stands]
    split
    · exact calm.look _
    · exact calm.look _
  | park seen =>
    have calm : c.queue.Calm log := here
    unfold step
    simp only [waits]
    split
    · exact calm.look _
    · exact calm.look _
  | _ => cases late

theorem stands_step (sound : c.queue.Sound) {wait : Waiting} (waits : c.waiting = some wait)
    (aside : c.queue.Aside wait.flag) (mapped : c.queue.region.memory < s.memories.size)
    (here : c.At log p) (now : Instant) :
    c.Stands (log ++ [(c.queue.memory s, c.queue.memory (c.step now s p).1)])
      (c.step now s p).2 := by
  cases late : p.late with
  | false => exact stands_attempt sound mapped late here now
  | true => exact stands_waiting waits aside mapped late here now

theorem at_of_stands {move : Next} (stands : c.Stands log move) (next : move.next? = some p) :
    c.At log p := by
  cases move <;> cases next <;> exact stands

end WriteCall

/-! ## What a write that has ended has done -/

namespace Queue

variable {t : ElementType} {q : Queue t} {log : Log} {m m' : Memory} {data : List t.Value}

/-- What only the writer changes. -/
def ring (q : Queue t) (m : Memory) : UInt64 × UInt64 × (Nat → t.Value) :=
  (q.writePos m, q.reservation m, q.quantumAt m)

/-- The data stands behind what was published before, and is published; the
slots of other positions are as they were. -/
structure Landed (q : Queue t) (data : List t.Value) (m m' : Memory) : Prop where
  written : q.writePos m' = q.writePos m + UInt64.ofNat data.length
  quanta : q.quanta m' (q.writePos m).toNat data.length = data
  beside : ∀ p, (∀ i < data.length,
    p % q.capacity ≠ ((q.writePos m).toNat + i) % q.capacity) → q.quantumAt m' p = q.quantumAt m p
  reserved : q.reservation m' = if q.descriptor.writeReserve.isSome then
    max (q.reservation m) (q.writePos m + UInt64.ofNat data.length) else q.reservation m

theorem ring_of_agree (sound : q.Sound) (agree : q.descriptor.AgreeUpTo 0 m m') :
    q.ring m' = q.ring m := by
  have quanta : q.quantumAt m' = q.quantumAt m := by
    funext p
    exact loadSlot_of_agree sound agree (Nat.mod_lt p sound.capacity_pos)
  simp only [ring, writePos_of_agree agree, reservation_of_agree agree, quanta]

theorem ring_of_calm (sound : q.Sound) (calm : q.Calm log) {a b : UInt64 × UInt64 × (Nat → t.Value)}
    (linked : Linked q.ring a log b) : a = b :=
  linked.eq_of_still fun entry mem => ring_of_agree sound (calm entry mem)

theorem ring_reserve (sound : q.Sound) {g : Grantor} (there : q.descriptor.writeReserve = some g)
    (m : Memory) (stop : UInt64) :
    q.ring (q.reserve m stop) = ((q.ring m).1, max (q.ring m).2.1 stop, (q.ring m).2.2) := by
  have only := reserve_only q m stop
  have quanta : q.quantumAt (q.reserve m stop) = q.quantumAt m :=
    funext (quantumAt_of_only sound only (by decide))
  have raised : q.reservation (q.reserve m stop) = max (q.reservation m) stop := by
    simp only [reservation, reserve, there, Memory.load64_store64]
  simp only [ring, writePos_of_only sound only (by decide), quanta, raised]

theorem ring_fill (sound : q.Sound) (m : Memory) (pos : UInt64) (fits : data.length ≤ q.capacity) :
    q.ring (q.fill m pos data) =
      ((q.ring m).1, (q.ring m).2.1, q.quantumAt (q.fill m pos data)) := by
  have only := fill_only sound m pos fits
  simp only [ring, writePos_of_only sound only (by decide),
    reservation_of_only sound only (by decide)]

theorem ring_publish (sound : q.Sound) (m : Memory) (pos : UInt64) :
    q.ring (q.publish m pos) = (pos, (q.ring m).2) := by
  have only := publish_only q m pos
  have quanta : q.quantumAt (q.publish m pos) = q.quantumAt m :=
    funext (quantumAt_of_only sound only (by decide))
  have moved : q.writePos (q.publish m pos) = pos := Memory.load64_store64 m _ pos
  simp only [ring, moved, reservation_of_only sound only (by decide), quanta]

theorem ring_release (sound : q.Sound) (m : Memory) (pos : UInt64) :
    q.ring (q.release m pos).2 = q.ring m := by
  have only := release_only sound m pos
  have quanta : q.quantumAt (q.release m pos).2 = q.quantumAt m :=
    funext (quantumAt_of_only sound only (by decide))
  simp only [ring, writePos_of_only sound only (by decide),
    reservation_of_only sound only (by decide), quanta]

/-- Opening a write announces it, and does nothing else. -/
theorem Opens.ring (sound : q.Sound) {pos : UInt64} {count : Nat} {steps : Log}
    (opens : q.Opens pos count steps) {b : UInt64 × UInt64 × (Nat → t.Value)}
    (linked : Linked q.ring (q.ring m) steps b) :
    pos = q.writePos m ∧ count ≤ q.capacity ∧
      b = (pos, if q.descriptor.writeReserve.isSome then
        max (q.reservation m) (pos + UInt64.ofNat count) else q.reservation m, q.quantumAt m) := by
  obtain ⟨m₁, m₂, rfl, admitted, steps⟩ := opens
  obtain ⟨fits, -⟩ := checkWrite_eq_ok admitted
  rcases steps with ⟨absent, rfl⟩ | ⟨present, m₃, rfl⟩
  · simp only [Linked] at linked
    obtain ⟨first, second, rfl⟩ := linked
    have pos : q.writePos m = q.writePos m₁ := by
      simpa only [Queue.ring] using congrArg Prod.fst first
    refine ⟨pos.symm, fits, ?_⟩
    rw [← second, ← first, ← pos]
    simp [Queue.ring, absent]
  · simp only [Linked] at linked
    obtain ⟨first, second, third, rfl⟩ := linked
    have pos : q.writePos m = q.writePos m₁ := by
      simpa only [Queue.ring] using congrArg Prod.fst first
    obtain ⟨g, there⟩ := Option.isSome_iff_exists.mp present
    refine ⟨pos.symm, fits, ?_⟩
    rw [ring_reserve sound there, ← third, ← second, ← first, ← pos, if_pos present]
    simp only [Queue.ring]

/-- One write, if nobody else writes. -/
theorem Writes.landed (sound : q.Sound) (writes : q.Writes data log)
    (linked : Linked q.ring (q.ring m) log (q.ring m')) : q.Landed data m m' := by
  obtain ⟨before, opening, after, pos, m₄, m₅, rfl, calm, opens, calm'⟩ := writes
  obtain ⟨c, most, tail⟩ := linked.exists_of_append
  obtain ⟨b, start, filled, published, rfl⟩ := most.exists_of_append
  obtain ⟨a, head, opened⟩ := start.exists_of_append
  have same := ring_of_calm sound calm head
  subst same
  have last := ring_of_calm sound calm' tail
  obtain ⟨rfl, fits, rfl⟩ := opens.ring sound opened
  rw [ring_publish sound, ← published, ring_fill sound _ _ fits, ← filled] at last
  obtain ⟨written, rest⟩ := Prod.mk.inj last
  obtain ⟨reserved, quanta⟩ := Prod.mk.inj rest
  have slots : q.quantumAt m₄ = q.quantumAt m := (congrArg (·.2.2) filled).symm
  constructor
  · exact written.symm
  · apply List.ext_getElem (by simp)
    intro i hi hi'
    rw [getElem_quanta, ← quanta]
    exact quantumAt_fill q m₄ _ fits hi'
  · intro p other
    rw [← quanta, quantumAt_fill_of_ne q m₄ _ sound.capacity_pos fits other, slots]
  · exact reserved.symm

/-- What a blocking write that has ended in an answer has done. The log is that
of its own steps; the memory was `m` at the beginning and is `m'` now, and
`single` says that nobody else writes to the queue. -/
structure WroteOnce (q : Queue t) (a : Manner) (data : List t.Value) (single : Prop) (log : Log)
    (m m' : Memory) (answer : Except Error Unit) : Prop where
  /-- Success: the data was published once, unless there was nothing to write. -/
  ok : answer = .ok () → data = [] ∧ log = [] ∨ data ≠ [] ∧ q.Writes data log
  /-- Failure: nothing was published, announced or put into a slot. -/
  error : ∀ e, answer = .error e → q.Calm log
  landed : single → answer = .ok () → data ≠ [] → q.Landed data m m'
  ring_eq : single → answer ≠ .ok () ∨ data = [] → q.ring m' = q.ring m
  /-- A missing flag is reported only for data, and before anything else. -/
  noEventFlag : answer = .error .noEventFlag ↔ data ≠ [] ∧ a.flag? q = none
  /-- So is an empty mask, if there is a flag. -/
  emptyBitmask : answer = .error .emptyBitmask ↔
    data ≠ [] ∧ (a.flag? q).isSome ∧ (a.waitBits = 0 ∨ a.notifyBits = 0)
  /-- Neither is preceded by a step. -/
  early : ∀ e, answer = .error e → e.early = true → log = []

/-- A write that ends in an error. -/
theorem WroteOnce.of_error (sound : q.Sound) {a : Manner} {single : Prop} {e : Error}
    (calm : q.Calm log) (linked : single → Linked q.ring (q.ring m) log (q.ring m'))
    (flagless : e = .noEventFlag ↔ data ≠ [] ∧ a.flag? q = none)
    (maskless : e = .emptyBitmask ↔
      data ≠ [] ∧ (a.flag? q).isSome ∧ (a.waitBits = 0 ∨ a.notifyBits = 0))
    (early : e.early = true → log = []) :
    q.WroteOnce a data single log m m' (.error e) := by
  constructor
  case ok => simp
  case error => simpa using calm
  case landed => simp
  case ring_eq => exact fun alone _ => (ring_of_calm sound calm (linked alone)).symm
  case noEventFlag => simpa using flagless
  case emptyBitmask => simpa using maskless
  case early => simpa using early

/-- A write that succeeds. -/
theorem WroteOnce.of_writes (sound : q.Sound) {a : Manner} {single : Prop} (some : data ≠ [])
    (linked : single → Linked q.ring (q.ring m) log (q.ring m')) (writes : q.Writes data log)
    (flag : (a.flag? q).isSome) (masks : ¬ (a.waitBits = 0 ∨ a.notifyBits = 0)) :
    q.WroteOnce a data single log m m' (.ok ()) := by
  constructor
  case ok => exact fun _ => .inr ⟨some, writes⟩
  case landed => exact fun alone _ _ => writes.landed sound (linked alone)
  case ring_eq => simp [some]
  case noEventFlag => simp [Option.isSome_iff_ne_none.mp flag]
  case emptyBitmask => simp [masks]
  all_goals simp

/-- A write of nothing. -/
theorem WroteOnce.of_nil {a : Manner} {single : Prop} (empty : data = [])
    (linked : single → Linked q.ring (q.ring m) [] (q.ring m')) :
    q.WroteOnce a data single [] m m' (.ok ()) := by
  constructor
  case ok => simp [empty]
  case ring_eq => exact fun alone _ => (linked alone).symm
  all_goals simp [empty]

end Queue

/-- The flag that a call waits on is no part of the ring, if that holds for a
flag that the caller names. -/
theorem Manner.aside_flag {t : ElementType} {q : Queue t} {flag : FlagWord} (a : Manner)
    (sound : q.Sound)
    (aside : ∀ flag, a.external = some flag → q.Aside flag) (there : a.flag? q = some flag) :
    q.Aside flag := by
  unfold Manner.flag? at there
  cases external : a.external with
  | some named =>
    rw [external] at there
    cases there
    exact aside flag external
  | none =>
    rw [external] at there
    exact Queue.aside_own sound there

namespace WriteCall

variable {t : ElementType} {q : Queue t} {data : List t.Value} {a : Manner}

/-- The checks before the first step, in their order. -/
theorem first_eq (q : Queue t) (data : List t.Value) (a : Manner) :
    first q data a =
      if data = [] then .finish (.ok ())
      else if a.flag? q = none then .finish (.error .noEventFlag)
      else if a.waitBits = 0 ∨ a.notifyBits = 0 then .finish (.error .emptyBitmask)
      else .go .begin := by
  unfold first startOwn startOn Manner.flag?
  cases a.external <;> cases q.flagWord? <;> cases data <;> simp

/-- Where a write stands that has passed those checks. -/
theorem stands_of_among (sound : q.Sound) {s₀ s : Store}
    (mapped : q.region.memory < s₀.memories.size)
    (aside : ∀ flag, a.external = some flag → q.Aside flag) {others : Store → Store → Prop}
    (grows : ∀ s s', others s s' → s.memories.size ≤ s'.memories.size) {word : FlagWord}
    (flag : a.flag? q = some word) {log : Log} {move : Next}
    (among : Among q.memory others (inManner q data a).step s₀ (.go .begin) log s move) :
    (inManner q data a).Stands log move := by
  have beside := a.aside_flag sound aside flag
  have waits : (inManner q data a).waiting =
      some ⟨word, a.waitBits, a.notifyBits, a.deadline⟩ := by
    simp [inManner, Manner.waiting?, flag]
  have begun : (inManner q data a).Stands [] (.go .begin) := q.calm_nil
  exact among.stands grows (fun now s p => size_step _ now s p) mapped begun
    fun now there stands next =>
      stands_step (c := inManner q data a) sound waits beside there (at_of_stands stands next) now

/-- What a write that waits has done when it has ended. -/
theorem wrote_once (sound : q.Sound) {s₀ s : Store} (mapped : q.region.memory < s₀.memories.size)
    (aside : ∀ flag, a.external = some flag → q.Aside flag) {others : Store → Store → Prop}
    (grows : ∀ s s', others s s' → s.memories.size ≤ s'.memories.size) {log : Log}
    {answer : Except Error Unit}
    (among : Among q.memory others (inManner q data a).step s₀ (first q data a) log s
      (.finish answer)) :
    q.WroteOnce a data (∀ s s', others s s' → q.ring (q.memory s') = q.ring (q.memory s)) log
      (q.memory s₀) (q.memory s) answer := by
  have linked := fun single => among.linked q.ring single
  rw [first_eq] at among
  by_cases empty : data = []
  · rw [if_pos empty] at among
    obtain ⟨rfl, rfl⟩ := among.finished
    exact .of_nil empty linked
  rw [if_neg empty] at among
  cases flag : a.flag? q with
  | none =>
    rw [if_pos flag] at among
    obtain ⟨rfl, rfl⟩ := among.finished
    exact .of_error sound q.calm_nil linked (by simp [empty, flag]) (by simp [flag]) fun _ => rfl
  | some word =>
    rw [if_neg (by simp [flag])] at among
    by_cases masks : a.waitBits = 0 ∨ a.notifyBits = 0
    · rw [if_pos masks] at among
      obtain ⟨rfl, rfl⟩ := among.finished
      exact .of_error sound q.calm_nil linked (by simp [flag]) (by simp [empty, flag, masks])
        fun _ => rfl
    rw [if_neg masks] at among
    have stands := stands_of_among sound mapped aside grows flag among
    cases answer with
    | error e =>
      obtain ⟨calm, late⟩ := stands
      obtain ⟨hasFlag, hasMasks⟩ := Error.ne_of_late late
      exact .of_error sound calm linked (by simp [flag, hasFlag]) (by simp [masks, hasMasks])
        (by simp [late])
    | ok => exact .of_writes sound empty linked stands (by simp [flag]) masks

end WriteCall

end SharedQueue
