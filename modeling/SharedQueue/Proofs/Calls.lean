/-
SharedQueue.Proofs.Calls — the steps of reading and writing calls, as far as
sleeping and waking go.

* `Queue.sight` — the words of a queue's memory that matter here: the flag
  and the two counters. Each access of a call changes one of them at most.
* `Role` — what is expected of a party: its bits, when it has enough, and
  what holds at the points where it may stand; `Role.Goes` says that a step
  is a stride and leads to such a point again.
* `WriteCall.goes`, `ReadCall.goes` — all steps of the calls are like that, if
  they wait with the bits that belong to them on the queue's own flag.
-/
import SharedQueue.Call.Read
import SharedQueue.Call.Write
import SharedQueue.Proofs.Client
import SharedQueue.Proofs.Sleep

namespace SharedQueue

namespace Store

variable (s : Store)

@[simp] theorem size_setMemory (id : MemoryId) (m : Memory) :
    (s.setMemory id m).memories.size = s.memories.size := by
  simp [setMemory]

@[simp] theorem size_update (id : MemoryId) (f : Memory → Memory) :
    (s.update id f).memories.size = s.memories.size := by
  simp [update]

@[simp] theorem size_raiseWord (w : FlagWord) (mask : UInt32) :
    (s.raiseWord w mask).memories.size = s.memories.size := by
  simp [raiseWord]

@[simp] theorem size_clearWord (w : FlagWord) (mask : UInt32) :
    (s.clearWord w mask).memories.size = s.memories.size := by
  simp [clearWord]

variable {s} {w : FlagWord}

theorem wordBits_raiseWord (mapped : w.memory < s.memories.size) (mask : UInt32) :
    (s.raiseWord w mask).wordBits w = s.wordBits w ||| mask := by
  unfold wordBits raiseWord update
  rw [memory_setMemory mapped, EventFlag.bits_raise]

theorem wordBits_clearWord (mapped : w.memory < s.memories.size) (mask : UInt32) :
    (s.clearWord w mask).wordBits w = s.wordBits w &&& ~~~mask := by
  unfold wordBits clearWord update
  rw [memory_setMemory mapped, EventFlag.bits_clear]

end Store

/-! ## The words of a queue -/

namespace Queue

variable {t : ElementType} {q q' : Queue t} {m m' : Memory} {s : Store} {flag : FlagWord}

/-- The flag and the counters in a queue's memory, as the writer looks at
them. -/
def sight (q : Queue t) (m : Memory) : Sight where
  bits := (q.flagBits? m).getD 0
  own := q.writePos m
  other := q.sharedRead m

theorem sight_congr (same : q.descriptor = q'.descriptor) (m : Memory) :
    q.sight m = q'.sight m := by
  cases q
  cases q'
  cases same
  rfl

theorem sight_fill (sound : q.Sound) (m : Memory) (pos : UInt64) {data : List t.Value}
    (fits : data.length ≤ q.capacity) : q.sight (q.fill m pos data) = q.sight m := by
  have only := fill_only sound m pos fits
  simp only [sight, flagBits_of_only sound only (by decide),
    writePos_of_only sound only (by decide), sharedRead_of_only sound only (by decide)]

theorem sight_publish (sound : q.Sound) (m : Memory) (pos : UInt64) :
    q.sight (q.publish m pos) = { q.sight m with own := pos } := by
  have only := publish_only q m pos
  have moved : q.writePos (q.publish m pos) = pos := Memory.load64_store64 m _ pos
  simp only [sight, flagBits_of_only sound only (by decide), moved,
    sharedRead_of_only sound only (by decide)]

theorem sight_release (sound : q.Sound) (flavor : q.flavor = .synchronized) (m : Memory)
    (pos : UInt64) : q.sight (q.release m pos).2 = { q.sight m with other := pos } := by
  have only := release_only sound m pos
  obtain ⟨g, read, cursor⟩ := sound.cursor_shared flavor
  have moved : q.sharedRead (q.release m pos).2 = pos := by
    simp only [sharedRead, read, release, Cursor.store, cursor]
    exact Memory.load64_store64 m _ pos
  simp only [sight, flagBits_of_only sound only (by decide),
    writePos_of_only sound only (by decide), moved]

theorem sight_store32 (sound : q.Sound) {g : Grantor} (there : q.descriptor.eventFlag = some g)
    (m : Memory) (v : UInt32) :
    q.sight (m.store32 g.offset v) = { q.sight m with bits := v } := by
  have only : q.descriptor.Only .eventFlag m (m.store32 g.offset v) :=
    Descriptor.only_store32 (by simp [Descriptor.place?, there]) v
  have stored : q.flagBits? (m.store32 g.offset v) = some v := by
    simp [flagBits?, there, EventFlag.bits, Memory.load32_store32]
  simp only [sight, stored, writePos_of_only sound only (by decide),
    sharedRead_of_only sound only (by decide), Option.getD_some]

theorem sight_notify (sound : q.Sound) (own : q.flagWord? = some flag) (m : Memory)
    (mask : UInt32) :
    q.sight (q.notify m mask) = { q.sight m with bits := (q.sight m).bits ||| mask } := by
  obtain ⟨g, there, -⟩ := Option.map_eq_some_iff.mp own
  have before : (q.sight m).bits = EventFlag.bits m g.offset := by
    simp [sight, flagBits?, there]
  rw [before, ← sight_store32 sound there]
  simp [notify, there, EventFlag.raise]

theorem sight_clearBits (sound : q.Sound) (own : q.flagWord? = some flag) (m : Memory)
    (mask : UInt32) :
    q.sight (q.clearBits m mask) = { q.sight m with bits := (q.sight m).bits &&& ~~~mask } := by
  obtain ⟨g, there, -⟩ := Option.map_eq_some_iff.mp own
  have before : (q.sight m).bits = EventFlag.bits m g.offset := by
    simp [sight, flagBits?, there]
  rw [before, ← sight_store32 sound there]
  simp [clearBits, there, EventFlag.clear]

/-- A handle on a synchronized queue with a flag of its own, in a store that
has the queue's memory. -/
structure Equipped (q : Queue t) (flag : FlagWord) (s : Store) : Prop where
  sound : q.Sound
  flavor : q.flavor = .synchronized
  own : q.flagWord? = some flag
  mapped : q.region.memory < s.memories.size

namespace Equipped

theorem of_size (equipped : q.Equipped flag s) {s' : Store}
    (same : s'.memories.size = s.memories.size) : q.Equipped flag s' where
  sound := equipped.sound
  flavor := equipped.flavor
  own := equipped.own
  mapped := same ▸ equipped.mapped

theorem memory_update (equipped : q.Equipped flag s) (f : Memory → Memory) :
    q.memory (s.update q.region.memory f) = f (q.memory s) :=
  Store.memory_setMemory equipped.mapped _

theorem wordBits_eq (equipped : q.Equipped flag s) :
    s.wordBits flag = (q.sight (q.memory s)).bits := by
  obtain ⟨g, there, rfl⟩ := Option.map_eq_some_iff.mp equipped.own
  simp [Store.wordBits, sight, flagBits?, there, memory]

theorem raiseWord_eq (equipped : q.Equipped flag s) (mask : UInt32) :
    s.raiseWord flag mask = s.update q.region.memory fun m => q.notify m mask := by
  obtain ⟨g, there, rfl⟩ := Option.map_eq_some_iff.mp equipped.own
  simp [Store.raiseWord, notify, there]

theorem clearWord_eq (equipped : q.Equipped flag s) (mask : UInt32) :
    s.clearWord flag mask = s.update q.region.memory fun m => q.clearBits m mask := by
  obtain ⟨g, there, rfl⟩ := Option.map_eq_some_iff.mp equipped.own
  simp [Store.clearWord, clearBits, there]

theorem sight_raiseWord (equipped : q.Equipped flag s) (mask : UInt32) :
    q.sight (q.memory (s.raiseWord flag mask)) =
      { q.sight (q.memory s) with bits := (q.sight (q.memory s)).bits ||| mask } := by
  rw [equipped.raiseWord_eq, equipped.memory_update]
  exact sight_notify equipped.sound equipped.own _ mask

theorem sight_clearWord (equipped : q.Equipped flag s) (mask : UInt32) :
    q.sight (q.memory (s.clearWord flag mask)) =
      { q.sight (q.memory s) with bits := (q.sight (q.memory s)).bits &&& ~~~mask } := by
  rw [equipped.clearWord_eq, equipped.memory_update]
  exact sight_clearBits equipped.sound equipped.own _ mask

theorem readPos_eq (equipped : q.Equipped flag s) (m : Memory) :
    q.readPos m = (q.sight m).other :=
  equipped.sound.readPos_eq equipped.flavor m

end Equipped

end Queue

/-! ## Parties -/

namespace Move

/-- Is it one that wakes sleepers? -/
def signals {σ ρ : Type} : Move σ ρ → Bool
  | .signal .. => true
  | _ => false

/-- What it means for another party. -/
def heard {σ ρ σ' ρ' : Type} (move : Move σ ρ) (other : Party σ' ρ') : Party σ' ρ' :=
  match move with
  | .signal word mask _ => other.hear word mask
  | _ => other

end Move

/-- What is expected of a party. -/
structure Role (σ ρ : Type) where
  /-- The bit that it waits for. -/
  wait : UInt32
  /-- The bit that it raises. -/
  notify : UInt32
  /-- It can go on, given its own counter and the other one. -/
  enough : UInt64 → UInt64 → Prop
  phase : σ → Phase
  phase_ne_asleep : ∀ state, phase state ≠ .asleep
  /-- What holds where it stands. -/
  good : Sight → σ → Prop
  /-- What holds of what it ends in. -/
  done : ρ → Prop

namespace Role

variable {σ ρ : Type} {role : Role σ ρ} {flag : FlagWord} {v v' : Sight} {state next : σ}
  {move : Move σ ρ} {result : ρ} {wake : Deadline}

/-- The phase of a party, whether it is in the middle of a call or not. -/
def phaseOf (role : Role σ ρ) : Party σ ρ → Phase
  | .ready state => role.phase state
  | .parked .. => .asleep
  | _ => .busy

/-- A party stands where it is expected; if it sleeps, then on the flag and
for its bit, and it will try again when it wakes up. -/
def Fits (role : Role σ ρ) (flag : FlagWord) (v : Sight) : Party σ ρ → Prop
  | .ready state => role.good v state
  | .parked word mask _ state =>
    word = flag ∧ mask = role.wait ∧ role.phase state = .busy ∧ role.good v state
  | .finished result => role.done result
  | _ => False

/-- What is expected depends on the words only at the points in the middle of
a call. -/
theorem Fits.of_good {party : Party σ ρ} (fits : role.Fits flag v party)
    (good : ∀ state, role.good v state → role.good v' state) : role.Fits flag v' party := by
  cases party with
  | ready state => exact good state fits
  | parked word mask wake state =>
    obtain ⟨word, mask, busy, there⟩ := fits
    exact ⟨word, mask, busy, good state there⟩
  | finished result => exact fits
  | pausing wake state => exact fits
  | joining first count resume => exact fits

/-- A party that hears a signal stands where it is expected. -/
theorem Fits.heard {σ' ρ' : Type} {party : Party σ ρ} (fits : role.Fits flag v party)
    (move : Move σ' ρ') : role.Fits flag v (move.heard party) := by
  cases move with
  | signal word mask next =>
    cases party with
    | parked own bits wake state =>
      show role.Fits flag v (if _ then _ else _)
      split
      · exact fits.2.2.2
      · exact fits
    | _ => exact fits
  | _ => exact fits

/-- A sleeper goes on where it was to go on. -/
theorem Fits.woken {σ' ρ' : Type} {word : FlagWord} {mask : UInt32} {next : σ'}
    (fits : role.Fits flag v (.parked word mask wake state)) (bit : role.wait ≠ 0) :
    (Move.signal flag role.wait next : Move σ' ρ').heard
      (.parked word mask wake state : Party σ ρ) = .ready state := by
  obtain ⟨rfl, rfl, -, -⟩ := fits
  have shared : role.wait &&& role.wait ≠ 0 := by rwa [UInt32.and_self]
  exact if_pos ⟨rfl, shared⟩

/-- A sleeper is woken by every signal for its bit. -/
theorem Fits.phaseOf_heard {σ' ρ' : Type} {party : Party σ ρ} {move : Move σ' ρ'}
    (fits : role.Fits flag v party)
    (wakes : ∀ {word mask next}, move = .signal word mask next → word = flag ∧ mask = role.wait)
    (bit : role.wait ≠ 0) :
    role.phaseOf (move.heard party) = (role.phaseOf party).hear move.signals := by
  cases move with
  | signal word mask next =>
    obtain ⟨rfl, rfl⟩ := wakes rfl
    cases party with
    | ready state =>
      have awake := role.phase_ne_asleep state
      show role.phase state = (role.phase state).hear true
      cases phase : role.phase state with
      | asleep => exact absurd phase awake
      | _ => rfl
    | parked own bits wake state =>
      rw [fits.woken bit]
      exact fits.2.2.1
    | _ => rfl
  | _ => exact (Phase.hear_false _).symm

/-- Who announces something is in the middle of a call. -/
theorem exists_ready {party : Party σ ρ} (announcing : (role.phaseOf party).announcing = true) :
    ∃ state, party = .ready state ∧ role.phaseOf party = role.phase state := by
  cases party with
  | ready state => exact ⟨state, rfl, rfl⟩
  | _ => cases announcing

/-- A step is a stride, and leads to where the party is expected. -/
structure Goes (role : Role σ ρ) (flag : FlagWord) (v : Sight) (state : σ) (v' : Sight)
    (move : Move σ ρ) : Prop where
  stride : Stride role.wait role.notify role.enough v (role.phase state) v'
    (role.phaseOf (.ofMove move)) move.signals
  fits : role.Fits flag v' (.ofMove move)
  wakes : ∀ {word mask next}, move = .signal word mask next → word = flag ∧ mask = role.notify

theorem Goes.of_go (stride : Stride role.wait role.notify role.enough v (role.phase state) v'
      (role.phase next) false) (good : role.good v' next) :
    role.Goes flag v state v' (.go next) :=
  ⟨stride, good, nofun⟩

theorem Goes.of_back (quiet : (role.phase state).announcing = false) (busy : role.phase next = .busy)
    (good : role.good v next) : role.Goes flag v state v (.go next) := by
  refine .of_go ?_ good
  rw [busy]
  exact .back _ quiet

theorem Goes.of_finish (quiet : (role.phase state).announcing = false) (done : role.done result) :
    role.Goes flag v state v (.finish result) :=
  ⟨.back _ quiet, done, nofun⟩

/-- The bit is raised; what follows depends on whether it was clear. -/
theorem Goes.of_raise (role : Role σ ρ) (next : Bool → σ)
    (raising : role.phase state = .raising)
    (rings : role.phase (next true) = .signalling) (rests : role.phase (next false) = .busy)
    (goodRings : ∀ v, role.good v (next true)) (goodRests : ∀ v, role.good v (next false)) :
    role.Goes flag v state { v with bits := v.bits ||| role.notify }
      (.go (next (EventFlag.signals v.bits role.notify))) := by
  have stride : Stride role.wait role.notify role.enough v .raising
      { v with bits := v.bits ||| role.notify }
      (if EventFlag.signals v.bits role.notify then .signalling else .busy) false := .raise
  rw [← raising] at stride
  cases clear : EventFlag.signals v.bits role.notify with
  | true =>
    rw [clear, if_pos rfl, ← rings] at stride
    exact .of_go stride (goodRings _)
  | false =>
    rw [clear, if_neg Bool.false_ne_true, ← rests] at stride
    exact .of_go stride (goodRests _)

/-- The bit is raised once more. -/
theorem Goes.of_raiseAgain (role : Role σ ρ) (next : Bool → σ)
    (busy : role.phase state = .busy)
    (rings : role.phase (next true) = .resignalling) (rests : role.phase (next false) = .busy)
    (goodRings : ∀ v, role.good v (next true)) (goodRests : ∀ v, role.good v (next false)) :
    role.Goes flag v state { v with bits := v.bits ||| role.notify }
      (.go (next (EventFlag.signals v.bits role.notify))) := by
  have stride : Stride role.wait role.notify role.enough v .busy
      { v with bits := v.bits ||| role.notify }
      (if EventFlag.signals v.bits role.notify then .resignalling else .busy) false := .raiseAgain
  cases clear : EventFlag.signals v.bits role.notify with
  | true =>
    rw [clear, if_pos rfl, ← rings, ← busy] at stride
    exact .of_go stride (goodRings _)
  | false =>
    rw [clear, if_neg Bool.false_ne_true] at stride
    refine .of_go ?_ (goodRests _)
    rw [busy, rests]
    exact stride

theorem Goes.of_signal (stride : Stride role.wait role.notify role.enough v (role.phase state) v'
      (role.phase next) true) (good : role.good v' next) :
    role.Goes flag v state v' (.signal flag role.notify next) := by
  refine ⟨stride, good, ?_⟩
  intro word mask next same
  cases same
  exact ⟨rfl, rfl⟩

theorem Goes.of_park (parking : role.phase state = .parking v.bits)
    (busy : role.phase next = .busy) (good : role.good v next) :
    role.Goes flag v state v (.park flag role.wait wake next) := by
  refine ⟨?_, ⟨rfl, rfl, busy, good⟩, nofun⟩
  rw [parking]
  exact .sleep

end Role

/-- A call waits on the flag, with these bits, if it waits at all. -/
def Usual (flag : FlagWord) (wait notify : UInt32) (waiting : Option Waiting) : Prop :=
  waiting = none ∨ ∃ deadline, waiting = some ⟨flag, wait, notify, deadline⟩

/-! ## Writing calls -/

/-- The phase of a write. -/
def WritePoint.phase : WritePoint → Phase
  | raiseOwn => .raising
  | signalOwn => .signalling
  | signalNotify => .resignalling
  | recount seen => .looked seen
  | recheck seen _ => .looked seen
  | park seen => .parking seen
  | _ => .busy

theorem WritePoint.eq_raiseOwn {p : WritePoint} (raising : p.phase = .raising) :
    p = .raiseOwn := by
  cases p with
  | raiseOwn => rfl
  | _ => cases raising

theorem WritePoint.eq_signalOwn {p : WritePoint} (signalling : p.phase = .signalling) :
    p = .signalOwn := by
  cases p with
  | signalOwn => rfl
  | _ => cases signalling

/-- Only a call that waits comes to this point. -/
def WritePoint.late : WritePoint → Bool
  | raiseNotify | signalNotify | expire | clear | observe => true
  | recount _ | recheck .. | park _ => true
  | _ => false

namespace WriteCall

variable {t : ElementType} {c : WriteCall t} {flag : FlagWord} {s : Store} {p : WritePoint}

/-- What holds between two steps: the batch fits the ring when it is let in,
and nobody else moves the write counter. -/
def Good (c : WriteCall t) (v : Sight) : WritePoint → Prop
  | .reserve _ => c.data.length ≤ c.queue.capacity
  | .fill _ => c.data.length ≤ c.queue.capacity
  | .publish _ => c.data.length ≤ c.queue.capacity
  | .recheck _ pos => pos = v.own
  | .signalNotify => c.waiting.isSome
  | _ => True

/-- What is expected of the party that writes. -/
def role (c : WriteCall t) : Role WritePoint (Except Error Unit) where
  wait := notFull
  notify := notEmpty
  enough own other := c.data.length ≤ Flavor.availableToWrite c.queue.capacity own other
  phase := WritePoint.phase
  phase_ne_asleep p := by cases p <;> nofun
  good := c.Good
  done _ := True

/-- What holds in the middle of a write depends on the write counter only. -/
theorem good_of_own {v v' : Sight} (same : v'.own = v.own) (good : c.Good v p) : c.Good v' p := by
  cases p with
  | recheck seen pos => exact Eq.trans good same.symm
  | _ => exact good

theorem size_step (c : WriteCall t) (now : Instant) (s : Store) (p : WritePoint) :
    (c.step now s p).1.memories.size = s.memories.size := by
  unfold step change
  cases p <;> dsimp only <;> (repeat' split) <;> simp

theorem goes_refuse {v : Sight} {e : Error} (busy : p.phase = .busy) :
    c.role.Goes flag v p v (c.refuse e) := by
  have quiet : (c.role.phase p).announcing = false := by
    simp [role, busy, Phase.announcing]
  unfold refuse
  split
  · split
    · exact .of_back quiet rfl trivial
    · exact .of_finish quiet trivial
  · exact .of_finish quiet trivial

theorem phase_afterOwn (c : WriteCall t) : c.afterOwn.phase = .busy := by
  unfold afterOwn
  split <;> rfl

theorem good_afterOwn (c : WriteCall t) (v : Sight) : c.Good v c.afterOwn := by
  unfold afterOwn
  split <;> trivial

/-- The steps of an attempt. -/
theorem goes_attempt (c : WriteCall t) (equipped : c.queue.Equipped flag s) (now : Instant)
    (good : c.Good (c.queue.sight (c.queue.memory s)) p) (early : p.late = false) :
    c.role.Goes flag (c.queue.sight (c.queue.memory s)) p
      (c.queue.sight (c.queue.memory (c.step now s p).1)) (c.step now s p).2 := by
  cases p with
  | begin => exact .of_back rfl rfl trivial
  | judge pos =>
    unfold step
    dsimp only
    split
    · exact goes_refuse rfl
    · rename_i ok
      obtain ⟨fits, -⟩ := Queue.checkWrite_eq_ok ok
      split
      · exact .of_back rfl rfl fits
      · exact .of_back rfl rfl fits
  | reserve pos =>
    unfold step change
    dsimp only
    rw [equipped.memory_update, Queue.reserve_of_synchronized equipped.sound equipped.flavor]
    exact .of_back rfl rfl good
  | fill pos =>
    unfold step change
    dsimp only
    rw [equipped.memory_update, Queue.sight_fill equipped.sound _ _ good]
    exact .of_back rfl rfl good
  | publish pos =>
    unfold step change
    dsimp only
    rw [equipped.memory_update, Queue.sight_publish equipped.sound, equipped.own]
    exact .of_go (.move _) trivial
  | raiseOwn =>
    unfold step
    simp only [equipped.own]
    rw [equipped.sight_raiseWord, equipped.wordBits_eq]
    exact .of_raise c.role (fun ring => if ring then .signalOwn else c.afterOwn) rfl rfl
      (phase_afterOwn c) (fun _ => trivial) (good_afterOwn c)
  | signalOwn =>
    unfold step
    simp only [equipped.own]
    refine .of_signal ?_ (good_afterOwn c _)
    rw [show c.role.phase c.afterOwn = .busy from phase_afterOwn c]
    exact .signal
  | done => exact .of_finish rfl trivial
  | _ => cases early

/-- The steps of a call that waits, besides those of its attempts. -/
theorem goes_waiting (c : WriteCall t) (equipped : c.queue.Equipped flag s) (now : Instant)
    (good : c.Good (c.queue.sight (c.queue.memory s)) p) (late : p.late = true)
    {deadline : Deadline} (waits : c.waiting = some ⟨flag, notFull, notEmpty, deadline⟩) :
    c.role.Goes flag (c.queue.sight (c.queue.memory s)) p
      (c.queue.sight (c.queue.memory (c.step now s p).1)) (c.step now s p).2 := by
  cases p with
  | raiseNotify =>
    unfold step
    simp only [waits]
    rw [equipped.sight_raiseWord, equipped.wordBits_eq]
    refine .of_raiseAgain c.role (fun ring => if ring then .signalNotify else .done) rfl rfl rfl
      (fun _ => ?_) (fun _ => trivial)
    show c.waiting.isSome = true
    rw [waits]
    rfl
  | signalNotify =>
    unfold step
    simp only [waits]
    exact .of_signal .signalAgain trivial
  | expire =>
    unfold step
    simp only [waits]
    split
    · exact .of_finish rfl trivial
    · exact .of_back rfl rfl trivial
  | clear =>
    unfold step
    simp only [waits]
    rw [equipped.sight_clearWord]
    exact .of_go .clear trivial
  | observe =>
    unfold step
    simp only [waits]
    rw [equipped.wordBits_eq]
    split
    · rename_i unset
      exact .of_go (.look unset) trivial
    · exact .of_back rfl rfl trivial
  | recount seen =>
    unfold step
    simp only [waits]
    exact .of_go (.reckon seen) rfl
  | recheck seen pos =>
    unfold step
    simp only [waits]
    rw [equipped.readPos_eq, show pos = _ from good]
    split
    · exact .of_back rfl rfl trivial
    · rename_i short
      exact .of_go (.judgeNow seen short) trivial
  | park seen =>
    unfold step
    simp only [waits]
    rw [equipped.wordBits_eq]
    split
    · rename_i same
      exact .of_park (congrArg Phase.parking same.symm) rfl trivial
    · exact .of_back rfl rfl trivial
  | _ => cases late

/-- Without a way to wait a call ends at these points. -/
theorem goes_alone (c : WriteCall t) (now : Instant)
    (good : c.Good (c.queue.sight (c.queue.memory s)) p) (late : p.late = true)
    (alone : c.waiting = none) :
    c.role.Goes flag (c.queue.sight (c.queue.memory s)) p
      (c.queue.sight (c.queue.memory (c.step now s p).1)) (c.step now s p).2 := by
  cases p with
  | signalNotify =>
    have waits : c.waiting.isSome := good
    rw [alone] at waits
    cases waits
  | raiseNotify | expire | clear | observe | recount | recheck | park =>
    unfold step
    simp only [alone]
    exact .of_finish rfl trivial
  | _ => cases late

theorem goes (c : WriteCall t) (equipped : c.queue.Equipped flag s)
    (usual : Usual flag notFull notEmpty c.waiting) (now : Instant)
    (good : c.Good (c.queue.sight (c.queue.memory s)) p) :
    c.role.Goes flag (c.queue.sight (c.queue.memory s)) p
      (c.queue.sight (c.queue.memory (c.step now s p).1)) (c.step now s p).2 := by
  cases late : p.late with
  | false => exact goes_attempt c equipped now good late
  | true =>
    rcases usual with alone | ⟨deadline, waits⟩
    · exact goes_alone c now good late alone
    · exact goes_waiting c equipped now good late waits

end WriteCall

/-! ## Reading calls -/

/-- The phase of a read. -/
def ReadPoint.phase : ReadPoint → Phase
  | raiseOwn => .raising
  | signalOwn => .signalling
  | signalNotify => .resignalling
  | recount seen => .looked seen
  | recheck seen writePos => .counted seen writePos
  | park seen => .parking seen
  | _ => .busy

theorem ReadPoint.eq_raiseOwn {p : ReadPoint} (raising : p.phase = .raising) :
    p = .raiseOwn := by
  cases p with
  | raiseOwn => rfl
  | _ => cases raising

theorem ReadPoint.eq_signalOwn {p : ReadPoint} (signalling : p.phase = .signalling) :
    p = .signalOwn := by
  cases p with
  | signalOwn => rfl
  | _ => cases signalling

/-- Only a call that waits comes to this point. -/
def ReadPoint.late : ReadPoint → Bool
  | raiseNotify | signalNotify | expire | clear | observe => true
  | recount _ | recheck .. | park _ => true
  | _ => false

namespace ReadCall

variable {t : ElementType} {c : ReadCall} {q : Queue t} {n : Nat} {flag : FlagWord} {s : Store}
  {st : ReadState t}

/-- What holds between two steps: the handle of a synchronized queue stays as
it is, and the buffer keeps its length. -/
structure Good (c : ReadCall) (q : Queue t) (n : Nat) (st : ReadState t) : Prop where
  queue_eq : st.queue = q
  length_eq : st.buffer.length = n
  waits : st.point = .signalNotify → c.waiting.isSome

/-- What is expected of the party that reads `n` quanta with the handle. -/
def role (c : ReadCall) (q : Queue t) (n : Nat) : Role (ReadState t) (ReadResult t) where
  wait := notEmpty
  notify := notFull
  enough own other := n ≤ Flavor.availableToRead other own
  phase st := st.point.phase
  phase_ne_asleep st := by cases st.point <;> nofun
  good _ := c.Good q n
  done r := r.queue = q

theorem size_step (c : ReadCall) (now : Instant) (s : Store) (st : ReadState t) :
    (c.step now s st).1.memories.size = s.memories.size := by
  obtain ⟨q, buffer, p⟩ := st
  unfold step
  cases p <;> dsimp only <;> (repeat' split) <;> simp

theorem length_take (q : Queue t) (m : Memory) (pos : UInt64) (count : Nat) :
    (q.take m pos count).length = count := by
  simp only [Queue.take, Queue.loadSlots, Queue.runs, Runs.of, List.length_append,
    List.length_map, List.length_range]
  omega

theorem follow_eq (equipped : q.Equipped flag s) (pos : UInt64) : q.follow pos = q := by
  obtain ⟨g, -, cursor⟩ := equipped.sound.cursor_shared equipped.flavor
  cases q with
  | mk descriptor region own =>
    simp only at cursor
    subst cursor
    rfl

theorem Good.goto (good : c.Good q n st) {p : ReadPoint}
    (waits : p = .signalNotify → c.waiting.isSome) : c.Good q n { st with point := p } :=
  ⟨good.queue_eq, good.length_eq, waits⟩

/-- The steps that only bring a read to another point of its attempt. -/
theorem goes_goto {v : Sight} (good : c.Good q n st) (quiet : st.point.phase.announcing = false)
    {p : ReadPoint} (busy : p.phase = .busy) : (c.role q n).Goes flag v st v (st.goto p) := by
  refine .of_back quiet busy (good.goto fun same => ?_)
  rw [same] at busy
  cases busy

theorem goes_refuse {v : Sight} {e : Error} (good : c.Good q n st)
    (quiet : st.point.phase.announcing = false) : (c.role q n).Goes flag v st v (c.refuse st e) := by
  unfold refuse
  split
  · split
    · exact goes_goto good quiet rfl
    · exact .of_finish quiet good.queue_eq
  · exact .of_finish quiet good.queue_eq

theorem phase_afterOwn (c : ReadCall) : c.afterOwn.phase = .busy := by
  unfold afterOwn
  split <;> rfl

theorem afterOwn_ne (c : ReadCall) : c.afterOwn ≠ .signalNotify := by
  unfold afterOwn
  split <;> simp

/-- The steps of an attempt. -/
theorem goes_attempt (c : ReadCall) (equipped : q.Equipped flag s) (now : Instant)
    (good : c.Good q n st) (early : st.point.late = false) :
    (c.role q n).Goes flag (q.sight (q.memory s)).swap st
      (q.sight (q.memory (c.step now s st).1)).swap (c.step now s st).2 := by
  obtain ⟨q, buffer, p⟩ := st
  obtain ⟨rfl, length, waits⟩ := good
  have good (p : ReadPoint) (other : p ≠ .signalNotify) : c.Good q n ⟨q, buffer, p⟩ :=
    ⟨rfl, length, fun same => absurd same other⟩
  cases p with
  | begin => exact goes_goto (good _ (by decide)) rfl rfl
  | judge writePos =>
    unfold step
    simp only [ReadState.follow, follow_eq equipped]
    split
    · exact goes_refuse (good _ (by simp)) rfl
    · exact goes_goto (good _ (by simp)) rfl rfl
  | take pos =>
    exact .of_back rfl rfl ⟨rfl, (length_take ..).trans length, nofun⟩
  | confirm pos =>
    exact goes_goto (good _ (by simp)) rfl rfl
  | verify pos writePos =>
    unfold step
    simp only [ReadState.follow, follow_eq equipped]
    split
    · exact goes_refuse (good _ (by simp)) rfl
    · exact goes_goto (good _ (by simp)) rfl rfl
  | release pos =>
    obtain ⟨g, -, cursor⟩ := equipped.sound.cursor_shared equipped.flavor
    have moved : q.memory (s.setMemory q.region.memory
        (q.release (q.memory s) (pos + UInt64.ofNat buffer.length)).2) =
          (q.release (q.memory s) (pos + UInt64.ofNat buffer.length)).2 :=
      Store.memory_setMemory equipped.mapped _
    unfold step
    simp only [Queue.release_of_shared cursor, equipped.own, moved]
    rw [Queue.sight_release equipped.sound equipped.flavor]
    exact .of_go (.move _) (good _ (by simp))
  | raiseOwn =>
    unfold step
    simp only [equipped.own]
    rw [equipped.sight_raiseWord, equipped.wordBits_eq]
    exact .of_raise (c.role q n)
      (fun ring => ⟨q, buffer, if ring then .signalOwn else c.afterOwn⟩) rfl rfl
      (phase_afterOwn c) (fun _ => good _ (by simp)) (fun _ => good _ (afterOwn_ne c))
  | signalOwn =>
    unfold step
    simp only [equipped.own]
    refine .of_signal ?_ (good _ (afterOwn_ne c))
    rw [show (c.role q n).phase ⟨q, buffer, c.afterOwn⟩ = .busy from phase_afterOwn c]
    exact .signal
  | done => exact .of_finish rfl rfl
  | _ => cases early

/-- The steps of a call that waits, besides those of its attempts. -/
theorem goes_waiting (c : ReadCall) (equipped : q.Equipped flag s) (now : Instant)
    (good : c.Good q n st) (late : st.point.late = true) {deadline : Deadline}
    (waits : c.waiting = some ⟨flag, notEmpty, notFull, deadline⟩) :
    (c.role q n).Goes flag (q.sight (q.memory s)).swap st
      (q.sight (q.memory (c.step now s st).1)).swap (c.step now s st).2 := by
  obtain ⟨q, buffer, p⟩ := st
  obtain ⟨rfl, length, -⟩ := good
  have good (p : ReadPoint) : c.Good q n ⟨q, buffer, p⟩ :=
    ⟨rfl, length, fun _ => by simp [waits]⟩
  cases p with
  | raiseNotify =>
    unfold step
    simp only [waits]
    rw [equipped.sight_raiseWord, equipped.wordBits_eq]
    exact .of_raiseAgain (c.role q n)
      (fun ring => ⟨q, buffer, if ring then .signalNotify else .done⟩) rfl rfl rfl
      (fun _ => good _) (fun _ => good _)
  | signalNotify =>
    unfold step
    simp only [waits]
    exact .of_signal .signalAgain (good _)
  | expire =>
    unfold step
    simp only [waits]
    split
    · exact .of_finish rfl rfl
    · exact .of_back rfl rfl (good _)
  | clear =>
    unfold step
    simp only [waits]
    rw [equipped.sight_clearWord]
    exact .of_go .clear (good _)
  | observe =>
    unfold step
    simp only [waits]
    rw [equipped.wordBits_eq]
    split
    · rename_i unset
      exact .of_go (.look unset) (good _)
    · exact .of_back rfl rfl (good _)
  | recount seen =>
    unfold step
    simp only [waits]
    exact .of_go (.count seen) (good _)
  | recheck seen writePos =>
    unfold step
    simp only [waits]
    rw [equipped.readPos_eq]
    split
    · exact .of_back rfl rfl (good _)
    · rename_i short
      rw [length] at short
      exact .of_go (.judge seen writePos short) (good _)
  | park seen =>
    unfold step
    simp only [waits, sleepEnd, equipped.flavor]
    rw [equipped.wordBits_eq]
    split
    · rename_i same
      exact .of_park (congrArg Phase.parking same.symm) rfl (good _)
    · exact .of_back rfl rfl (good _)
  | _ => cases late

/-- Without a way to wait a call ends at these points. -/
theorem goes_alone (c : ReadCall) (now : Instant) (good : c.Good q n st)
    (late : st.point.late = true) (alone : c.waiting = none) :
    (c.role q n).Goes flag (q.sight (q.memory s)).swap st
      (q.sight (q.memory (c.step now s st).1)).swap (c.step now s st).2 := by
  obtain ⟨q, buffer, p⟩ := st
  obtain ⟨rfl, length, waits⟩ := good
  cases p with
  | signalNotify =>
    rw [alone] at waits
    cases waits rfl
  | raiseNotify | expire | clear | observe | recount | recheck | park =>
    unfold step
    simp only [alone]
    exact .of_finish rfl rfl
  | _ => cases late

theorem goes (c : ReadCall) (equipped : q.Equipped flag s)
    (usual : Usual flag notEmpty notFull c.waiting) (now : Instant) (good : c.Good q n st) :
    (c.role q n).Goes flag (q.sight (q.memory s)).swap st
      (q.sight (q.memory (c.step now s st).1)).swap (c.step now s st).2 := by
  cases late : st.point.late with
  | false => exact goes_attempt c equipped now good late
  | true =>
    rcases usual with alone | ⟨deadline, waits⟩
    · exact goes_alone c now good late alone
    · exact goes_waiting c equipped now good late waits

end ReadCall

end SharedQueue
