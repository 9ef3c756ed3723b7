/-
SharedQueue.Proofs.FlagEvents — what happens to the flag word of a queue, event by
event.

* `FlagEvent` — what sets bits of the word, and what clears them. A history is a list
  of events, the latest first.
* `FlagEvent.bit_replay` — a bit of a word that was blank is set if and only if the
  latest event on the bit is a setting one.
* `Queue.Fellow`, `FlagWord.SameOrApart` — the handles and words that may be in use beside
  a queue: those of the queue itself, and those in other memories.
* `WriteCall.events`, `ReadCall.events`, `FlagCall.events` — what one step of a call
  means for the word; `word_step` says of each kind of call that its step does that to
  the word, and nothing else.
-/
import SharedQueue.Proofs.Locality

namespace SharedQueue

/-! ## Bits -/

/-- Bits that are not cleared stay. -/
@[simp] theorem bitOf_and_not (v w : UInt32) (b : Nat) :
    bitOf (v &&& ~~~w) b = (bitOf v b && !bitOf w b) := by
  have bits (x : UInt32) : bitOf x b = x.toBitVec.getLsbD b := by
    rw [← BitVec.testBit_toNat]
    rfl
  rw [bits, bits, bits, UInt32.toBitVec_and, UInt32.toBitVec_not, BitVec.getLsbD_and,
    BitVec.getLsbD_not]
  by_cases inside : b < 32
  · simp [inside]
  · rw [BitVec.getLsbD_of_ge _ _ (Nat.le_of_not_lt inside)]
    rfl

/-! ## Events -/

/-- What happens to a flag word. -/
inductive FlagEvent
  /-- Somebody wakes the sleepers for these bits. -/
  | woken (mask : UInt32)
  /-- Written quanta are published, and the readers are told. -/
  | published
  /-- Quanta that were read are given back, and the writer is told. -/
  | released
  /-- A blocking call has succeeded, and raises the bits it was asked to. -/
  | served (mask : UInt32)
  | cleared (mask : UInt32)
  /-- A wait takes the bits of its mask that it saw. -/
  | consumed (mask seen : UInt32)
  /-- A blocking call clears the bits that it is going to wait for. -/
  | awaited (mask : UInt32)
  /-- The write counter moves. The word is not touched by that. -/
  | stored
deriving DecidableEq, Repr

namespace FlagEvent

/-- The bits that an event sets. -/
def setBits : FlagEvent → UInt32
  | woken mask | served mask => mask
  | published => notEmpty
  | released => notFull
  | cleared _ | consumed .. | awaited _ | stored => 0

/-- The bits that an event clears. -/
def clearBits : FlagEvent → UInt32
  | cleared mask | awaited mask => mask
  | consumed mask seen => seen &&& mask
  | woken _ | published | released | served _ | stored => 0

/-- It is a setting event on the bit. -/
def sets (b : Nat) (e : FlagEvent) : Bool := bitOf e.setBits b

/-- It is a clearing event on the bit. -/
def clears (b : Nat) (e : FlagEvent) : Bool := bitOf e.clearBits b

/-- The word after an event. -/
def apply (e : FlagEvent) (word : UInt32) : UInt32 := (word ||| e.setBits) &&& ~~~e.clearBits

/-- The word after events, the latest of which comes first. -/
def replay (word : UInt32) (history : List FlagEvent) : UInt32 := history.foldr apply word

/-- The latest event on a bit. -/
def latest? (b : Nat) (history : List FlagEvent) : Option FlagEvent :=
  history.find? fun e => e.sets b || e.clears b

variable {b : Nat} {word : UInt32} {e : FlagEvent} {history later : List FlagEvent}

theorem replay_append (word : UInt32) (later history : List FlagEvent) :
    replay word (later ++ history) = replay (replay word history) later :=
  List.foldr_append

theorem replay_one (word : UInt32) (e : FlagEvent) : replay word [e] = e.apply word := rfl

theorem apply_of_setting (setting : e.clearBits = 0) : e.apply word = word ||| e.setBits := by
  have all : ~~~(0 : UInt32) = -1 := rfl
  rw [apply, setting, all, UInt32.and_neg_one]

theorem apply_of_clearing (clearing : e.setBits = 0) : e.apply word = word &&& ~~~e.clearBits := by
  rw [apply, clearing, UInt32.or_zero]

/-- No event both sets and clears. -/
theorem sets_of_clears (clears : e.clears b = true) : e.sets b = false := by
  cases e with
  | cleared | consumed | awaited => exact bitOf_zero b
  | woken | published | released | served | stored =>
    rw [FlagEvent.clears, clearBits, bitOf_zero] at clears
    cases clears

theorem bit_apply (e : FlagEvent) (word : UInt32) (b : Nat) :
    bitOf (e.apply word) b = ((bitOf word b || e.sets b) && !e.clears b) := by
  rw [apply, bitOf_and_not, bitOf_or]
  rfl

/-- Replayed on a blank word, a bit is set if and only if the latest event on it is a
setting one. -/
theorem bit_replay (b : Nat) (history : List FlagEvent) :
    bitOf (replay 0 history) b = (latest? b history).any (sets b) := by
  induction history with
  | nil => exact bitOf_zero b
  | cons e rest ih =>
    have onward : replay 0 (e :: rest) = e.apply (replay 0 rest) := rfl
    unfold latest? at ih ⊢
    rw [onward, bit_apply, ih, List.find?_cons]
    cases clears : e.clears b with
    | true => simp [sets_of_clears clears]
    | false =>
      cases sets : e.sets b with
      | true => simp [sets]
      | false =>
        simp only [Bool.or_false, Bool.not_false, Bool.and_true]

/-- If the bit is clear, every setting event on it was followed by a clearing one. -/
theorem cleared_since (clear : bitOf (replay 0 (later ++ e :: history)) b = false)
    (sets : e.sets b = true) : ∃ e' ∈ later, e'.clears b = true := by
  rw [bit_replay, latest?, List.find?_append] at clear
  have found : (e :: history).find? (fun e => e.sets b || e.clears b) = some e := by
    simp [sets]
  rw [found] at clear
  cases last : later.find? fun e => e.sets b || e.clears b with
  | none =>
    rw [last] at clear
    simp [sets] at clear
  | some e' =>
    rw [last] at clear
    have concerns := List.find?_some last
    simp only [Option.some_or, Option.any_some] at clear
    exact ⟨e', List.mem_of_find?_eq_some last, by simpa [clear] using concerns⟩

end FlagEvent

/-! ## Other handles and words -/

/-- The word is the given one, or lies in another memory. -/
def FlagWord.SameOrApart (flag w : FlagWord) : Prop := w.memory = flag.memory → w = flag

/-- A handle on the same queue, or on one in another memory. -/
structure Queue.Fellow {t₀ t : ElementType} (home : Queue t₀) (q : Queue t) : Prop where
  sound : q.Sound
  same : q.region.memory = home.region.memory → q.descriptor = home.descriptor

namespace Store

variable {s : Store} {flag w : FlagWord}

theorem wordBits_update_ne {id : MemoryId} (other : id ≠ flag.memory) (f : Memory → Memory) :
    (s.update id f).wordBits flag = s.wordBits flag := by
  unfold wordBits update
  rw [memory_setMemory_ne other.symm]

end Store

/-! ## What is told to a word -/

/-- What is told to the word `flag` if something happens on the word `w`. -/
def FlagWord.told (flag w : FlagWord) (e : FlagEvent) : List FlagEvent :=
  if w = flag then [e] else []

/-- What is told to the word `flag` if something happens to a queue. -/
def Queue.tells {t : ElementType} (q : Queue t) (flag : FlagWord) (e : FlagEvent) :
    List FlagEvent :=
  if q.flagWord? = some flag then [e] else []

/-- What a call tells as it begins to wait. -/
def Waiting.begins (flag : FlagWord) : Option Waiting → List FlagEvent
  | some wait => flag.told wait.flag (.awaited wait.waitBits)
  | none => []

/-- What a call tells that has succeeded, besides what the queue tells. -/
def Waiting.serves (flag : FlagWord) : Option Waiting → List FlagEvent
  | some wait => flag.told wait.flag (.served wait.notifyBits)
  | none => []

@[simp] theorem FlagWord.mem_told {flag w : FlagWord} {e e' : FlagEvent} :
    e' ∈ flag.told w e ↔ w = flag ∧ e' = e := by
  unfold told
  split <;> simp [*]

@[simp] theorem Queue.mem_tells {t : ElementType} {q : Queue t} {flag : FlagWord}
    {e e' : FlagEvent} : e' ∈ q.tells flag e ↔ q.flagWord? = some flag ∧ e' = e := by
  unfold tells
  split <;> simp [*]

/-- No call moves a counter as it begins to wait, -/
theorem Waiting.stored_notMem_begins (flag : FlagWord) (waiting : Option Waiting) :
    .stored ∉ begins flag waiting := by
  cases waiting <;> simp [begins]

/-- or as it raises the bits that it was asked to. -/
theorem Waiting.stored_notMem_serves (flag : FlagWord) (waiting : Option Waiting) :
    .stored ∉ serves flag waiting := by
  cases waiting <;> simp [serves]

section Words

variable {s : Store} {flag w : FlagWord}

/-- Raising bits of a word is an event for that word. -/
theorem Store.word_raise (mapped : flag.memory < s.memories.size) (apart : flag.SameOrApart w)
    {e : FlagEvent} (setting : e.clearBits = 0) :
    (s.raiseWord w e.setBits).wordBits flag =
      FlagEvent.replay (s.wordBits flag) (flag.told w e) := by
  unfold FlagWord.told
  split
  · rename_i same
    subst same
    rw [wordBits_raiseWord mapped, FlagEvent.replay_one, FlagEvent.apply_of_setting setting]
  · rename_i other
    exact wordBits_update_ne (fun one => other (apart one)) _

theorem Store.word_clear (mapped : flag.memory < s.memories.size) (apart : flag.SameOrApart w)
    {e : FlagEvent} (clearing : e.setBits = 0) :
    (s.clearWord w e.clearBits).wordBits flag =
      FlagEvent.replay (s.wordBits flag) (flag.told w e) := by
  unfold FlagWord.told
  split
  · rename_i same
    subst same
    rw [wordBits_clearWord mapped, FlagEvent.replay_one, FlagEvent.apply_of_clearing clearing]
  · rename_i other
    exact wordBits_update_ne (fun one => other (apart one)) _

end Words

namespace Queue

variable {t₀ t : ElementType} {home : Queue t₀} {q : Queue t} {flag w : FlagWord} {s : Store}

theorem Fellow.continues (fellow : home.Fellow q) {q' : Queue t} (continues : q.Continues q') :
    home.Fellow q' :=
  ⟨continues.sound fellow.sound, fun one =>
    continues.descriptor_eq.trans (fellow.same (continues.region_eq ▸ one))⟩

/-- A handle that lies in the memory of the word has it for its flag. -/
theorem Fellow.flagWord?_eq (fellow : home.Fellow q) (own : home.flagWord? = some flag)
    (one : q.region.memory = flag.memory) : q.flagWord? = some flag := by
  have here : q.region.memory = home.region.memory := one.trans (memory_flagWord own)
  unfold flagWord? at *
  rwa [fellow.same here, here]

/-- The flag of a fellow is the word, or lies elsewhere. -/
theorem Fellow.sameOrApart (fellow : home.Fellow q) (own : home.flagWord? = some flag)
    (there : q.flagWord? = some w) : flag.SameOrApart w := by
  intro one
  have here := fellow.flagWord?_eq own ((memory_flagWord there).symm.trans one)
  exact Option.some.inj (there.symm.trans here)

theorem wordBits_of_flagWord (own : q.flagWord? = some flag) (s : Store) :
    s.wordBits flag = (q.flagBits? (q.memory s)).getD 0 := by
  obtain ⟨g, there, rfl⟩ := Option.map_eq_some_iff.mp own
  simp [Store.wordBits, flagBits?, there, memory]

/-- A change of a fellow's memory that leaves its flag alone leaves the word alone. -/
theorem Fellow.word_update (fellow : home.Fellow q) (own : home.flagWord? = some flag)
    (mapped : flag.memory < s.memories.size) {f : Memory → Memory}
    (kept : q.flagBits? (f (q.memory s)) = q.flagBits? (q.memory s)) :
    (s.update q.region.memory f).wordBits flag = s.wordBits flag := by
  by_cases one : q.region.memory = flag.memory
  · have there := fellow.flagWord?_eq own one
    have changed : q.memory (s.update q.region.memory f) = f (q.memory s) :=
      Store.memory_setMemory (one ▸ mapped) _
    rw [wordBits_of_flagWord there, wordBits_of_flagWord there, changed, kept]
  · exact Store.wordBits_update_ne one f

/-- What a fellow raises in its flag is an event for the word. -/
theorem Fellow.word_raise (fellow : home.Fellow q) (own : home.flagWord? = some flag)
    (mapped : flag.memory < s.memories.size) (there : q.flagWord? = some w) {e : FlagEvent}
    (setting : e.clearBits = 0) :
    (s.raiseWord w e.setBits).wordBits flag =
      FlagEvent.replay (s.wordBits flag) (q.tells flag e) := by
  have same : q.tells flag e = flag.told w e := by
    unfold tells FlagWord.told
    rw [there]
    simp only [Option.some.injEq]
  rw [same]
  exact Store.word_raise mapped (fellow.sameOrApart own there) setting

theorem tells_of_none (absent : q.flagWord? = none) (flag : FlagWord) (e : FlagEvent) :
    q.tells flag e = [] := by
  unfold tells
  rw [absent]
  exact if_neg nofun

/-- That a counter moves does not touch the word. -/
theorem replay_stored (word : UInt32) (q : Queue t) (flag : FlagWord) :
    FlagEvent.replay word (q.tells flag .stored) = word := by
  unfold tells
  split
  · rw [FlagEvent.replay_one, FlagEvent.apply_of_setting rfl]
    exact UInt32.or_zero
  · rfl

end Queue

/-! ## Steps of calls -/

section Steps

variable {t₀ t : ElementType} {home : Queue t₀} {flag : FlagWord} {s : Store}

/-- What a step of a write tells the word. -/
def WriteCall.events (c : WriteCall t) (flag : FlagWord) : WritePoint → List FlagEvent
  | .publish _ => c.queue.tells flag .stored
  | .raiseOwn => c.queue.tells flag .published
  | .raiseNotify => Waiting.serves flag c.waiting
  | .clear => Waiting.begins flag c.waiting
  | _ => []

/-- What a step of a read tells the word. -/
def ReadCall.events (c : ReadCall) (flag : FlagWord) (st : ReadState t) : List FlagEvent :=
  match st.point with
  | .raiseOwn => st.queue.tells flag .released
  | .raiseNotify => Waiting.serves flag c.waiting
  | .clear => Waiting.begins flag c.waiting
  | _ => []

/-- What a step of a call on the word `w` tells the word `flag`. -/
def FlagCall.events (call : FlagCall) (w flag : FlagWord) (p : FlagPoint) : List FlagEvent :=
  match call, p with
  | .wake mask, .begin => flag.told w (.woken mask)
  | .clear mask, _ => flag.told w (.cleared mask)
  | .wait mask _ _, .consume seen => flag.told w (.consumed mask seen)
  | _, _ => []

/-- Where a write puts quanta into slots, they fit the ring. -/
def WriteCall.Fits (c : WriteCall t) : WritePoint → Prop
  | .reserve _ | .fill _ => c.data.length ≤ c.queue.capacity
  | _ => True

theorem WriteCall.word_step {c : WriteCall t} (fellow : home.Fellow c.queue)
    (own : home.flagWord? = some flag) (mapped : flag.memory < s.memories.size)
    (lent : ∀ {wait}, c.waiting = some wait → flag.SameOrApart wait.flag) (now : Instant)
    {p : WritePoint} (fits : c.Fits p) :
    (c.step now s p).1.wordBits flag = FlagEvent.replay (s.wordBits flag) (c.events flag p) := by
  cases p with
  | reserve pos =>
    exact fellow.word_update own mapped (f := fun m => c.queue.reserve m (c.stop pos))
      (Queue.flagBits_of_only fellow.sound (Queue.reserve_only ..) (by decide))
  | fill pos =>
    exact fellow.word_update own mapped (f := fun m => c.queue.fill m pos c.data)
      (Queue.flagBits_of_only fellow.sound (Queue.fill_only fellow.sound _ pos fits) (by decide))
  | publish pos =>
    unfold events
    rw [Queue.replay_stored]
    exact fellow.word_update own mapped (f := fun m => c.queue.publish m (c.stop pos))
      (Queue.flagBits_of_only fellow.sound (Queue.publish_only ..) (by decide))
  | raiseOwn =>
    unfold step events
    dsimp only
    split
    · rename_i absent
      rw [Queue.tells_of_none absent]
      rfl
    · rename_i w there
      exact fellow.word_raise own mapped there (e := .published) rfl
  | raiseNotify =>
    unfold step events
    dsimp only
    split
    · rename_i alone
      rw [alone]
      rfl
    · rename_i wait waits
      rw [waits]
      exact Store.word_raise mapped (lent waits) (e := .served wait.notifyBits) rfl
  | clear =>
    unfold step events
    dsimp only
    split
    · rename_i alone
      rw [alone]
      rfl
    · rename_i wait waits
      rw [waits]
      exact Store.word_clear mapped (lent waits) (e := .awaited wait.waitBits) rfl
  | begin | done => rfl
  | judge | signalOwn | signalNotify | expire | observe | recount | recheck | park =>
    unfold step
    dsimp only
    split <;> rfl

theorem ReadCall.word_step {c : ReadCall} {st : ReadState t} (fellow : home.Fellow st.queue)
    (own : home.flagWord? = some flag) (mapped : flag.memory < s.memories.size)
    (lent : ∀ {wait}, c.waiting = some wait → flag.SameOrApart wait.flag) (now : Instant) :
    (c.step now s st).1.wordBits flag = FlagEvent.replay (s.wordBits flag) (c.events flag st) := by
  obtain ⟨q, buffer, p⟩ := st
  dsimp only at fellow
  cases p with
  | release pos =>
    exact fellow.word_update own mapped (f := fun m => (q.release m (pos + _)).2)
      (Queue.flagBits_of_only fellow.sound (Queue.release_only fellow.sound ..) (by decide))
  | raiseOwn =>
    unfold step events
    dsimp only
    split
    · rename_i absent
      rw [Queue.tells_of_none absent]
      rfl
    · rename_i w there
      exact fellow.word_raise own mapped there (e := .released) rfl
  | raiseNotify =>
    unfold step events
    dsimp only
    split
    · rename_i alone
      rw [alone]
      rfl
    · rename_i wait waits
      rw [waits]
      exact Store.word_raise mapped (lent waits) (e := .served wait.notifyBits) rfl
  | clear =>
    unfold step events
    dsimp only
    split
    · rename_i alone
      rw [alone]
      rfl
    · rename_i wait waits
      rw [waits]
      exact Store.word_clear mapped (lent waits) (e := .awaited wait.waitBits) rfl
  | begin | take | confirm | done => rfl
  | judge | verify | signalOwn | signalNotify | expire | observe | recount | recheck | park =>
    unfold step
    dsimp only
    split <;> rfl

theorem FlagCall.word_step (call : FlagCall) {w : FlagWord}
    (mapped : flag.memory < s.memories.size) (lent : flag.SameOrApart w) (now : Instant)
    (p : FlagPoint) :
    (call.step w now s p).1.wordBits flag =
      FlagEvent.replay (s.wordBits flag) (call.events w flag p) := by
  cases call with
  | wake mask =>
    cases p with
    | begin => exact Store.word_raise mapped lent (e := .woken mask) rfl
    | _ => rfl
  | clear mask => exact Store.word_clear mapped lent (e := .cleared mask) rfl
  | wait mask deadline consume =>
    cases p with
    | consume seen => exact Store.word_clear mapped lent (e := .consumed mask seen) rfl
    | _ => rfl

end Steps

/-! ## Requests that tell nothing -/

namespace Client

variable {t : ElementType}

/-- The requests that are no calls on a flag, and publish and release nothing. -/
def Request.quiet : Request t → Bool
  | .beginWrite _ | .set .. | .copyIn _ | .abandon => true
  | .beginRead _ | .get _ | .copyOut _ | .bits => true
  | .write _ | .commitWrite | .read _ | .commitRead | .raise _ | .clear _ => false

/-- They leave the flag alone. -/
theorem flagBits_step_quiet {c : Client t} (ready : c.Ready) (m : Memory) {r : Request t}
    (quiet : r.quiet = true) : c.queue.flagBits? (c.step m r).memory = c.queue.flagBits? m := by
  have sound := ready.sound
  obtain ⟨q, activity⟩ := c
  cases activity with
  | idle =>
    cases r with
    | beginWrite count =>
      cases begun : q.beginWrite m count with
      | error e => rw [step_beginWrite_refused begun]
      | ok opened =>
        obtain ⟨tx, m'⟩ := opened
        rw [step_beginWrite_begun begun]
        obtain ⟨-, -, -, rfl⟩ := Queue.beginWrite_eq_ok begun
        dsimp only
        split
        · rfl
        · exact Queue.flagBits_of_only sound (Queue.reserve_only ..) (by decide)
    | beginRead count =>
      rw [step_beginRead]
      split <;> rfl
    | set | copyIn | get | copyOut | abandon | bits => rfl
    | write | commitWrite | read | commitRead | raise | clear => cases quiet
  | writing tx =>
    have fits : tx.count ≤ q.capacity := ready.fits rfl
    cases r with
    | set place v =>
      cases stored : q.set m tx place v with
      | error misuse => rw [step_set_broken stored]
      | ok m' =>
        rw [step_set_stored stored]
        obtain ⟨-, rfl⟩ := Queue.set_eq_ok fits stored
        exact Queue.flagBits_of_only sound
          (Queue.storeSlot_only sound m (Nat.mod_lt _ sound.capacity_pos) v) (by decide)
    | copyIn data =>
      cases copied : q.copyIn m tx data with
      | error misuse => rw [step_copyIn_broken copied]
      | ok m' =>
        rw [step_copyIn_stored copied]
        obtain ⟨same, rfl⟩ := Queue.copyIn_eq_ok copied
        exact Queue.flagBits_of_only sound
          (Queue.fill_only sound m tx.pos (same ▸ fits)) (by decide)
    | beginWrite | beginRead | get | copyOut | abandon | bits => rfl
    | write | commitWrite | read | commitRead | raise | clear => cases quiet
  | reading tx =>
    cases r with
    | beginWrite | beginRead | set | copyIn | get | copyOut | abandon | bits => rfl
    | write | commitWrite | read | commitRead | raise | clear => cases quiet

end Client

end SharedQueue
