/-
SharedQueue.Proofs.Confinement — a handle that is attached stays inside its
cells.

* `Client.Confined` — what one request may do: it looks at cells only, and
  changes nothing but words and the slots of the positions that it writes.
* `Client.Touches`, `step_changes` — which of them it does change.
* `Client.Later` — a handle after any requests, each on any memory: what the
  peers do in between is not restricted at all.
* `FlagCall.Confined` — what one step of a call on the flag may do: it looks at the
  word, and changes nothing else.
* `attach_confined` — whatever the descriptor says, and whatever is in the
  memory, the cells of a handle that is attached are spread, and all its
  requests are confined.

The descriptor and the counters come from peers that may lie. So nothing
here relies on a counter: a position is reduced to a slot before it is used,
and a transaction is never longer than the ring.
-/
import SharedQueue.Call.Flag
import SharedQueue.Proofs.Calls
import SharedQueue.Proofs.Likeness

namespace SharedQueue

/-! ## What a request may do -/

namespace Descriptor

/-- The memories hold the same bytes in all cells. -/
def Agree (d : Descriptor) (m m' : Memory) : Prop :=
  ∀ cell g a, d.cell? cell = some g → g.Covers a → m'.byte a = m.byte a

/-- The memories differ in words and in the given slots at most. -/
structure Changes (d : Descriptor) (slots : Nat → Prop) (m m' : Memory) : Prop where
  size_eq : m'.size = m.size
  changed : ∀ {a}, m'.byte a ≠ m.byte a →
    ∃ cell g, d.cell? cell = some g ∧ g.Covers a ∧ ∀ i, cell = .slot i → slots i

end Descriptor

namespace Client

variable {t : ElementType}

/-- The positions that a request writes. -/
def target? (c : Client t) (m : Memory) (r : Request t) : Option Transaction :=
  match c.activity, r with
  | .idle, .write data => some ⟨c.queue.writePos m, data.length⟩
  | .writing tx, .set _ _ => some tx
  | .writing tx, .copyIn _ => some tx
  | _, _ => none

/-- The slots of the positions that a request writes. -/
def Writes (c : Client t) (m : Memory) (r : Request t) (slot : Nat) : Prop :=
  ∃ tx, c.target? m r = some tx ∧
    ∃ i < tx.count, slot = (tx.pos.toNat + i) % c.queue.descriptor.quantumCount

/-- The positions that a request puts a quantum into the slot of. It puts one
into none if it is refused. -/
def Touches (c : Client t) (m : Memory) (r : Request t) (p : Nat) : Prop :=
  match c.activity, r with
  | .idle, .write data => (c.queue.write m data).1 = .ok () ∧
    (c.queue.writePos m).toNat ≤ p ∧ p < (c.queue.writePos m).toNat + data.length
  | .writing tx, .set place _ => place < tx.count ∧ p = tx.pos.toNat + place
  | .writing tx, .copyIn data => data.length = tx.count ∧
    tx.pos.toNat ≤ p ∧ p < tx.pos.toNat + tx.count
  | _, _ => False

/-- What one request of a handle with the descriptor `d` may do. -/
structure Confined (c : Client t) (d : Descriptor) (m : Memory) (r : Request t) : Prop where
  descriptor_eq : c.queue.descriptor = d
  /-- The slots of an open transaction are among those of the ring, run by run
  and place by place. -/
  runs : ∀ {tx}, (c.step m r).client.activity.transaction? = some tx →
    (c.queue.runs tx.pos tx.count).start + (c.queue.runs tx.pos tx.count).first
        ≤ d.quantumCount ∧
      (c.queue.runs tx.pos tx.count).second ≤ d.quantumCount ∧
      ∀ i < tx.count, (c.queue.runs tx.pos tx.count).slot i < d.quantumCount
  /-- Nothing but words and the slots that are written changes. -/
  changes : d.Changes (c.Writes m r) m (c.step m r).memory
  /-- Nothing but cells is looked at. -/
  looks : ∀ {m'}, d.Agree m m' →
    (c.step m' r).client = (c.step m r).client ∧ (c.step m' r).reply = (c.step m r).reply ∧
      d.Agree (c.step m r).memory (c.step m' r).memory

/-- A handle after any requests, each on any memory. -/
inductive Later (first : Client t) : Client t → Prop
  | refl : Later first first
  | step {c : Client t} (m : Memory) (r : Request t) (before : Later first c) :
    Later first (c.step m r).client

end Client

/-- What one step of a call on the flag of a handle with the descriptor `d` may do. A
wait, be it one that clears the bits or not, is made of such steps, and anything may
become of the word between them. -/
structure FlagCall.Confined (call : FlagCall) (d : Descriptor) (w : FlagWord) (now : Instant)
    (s : Store) (p : FlagPoint) : Prop where
  /-- Nothing but the word changes. -/
  changes : d.Only .eventFlag (s.memory w.memory) ((call.step w now s p).1.memory w.memory)
  elsewhere : ∀ {id}, id ≠ w.memory → (call.step w now s p).1.memory id = s.memory id
  /-- Nothing but the word is looked at. -/
  looks : ∀ {s'}, w.memory < s'.memories.size → s'.wordBits w = s.wordBits w →
    (call.step w now s' p).2 = (call.step w now s p).2 ∧
      (call.step w now s' p).1.wordBits w = (call.step w now s p).1.wordBits w

/-! ## Nothing else changes -/

namespace Descriptor

variable {d : Descriptor} {slots slots' : Nat → Prop} {m m' m'' : Memory}

theorem Changes.refl (d : Descriptor) (slots : Nat → Prop) (m : Memory) : d.Changes slots m m :=
  ⟨rfl, fun differ => absurd rfl differ⟩

theorem Changes.trans (first : d.Changes slots m m') (second : d.Changes slots m' m'') :
    d.Changes slots m m'' := by
  refine ⟨second.size_eq.trans first.size_eq, ?_⟩
  intro a differ
  by_cases same : m''.byte a = m'.byte a
  · rw [same] at differ
    exact first.changed differ
  · exact second.changed same

theorem Changes.mono (changes : d.Changes slots m m') (more : ∀ i, slots i → slots' i) :
    d.Changes slots' m m' := by
  refine ⟨changes.size_eq, ?_⟩
  intro a differ
  obtain ⟨cell, g, there, covers, among⟩ := changes.changed differ
  exact ⟨cell, g, there, covers, fun i same => more i (among i same)⟩

/-- What changes one word only changes no slot. -/
theorem Only.changes {part : Part} (only : d.Only part m m') (word : part ≠ .data) :
    d.Changes slots m m' := by
  refine ⟨only.size_eq, ?_⟩
  intro a differ
  by_contra nowhere
  apply differ
  apply only.byte_eq
  intro g place covers
  refine nowhere ⟨.word part, g, word_of_place word place, covers, ?_⟩
  intro i same
  cases same

end Descriptor

namespace Queue

variable {t : ElementType} {q : Queue t} {slots : Nat → Prop}

/-- The slots that are not among those given hold what they held. -/
theorem loadSlot_of_changes {m m' : Memory} (sound : q.Sound)
    (changes : q.descriptor.Changes slots m m') {i : Nat} (hi : i < q.capacity)
    (other : ¬ slots i) : q.loadSlot m' i = q.loadSlot m i := by
  have there : q.descriptor.cell? (.slot i) = some (q.descriptor.slot i) := if_pos hi
  obtain ⟨low, high⟩ := sound.slot_bounds i
  apply congrArg t.decode
  apply List.map_congr_left
  intro j hj
  have inside : j < t.size := List.mem_range.mp hj
  by_contra differ
  obtain ⟨cell, g, taken, covers, among⟩ := changes.changed differ
  have ne : cell ≠ .slot i := fun same => other (among i same)
  have covered : (q.descriptor.slot i).Covers (q.slotAddress i + j) := by
    unfold Grantor.Covers
    omega
  exact (sound.spread.apart ne taken there).not_covers covers covered

theorem storeSlot_changes (sound : q.Sound) (m : Memory) {i : Nat} (hi : i < q.capacity)
    (v : t.Value) (among : slots i) : q.descriptor.Changes slots m (q.storeSlot m i v) := by
  refine ⟨Memory.size_setBytes .., ?_⟩
  intro a differ
  have there : q.descriptor.cell? (.slot i) = some (q.descriptor.slot i) := if_pos hi
  refine ⟨.slot i, q.descriptor.slot i, there, ?_, ?_⟩
  · -- bytes outside of the slot are not replaced
    by_contra outside
    apply differ
    rw [storeSlot, Memory.byte_setBytes]
    by_cases after : q.slotAddress i ≤ a
    · have beyond : (t.encode v).length ≤ a - q.slotAddress i := by
        rw [ElementType.length_encode]
        rw [sound.slotAddress_eq] at *
        unfold Grantor.Covers Grantor.stop Descriptor.slot at *
        rw [sound.quantumSize] at *
        dsimp only at *
        omega
      rw [if_pos after, List.getElem?_eq_none beyond, Option.getD_none]
    · rw [if_neg after]
  · intro j same
    cases same
    exact among

theorem storeSlots_changes (sound : q.Sound) (m : Memory) {i : Nat} {values : List t.Value}
    (room : i + values.length ≤ q.capacity) (among : ∀ j < values.length, slots (i + j)) :
    q.descriptor.Changes slots m (q.storeSlots m i values) := by
  induction values generalizing m i with
  | nil => exact .refl _ _ m
  | cons v rest ih =>
    rw [List.length_cons] at room among
    have head := storeSlot_changes sound m (i := i) (by omega) v (among 0 (by omega))
    refine head.trans (ih (q.storeSlot m i v) (by omega) ?_)
    intro j hj
    have next := among (j + 1) (by omega)
    rw [Nat.add_comm j, ← Nat.add_assoc] at next
    exact next

/-- Filling a stretch changes the slots of its positions. -/
theorem fill_changes (sound : q.Sound) (m : Memory) (pos : UInt64) {data : List t.Value}
    (fits : data.length ≤ q.capacity)
    (among : ∀ i < data.length, slots ((pos.toNat + i) % q.capacity)) :
    q.descriptor.Changes slots m (q.fill m pos data) := by
  have small : pos.toNat % q.capacity < q.capacity := Nat.mod_lt _ sound.capacity_pos
  have wrap := fun i => add_mod_of_le pos.toNat (i := i) sound.capacity_pos
  simp only [fill, runs, Runs.of]
  generalize pos.toNat % q.capacity = start at small wrap
  have first : q.descriptor.Changes slots m
      (q.storeSlots m start (data.take (min data.length (q.capacity - start)))) := by
    apply storeSlots_changes sound
    · rw [List.length_take]
      omega
    · intro j hj
      rw [List.length_take] at hj
      have slot := wrap j (by omega)
      rw [if_pos (by omega)] at slot
      rw [← slot]
      exact among j (by omega)
  refine first.trans (storeSlots_changes sound _ ?_ ?_)
  · rw [List.length_drop]
    omega
  · intro j hj
    rw [List.length_drop] at hj
    have slot := wrap (j + (q.capacity - start)) (by omega)
    rw [if_neg (by omega)] at slot
    have place : start + (j + (q.capacity - start)) - q.capacity = 0 + j := by omega
    rw [← place, ← slot]
    exact among _ (by omega)

theorem commitWrite_changes (q : Queue t) (m : Memory) (tx : Transaction) :
    q.descriptor.Changes slots m (q.commitWrite m tx) := by
  unfold commitWrite
  split
  · exact .refl _ _ m
  · have published : q.descriptor.Changes slots m (q.publish m tx.stop) :=
      (publish_only q m tx.stop).changes (by decide)
    exact published.trans ((notify_only q _ notEmpty).changes (by decide))

theorem beginWrite_changes {m m' : Memory} {count : Nat} {tx : Transaction}
    (begun : q.beginWrite m count = .ok (tx, m')) : q.descriptor.Changes slots m m' := by
  obtain ⟨-, -, -, rfl⟩ := beginWrite_eq_ok begun
  split
  · exact .refl _ _ m
  · exact (reserve_only q m tx.stop).changes (by decide)

theorem commitRead_changes (sound : q.Sound) (m : Memory) (tx : Transaction) :
    q.descriptor.Changes slots m (q.commitRead m tx).2.2 := by
  unfold commitRead
  split
  · exact .refl _ _ m
  · dsimp only
    split
    · exact .refl _ _ m
    · have released : q.descriptor.Changes slots m (q.release m tx.stop).2 :=
        (release_only sound m tx.stop).changes (by decide)
      exact released.trans ((notify_only (q.release m tx.stop).1 _ notFull).changes (by decide))

theorem read_changes (sound : q.Sound) (m : Memory) (buffer : List t.Value) :
    q.descriptor.Changes slots m (q.read m buffer).memory := by
  have continues := continues_beginRead q m buffer.length
  unfold read
  split
  · exact .refl _ _ m
  · split
    · exact .refl _ _ m
    · rename_i tx q' begun
      rw [begun] at continues
      have committed : q'.descriptor.Changes slots m (q'.commitRead m tx).2.2 :=
        commitRead_changes (continues.sound sound) m tx
      rw [continues.descriptor_eq] at committed
      exact committed

end Queue

/-! ## Nothing else is looked at -/

theorem Memory.ofNat_load32 (m : Memory) (a : Nat) :
    Bytes.ofNat flagSize (m.load32 a).toNat = m.bytes a flagSize := by
  have fits := Bytes.toNat_lt (m.bytes a flagSize)
  rw [Memory.length_bytes] at fits
  have word : (m.load32 a).toNat = Bytes.toNat (m.bytes a flagSize) :=
    UInt32.toNat_ofNat_of_lt' fits
  have back := Bytes.ofNat_toNat (m.bytes a flagSize)
  rw [Memory.length_bytes] at back
  rw [word, back]

namespace Descriptor

variable {d : Descriptor} {m m' : Memory}

theorem Agree.upTo (agree : d.Agree m m') (shown : UInt32) : d.AgreeUpTo shown m m' := by
  refine ⟨fun _ there covers => agree _ _ _ there covers, ?_⟩
  intro g flag
  have there : d.cell? (.word .eventFlag) = some ⟨g.offset, flagSize⟩ := by
    simp [cell?, place?, flag]
  have same : m'.bytes g.offset flagSize = m.bytes g.offset flagSize := by
    apply List.map_congr_left
    intro i hi
    apply agree _ _ _ there
    exact ⟨Nat.le_add_right _ _, Nat.add_lt_add_left (List.mem_range.mp hi) _⟩
  unfold Memory.load32 Memory.loadNat
  exact congrArg (fun bytes => UInt32.ofNat (Bytes.toNat bytes) &&& shown) same

/-- A flag that has all the same bits has the same bytes. -/
theorem AgreeUpTo.agree (agree : d.AgreeUpTo (-1) m m') : d.Agree m m' := by
  intro cell g a there covers
  by_cases other : cell = .word .eventFlag
  · subst other
    obtain ⟨h, flag, rfl⟩ := Option.map_eq_some_iff.mp there
    have word := agree.flag_eq flag
    rw [UInt32.and_neg_one, UInt32.and_neg_one] at word
    have same : m'.bytes h.offset flagSize = m.bytes h.offset flagSize := by
      rw [← Memory.ofNat_load32, ← Memory.ofNat_load32, word]
    obtain ⟨low, high⟩ := covers
    have inside : a - h.offset < flagSize := Nat.sub_lt_left_of_lt_add low high
    have there := List.map_inj_left.mp same (a - h.offset) (List.mem_range.mpr inside)
    rw [Nat.add_sub_cancel' low] at there
    exact there
  · exact agree.byte_eq other there covers

end Descriptor

theorem Client.Reply.showing_all {t : ElementType} (reply : Client.Reply t) :
    reply.showing (-1) = reply := by
  cases reply with
  | word w => cases w <;> simp [showing]
  | none | unit | filled | opened | stored | element | elements => rfl

/-! ## Requests are confined -/

namespace Client

variable {t : ElementType} {c : Client t} {m m' : Memory}

/-- The slots that are touched are among those that the request may write. -/
theorem Touches.writes {r : Request t} {p : Nat} (touches : c.Touches m r p) :
    c.Writes m r (p % c.queue.descriptor.quantumCount) := by
  obtain ⟨q, activity⟩ := c
  cases activity with
  | idle =>
    cases r with
    | write data =>
      obtain ⟨-, low, high⟩ := touches
      exact ⟨_, rfl, p - (q.writePos m).toNat, Nat.sub_lt_left_of_lt_add low high,
        by rw [Nat.add_sub_cancel' low]⟩
    | beginWrite | set | copyIn | commitWrite | read | beginRead | get | copyOut | commitRead
    | abandon | raise | clear | bits => cases touches
  | writing tx =>
    cases r with
    | set place v =>
      obtain ⟨inside, rfl⟩ := touches
      exact ⟨tx, rfl, place, inside, rfl⟩
    | copyIn data =>
      obtain ⟨-, low, high⟩ := touches
      exact ⟨tx, rfl, p - tx.pos.toNat, Nat.sub_lt_left_of_lt_add low high,
        by rw [Nat.add_sub_cancel' low]⟩
    | write | beginWrite | commitWrite | read | beginRead | get | copyOut | commitRead | abandon
    | raise | clear | bits => cases touches
  | reading tx => cases touches

/-- No slot changes but those that are touched. -/
theorem step_changes (ready : c.Ready) (m : Memory) (r : Request t) :
    c.queue.descriptor.Changes (fun i => ∃ p, c.Touches m r p ∧ p % c.queue.capacity = i) m
      (c.step m r).memory := by
  have sound := ready.sound
  cases c with
  | mk q activity =>
    cases activity with
    | idle =>
      cases r with
      | write data =>
        show q.descriptor.Changes _ m (q.write m data).2
        by_cases none : data = []
        · subst none
          exact .refl _ _ m
        · cases begun : q.beginWrite m data.length with
          | error e =>
            rw [Queue.write_of_refused none begun]
            exact .refl _ _ m
          | ok opened =>
            obtain ⟨tx, m₁⟩ := opened
            have written := Queue.write_of_begun none begun
            obtain ⟨rfl, fits, -, -⟩ := Queue.beginWrite_eq_ok begun
            rw [written]
            refine (Queue.beginWrite_changes begun).trans
              (Descriptor.Changes.trans ?_ (Queue.commitWrite_changes q _ _))
            apply Queue.fill_changes sound m₁ _ fits
            intro i hi
            exact ⟨_, ⟨congrArg Prod.fst written, Nat.le_add_right _ _, Nat.add_lt_add_left hi _⟩,
              rfl⟩
      | beginWrite count =>
        show q.descriptor.Changes _ m (step ⟨q, .idle⟩ m (.beginWrite count)).memory
        unfold step
        dsimp only
        split
        · exact .refl _ _ m
        · rename_i begun
          exact Queue.beginWrite_changes begun
      | read buffer => exact Queue.read_changes sound m buffer
      | beginRead count =>
        show q.descriptor.Changes _ m (step ⟨q, .idle⟩ m (.beginRead count)).memory
        unfold step
        dsimp only
        split <;> exact .refl _ _ m
      | raise mask =>
        show q.descriptor.Changes _ m (step ⟨q, .idle⟩ m (.raise mask)).memory
        unfold step
        dsimp only
        split
        · exact .refl _ _ m
        · exact (Queue.notify_only q m mask).changes (by decide)
      | clear mask => exact (Queue.clearBits_only q m mask).changes (by decide)
      | set | copyIn | commitWrite | get | copyOut | commitRead | abandon | bits =>
        exact .refl _ _ m
    | writing tx =>
      have fits : tx.count ≤ q.capacity := ready.fits rfl
      cases r with
      | set place v =>
        show q.descriptor.Changes _ m (step ⟨q, .writing tx⟩ m (.set place v)).memory
        unfold step
        dsimp only
        split
        · exact .refl _ _ m
        · rename_i stored
          obtain ⟨inside, rfl⟩ := Queue.set_eq_ok fits stored
          apply Queue.storeSlot_changes sound m (Nat.mod_lt _ sound.capacity_pos)
          exact ⟨_, ⟨inside, rfl⟩, rfl⟩
      | copyIn data =>
        show q.descriptor.Changes _ m (step ⟨q, .writing tx⟩ m (.copyIn data)).memory
        unfold step
        dsimp only
        split
        · exact .refl _ _ m
        · rename_i copied
          obtain ⟨same, rfl⟩ := Queue.copyIn_eq_ok copied
          apply Queue.fill_changes sound m tx.pos (by rw [same]; exact fits)
          intro i hi
          rw [same] at hi
          exact ⟨_, ⟨same, Nat.le_add_right _ _, Nat.add_lt_add_left hi _⟩, rfl⟩
      | commitWrite => exact Queue.commitWrite_changes q m tx
      | write | beginWrite | read | beginRead | get | copyOut | commitRead | abandon | raise
      | clear | bits => exact .refl _ _ m
    | reading tx =>
      cases r with
      | commitRead => exact Queue.commitRead_changes sound m tx
      | write | beginWrite | set | copyIn | commitWrite | read | beginRead | get | copyOut
      | abandon | raise | clear | bits => exact .refl _ _ m

/-- Nothing is looked at but cells: memories that agree on them are taken for
each other. -/
theorem step_looks (ready : c.Ready) (agree : c.queue.descriptor.Agree m m') (r : Request t) :
    (c.step m' r).client = (c.step m r).client ∧ (c.step m' r).reply = (c.step m r).reply ∧
      c.queue.descriptor.Agree (c.step m r).memory (c.step m' r).memory := by
  obtain ⟨client, reply, memory⟩ := step_agree ready (agree.upTo (-1)) r
  rw [Reply.showing_all, Reply.showing_all] at reply
  exact ⟨client, reply, memory.agree⟩

theorem Ready.confined (ready : c.Ready) (m : Memory) (r : Request t) :
    c.Confined c.queue.descriptor m r := by
  refine ⟨rfl, ?_, (step_changes ready m r).mono ?_, fun agree => step_looks ready agree r⟩
  · intro tx opened
    have fits : tx.count ≤ c.queue.capacity := by
      have capacity : (c.step m r).client.queue.capacity = c.queue.capacity :=
        congrArg Descriptor.quantumCount (step_continues c m r).descriptor_eq
      rw [← capacity]
      exact (ready.step m r).fits opened
    obtain ⟨first, second⟩ := Runs.of_le tx.pos ready.sound.capacity_pos fits
    refine ⟨first, second, ?_⟩
    intro i hi
    rw [Queue.runs, Runs.slot_of tx.pos fits hi]
    exact Nat.mod_lt _ ready.sound.capacity_pos
  · rintro i ⟨p, touches, rfl⟩
    exact touches.writes

/-- Whatever happened to the memory in between, the handle is the same one
and ready for the next request. -/
theorem Later.ready {first : Client t} (later : Later first c) (ready : first.Ready) :
    c.Ready ∧ c.queue.descriptor = first.queue.descriptor := by
  induction later with
  | refl => exact ⟨ready, rfl⟩
  | step m r before ih =>
    obtain ⟨ready, same⟩ := ih
    exact ⟨ready.step m r, (step_continues _ m r).descriptor_eq.trans same⟩

end Client

/-! ## Calls on the flag are confined -/

namespace FlagCall

variable {t : ElementType} {q : Queue t} {w : FlagWord} {s s' : Store}

/-- What a step does to the store: nothing, or it raises or clears bits of the word. -/
theorem step_store (call : FlagCall) (w : FlagWord) (now : Instant) (p : FlagPoint) :
    (∀ s, (call.step w now s p).1 = s) ∨
      (∃ mask, ∀ s, (call.step w now s p).1 = s.raiseWord w mask) ∨
      ∃ mask, ∀ s, (call.step w now s p).1 = s.clearWord w mask := by
  cases call with
  | wake mask =>
    cases p with
    | begin => exact .inr (.inl ⟨mask, fun _ => rfl⟩)
    | _ => exact .inl fun _ => rfl
  | clear mask => exact .inr (.inr ⟨mask, fun _ => by cases p <;> rfl⟩)
  | wait mask deadline consume =>
    cases p with
    | consume seen => exact .inr (.inr ⟨seen &&& mask, fun _ => rfl⟩)
    | _ => exact .inl fun _ => rfl

/-- What comes next is a matter of the word alone. -/
theorem step_congr (call : FlagCall) (now : Instant) (p : FlagPoint)
    (bits : s'.wordBits w = s.wordBits w) :
    (call.step w now s' p).2 = (call.step w now s p).2 := by
  cases call <;> cases p <;> simp only [step, bits]

theorem confined (own : q.flagWord? = some w) (mapped : w.memory < s.memories.size)
    (call : FlagCall) (now : Instant) (p : FlagPoint) :
    call.Confined q.descriptor w now s p := by
  obtain ⟨g, there, rfl⟩ := Option.map_eq_some_iff.mp own
  have place : q.descriptor.place? .eventFlag = some ⟨g.offset, flagSize⟩ := by
    simp [Descriptor.place?, there]
  refine ⟨?_, fun {id} other => ?_, fun {s'} mapped' bits => ⟨step_congr call now p bits, ?_⟩⟩
  · rcases step_store call _ now p with same | ⟨mask, raised⟩ | ⟨mask, cleared⟩
    · rw [same]
      exact .refl _ _ _
    · rw [raised, Store.raiseWord, Store.update, Store.memory_setMemory mapped]
      exact Descriptor.only_store32 place _
    · rw [cleared, Store.clearWord, Store.update, Store.memory_setMemory mapped]
      exact Descriptor.only_store32 place _
  · rcases step_store call _ now p with same | ⟨mask, raised⟩ | ⟨mask, cleared⟩
    · rw [same]
    · rw [raised]
      exact Store.memory_setMemory_ne other _
    · rw [cleared]
      exact Store.memory_setMemory_ne other _
  · rcases step_store call _ now p with same | ⟨mask, raised⟩ | ⟨mask, cleared⟩
    · rw [same, same, bits]
    · rw [raised, raised, Store.wordBits_raiseWord mapped', Store.wordBits_raiseWord mapped, bits]
    · rw [cleared, cleared, Store.wordBits_clearWord mapped', Store.wordBits_clearWord mapped, bits]

end FlagCall

namespace Queue

variable {t : ElementType}

/-- Whatever the descriptor says and whatever is in the memory, a handle that
is attached accesses its cells only, and these lie inside the memory, aligned
and apart. Waking and waiting on its flag accesses nothing but the flag. -/
theorem attach_confined {flavor : Flavor} {d : Descriptor} {s : Store} {q : Queue t}
    (ok : attach t flavor d s = .ok q) :
    d.Spread t.alignment (s.memory q.region.memory).size ∧
      (∀ c, Client.Later ⟨q, .idle⟩ c → ∀ m r, c.Confined d m r) ∧
      ∀ {w}, q.flagWord? = some w → ∀ {s' : Store}, w.memory < s'.memories.size →
        ∀ (call : FlagCall) now p, call.Confined d w now s' p := by
  have sound := sound_of_attach ok
  obtain ⟨-, -, -, opened, -, descriptor, -⟩ := attach_eq_ok ok
  obtain ⟨-, -, size, -⟩ := Store.openNamed_eq_ok opened
  refine ⟨?_, ?_, ?_⟩
  · rw [← size, ← descriptor]
    exact sound.spread
  · intro c later m r
    have idle : (⟨q, .idle⟩ : Client t).Ready := by
      refine ⟨sound, ?_⟩
      intro tx opened
      cases opened
    obtain ⟨ready, same⟩ := later.ready idle
    rw [← descriptor, ← same]
    exact ready.confined m r
  · intro w own s' mapped call now p
    rw [← descriptor]
    exact FlagCall.confined own mapped call now p

/-- A descriptor that no creator wrote: the slots come first, and the words
are packed behind them. -/
def packedDescriptor : Descriptor where
  name := "packed"
  flavor := .unsynchronized
  quantumSize := 1
  quantumCount := 3
  regionSize := 24
  writeCounter := ⟨8, counterSize⟩
  data := ⟨0, 3⟩
  readCounter := none
  writeReserve := some ⟨16, counterSize⟩
  eventFlag := some ⟨4, flagSize⟩

/-- A region for it whose write counter is about to overflow. -/
def packedStore : Store := ⟨#[(Memory.blank 24).store64 8 (UInt64.ofNat (wordLimit - 1))],
  [("packed", 0)], 0⟩

theorem attach_confined_packed :
    ∃ q : Queue (.primitive .u8),
      attach (.primitive .u8) .unsynchronized packedDescriptor packedStore = .ok q ∧
      packedDescriptor.Spread 1 24 ∧
      (∀ c, Client.Later ⟨q, .idle⟩ c → ∀ m r, c.Confined packedDescriptor m r) ∧
      ∀ mask deadline now p, FlagCall.Confined (.wait mask deadline true) packedDescriptor
        ⟨0, 4⟩ now packedStore p := by
  have ok : attach (.primitive .u8) .unsynchronized packedDescriptor packedStore
      = .ok ⟨packedDescriptor, ⟨"packed", 0, 24, false⟩, .own (UInt64.ofNat (wordLimit - 1))⟩ := rfl
  obtain ⟨spread, confined, waits⟩ := attach_confined ok
  exact ⟨_, ok, spread, confined,
    fun mask deadline => waits rfl (by decide) (.wait mask deadline true)⟩

end Queue

end SharedQueue
