/-
SharedQueue.Proofs.Likeness — memories that a handle takes for each other.

* `Descriptor.AgreeUpTo` — two memories hold the same in all cells, except
  for bits of the flag word that are not to be looked at.
* `writePos_of_agree`, `loadSlot_of_agree` and so on — a handle sees the same
  in both.
* `agree_notify`, `agree_reserve`, `agree_fill` and so on — an access that is
  made to both keeps them alike.
* `step_agree` — so does every request, and the replies are the same but for
  those bits.

No operation of a queue reads the flag word; only what it is asked to say
about the flag depends on it.
-/
import SharedQueue.Proofs.Cells
import SharedQueue.Proofs.Client

namespace SharedQueue

namespace Descriptor

/-- The memories hold the same bytes in all cells but the flag, and the flag
has the same bits among those shown. -/
structure AgreeUpTo (d : Descriptor) (shown : UInt32) (m m' : Memory) : Prop where
  byte_eq : ∀ {cell g a}, cell ≠ .word .eventFlag → d.cell? cell = some g → g.Covers a →
    m'.byte a = m.byte a
  flag_eq : ∀ {g}, d.eventFlag = some g →
    m'.load32 g.offset &&& shown = m.load32 g.offset &&& shown

variable {d : Descriptor} {shown : UInt32} {m m' : Memory}

theorem AgreeUpTo.refl (d : Descriptor) (shown : UInt32) (m : Memory) : d.AgreeUpTo shown m m :=
  ⟨fun _ _ _ => rfl, fun _ => rfl⟩

theorem AgreeUpTo.trans {m'' : Memory} (first : d.AgreeUpTo shown m m')
    (second : d.AgreeUpTo shown m' m'') : d.AgreeUpTo shown m m'' := by
  constructor
  · intro cell g a other there covers
    rw [second.byte_eq other there covers, first.byte_eq other there covers]
  · intro g flag
    rw [second.flag_eq flag, first.flag_eq flag]

theorem AgreeUpTo.bytes_eq (agree : d.AgreeUpTo shown m m') {cell : Cell} {g : Grantor}
    {a count : Nat} (other : cell ≠ .word .eventFlag) (there : d.cell? cell = some g)
    (low : g.offset ≤ a) (high : a + count ≤ g.stop) : m'.bytes a count = m.bytes a count := by
  apply List.map_congr_left
  intro i hi
  have hi' : i < count := List.mem_range.mp hi
  apply agree.byte_eq other there
  unfold Grantor.Covers
  omega

theorem AgreeUpTo.load64_eq (agree : d.AgreeUpTo shown m m') {part : Part} {offset : Nat}
    (word : part ≠ .data) (other : part ≠ .eventFlag)
    (place : d.place? part = some ⟨offset, counterSize⟩) : m'.load64 offset = m.load64 offset := by
  have same := agree.bytes_eq (fun flag => other (Cell.word.inj flag)) (word_of_place word place)
    (Nat.le_refl _) (Nat.le_refl _)
  unfold Memory.load64 Memory.loadNat
  exact congrArg (fun bytes => UInt64.ofNat (Bytes.toNat bytes)) same

end Descriptor

namespace Queue

variable {t : ElementType} {q : Queue t} {shown : UInt32} {m m' m₁ m₁' : Memory}
  {tx : Transaction}

/-! ## What is seen -/

theorem writePos_of_agree (agree : q.descriptor.AgreeUpTo shown m m') :
    q.writePos m' = q.writePos m := by
  have place : q.descriptor.place? .writeCounter
      = some ⟨q.descriptor.writeCounter.offset, counterSize⟩ := rfl
  exact agree.load64_eq (by decide) (by decide) place

theorem readPos_of_agree (sound : q.Sound) (agree : q.descriptor.AgreeUpTo shown m m') :
    q.readPos m' = q.readPos m := by
  have suits := sound.cursor
  unfold readPos
  cases cursor : q.cursor with
  | own pos => rfl
  | shared offset =>
    rw [cursor] at suits
    obtain ⟨-, g, read, rfl⟩ := suits
    have place : q.descriptor.place? .readCounter = some ⟨g.offset, counterSize⟩ := by
      simp [Descriptor.place?, read]
    exact agree.load64_eq (by decide) (by decide) place

theorem load64_reserve_of_agree {g : Grantor} (reserve : q.descriptor.writeReserve = some g)
    (agree : q.descriptor.AgreeUpTo shown m m') : m'.load64 g.offset = m.load64 g.offset := by
  have place : q.descriptor.place? .writeReservation = some ⟨g.offset, counterSize⟩ := by
    simp [Descriptor.place?, reserve]
  exact agree.load64_eq (by decide) (by decide) place

theorem reserved_of_agree (agree : q.descriptor.AgreeUpTo shown m m') (writePos : UInt64) :
    q.reserved m' writePos = q.reserved m writePos := by
  unfold reserved
  split
  · rename_i g reserve
    rw [load64_reserve_of_agree reserve agree]
  · rfl

theorem flagBits_of_agree (agree : q.descriptor.AgreeUpTo shown m m') :
    (q.flagBits? m').map (· &&& shown) = (q.flagBits? m).map (· &&& shown) := by
  unfold flagBits?
  cases flag : q.descriptor.eventFlag with
  | none => rfl
  | some g => exact congrArg some (agree.flag_eq flag)

/-- What is said of the flag when bits of it are cleared. -/
theorem clearedBits_of_agree (agree : q.descriptor.AgreeUpTo shown m m') (mask : UInt32) :
    ((q.flagBits? m').map (· &&& mask)).map (· &&& shown)
      = ((q.flagBits? m).map (· &&& mask)).map (· &&& shown) := by
  have swap : ((· &&& shown) ∘ (· &&& mask) : UInt32 → UInt32) = (· &&& mask) ∘ (· &&& shown) := by
    funext w
    simp only [Function.comp_apply, UInt32.and_assoc, UInt32.and_comm mask]
  rw [Option.map_map, Option.map_map, swap, ← Option.map_map, ← Option.map_map,
    flagBits_of_agree agree]

theorem loadSlot_of_agree (sound : q.Sound) (agree : q.descriptor.AgreeUpTo shown m m') {i : Nat}
    (hi : i < q.capacity) : q.loadSlot m' i = q.loadSlot m i := by
  have there : q.descriptor.cell? (.slot i) = some (q.descriptor.slot i) := if_pos hi
  have other : Cell.slot i ≠ .word .eventFlag := nofun
  obtain ⟨low, high⟩ := sound.slot_bounds i
  exact congrArg t.decode (agree.bytes_eq other there low high)

theorem quanta_of_agree (sound : q.Sound) (agree : q.descriptor.AgreeUpTo shown m m')
    (p count : Nat) : q.quanta m' p count = q.quanta m p count := by
  apply List.map_congr_left
  intro i _
  exact loadSlot_of_agree sound agree (Nat.mod_lt _ sound.capacity_pos)

theorem sharedRead_of_agree (agree : q.descriptor.AgreeUpTo shown m m') :
    q.sharedRead m' = q.sharedRead m := by
  unfold sharedRead
  cases read : q.descriptor.readCounter with
  | none => rfl
  | some g =>
    have place : q.descriptor.place? .readCounter = some ⟨g.offset, counterSize⟩ := by
      simp [Descriptor.place?, read]
    exact agree.load64_eq (by decide) (by decide) place

theorem reservation_of_agree (agree : q.descriptor.AgreeUpTo shown m m') :
    q.reservation m' = q.reservation m := by
  unfold reservation
  cases reserve : q.descriptor.writeReserve with
  | none => rfl
  | some g => exact load64_reserve_of_agree reserve agree

theorem view_of_agree (sound : q.Sound) (agree : q.descriptor.AgreeUpTo shown m m') :
    q.view m' = q.view m := by
  apply RingView.ext
  · exact congrArg UInt64.toNat (writePos_of_agree agree)
  · exact congrArg UInt64.toNat (sharedRead_of_agree agree)
  · exact congrArg UInt64.toNat (reservation_of_agree agree)
  · funext p
    exact loadSlot_of_agree sound agree (Nat.mod_lt p sound.capacity_pos)

/-! ## The same access to both -/

/-- Writing the same bytes outside of the flag to both memories keeps them
alike. -/
theorem agree_setBytes (sound : q.Sound) (agree : q.descriptor.AgreeUpTo shown m m') {part : Part}
    {g : Grantor} {a : Nat} {bytes : List UInt8} (other : part ≠ .eventFlag)
    (place : q.descriptor.place? part = some g) (low : g.offset ≤ a)
    (high : a + bytes.length ≤ g.stop) :
    q.descriptor.AgreeUpTo shown (m.setBytes a bytes) (m'.setBytes a bytes) := by
  constructor
  · intro cell h x notFlag there covers
    rw [Memory.byte_setBytes, Memory.byte_setBytes, agree.byte_eq notFlag there covers]
  · intro h flag
    have placeFlag : q.descriptor.place? .eventFlag = some ⟨h.offset, flagSize⟩ := by
      simp [Descriptor.place?, flag]
    rw [load32_of_only sound (Descriptor.only_setBytes place low high) other.symm placeFlag,
      load32_of_only sound (Descriptor.only_setBytes place low high) other.symm placeFlag]
    exact agree.flag_eq flag

theorem agree_store64 (sound : q.Sound) (agree : q.descriptor.AgreeUpTo shown m m') {part : Part}
    {offset : Nat} (other : part ≠ .eventFlag)
    (place : q.descriptor.place? part = some ⟨offset, counterSize⟩) (v : UInt64) :
    q.descriptor.AgreeUpTo shown (m.store64 offset v) (m'.store64 offset v) := by
  apply agree_setBytes sound agree other place (Nat.le_refl _)
  rw [Bytes.length_ofNat]
  exact Nat.le_refl _

/-- Changing the flag of both memories keeps them alike, if it then has the
same bits shown. -/
theorem agree_of_only_eventFlag (sound : q.Sound) (agree : q.descriptor.AgreeUpTo shown m m')
    (left : q.descriptor.Only .eventFlag m m₁) (right : q.descriptor.Only .eventFlag m' m₁')
    (flag : ∀ {g}, q.descriptor.eventFlag = some g →
      m₁'.load32 g.offset &&& shown = m₁.load32 g.offset &&& shown) :
    q.descriptor.AgreeUpTo shown m₁ m₁' := by
  refine ⟨?_, flag⟩
  intro cell g a notFlag there covers
  have outside : ∀ h, q.descriptor.place? .eventFlag = some h → ¬ h.Covers a := by
    intro h placeFlag
    exact (sound.spread.apart notFlag there
      (Descriptor.word_of_place (by decide) placeFlag)).not_covers covers
  rw [left.byte_eq a outside, right.byte_eq a outside]
  exact agree.byte_eq notFlag there covers

theorem agree_notify (sound : q.Sound) (agree : q.descriptor.AgreeUpTo shown m m')
    (mask : UInt32) : q.descriptor.AgreeUpTo shown (q.notify m mask) (q.notify m' mask) := by
  apply agree_of_only_eventFlag sound agree (notify_only q m mask) (notify_only q m' mask)
  intro g flag
  simp only [notify, flag, EventFlag.raise, EventFlag.bits, Memory.load32_store32, or_and_distrib,
    agree.flag_eq flag]

theorem agree_clearBits (sound : q.Sound) (agree : q.descriptor.AgreeUpTo shown m m')
    (mask : UInt32) :
    q.descriptor.AgreeUpTo shown (q.clearBits m mask) (q.clearBits m' mask) := by
  apply agree_of_only_eventFlag sound agree (clearBits_only q m mask) (clearBits_only q m' mask)
  intro g flag
  simp only [clearBits, flag, EventFlag.clear, EventFlag.bits, Memory.load32_store32,
    UInt32.and_assoc, UInt32.and_comm (~~~mask)]
  rw [← UInt32.and_assoc, ← UInt32.and_assoc, agree.flag_eq flag]

theorem agree_reserve (sound : q.Sound) (agree : q.descriptor.AgreeUpTo shown m m')
    (stop : UInt64) : q.descriptor.AgreeUpTo shown (q.reserve m stop) (q.reserve m' stop) := by
  unfold reserve
  cases reserve : q.descriptor.writeReserve with
  | none => exact agree
  | some g =>
    have place : q.descriptor.place? .writeReservation = some ⟨g.offset, counterSize⟩ := by
      simp [Descriptor.place?, reserve]
    dsimp only
    rw [load64_reserve_of_agree reserve agree]
    exact agree_store64 sound agree (by decide) place _

theorem agree_storeSlot (sound : q.Sound) (agree : q.descriptor.AgreeUpTo shown m m') {i : Nat}
    (hi : i < q.capacity) (v : t.Value) :
    q.descriptor.AgreeUpTo shown (q.storeSlot m i v) (q.storeSlot m' i v) := by
  have place : q.descriptor.place? .data = some ⟨_, _⟩ := rfl
  apply agree_setBytes sound agree (by decide) place (Nat.le_add_right _ _)
  rw [ElementType.length_encode]
  exact sound.slot_within hi

theorem agree_storeSlots (sound : q.Sound) (agree : q.descriptor.AgreeUpTo shown m m') {i : Nat}
    {values : List t.Value} (room : i + values.length ≤ q.capacity) :
    q.descriptor.AgreeUpTo shown (q.storeSlots m i values) (q.storeSlots m' i values) := by
  induction values generalizing m m' i with
  | nil => exact agree
  | cons v rest ih =>
    rw [List.length_cons] at room
    exact ih (agree_storeSlot sound agree (by omega) v) (by omega)

theorem agree_fill (sound : q.Sound) (agree : q.descriptor.AgreeUpTo shown m m') (pos : UInt64)
    {data : List t.Value} (fits : data.length ≤ q.capacity) :
    q.descriptor.AgreeUpTo shown (q.fill m pos data) (q.fill m' pos data) := by
  obtain ⟨first, second⟩ := Runs.of_le pos sound.capacity_pos fits
  apply agree_storeSlots sound (agree_storeSlots sound agree ?_) ?_
  · rw [List.length_take]
    exact Nat.le_trans (Nat.add_le_add_left (Nat.min_le_left _ _) _) first
  · rw [List.length_drop, Nat.zero_add]
    exact second

theorem agree_commitWrite (sound : q.Sound) (agree : q.descriptor.AgreeUpTo shown m m')
    (tx : Transaction) :
    q.descriptor.AgreeUpTo shown (q.commitWrite m tx) (q.commitWrite m' tx) := by
  unfold commitWrite
  split
  · exact agree
  · have place : q.descriptor.place? .writeCounter = some ⟨_, counterSize⟩ := rfl
    exact agree_notify sound (agree_store64 sound agree (by decide) place tx.stop) notEmpty

theorem agree_release (sound : q.Sound) (agree : q.descriptor.AgreeUpTo shown m m')
    (pos : UInt64) :
    q.descriptor.AgreeUpTo shown (q.release m pos).2 (q.release m' pos).2 := by
  have suits := sound.cursor
  unfold release Cursor.store
  cases cursor : q.cursor with
  | own _ => exact agree
  | shared offset =>
    rw [cursor] at suits
    obtain ⟨-, g, read, rfl⟩ := suits
    have place : q.descriptor.place? .readCounter = some ⟨g.offset, counterSize⟩ := by
      simp [Descriptor.place?, read]
    exact agree_store64 sound agree (by decide) place pos

theorem fst_release (q : Queue t) (m m' : Memory) (pos : UInt64) :
    (q.release m' pos).1 = (q.release m pos).1 := by
  unfold release Cursor.store
  cases q.cursor <;> rfl

/-! ## The same operation on both -/

/-- A write is opened on both memories or on neither. -/
theorem beginWrite_of_agree (sound : q.Sound) (agree : q.descriptor.AgreeUpTo shown m m')
    (count : Nat) :
    (∃ e, q.beginWrite m count = .error e ∧ q.beginWrite m' count = .error e) ∨
      ∃ tx m₁ m₁', q.beginWrite m count = .ok (tx, m₁) ∧ q.beginWrite m' count = .ok (tx, m₁') ∧
        q.descriptor.AgreeUpTo shown m₁ m₁' := by
  unfold beginWrite
  dsimp only
  rw [writePos_of_agree agree, readPos_of_agree sound agree]
  cases q.flavor.checkWrite q.capacity (q.writePos m) (q.readPos m) count with
  | error e => exact .inl ⟨e, rfl, rfl⟩
  | ok checked =>
    refine .inr ⟨_, _, _, rfl, rfl, ?_⟩
    split
    · exact agree
    · exact agree_reserve sound agree _

theorem beginRead_of_agree (sound : q.Sound) (agree : q.descriptor.AgreeUpTo shown m m') (count : Nat) :
    q.beginRead m' count = q.beginRead m count := by
  unfold beginRead
  rw [writePos_of_agree agree, readPos_of_agree sound agree]

theorem get_of_agree (sound : q.Sound) (agree : q.descriptor.AgreeUpTo shown m m')
    (fits : tx.count ≤ q.capacity) (i : Nat) : q.get m' tx i = q.get m tx i := by
  unfold get
  split
  · rename_i inside
    rw [runs, Runs.slot_of tx.pos fits inside,
      loadSlot_of_agree sound agree (Nat.mod_lt _ sound.capacity_pos)]
  · rfl

theorem copyOut_of_agree (sound : q.Sound) (agree : q.descriptor.AgreeUpTo shown m m')
    (fits : tx.count ≤ q.capacity) (length : Nat) :
    q.copyOut m' tx length = q.copyOut m tx length := by
  unfold copyOut
  rw [take_eq q m' tx.pos fits, take_eq q m tx.pos fits, quanta_of_agree sound agree]

theorem commitRead_of_agree (sound : q.Sound) (agree : q.descriptor.AgreeUpTo shown m m')
    (tx : Transaction) :
    (q.commitRead m' tx).1 = (q.commitRead m tx).1 ∧
      (q.commitRead m' tx).2.1 = (q.commitRead m tx).2.1 ∧
      q.descriptor.AgreeUpTo shown (q.commitRead m tx).2.2 (q.commitRead m' tx).2.2 := by
  unfold commitRead
  dsimp only
  rw [writePos_of_agree agree, readPos_of_agree sound agree, reserved_of_agree agree]
  split
  · exact ⟨rfl, rfl, agree⟩
  · split
    · exact ⟨rfl, rfl, agree⟩
    · have released := agree_release sound agree tx.stop
      refine ⟨rfl, fst_release q m m' tx.stop, ?_⟩
      dsimp only
      rw [fst_release q m m' tx.stop]
      exact agree_notify (q := (q.release m tx.stop).1)
        ((continues_release q m tx.stop).sound sound) released notFull

/-- A place is set in both memories or in neither. -/
theorem set_of_agree (sound : q.Sound) (agree : q.descriptor.AgreeUpTo shown m m')
    (fits : tx.count ≤ q.capacity) (i : Nat) (v : t.Value) :
    (∃ e, q.set m tx i v = .error e ∧ q.set m' tx i v = .error e) ∨
      ∃ m₁ m₁', q.set m tx i v = .ok m₁ ∧ q.set m' tx i v = .ok m₁' ∧
        q.descriptor.AgreeUpTo shown m₁ m₁' := by
  unfold set
  by_cases inside : i < tx.count
  · have slot : (q.runs tx.pos tx.count).slot i < q.capacity := by
      rw [runs, Runs.slot_of tx.pos fits inside]
      exact Nat.mod_lt _ sound.capacity_pos
    exact .inr ⟨_, _, if_pos inside, if_pos inside, agree_storeSlot sound agree slot v⟩
  · exact .inl ⟨_, if_neg inside, if_neg inside⟩

theorem copyIn_of_agree (sound : q.Sound) (agree : q.descriptor.AgreeUpTo shown m m')
    (fits : tx.count ≤ q.capacity) (data : List t.Value) :
    (∃ e, q.copyIn m tx data = .error e ∧ q.copyIn m' tx data = .error e) ∨
      ∃ m₁ m₁', q.copyIn m tx data = .ok m₁ ∧ q.copyIn m' tx data = .ok m₁' ∧
        q.descriptor.AgreeUpTo shown m₁ m₁' := by
  unfold copyIn
  by_cases same : data.length = tx.count
  · rw [← same] at fits
    exact .inr ⟨_, _, if_pos same, if_pos same, agree_fill sound agree tx.pos fits⟩
  · exact .inl ⟨_, if_neg same, if_neg same⟩

theorem write_of_agree (sound : q.Sound) (agree : q.descriptor.AgreeUpTo shown m m')
    (data : List t.Value) :
    (q.write m' data).1 = (q.write m data).1 ∧
      q.descriptor.AgreeUpTo shown (q.write m data).2 (q.write m' data).2 := by
  unfold write
  split
  · exact ⟨rfl, agree⟩
  · rcases beginWrite_of_agree sound agree data.length with
      ⟨e, left, right⟩ | ⟨tx, m₁, m₁', left, right, reserved⟩
    · rw [left, right]
      exact ⟨rfl, agree⟩
    · obtain ⟨-, fits, -⟩ := beginWrite_eq_ok left
      rw [left, right]
      exact ⟨rfl, agree_commitWrite sound (agree_fill sound reserved _ fits) tx⟩

theorem read_of_agree (sound : q.Sound) (agree : q.descriptor.AgreeUpTo shown m m')
    (buffer : List t.Value) :
    (q.read m' buffer).answer = (q.read m buffer).answer ∧
      (q.read m' buffer).buffer = (q.read m buffer).buffer ∧
      (q.read m' buffer).queue = (q.read m buffer).queue ∧
      q.descriptor.AgreeUpTo shown (q.read m buffer).memory (q.read m' buffer).memory := by
  unfold read
  rw [beginRead_of_agree sound agree]
  split
  · exact ⟨rfl, rfl, rfl, agree⟩
  · rcases begun : q.beginRead m buffer.length with ⟨e | tx, q'⟩
    · exact ⟨rfl, rfl, rfl, agree⟩
    · obtain ⟨rfl, rfl, fits, -⟩ := beginRead_eq_ok begun
      obtain ⟨answer, queue, memory⟩ :=
        commitRead_of_agree sound agree ⟨q'.readPos m, buffer.length⟩
      dsimp only
      rw [answer, queue, take_eq q' m' _ fits, take_eq q' m _ fits, quanta_of_agree sound agree]
      exact ⟨rfl, rfl, rfl, memory⟩

end Queue

/-! ## The same request on both -/

namespace Client

/-- A reply with the bits of the flag that are shown. -/
def Reply.showing {t : ElementType} (shown : UInt32) : Reply t → Reply t
  | .word w => .word (w.map (· &&& shown))
  | reply => reply

variable {t : ElementType} {c : Client t} {shown : UInt32} {m m' : Memory}

theorem step_agree (ready : c.Ready) (agree : c.queue.descriptor.AgreeUpTo shown m m')
    (r : Request t) :
    (c.step m' r).client = (c.step m r).client ∧
      (c.step m' r).reply.showing shown = (c.step m r).reply.showing shown ∧
      c.queue.descriptor.AgreeUpTo shown (c.step m r).memory (c.step m' r).memory := by
  have sound := ready.sound
  cases c with
  | mk q activity =>
    cases activity with
    | idle =>
      cases r with
      | write data =>
        obtain ⟨answer, memory⟩ := Queue.write_of_agree sound agree data
        unfold step
        dsimp only
        rw [answer]
        exact ⟨rfl, rfl, memory⟩
      | beginWrite count =>
        unfold step
        dsimp only
        rcases Queue.beginWrite_of_agree sound agree count with
          ⟨e, left, right⟩ | ⟨tx, m₁, m₁', left, right, reserved⟩
        · rw [left, right]
          exact ⟨rfl, rfl, agree⟩
        · rw [left, right]
          exact ⟨rfl, rfl, reserved⟩
      | read buffer =>
        obtain ⟨answer, taken, queue, memory⟩ := Queue.read_of_agree sound agree buffer
        unfold step
        dsimp only
        rw [answer, taken, queue]
        exact ⟨rfl, rfl, memory⟩
      | beginRead count =>
        unfold step
        dsimp only
        rw [Queue.beginRead_of_agree sound agree]
        rcases q.beginRead m count with ⟨e | tx, q'⟩
        · exact ⟨rfl, rfl, agree⟩
        · exact ⟨rfl, rfl, agree⟩
      | raise mask =>
        unfold step
        dsimp only
        split
        · exact ⟨rfl, rfl, agree⟩
        · exact ⟨rfl, rfl, Queue.agree_notify sound agree mask⟩
      | clear mask =>
        unfold step
        dsimp only
        exact ⟨rfl, congrArg Reply.word (Queue.clearedBits_of_agree agree mask),
          Queue.agree_clearBits sound agree mask⟩
      | bits =>
        unfold step
        dsimp only
        exact ⟨rfl, congrArg Reply.word (Queue.flagBits_of_agree agree), agree⟩
      | set | copyIn | commitWrite | get | copyOut | commitRead | abandon =>
        exact ⟨rfl, rfl, agree⟩
    | writing tx =>
      have fits : tx.count ≤ q.capacity := ready.fits rfl
      cases r with
      | set place v =>
        unfold step
        dsimp only
        rcases Queue.set_of_agree sound agree fits place v with
          ⟨e, left, right⟩ | ⟨m₁, m₁', left, right, stored⟩
        · rw [left, right]
          exact ⟨rfl, rfl, agree⟩
        · rw [left, right]
          exact ⟨rfl, rfl, stored⟩
      | copyIn data =>
        unfold step
        dsimp only
        rcases Queue.copyIn_of_agree sound agree fits data with
          ⟨e, left, right⟩ | ⟨m₁, m₁', left, right, copied⟩
        · rw [left, right]
          exact ⟨rfl, rfl, agree⟩
        · rw [left, right]
          exact ⟨rfl, rfl, copied⟩
      | commitWrite => exact ⟨rfl, rfl, Queue.agree_commitWrite sound agree tx⟩
      | write | beginWrite | read | beginRead | get | copyOut | commitRead | abandon | raise
      | clear | bits => exact ⟨rfl, rfl, agree⟩
    | reading tx =>
      have fits : tx.count ≤ q.capacity := ready.fits rfl
      cases r with
      | get place =>
        unfold step
        dsimp only
        rw [Queue.get_of_agree sound agree fits]
        exact ⟨rfl, rfl, agree⟩
      | copyOut length =>
        unfold step
        dsimp only
        rw [Queue.copyOut_of_agree sound agree fits]
        exact ⟨rfl, rfl, agree⟩
      | commitRead =>
        obtain ⟨answer, queue, memory⟩ := Queue.commitRead_of_agree sound agree tx
        unfold step
        dsimp only
        rw [answer, queue]
        exact ⟨rfl, rfl, memory⟩
      | write | beginWrite | set | copyIn | commitWrite | read | beginRead | abandon | raise
      | clear | bits => exact ⟨rfl, rfl, agree⟩

end Client

end SharedQueue
