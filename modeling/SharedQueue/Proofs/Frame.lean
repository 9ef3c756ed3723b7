/-
SharedQueue.Proofs.Frame — what an access leaves alone.

* `Descriptor.Only` — two memories that differ in one piece at most. Every
  primitive access of a handle is of this kind, and `publish_only`,
  `reserve_only`, `release_only`, `notify_only` and `storeSlots_only` say in
  which piece.
* `writePos_of_only`, `reservation_of_only`, `flagBits_of_only`,
  `loadSlot_of_only` — whatever lies in another piece
  looks the same afterwards.

With these two groups an operation is followed through memory piece by
piece, and no later proof speaks of bytes or offsets.
-/
import SharedQueue.Proofs.Joining
import SharedQueue.Queue.Transaction

namespace SharedQueue

namespace Descriptor

/-- The memories differ in the piece at most. -/
structure Only (d : Descriptor) (part : Part) (m m' : Memory) : Prop where
  size_eq : m'.size = m.size
  byte_eq : ∀ a, (∀ g, d.place? part = some g → ¬ g.Covers a) → m'.byte a = m.byte a

variable {d : Descriptor} {part other : Part} {m m' m'' : Memory} {g : Grantor}

theorem Only.refl (d : Descriptor) (part : Part) (m : Memory) : d.Only part m m :=
  ⟨rfl, fun _ _ => rfl⟩

theorem Only.trans (first : d.Only part m m') (second : d.Only part m' m'') :
    d.Only part m m'' := by
  constructor
  · rw [second.size_eq, first.size_eq]
  · intro a outside
    rw [second.byte_eq a outside, first.byte_eq a outside]

theorem only_setBytes {a : Nat} {bytes : List UInt8} (place : d.place? part = some g)
    (low : g.offset ≤ a) (high : a + bytes.length ≤ g.stop) :
    d.Only part m (m.setBytes a bytes) := by
  constructor
  · exact Memory.size_setBytes m a bytes
  · intro x outside
    have clear := outside g place
    rw [Memory.byte_setBytes]
    by_cases after : a ≤ x
    · have beyond : bytes.length ≤ x - a := by
        unfold Grantor.Covers at clear
        omega
      rw [if_pos after, List.getElem?_eq_none beyond, Option.getD_none]
    · rw [if_neg after]

/-- Storing a counter changes the piece of that counter. -/
theorem only_store64 {offset : Nat} (place : d.place? part = some ⟨offset, counterSize⟩)
    (v : UInt64) : d.Only part m (m.store64 offset v) := by
  apply only_setBytes place
  · exact Nat.le_refl _
  · rw [Bytes.length_ofNat]
    exact Nat.le_refl _

/-- Storing the flag word changes the flag. -/
theorem only_store32 {offset : Nat} (place : d.place? part = some ⟨offset, flagSize⟩)
    (v : UInt32) : d.Only part m (m.store32 offset v) := by
  apply only_setBytes place
  · exact Nat.le_refl _
  · rw [Bytes.length_ofNat]
    exact Nat.le_refl _

/-- Bytes of another piece are the same afterwards. -/
theorem Only.bytes_eq {quantumAlign size a count : Nat} (placed : d.Placed quantumAlign size)
    (only : d.Only part m m') (ne : other ≠ part) (place : d.place? other = some g)
    (low : g.offset ≤ a) (high : a + count ≤ g.stop) : m'.bytes a count = m.bytes a count := by
  apply List.map_congr_left
  intro i hi
  have hi' : i < count := List.mem_range.mp hi
  apply only.byte_eq
  intro h placeH
  have covered : g.Covers (a + i) := by
    unfold Grantor.Covers
    omega
  exact (placed.apart ne place placeH).not_covers covered

end Descriptor

namespace Queue

variable {t : ElementType} {q : Queue t} {m m' : Memory} {part : Part}

/-! ## What a handle sees in the pieces that did not change -/

/-- The position up to which slots may be overwritten, if that is announced
at all. -/
def reservation (q : Queue t) (m : Memory) : UInt64 :=
  match q.descriptor.writeReserve with
  | some g => m.load64 g.offset
  | none => 0

theorem load64_of_only {other : Part} {offset : Nat} (sound : q.Sound)
    (only : q.descriptor.Only part m m') (ne : other ≠ part)
    (place : q.descriptor.place? other = some ⟨offset, counterSize⟩) :
    m'.load64 offset = m.load64 offset := by
  have same := only.bytes_eq sound.placed ne place (Nat.le_refl _) (Nat.le_refl _)
  unfold Memory.load64 Memory.loadNat
  exact congrArg (fun bytes => UInt64.ofNat (Bytes.toNat bytes)) same

theorem load32_of_only {other : Part} {offset : Nat} (sound : q.Sound)
    (only : q.descriptor.Only part m m') (ne : other ≠ part)
    (place : q.descriptor.place? other = some ⟨offset, flagSize⟩) :
    m'.load32 offset = m.load32 offset := by
  have same := only.bytes_eq sound.placed ne place (Nat.le_refl _) (Nat.le_refl _)
  unfold Memory.load32 Memory.loadNat
  exact congrArg (fun bytes => UInt32.ofNat (Bytes.toNat bytes)) same

theorem writePos_of_only (sound : q.Sound) (only : q.descriptor.Only part m m')
    (ne : part ≠ .writeCounter) : q.writePos m' = q.writePos m :=
  load64_of_only sound only ne.symm rfl

theorem reservation_of_only (sound : q.Sound) (only : q.descriptor.Only part m m')
    (ne : part ≠ .writeReservation) : q.reservation m' = q.reservation m := by
  unfold reservation
  cases reserve : q.descriptor.writeReserve with
  | none => rfl
  | some g =>
    have place : q.descriptor.place? .writeReservation = some ⟨g.offset, counterSize⟩ := by
      simp [Descriptor.place?, reserve]
    exact load64_of_only sound only ne.symm place

theorem flagBits_of_only (sound : q.Sound) (only : q.descriptor.Only part m m')
    (ne : part ≠ .eventFlag) : q.flagBits? m' = q.flagBits? m := by
  unfold flagBits?
  cases flag : q.descriptor.eventFlag with
  | none => rfl
  | some g =>
    have place : q.descriptor.place? .eventFlag = some ⟨g.offset, flagSize⟩ := by
      simp [Descriptor.place?, flag]
    exact congrArg some (load32_of_only sound only ne.symm place)

/-- The slots fill the data range. -/
theorem Sound.slot_within (sound : q.Sound) {i : Nat} (hi : i < q.capacity) :
    q.slotAddress i + t.size
      ≤ q.descriptor.data.offset + q.descriptor.quantumSize * q.descriptor.quantumCount := by
  have step : (i + 1) * t.size ≤ q.descriptor.quantumCount * t.size :=
    Nat.mul_le_mul_right t.size hi
  rw [Nat.succ_mul] at step
  rw [sound.quantumSize, Nat.mul_comm t.size]
  unfold slotAddress
  omega

theorem loadSlot_of_only (sound : q.Sound) (only : q.descriptor.Only part m m')
    (ne : part ≠ .data) {i : Nat} (hi : i < q.capacity) : q.loadSlot m' i = q.loadSlot m i := by
  have same := only.bytes_eq sound.placed ne.symm rfl (Nat.le_add_right _ _)
    (sound.slot_within hi)
  exact congrArg t.decode same

/-! ## The piece that an access changes -/

theorem publish_only (q : Queue t) (m : Memory) (pos : UInt64) :
    q.descriptor.Only .writeCounter m (q.publish m pos) :=
  Descriptor.only_store64 rfl pos

theorem reserve_only (q : Queue t) (m : Memory) (stop : UInt64) :
    q.descriptor.Only .writeReservation m (q.reserve m stop) := by
  unfold reserve
  cases reserve : q.descriptor.writeReserve with
  | none => exact .refl _ _ m
  | some g => exact Descriptor.only_store64 (by simp [Descriptor.place?, reserve]) _

theorem notify_only (q : Queue t) (m : Memory) (mask : UInt32) :
    q.descriptor.Only .eventFlag m (q.notify m mask) := by
  unfold notify
  cases flag : q.descriptor.eventFlag with
  | none => exact .refl _ _ m
  | some g => exact Descriptor.only_store32 (by simp [Descriptor.place?, flag]) _

theorem release_only (sound : q.Sound) (m : Memory) (pos : UInt64) :
    q.descriptor.Only .readCounter m (q.release m pos).2 := by
  have suits := sound.cursor
  unfold release Cursor.store
  cases cursor : q.cursor with
  | own pos => exact .refl _ _ m
  | shared offset =>
    rw [cursor] at suits
    obtain ⟨-, g, read, rfl⟩ := suits
    exact Descriptor.only_store64 (by simp [Descriptor.place?, read]) pos

theorem storeSlot_only (sound : q.Sound) (m : Memory) {i : Nat} (hi : i < q.capacity)
    (v : t.Value) : q.descriptor.Only .data m (q.storeSlot m i v) := by
  apply Descriptor.only_setBytes rfl
  · exact Nat.le_add_right _ _
  · rw [ElementType.length_encode]
    exact sound.slot_within hi

theorem storeSlots_only (sound : q.Sound) (m : Memory) {i : Nat} {values : List t.Value}
    (room : i + values.length ≤ q.capacity) :
    q.descriptor.Only .data m (q.storeSlots m i values) := by
  induction values generalizing m i with
  | nil => exact .refl _ _ m
  | cons v rest ih =>
    rw [List.length_cons] at room
    have head := storeSlot_only sound m (i := i) (by omega) v
    exact head.trans (ih (q.storeSlot m i v) (by omega))

end Queue

end SharedQueue
