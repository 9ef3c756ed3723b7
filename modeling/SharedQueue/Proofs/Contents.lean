/-
SharedQueue.Proofs.Contents — memories byte by byte.

* `Memory.SameBytes` — two memories that no access can tell from each other.
* `Descriptor.OnlySlots` — two memories that differ in the given slots at most.
  `onlySlots_of` puts it together from a frame that speaks of pieces and one that
  speaks of cells; `storeSlot_onlySlots` and `fill_onlySlots` are its uses.
* `sameBytes_of_slots` — memories that came from the same one, and in which all
  slots hold the same quanta, have the same bytes.
* `sameBytes_commitWrite` — what is done to both keeps them the same.

A memory keeps the bytes that were written in the order of their addresses, not
of the stores, but how they are kept depends on the stores all the same. So the
results here are about bytes and not about memories.
-/
import SharedQueue.Proofs.Confinement

namespace SharedQueue

/-! ## Memories that are the same -/

/-- The memories are of one size and hold the same bytes. -/
structure Memory.SameBytes (m m' : Memory) : Prop where
  size_eq : m'.size = m.size
  byte_eq : ∀ a, m'.byte a = m.byte a

namespace Memory.SameBytes

variable {m m' m'' : Memory}

theorem refl (m : Memory) : m.SameBytes m := ⟨rfl, fun _ => rfl⟩

theorem bytes_eq (same : m.SameBytes m') (a count : Nat) : m'.bytes a count = m.bytes a count :=
  List.map_congr_left fun i _ => same.byte_eq (a + i)

theorem load32_eq (same : m.SameBytes m') (a : Nat) : m'.load32 a = m.load32 a := by
  unfold load32 loadNat
  rw [same.bytes_eq]

theorem setBytes (same : m.SameBytes m') (a : Nat) (bytes : List UInt8) :
    (m.setBytes a bytes).SameBytes (m'.setBytes a bytes) := by
  constructor
  · rw [size_setBytes, size_setBytes, same.size_eq]
  · intro x
    rw [byte_setBytes, byte_setBytes, same.byte_eq]

end Memory.SameBytes

/-! ## Slots and nothing else -/

namespace Descriptor

/-- The memories differ in the given slots at most. -/
structure OnlySlots (d : Descriptor) (slots : Nat → Prop) (m m' : Memory) : Prop where
  size_eq : m'.size = m.size
  changed : ∀ {a}, m'.byte a ≠ m.byte a → ∃ i < d.quantumCount, slots i ∧ (d.slot i).Covers a

variable {d : Descriptor} {slots slots' : Nat → Prop} {m m' m'' : Memory}

theorem OnlySlots.refl (d : Descriptor) (slots : Nat → Prop) (m : Memory) :
    d.OnlySlots slots m m :=
  ⟨rfl, fun differ => absurd rfl differ⟩

theorem OnlySlots.trans (first : d.OnlySlots slots m m') (second : d.OnlySlots slots m' m'') :
    d.OnlySlots slots m m'' := by
  refine ⟨second.size_eq.trans first.size_eq, ?_⟩
  intro a differ
  by_cases same : m''.byte a = m'.byte a
  · rw [same] at differ
    exact first.changed differ
  · exact second.changed same

/-- What changes the data range only, and no other cells than words and some
slots, changes these slots only. -/
theorem onlySlots_of {quantumAlign size : Nat} (placed : d.Placed quantumAlign size)
    (only : d.Only .data m m') (changes : d.Changes slots m m') : d.OnlySlots slots m m' := by
  refine ⟨only.size_eq, ?_⟩
  intro a differ
  obtain ⟨cell, g, there, covers, among⟩ := changes.changed differ
  cases cell with
  | slot i =>
    obtain ⟨small, rfl⟩ := slot_of_cell there
    exact ⟨i, small, among i rfl, covers⟩
  | word part =>
    obtain ⟨word, place⟩ := place_of_word there
    refine absurd (only.byte_eq a ?_) differ
    intro h data
    exact (placed.apart word place data).not_covers covers

end Descriptor

namespace Queue

variable {t : ElementType} {q : Queue t} {m m' : Memory} {slots : Nat → Prop}

theorem storeSlot_onlySlots (sound : q.Sound) (m : Memory) {i : Nat} (hi : i < q.capacity)
    (v : t.Value) (among : slots i) : q.descriptor.OnlySlots slots m (q.storeSlot m i v) :=
  Descriptor.onlySlots_of sound.placed (storeSlot_only sound m hi v)
    (storeSlot_changes sound m hi v among)

theorem fill_onlySlots (sound : q.Sound) (m : Memory) (pos : UInt64) {data : List t.Value}
    (fits : data.length ≤ q.capacity)
    (among : ∀ i < data.length, slots ((pos.toNat + i) % q.capacity)) :
    q.descriptor.OnlySlots slots m (q.fill m pos data) :=
  Descriptor.onlySlots_of sound.placed (fill_only sound m pos fits)
    (fill_changes sound m pos fits among)

/-! ## From quanta to bytes -/

/-- A quantum tells all bytes of its slot. -/
theorem byte_of_loadSlot (sound : q.Sound) {i : Nat} (same : q.loadSlot m' i = q.loadSlot m i)
    {a : Nat} (covers : (q.descriptor.slot i).Covers a) : m'.byte a = m.byte a := by
  have bytes : m'.bytes (q.slotAddress i) t.size = m.bytes (q.slotAddress i) t.size := by
    rw [← t.encode_decode (m'.bytes _ _) (Memory.length_bytes ..),
      ← t.encode_decode (m.bytes _ _) (Memory.length_bytes ..)]
    exact congrArg t.encode same
  have start := sound.slotAddress_eq i
  have stop : (q.descriptor.slot i).stop = q.slotAddress i + t.size := by
    rw [start, ← sound.quantumSize]
    rfl
  obtain ⟨low, high⟩ := covers
  rw [← start] at low
  rw [stop] at high
  have inside : a - q.slotAddress i < t.size := Nat.sub_lt_left_of_lt_add low high
  have there := List.map_inj_left.mp bytes (a - q.slotAddress i) (List.mem_range.mpr inside)
  rwa [Nat.add_sub_cancel' low] at there

/-- Every byte of the data range belongs to a slot. -/
theorem exists_slot (sound : q.Sound) {g : Grantor} (place : q.descriptor.place? .data = some g)
    {a : Nat} (covers : g.Covers a) :
    ∃ i < q.capacity, (q.descriptor.slot i).Covers a := by
  obtain rfl := Option.some.inj place
  obtain ⟨low, high⟩ := covers
  unfold Grantor.stop at high
  dsimp only at low high
  have pos := sound.placed.size_pos
  have inside : a - q.descriptor.data.offset <
      q.descriptor.quantumSize * q.descriptor.quantumCount := by omega
  refine ⟨(a - q.descriptor.data.offset) / q.descriptor.quantumSize,
    Nat.div_lt_of_lt_mul inside, ?_⟩
  have split := Nat.div_add_mod' (a - q.descriptor.data.offset) q.descriptor.quantumSize
  have rest := Nat.mod_lt (a - q.descriptor.data.offset) pos
  unfold Grantor.Covers Grantor.stop Descriptor.slot
  dsimp only
  omega

/-- If two memories came from one by changes to slots, the quanta tell whether
they are the same. -/
theorem sameBytes_of_slots (sound : q.Sound) {m₁ m₂ : Memory}
    (first : q.descriptor.Only .data m m₁) (second : q.descriptor.Only .data m m₂)
    (same : ∀ i < q.capacity, q.loadSlot m₂ i = q.loadSlot m₁ i) : m₁.SameBytes m₂ := by
  refine ⟨second.size_eq.trans first.size_eq.symm, ?_⟩
  intro a
  by_cases inside : ∃ g, q.descriptor.place? .data = some g ∧ g.Covers a
  · obtain ⟨g, place, covers⟩ := inside
    obtain ⟨i, small, covers⟩ := exists_slot sound place covers
    exact byte_of_loadSlot sound (same i small) covers
  · -- neither way has gone there
    have outside : ∀ g, q.descriptor.place? .data = some g → ¬ g.Covers a :=
      fun g place covers => inside ⟨g, place, covers⟩
    rw [second.byte_eq a outside, first.byte_eq a outside]

theorem sameBytes_notify (q : Queue t) (same : m.SameBytes m') (mask : UInt32) :
    (q.notify m mask).SameBytes (q.notify m' mask) := by
  unfold notify
  cases q.descriptor.eventFlag with
  | none => exact same
  | some g =>
    unfold EventFlag.raise EventFlag.bits
    dsimp only
    rw [same.load32_eq]
    exact same.setBytes ..

theorem sameBytes_commitWrite (q : Queue t) (same : m.SameBytes m') (tx : Transaction) :
    (q.commitWrite m tx).SameBytes (q.commitWrite m' tx) := by
  unfold commitWrite
  split
  · exact same
  · exact sameBytes_notify q (same.setBytes ..) notEmpty

end Queue

end SharedQueue
