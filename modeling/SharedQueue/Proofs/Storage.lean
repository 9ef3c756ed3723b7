/-
SharedQueue.Proofs.Storage — quanta are stored byte for byte.

* `ElementType.bit` — the bits of a value in one row, with no regard to bytes;
  `ElementType.Spells` — which bytes tell them. `spells_iff` says that these are
  the bytes that are put into a slot.
* `existsUnique_spells` — all bytes of the right number spell one value.
* `Queue.Stored` — what some places of a transaction hold after they were filled.
* `Queue.loadSlot_eq` — a slot as handles of two types see it. Both read the same
  bytes, so what the one sees is the other's value spelled anew.
* `Queue.Relays` — quanta that are carried elsewhere through the other handle.
* `stored_byte_for_byte` — filling places stores the quanta so, and they survive
  being carried on.
-/
import SharedQueue.Proofs.Contents

namespace SharedQueue

/-! ## The bytes of a number -/

namespace Bytes

theorem getElem?_ofNat {count i : Nat} (hi : i < count) (n : Nat) :
    (ofNat count n)[i]? = some (UInt8.ofNat (n >>> (8 * i))) := by
  induction count generalizing i n with
  | zero => exact absurd hi (Nat.not_lt_zero i)
  | succ count ih =>
    cases i with
    | zero => simp [ofNat]
    | succ i =>
      have byte : n / 256 = n >>> 8 := (Nat.shiftRight_eq_div_pow n 8).symm
      have shift : (n / 256) >>> (8 * i) = n >>> (8 * (i + 1)) := by
        rw [byte, ← Nat.shiftRight_add, Nat.mul_succ, Nat.add_comm]
      rw [ofNat, List.getElem?_cons_succ, ih (Nat.lt_of_succ_lt_succ hi), shift]

theorem testBit_ofNat (n : Nat) {b : Nat} (hb : b < 8) :
    (UInt8.ofNat n).toNat.testBit b = n.testBit b := by
  rw [UInt8.toNat_ofNat', Nat.testBit_mod_two_pow, decide_eq_true hb, Bool.true_and]

/-- A byte is told by its bits. -/
theorem eq_of_testBit_eq {x y : UInt8} (same : ∀ b < 8, x.toNat.testBit b = y.toNat.testBit b) :
    x = y := by
  apply UInt8.toNat_inj.mp
  apply Nat.eq_of_testBit_eq
  intro b
  by_cases hb : b < 8
  · exact same b hb
  · have high : 2 ^ 8 ≤ 2 ^ b := Nat.pow_le_pow_right (by decide) (Nat.le_of_not_lt hb)
    rw [Nat.testBit_lt_two_pow (Nat.lt_of_lt_of_le x.toNat_lt high),
      Nat.testBit_lt_two_pow (Nat.lt_of_lt_of_le y.toNat_lt high)]

end Bytes

/-! ## The bits of a value -/

namespace ElementType

/-- The bits of a value: those of a number from the lowest to the highest, those
of an array item after item. -/
def bit : (t : ElementType) → t.Value → Nat → Bool
  | primitive p, v, j => BitVec.getLsbD (w := 8 * p.size) v j
  | array item length, v, j =>
    if inside : j / (8 * item.size) < length then
      item.bit (Vector.get (n := length) v ⟨j / (8 * item.size), inside⟩) (j % (8 * item.size))
    else false

/-- The bytes are as many as the type asks for, and eight bits of the value are
in each of them. -/
structure Spells (t : ElementType) (bytes : List UInt8) (v : t.Value) : Prop where
  length_eq : bytes.length = t.size
  bit_eq : ∀ {i byte}, bytes[i]? = some byte →
    ∀ b < 8, byte.toNat.testBit b = t.bit v (8 * i + b)

/-- The bits of an array's item are those of the array, further on. -/
theorem bit_array {item : ElementType} {length : Nat} (v : (array item length).Value)
    (some : 0 < item.size) {i : Nat} (hi : i < length) {j : Nat} (hj : j < 8 * item.size) :
    (array item length).bit v (8 * item.size * i + j) =
      item.bit (Vector.get (n := length) v ⟨i, hi⟩) j := by
  have pos : 0 < 8 * item.size := Nat.mul_pos (by decide) some
  have place : (8 * item.size * i + j) / (8 * item.size) = i := by
    rw [Nat.mul_add_div pos, Nat.div_eq_of_lt hj, Nat.add_zero]
  have rest : (8 * item.size * i + j) % (8 * item.size) = j := by
    rw [Nat.mul_add_mod, Nat.mod_eq_of_lt hj]
  simp only [bit, place, rest, hi, dite_true]

/-- Where a byte of an array is among those of its item. -/
theorem getElem?_encode_array {item : ElementType} {length : Nat} (v : (array item length).Value)
    {i j : Nat} (hi : i < length) (hj : j < item.size) :
    ((array item length).encode v)[i * item.size + j]? =
      (item.encode (Vector.get (n := length) v ⟨i, hi⟩))[j]? := by
  have count : (Vector.toList (n := length) v).length = length := Vector.length_toList
  have piece := take_drop_flatMap (f := item.encode) (Vector.toList (n := length) v)
    (fun x _ => length_encode item x) i (by rw [count]; exact hi)
  have same : (Vector.toList (n := length) v)[i] = Vector.get (n := length) v ⟨i, hi⟩ :=
    Vector.getElem_toList _
  rw [same] at piece
  rw [← piece, List.getElem?_take_of_lt hj, List.getElem?_drop]
  rfl

/-- The bytes of a slot spell the value, in arrays of any depth. -/
theorem spells_encode (t : ElementType) (v : t.Value) : t.Spells (t.encode v) v := by
  refine ⟨length_encode t v, ?_⟩
  induction t with
  | primitive p =>
    intro i byte there b hb
    have hi : i < p.size := by
      have within := (List.getElem?_eq_some_iff.mp there).1
      rwa [length_encode] at within
    unfold encode at there
    rw [Bytes.getElem?_ofNat hi, Option.some.injEq] at there
    rw [← there, Bytes.testBit_ofNat _ hb, Nat.testBit_shiftRight]
    exact BitVec.testBit_toNat (w := 8 * p.size) v
  | array item length ih =>
    intro i byte there b hb
    have within : i < length * item.size := by
      have within := (List.getElem?_eq_some_iff.mp there).1
      rwa [length_encode] at within
    have some : 0 < item.size := Nat.pos_of_lt_mul_left within
    have place : i / item.size < length := Nat.div_lt_of_lt_mul (by rwa [Nat.mul_comm])
    have rest : i % item.size < item.size := Nat.mod_lt i some
    have split : i = i / item.size * item.size + i % item.size := (Nat.div_add_mod' ..).symm
    have row : 8 * i + b = 8 * item.size * (i / item.size) + (8 * (i % item.size) + b) := by
      rw [Nat.mul_assoc, Nat.mul_comm item.size]
      omega
    rw [split, getElem?_encode_array v place rest] at there
    rw [row, bit_array v some place (by omega)]
    exact ih _ there b hb

/-- No other bytes do. -/
theorem spells_iff {t : ElementType} {bytes : List UInt8} {v : t.Value} :
    t.Spells bytes v ↔ bytes = t.encode v := by
  constructor
  · intro spells
    have own := spells_encode t v
    apply List.ext_getElem (spells.length_eq.trans own.length_eq.symm)
    intro i hi hi'
    apply Bytes.eq_of_testBit_eq
    intro b hb
    rw [spells.bit_eq (List.getElem?_eq_getElem hi) b hb,
      own.bit_eq (List.getElem?_eq_getElem hi') b hb]
  · rintro rfl
    exact spells_encode t v

theorem existsUnique_spells (t : ElementType) {bytes : List UInt8}
    (length : bytes.length = t.size) : ∃! v, t.Spells bytes v := by
  refine ⟨t.decode bytes, spells_iff.mpr (t.encode_decode bytes length).symm, ?_⟩
  intro v spells
  rw [spells_iff.mp spells, t.decode_encode]

end ElementType

/-! ## Filled places -/

namespace Queue

variable {t u : ElementType} {q : Queue t} {q' : Queue u} {m m' : Memory} {tx : Transaction}

/-- The slot of a place of a transaction. -/
def slotOf (q : Queue t) (tx : Transaction) (i : Nat) : Nat := (tx.pos.toNat + i) % q.capacity

/-- The bytes of a slot, as a peer computes them from the descriptor. -/
def slotBytes (q : Queue t) (slot : Nat) : Grantor :=
  ⟨q.descriptor.data.offset + slot * t.size, t.size⟩

/-- What there is after some places of a transaction were filled: their slots
spell the values, no other byte is touched, and whoever looks at one of these
slots sees the value. -/
structure Stored (q : Queue t) (tx : Transaction) (values : Nat → Option t.Value)
    (m m' : Memory) : Prop where
  size_eq : m'.size = m.size
  spelled : ∀ {i v}, i < tx.count → values i = some v →
    let bytes := q.slotBytes (q.slotOf tx i)
    t.Spells (m'.bytes bytes.offset bytes.extent) v
  kept : ∀ {a}, (∀ i < tx.count, (values i).isSome → ¬ (q.slotBytes (q.slotOf tx i)).Covers a) →
    m'.byte a = m.byte a
  back : ∀ {i v}, i < tx.count → values i = some v →
    ∀ {look : Transaction} {j}, look.count ≤ q.capacity → j < look.count →
      q.slotOf look j = q.slotOf tx i → q.get m' look j = .ok v

theorem slotOf_lt (sound : q.Sound) (tx : Transaction) (i : Nat) : q.slotOf tx i < q.capacity :=
  Nat.mod_lt _ sound.capacity_pos

theorem get_eq (m : Memory) {i : Nat} (fits : tx.count ≤ q.capacity) (hi : i < tx.count) :
    q.get m tx i = .ok (q.loadSlot m (q.slotOf tx i)) := by
  unfold get runs
  rw [if_pos hi, Runs.slot_of tx.pos fits hi]
  rfl

theorem set_eq (m : Memory) {i : Nat} (fits : tx.count ≤ q.capacity) (hi : i < tx.count)
    (v : t.Value) : q.set m tx i v = .ok (q.storeSlot m (q.slotOf tx i) v) := by
  unfold set runs
  rw [if_pos hi, Runs.slot_of tx.pos fits hi]
  rfl

/-- The bytes of a slot spell what is loaded from it. -/
theorem spells_loadSlot (q : Queue t) (m : Memory) (slot : Nat) :
    t.Spells (m.bytes (q.slotAddress slot) t.size) (q.loadSlot m slot) :=
  ElementType.spells_iff.mpr (t.encode_decode _ (Memory.length_bytes ..)).symm

/-- It is enough to know which slots were changed, and what is loaded from them. -/
theorem stored_of (sound : q.Sound) {values : Nat → Option t.Value}
    (only : q.descriptor.OnlySlots
      (fun slot => ∃ i < tx.count, (values i).isSome ∧ q.slotOf tx i = slot) m m')
    (loaded : ∀ {i v}, i < tx.count → values i = some v → q.loadSlot m' (q.slotOf tx i) = v) :
    q.Stored tx values m m' := by
  refine ⟨only.size_eq, ?_, ?_, ?_⟩
  · intro i v hi value
    exact loaded hi value ▸ spells_loadSlot q m' (q.slotOf tx i)
  · intro a clear
    by_contra differ
    obtain ⟨slot, -, ⟨i, hi, value, rfl⟩, covers⟩ := only.changed differ
    refine clear i hi value ?_
    unfold Descriptor.slot Grantor.Covers Grantor.stop at covers
    rw [sound.quantumSize] at covers
    exact covers
  · intro i v hi value look j fits hj same
    rw [get_eq m' fits hj, same, loaded hi value]

theorem stored_set (sound : q.Sound) (m : Memory) {i : Nat} (hi : i < tx.count) (v : t.Value) :
    q.Stored tx (fun j => if j = i then some v else none) m
      (q.storeSlot m (q.slotOf tx i) v) := by
  apply stored_of sound
  · exact storeSlot_onlySlots sound m (slotOf_lt sound tx i) v ⟨i, hi, by simp, rfl⟩
  · intro j w hj value
    split at value
    · rename_i same
      rw [same, loadSlot_storeSlot, if_pos rfl]
      exact Option.some.inj value
    · cases value

theorem stored_fill (sound : q.Sound) (m : Memory) (fits : tx.count ≤ q.capacity)
    {data : List t.Value} (all : data.length = tx.count) :
    q.Stored tx (data[·]?) m (q.fill m tx.pos data) := by
  apply stored_of sound
  · refine fill_onlySlots sound m tx.pos (all ▸ fits) ?_
    intro i hi
    exact ⟨i, all ▸ hi, by simp [hi], rfl⟩
  · intro i v hi value
    obtain ⟨hi', rfl⟩ := List.getElem?_eq_some_iff.mp value
    exact quantumAt_fill q m tx.pos (all ▸ fits) hi'

/-! ## Two types of one size -/

/-- The two handles are about the same bytes. -/
theorem loadSlot_eq (sound : q.Sound) (sound' : q'.Sound) (same : q'.descriptor = q.descriptor)
    (m : Memory) (slot : Nat) :
    q.loadSlot m slot = t.decode (u.encode (q'.loadSlot m slot)) := by
  have sizes : u.size = t.size := by rw [← sound'.quantumSize, ← sound.quantumSize, same]
  have bytes : q'.slotAddress slot = q.slotAddress slot := by
    unfold slotAddress
    rw [same, sizes]
  unfold loadSlot
  rw [u.encode_decode _ (Memory.length_bytes ..), bytes, sizes]

theorem quanta_eq_map (sound : q.Sound) (sound' : q'.Sound) (same : q'.descriptor = q.descriptor)
    (m : Memory) (p count : Nat) :
    q.quanta m p count = (q'.quanta m p count).map fun w => t.decode (u.encode w) := by
  have capacity : q'.capacity = q.capacity := congrArg Descriptor.quantumCount same
  unfold quanta quantumAt
  rw [List.map_map, capacity]
  exact List.map_congr_left fun i _ => loadSlot_eq sound sound' same m _

theorem copyOut_eq (m : Memory) (fits : tx.count ≤ q.capacity) :
    q.copyOut m tx tx.count = .ok (q.quanta m tx.pos.toNat tx.count) := by
  unfold copyOut
  rw [if_pos rfl, take_eq q m tx.pos fits]

theorem copyOut_fill (m : Memory) (fits : tx.count ≤ q.capacity) {data : List t.Value}
    (all : data.length = tx.count) :
    q.copyOut (q.fill m tx.pos data) tx tx.count = .ok data := by
  rw [copyOut_eq _ fits, ← all]
  exact congrArg _ (stretch_fill q m tx.pos (all ▸ fits)).symm

/-- What a handle finds in a transaction can be carried anywhere through another
handle. -/
structure Relays (q : Queue t) (q' : Queue u) (tx : Transaction) (m : Memory) : Prop where
  one : ∀ {i v}, q.get m tx i = .ok v → ∃ w, q'.get m tx i = .ok w ∧
    ∀ (m' : Memory) {tx' : Transaction} {i'}, tx'.count ≤ q.capacity → i' < tx'.count →
      ∃ m'', q'.set m' tx' i' w = .ok m'' ∧ q.get m'' tx' i' = .ok v
  all : ∀ {data}, q.copyOut m tx tx.count = .ok data →
    ∃ others, q'.copyOut m tx tx.count = .ok others ∧
      ∀ (m' : Memory) {tx' : Transaction}, tx'.count = tx.count →
        ∃ m'', q'.copyIn m' tx' others = .ok m'' ∧ q.copyOut m'' tx' tx'.count = .ok data

theorem relays (sound : q.Sound) (sound' : q'.Sound) (same : q'.descriptor = q.descriptor)
    (fits : tx.count ≤ q.capacity) (m : Memory) : q.Relays q' tx m := by
  have sizes : u.size = t.size := by rw [← sound'.quantumSize, ← sound.quantumSize, same]
  have capacity : q'.capacity = q.capacity := congrArg Descriptor.quantumCount same
  have slots (tx : Transaction) (i : Nat) : q'.slotOf tx i = q.slotOf tx i := by
    unfold slotOf
    rw [capacity]
  have fits' : tx.count ≤ q'.capacity := capacity ▸ fits
  constructor
  · intro i v found
    obtain ⟨hi, rfl⟩ := get_eq_ok fits found
    refine ⟨_, get_eq m fits' hi, ?_⟩
    intro m' tx' i' room hi'
    refine ⟨_, set_eq m' (capacity ▸ room) hi' _, ?_⟩
    rw [get_eq _ room hi', loadSlot_eq sound sound' same, slots, slots, loadSlot_storeSlot,
      if_pos rfl, ← loadSlot_eq sound sound' same]
    rfl
  · intro data found
    obtain ⟨-, rfl⟩ := copyOut_eq_ok fits found
    refine ⟨_, copyOut_eq m fits', ?_⟩
    intro m' tx' count
    have length : (q'.quanta m tx.pos.toNat tx.count).length = tx'.count :=
      (length_quanta ..).trans count.symm
    refine ⟨_, if_pos length, ?_⟩
    have room : tx'.count ≤ q.capacity := count ▸ fits
    have written := copyOut_fill (q := q') m' (capacity ▸ room) length
    rw [copyOut_eq _ (capacity ▸ room)] at written
    rw [copyOut_eq _ room, quanta_eq_map sound sound' same, Except.ok.inj written,
      ← quanta_eq_map sound sound' same]

/-! ## The result -/

/-- Every row of bytes of an element's size spells one value. Filling places puts
these bytes into their slots and touches no others, and every handle with elements
of that size can carry the quanta on. -/
theorem stored_byte_for_byte :
    (∀ (t : ElementType) {bytes : List UInt8}, bytes.length = t.size → ∃! v, t.Spells bytes v) ∧
      ∀ {t : ElementType} {q : Queue t}, q.Sound →
        ∀ {tx : Transaction}, tx.count ≤ q.capacity → ∀ m : Memory,
          (∀ {i}, i < tx.count → ∀ v, ∃ m', q.set m tx i v = .ok m' ∧
            q.Stored tx (fun j => if j = i then some v else none) m m') ∧
          (∀ {data}, data.length = tx.count → ∃ m', q.copyIn m tx data = .ok m' ∧
            q.Stored tx (data[·]?) m m' ∧ q.copyOut m' tx tx.count = .ok data) ∧
          ∀ {u : ElementType} {q' : Queue u}, q'.Sound → q'.descriptor = q.descriptor →
            q.Relays q' tx m := by
  refine ⟨fun t _ length => t.existsUnique_spells length, ?_⟩
  intro t q sound tx fits m
  refine ⟨?_, ?_, ?_⟩
  · intro i hi v
    exact ⟨_, set_eq m fits hi v, stored_set sound m hi v⟩
  · intro data all
    exact ⟨_, if_pos all, stored_fill sound m fits all, copyOut_fill m fits all⟩
  · intro u q' sound' same
    exact relays sound sound' same fits m

/-- Two by two bytes, which are as many as a float has. -/
def quadType : ElementType := .array (.array (.primitive .u8) 2) 2

/-- A not-a-number with something to say. -/
def oddFloat : ElementType.Value (.primitive .f32) := (0x7fc00a01 : BitVec 32)

/-- A handle for floats on a new queue. -/
def floats : Queue (.primitive .f32) where
  descriptor := {
    name := "floats"
    flavor := .synchronized
    quantumSize := 4
    quantumCount := 3
    regionSize := 140
    writeCounter := ⟨64, counterSize⟩
    data := ⟨128, 12⟩
    readCounter := some ⟨0, counterSize⟩
    writeReserve := none
    eventFlag := none }
  region := ⟨"floats", 0, 140, true⟩
  cursor := .shared 0

/-- A peer that takes the floats for two by two bytes. -/
def quads : Queue quadType where
  descriptor := floats.descriptor
  region := ⟨"floats", 0, 140, false⟩
  cursor := .shared 0

/-- The store that both of them use. -/
def floatStore : Store := ⟨#[.blank 140], [("floats", 0)], 0⟩

/-- A float in the last slot is found there bit by bit, and stays as odd as it is on
its way through the other handle. -/
theorem stored_byte_for_byte_floats :
    create (.primitive .f32) .synchronized
        { quantumCount := 3, eventFlag := false, name := some "floats" } .empty =
      .ok (floats, floatStore) ∧
    attach quadType .synchronized floats.descriptor floatStore = .ok quads ∧
    ∃ m, floats.set (.blank 140) ⟨2, 2⟩ 0 oddFloat = .ok m ∧
      ElementType.Spells (.primitive .f32) (m.bytes 136 4) oddFloat ∧
      ∃ quad, quads.get m ⟨2, 2⟩ 0 = .ok quad ∧
        ∃ m', quads.set m ⟨2, 2⟩ 1 quad = .ok m' ∧ floats.get m' ⟨2, 2⟩ 1 = .ok oddFloat := by
  have created : create (.primitive .f32) .synchronized
      { quantumCount := 3, eventFlag := false, name := some "floats" } .empty =
        .ok (floats, floatStore) := rfl
  have attached : attach quadType .synchronized floats.descriptor floatStore = .ok quads := rfl
  have sound := sound_of_create created
  have sound' := sound_of_attach attached
  have room : (⟨2, 2⟩ : Transaction).count ≤ floats.capacity := by decide
  obtain ⟨m, set, stored⟩ := ((stored_byte_for_byte.2 sound room (.blank 140)).1
    (by decide : 0 < 2) oddFloat)
  have relays := (stored_byte_for_byte.2 sound room m).2.2 sound' rfl
  have found := stored.back (by decide) (if_pos rfl) room (by decide : 0 < 2) rfl
  obtain ⟨quad, got, carried⟩ := relays.one found
  obtain ⟨m', set', back⟩ := carried m room (by decide : 1 < 2)
  exact ⟨created, attached, m, set, stored.spelled (by decide) (if_pos rfl), quad, got, m', set',
    back⟩

end Queue

end SharedQueue
