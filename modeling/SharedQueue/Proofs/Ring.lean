/-
SharedQueue.Proofs.Ring — the slots as a ring of positions.

* `Queue.quantumAt` — the quantum in the slot of a position. Positions that
  are the capacity apart share a slot, and nearer ones do not
  (`mod_ne_of_near`).
* `Runs.slot_of` — the slot of a place of a stretch is that of its position,
  on either side of the end of the ring.
* `take_eq` — what is read from a stretch, position by position.
* `quantumAt_fill`, `quantumAt_fill_of_ne`, `quantumAt_storeSlot` — what is
  written to a stretch, and that positions in other slots keep their quanta.
-/
import SharedQueue.Proofs.Frame

namespace SharedQueue

/-! ## Positions and slots -/

theorem add_mod_of_le {capacity : Nat} (pos : Nat) {i : Nat} (pos_capacity : 0 < capacity)
    (hi : i ≤ capacity) :
    (pos + i) % capacity =
      if pos % capacity + i < capacity then pos % capacity + i
      else pos % capacity + i - capacity := by
  have small : pos % capacity < capacity := Nat.mod_lt pos pos_capacity
  rw [← Nat.mod_add_mod]
  split
  · rename_i inside
    exact Nat.mod_eq_of_lt inside
  · rename_i past
    rw [Nat.mod_eq_sub_mod (Nat.le_of_not_lt past)]
    exact Nat.mod_eq_of_lt (by omega)

/-- Positions less than a ring apart have different slots. -/
theorem mod_ne_of_near {capacity p p' : Nat} (after : p < p') (near : p' < p + capacity) :
    p % capacity ≠ p' % capacity := by
  have small : p % capacity < capacity := Nat.mod_lt p (by omega)
  have there : p' = p + (p' - p) := by omega
  rw [there, add_mod_of_le p (by omega) (by omega)]
  split <;> omega

/-- The place of a slot, counted around the ring from the slot `start` on. -/
def placeFrom (capacity start slot : Nat) : Nat :=
  if start ≤ slot then slot - start else slot + capacity - start

theorem placeFrom_mod {capacity i : Nat} (pos : Nat) (hi : i < capacity) :
    placeFrom capacity (pos % capacity) ((pos + i) % capacity) = i := by
  have small : pos % capacity < capacity := Nat.mod_lt pos (by omega)
  rw [add_mod_of_le pos (by omega) (by omega), placeFrom]
  generalize pos % capacity = start at small
  split <;> split at * <;> omega

theorem mod_placeFrom {capacity slot : Nat} (pos : Nat) (hs : slot < capacity) :
    (pos + placeFrom capacity (pos % capacity) slot) % capacity = slot := by
  have small : pos % capacity < capacity := Nat.mod_lt pos (by omega)
  rw [← Nat.mod_add_mod, placeFrom]
  generalize pos % capacity = start at small
  split
  · rw [Nat.mod_eq_of_lt (by omega)]
    omega
  · rw [Nat.mod_eq_sub_mod (by omega), Nat.mod_eq_of_lt (by omega)]
    omega

/-- The `i`-th place of a stretch has the slot of its position. -/
theorem Runs.slot_of {capacity count i : Nat} (pos : UInt64) (fits : count ≤ capacity)
    (hi : i < count) : (Runs.of capacity pos count).slot i = (pos.toNat + i) % capacity := by
  have small : pos.toNat % capacity < capacity := Nat.mod_lt _ (by omega)
  rw [add_mod_of_le _ (by omega) (by omega)]
  unfold Runs.slot Runs.of
  dsimp only
  generalize pos.toNat % capacity = start at small
  split <;> split <;> omega

/-- Both runs of a stretch stay in the ring. -/
theorem Runs.of_le {capacity count : Nat} (pos : UInt64) (pos_capacity : 0 < capacity)
    (fits : count ≤ capacity) :
    (Runs.of capacity pos count).start + (Runs.of capacity pos count).first ≤ capacity ∧
      (Runs.of capacity pos count).second ≤ capacity := by
  have small : pos.toNat % capacity < capacity := Nat.mod_lt _ pos_capacity
  unfold Runs.of
  dsimp only
  omega

namespace Queue

variable {t : ElementType} {q : Queue t} {m : Memory}

/-- The quantum in the slot of a position. -/
def quantumAt (q : Queue t) (m : Memory) (p : Nat) : t.Value := q.loadSlot m (p % q.capacity)

theorem Sound.capacity_pos (sound : q.Sound) : 0 < q.capacity := sound.placed.count_pos

theorem quantumAt_of_only {m' : Memory} {part : Part} (sound : q.Sound)
    (only : q.descriptor.Only part m m') (ne : part ≠ .data) (p : Nat) :
    q.quantumAt m' p = q.quantumAt m p :=
  loadSlot_of_only sound only ne (Nat.mod_lt p sound.capacity_pos)

/-! ## Slots -/

theorem loadSlot_storeSlot (q : Queue t) (m : Memory) (i j : Nat) (v : t.Value) :
    q.loadSlot (q.storeSlot m i v) j = if i = j then v else q.loadSlot m j := by
  unfold loadSlot storeSlot
  by_cases same : i = j
  · subst same
    have back := Memory.bytes_setBytes m (q.slotAddress i) (t.encode v)
    rw [ElementType.length_encode] at back
    rw [if_pos rfl, back, ElementType.decode_encode]
  · have apart : q.slotAddress i + t.size ≤ q.slotAddress j ∨
        q.slotAddress j + t.size ≤ q.slotAddress i := by
      unfold slotAddress
      rcases Nat.lt_or_gt_of_ne same with before | after
      · have step := Nat.mul_le_mul_right t.size before
        rw [Nat.succ_mul] at step
        omega
      · have step := Nat.mul_le_mul_right t.size after
        rw [Nat.succ_mul] at step
        omega
    rw [if_neg same, Memory.bytes_setBytes_disjoint]
    rw [ElementType.length_encode]
    exact apart

theorem loadSlot_storeSlots (q : Queue t) (m : Memory) (i j : Nat) (values : List t.Value) :
    q.loadSlot (q.storeSlots m i values) j =
      if i ≤ j then values[j - i]?.getD (q.loadSlot m j) else q.loadSlot m j := by
  induction values generalizing m i with
  | nil => simp [storeSlots]
  | cons v rest ih =>
    rw [storeSlots, ih, loadSlot_storeSlot]
    rcases Nat.lt_trichotomy i j with before | same | after
    · have step : j - i = (j - (i + 1)) + 1 := by omega
      have differ : i ≠ j := by omega
      have reached : i ≤ j := by omega
      have before : i + 1 ≤ j := before
      rw [if_pos before, if_neg differ, if_pos reached, step, List.getElem?_cons_succ]
    · subst same
      have past : ¬ i + 1 ≤ i := by omega
      rw [if_neg past, if_pos rfl, if_pos (Nat.le_refl i), Nat.sub_self]
      rfl
    · have past : ¬ i + 1 ≤ j := by omega
      have differ : i ≠ j := by omega
      have missed : ¬ i ≤ j := by omega
      rw [if_neg past, if_neg differ, if_neg missed]

/-- After a stretch was filled, the place that a slot has in it, if any, tells
its quantum. -/
theorem loadSlot_fill (q : Queue t) (m : Memory) (pos : UInt64) {data : List t.Value}
    (fits : data.length ≤ q.capacity) {s : Nat} (hs : s < q.capacity) :
    q.loadSlot (q.fill m pos data) s =
      data[placeFrom q.capacity (pos.toNat % q.capacity) s]?.getD (q.loadSlot m s) := by
  have small : pos.toNat % q.capacity < q.capacity := Nat.mod_lt _ (by omega)
  simp only [fill, runs, Runs.of, placeFrom]
  generalize pos.toNat % q.capacity = start at small
  rw [loadSlot_storeSlots, if_pos (Nat.zero_le s), Nat.sub_zero, List.getElem?_drop,
    loadSlot_storeSlots]
  by_cases behind : start ≤ s
  · -- the second run ends before it reaches the first one
    have beyond : data.length ≤ min data.length (q.capacity - start) + s := by omega
    rw [if_pos behind, if_pos behind, List.getElem?_eq_none beyond, Option.getD_none,
      List.getElem?_take]
    split
    · rfl
    · have none : data.length ≤ s - start := by omega
      rw [List.getElem?_eq_none none, Option.getD_none]
  · rw [if_neg behind, if_neg behind]
    by_cases wraps : q.capacity - start ≤ data.length
    · have place : min data.length (q.capacity - start) + s = s + q.capacity - start := by omega
      rw [place]
    · have none : data.length ≤ min data.length (q.capacity - start) + s := by omega
      have none' : data.length ≤ s + q.capacity - start := by omega
      rw [List.getElem?_eq_none none, List.getElem?_eq_none none']

/-! ## Stretches of positions -/

/-- A place of a stretch that was filled holds its quantum. -/
theorem quantumAt_fill (q : Queue t) (m : Memory) (pos : UInt64) {data : List t.Value}
    (fits : data.length ≤ q.capacity) {i : Nat} (hi : i < data.length) :
    q.quantumAt (q.fill m pos data) (pos.toNat + i) = data[i] := by
  have hs : (pos.toNat + i) % q.capacity < q.capacity := Nat.mod_lt _ (by omega)
  rw [quantumAt, loadSlot_fill q m pos fits hs, placeFrom_mod pos.toNat (by omega),
    List.getElem?_eq_getElem hi, Option.getD_some]

/-- A position whose slot no place of the stretch has keeps its quantum. -/
theorem quantumAt_fill_of_ne (q : Queue t) (m : Memory) (pos : UInt64) {data : List t.Value}
    (pos_capacity : 0 < q.capacity) (fits : data.length ≤ q.capacity) {p : Nat}
    (other : ∀ i < data.length, p % q.capacity ≠ (pos.toNat + i) % q.capacity) :
    q.quantumAt (q.fill m pos data) p = q.quantumAt m p := by
  have hs : p % q.capacity < q.capacity := Nat.mod_lt p pos_capacity
  have beyond : data.length ≤ placeFrom q.capacity (pos.toNat % q.capacity) (p % q.capacity) := by
    apply Nat.le_of_not_lt
    intro inside
    exact other _ inside (mod_placeFrom pos.toNat hs).symm
  rw [quantumAt, loadSlot_fill q m pos fits hs, List.getElem?_eq_none beyond, Option.getD_none,
    quantumAt]

theorem quantumAt_storeSlot (q : Queue t) (m : Memory) (p p' : Nat) (v : t.Value) :
    q.quantumAt (q.storeSlot m (p % q.capacity) v) p' =
      if p % q.capacity = p' % q.capacity then v else q.quantumAt m p' :=
  loadSlot_storeSlot q m _ _ v

/-- The quanta of `count` positions. -/
def quanta (q : Queue t) (m : Memory) (p count : Nat) : List t.Value :=
  (List.range count).map fun i => q.quantumAt m (p + i)

@[simp] theorem length_quanta (q : Queue t) (m : Memory) (p count : Nat) :
    (q.quanta m p count).length = count := by
  simp [quanta]

@[simp] theorem getElem_quanta (q : Queue t) (m : Memory) (p count i : Nat)
    (hi : i < (q.quanta m p count).length) : (q.quanta m p count)[i] = q.quantumAt m (p + i) := by
  simp [quanta]

/-- The runs of a stretch, one after the other, are its positions in order. -/
theorem take_eq (q : Queue t) (m : Memory) (pos : UInt64) {count : Nat}
    (fits : count ≤ q.capacity) : q.take m pos count = q.quanta m pos.toNat count := by
  apply List.ext_getElem
  · simp only [take, runs, Runs.of, loadSlots, List.length_append, List.length_map,
      List.length_range, length_quanta]
    omega
  · intro i hi hi'
    rw [length_quanta] at hi'
    have slot := Runs.slot_of pos fits hi'
    rw [getElem_quanta, quantumAt, ← slot]
    simp only [take, runs, Runs.slot, loadSlots]
    rw [List.getElem_append]
    simp only [List.length_map, List.length_range, List.getElem_map, List.getElem_range,
      Nat.zero_add]
    split <;> rfl

end Queue

end SharedQueue
