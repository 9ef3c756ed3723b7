/-
SharedQueue.Proofs.Cells — what a handle accesses.

* `Cell`, `Descriptor.cell?` — the words that are there, and the slots.
* `Descriptor.Spread` — the cells lie inside a memory, aligned, and no two of
  them share a byte.
* `Placed.spread`, `Sound.spread` — the cells of every sound handle are.
-/
import SharedQueue.Proofs.Frame

namespace SharedQueue

/-! ## Cells -/

/-- What a handle accesses. -/
inductive Cell
  | word (part : Part)
  | slot (i : Nat)
deriving DecidableEq, Repr

/-- The alignment of a cell. -/
def Cell.alignment (quantumAlign : Nat) : Cell → Nat
  | word part => part.alignment quantumAlign
  | slot _ => quantumAlign

/-- Regions begin at a multiple of this. -/
def pageSize : Nat := 4096

namespace Descriptor

/-- The bytes of a slot. -/
def slot (d : Descriptor) (i : Nat) : Grantor :=
  ⟨d.data.offset + i * d.quantumSize, d.quantumSize⟩

/-- The bytes of a cell, if there is one. -/
def cell? (d : Descriptor) : Cell → Option Grantor
  | .word .data => none
  | .word part => d.place? part
  | .slot i => if i < d.quantumCount then some (d.slot i) else none

/-- The cells lie in a memory of `size` bytes without getting into each
other's way, and they are aligned wherever the memory is mapped. -/
structure Spread (d : Descriptor) (quantumAlign size : Nat) : Prop where
  inside : ∀ {cell g}, d.cell? cell = some g → g.stop ≤ size
  aligned : ∀ {cell g base}, d.cell? cell = some g → pageSize ∣ base →
    cell.alignment quantumAlign ∣ base + g.offset
  apart : ∀ {a b g h}, a ≠ b → d.cell? a = some g → d.cell? b = some h → g.Apart h

variable {d : Descriptor} {quantumAlign size : Nat}

theorem place_of_word {part : Part} {g : Grantor} (cell : d.cell? (.word part) = some g) :
    part ≠ .data ∧ d.place? part = some g := by
  cases part with
  | data => cases cell
  | writeCounter => exact ⟨by decide, cell⟩
  | readCounter => exact ⟨by decide, cell⟩
  | writeReservation => exact ⟨by decide, cell⟩
  | eventFlag => exact ⟨by decide, cell⟩

theorem word_of_place {part : Part} {g : Grantor} (word : part ≠ .data)
    (place : d.place? part = some g) : d.cell? (.word part) = some g := by
  cases part with
  | data => exact absurd rfl word
  | writeCounter => exact place
  | readCounter => exact place
  | writeReservation => exact place
  | eventFlag => exact place

theorem slot_of_cell {i : Nat} {g : Grantor} (cell : d.cell? (.slot i) = some g) :
    i < d.quantumCount ∧ g = d.slot i := by
  have taken : (if i < d.quantumCount then some (d.slot i) else none) = some g := cell
  split at taken
  · rename_i small
    exact ⟨small, (Option.some.inj taken).symm⟩
  · cases taken

/-- A slot lies in the data range. -/
theorem slot_within {i : Nat} (hi : i < d.quantumCount) :
    d.data.offset ≤ (d.slot i).offset ∧
      (d.slot i).stop ≤ d.data.offset + d.quantumSize * d.quantumCount := by
  have step : (i + 1) * d.quantumSize ≤ d.quantumCount * d.quantumSize :=
    Nat.mul_le_mul_right d.quantumSize hi
  rw [Nat.succ_mul, Nat.mul_comm d.quantumCount] at step
  unfold slot Grantor.stop
  dsimp only
  omega

theorem slot_apart {i j : Nat} (ne : i ≠ j) : (d.slot i).Apart (d.slot j) := by
  unfold Grantor.Apart Grantor.stop slot
  dsimp only
  rcases Nat.lt_or_gt_of_ne ne with before | after
  · have step := Nat.mul_le_mul_right d.quantumSize before
    rw [Nat.succ_mul] at step
    omega
  · have step := Nat.mul_le_mul_right d.quantumSize after
    rw [Nat.succ_mul] at step
    omega

/-- A slot is apart from the words, as the data range is. -/
theorem Placed.slot_apart_word (placed : d.Placed quantumAlign size) {i : Nat} {part : Part}
    {g : Grantor} (hi : i < d.quantumCount) (word : part ≠ .data)
    (place : d.place? part = some g) : (d.slot i).Apart g := by
  obtain ⟨low, high⟩ := slot_within hi
  exact (placed.apart word.symm rfl place).of_within low high

/-- Placed pieces have spread cells, if elements fill a multiple of their
alignment. -/
theorem Placed.spread (placed : d.Placed quantumAlign size) (agrees : quantumAlign ∣ d.quantumSize)
    (page : quantumAlign ∣ pageSize) : d.Spread quantumAlign size := by
  constructor
  · intro cell g there
    cases cell with
    | word part => exact placed.inside (place_of_word there).2
    | slot i =>
      obtain ⟨small, rfl⟩ := slot_of_cell there
      have place : d.place? .data = some ⟨d.data.offset, d.quantumSize * d.quantumCount⟩ := rfl
      have last : d.data.offset + d.quantumSize * d.quantumCount ≤ size := placed.inside place
      exact Nat.le_trans (slot_within small).2 last
  · intro cell g base there mapped
    cases cell with
    | word part =>
      have offset := placed.aligned (place_of_word there).2
      have divides : part.alignment quantumAlign ∣ pageSize := by
        cases part with
        | data => exact page
        | eventFlag => exact (by decide : flagSize ∣ pageSize)
        | writeCounter => exact (by decide : counterSize ∣ pageSize)
        | readCounter => exact (by decide : counterSize ∣ pageSize)
        | writeReservation => exact (by decide : counterSize ∣ pageSize)
      exact Nat.dvd_add (Nat.dvd_trans divides mapped) offset
    | slot i =>
      obtain ⟨-, rfl⟩ := slot_of_cell there
      have place : d.place? .data = some ⟨d.data.offset, d.quantumSize * d.quantumCount⟩ := rfl
      have offset : quantumAlign ∣ d.data.offset := placed.aligned place
      have shift : quantumAlign ∣ i * d.quantumSize := Nat.dvd_trans agrees (Nat.dvd_mul_left ..)
      exact Nat.dvd_add (Nat.dvd_trans page mapped) (Nat.dvd_add offset shift)
  · intro a b g h ne there there'
    cases a with
    | word part =>
      obtain ⟨word, place⟩ := place_of_word there
      cases b with
      | word part' =>
        have differ : part ≠ part' := fun same => ne (congrArg Cell.word same)
        exact placed.apart differ place (place_of_word there').2
      | slot j =>
        obtain ⟨small, rfl⟩ := slot_of_cell there'
        exact (placed.slot_apart_word small word place).symm
    | slot i =>
      obtain ⟨small, rfl⟩ := slot_of_cell there
      cases b with
      | word part =>
        obtain ⟨word, place⟩ := place_of_word there'
        exact placed.slot_apart_word small word place
      | slot j =>
        obtain ⟨-, rfl⟩ := slot_of_cell there'
        exact slot_apart fun same => ne (congrArg Cell.slot same)

end Descriptor

theorem ElementType.alignment_dvd_size (t : ElementType) : t.alignment ∣ t.size := by
  induction t with
  | primitive p => exact Nat.dvd_refl p.size
  | array item length ih => exact Nat.dvd_trans ih (Nat.dvd_mul_left ..)

theorem ElementType.alignment_dvd_pageSize (t : ElementType) : t.alignment ∣ pageSize :=
  Nat.dvd_trans t.alignment_dvd_cacheLine (by decide)

namespace Queue

variable {t : ElementType} {q : Queue t}

theorem Sound.slotAddress_eq (sound : q.Sound) (i : Nat) :
    q.slotAddress i = (q.descriptor.slot i).offset := by
  unfold slotAddress Descriptor.slot
  rw [sound.quantumSize]

theorem Sound.slot_bounds (sound : q.Sound) (i : Nat) :
    (q.descriptor.slot i).offset ≤ q.slotAddress i ∧
      q.slotAddress i + t.size ≤ (q.descriptor.slot i).stop := by
  rw [sound.slotAddress_eq, ← sound.quantumSize]
  exact ⟨Nat.le_refl _, Nat.le_refl _⟩

/-- The cells of a sound handle are spread. -/
theorem Sound.spread (sound : q.Sound) : q.descriptor.Spread t.alignment q.region.size := by
  have agrees := t.alignment_dvd_size
  rw [← sound.quantumSize] at agrees
  exact sound.placed.spread agrees t.alignment_dvd_pageSize

end Queue

end SharedQueue
