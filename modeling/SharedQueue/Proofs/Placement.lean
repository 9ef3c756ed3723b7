/-
SharedQueue.Proofs.Placement — where the pieces of a queue lie.

* `Descriptor.place?` — the bytes of a piece that handles access: the words
  at the beginning of their ranges, and all the slots.
* `Descriptor.Placed` — the pieces of the flavor are there, inside the
  region, aligned, and no two of them share a byte.
* `placed_of_check` — a descriptor that passes its check is placed, whoever
  made it up; `check_plan` — a plan passes the check, so a queue that was
  just created is placed as well.

A check walks a list of pieces and compares each with the later ones.
`checkPieces_eq_ok_iff` and `checkOverlaps_eq_ok_iff` turn the two walks
into statements about all pieces and all pairs, and nothing after them goes
back to the lists.
-/
import Mathlib.Data.List.Pairwise
import SharedQueue.Queue

namespace SharedQueue

/-! ## Checks one after the other -/

section Checks

variable {ε ε' α β : Type}

theorem mapError_eq_ok_iff {x : Except ε α} {f : ε → ε'} {a : α} :
    x.mapError f = .ok a ↔ x = .ok a := by
  cases x with
  | error e => exact ⟨nofun, nofun⟩
  | ok b =>
    show (Except.ok b : Except ε' α) = .ok a ↔ _
    rw [Except.ok.injEq, Except.ok.injEq]

theorem bind_eq_ok_iff {x : Except ε α} {f : α → Except ε β} {b : β} :
    x >>= f = .ok b ↔ ∃ a, x = .ok a ∧ f a = .ok b := by
  cases x with
  | error e => simp [bind, Except.bind]
  | ok a => simp [bind, Except.bind]

theorem check_bind_eq_ok_iff {x : Except ε Unit} {f : Unit → Except ε β} {b : β} :
    x >>= f = .ok b ↔ x = .ok () ∧ f () = .ok b := by
  rw [bind_eq_ok_iff]
  exact ⟨fun ⟨_, left, right⟩ => ⟨left, right⟩, fun ⟨left, right⟩ => ⟨(), left, right⟩⟩

theorem bind_congr_ok {x : Except ε α} {f g : α → Except ε β}
    (same : ∀ a, x = .ok a → f a = g a) : x >>= f = x >>= g := by
  cases x with
  | error e => rfl
  | ok a => exact same a rfl

end Checks

/-! ## Ranges -/

namespace Grantor

/-- The ranges share no byte: one of them ends before the other begins. -/
def Apart (g h : Grantor) : Prop := g.stop ≤ h.offset ∨ h.stop ≤ g.offset

theorem Apart.symm {g h : Grantor} (apart : g.Apart h) : h.Apart g := Or.symm apart

theorem overlaps_eq_false_iff {g h : Grantor} : g.overlaps h = false ↔ g.Apart h := by
  unfold overlaps Apart
  rw [Bool.and_eq_false_iff, decide_eq_false_iff_not, decide_eq_false_iff_not]
  omega

/-- A part of a range is apart from whatever the range is apart from. -/
theorem Apart.of_within {g h part : Grantor} (apart : g.Apart h)
    (low : g.offset ≤ part.offset) (high : part.stop ≤ g.stop) : part.Apart h := by
  unfold Apart at *
  omega

theorem Apart.not_covers {g h : Grantor} (apart : g.Apart h) {a : Nat} (ha : g.Covers a) :
    ¬ h.Covers a := by
  intro hb
  unfold Apart at apart
  unfold Covers at ha hb
  omega

end Grantor

/-! ## The walks of a check -/

namespace Layout

theorem Piece.check_eq_ok_iff {size : Nat} {p : Piece} :
    p.check size = .ok () ↔
      p.range.stop ≤ size ∧ p.least ≤ p.range.extent ∧ p.alignment ∣ p.range.offset := by
  rw [Nat.dvd_iff_mod_eq_zero, Piece.check]
  split
  · simp only [reduceCtorEq, false_iff]
    omega
  · split
    · simp only [reduceCtorEq, false_iff]
      omega
    · split
      · simp only [reduceCtorEq, false_iff]
        omega
      · simp only [true_iff]
        omega

theorem checkPieces_eq_ok_iff {size : Nat} {l : List Piece} :
    checkPieces size l = .ok () ↔ ∀ p ∈ l, p.check size = .ok () := by
  induction l with
  | nil => simp [checkPieces]
  | cons p rest ih =>
    rw [checkPieces, List.forall_mem_cons, ← ih]
    exact check_bind_eq_ok_iff

theorem checkOverlaps_eq_ok_iff {l : List Piece} :
    checkOverlaps l = .ok () ↔ l.Pairwise fun p q => p.range.Apart q.range := by
  induction l with
  | nil => simp [checkOverlaps]
  | cons p rest ih =>
    rw [checkOverlaps, List.pairwise_cons]
    cases found : firstOverlap? p rest with
    | some q =>
      have hit : p.range.overlaps q.range = true :=
        List.find?_some (p := fun q : Piece => p.range.overlaps q.range) found
      have mem : q ∈ rest := List.mem_of_find?_eq_some found
      simp only [reduceCtorEq, false_iff, not_and]
      intro apart
      have clear := Grantor.overlaps_eq_false_iff.mpr (apart q mem)
      rw [hit] at clear
      exact absurd clear (by decide)
    | none =>
      have clear : ∀ q ∈ rest, p.range.Apart q.range := by
        intro q hq
        have miss := List.find?_eq_none.mp found q hq
        exact Grantor.overlaps_eq_false_iff.mp (by simpa using miss)
      rw [ih]
      exact ⟨fun later => ⟨clear, later⟩, fun all => all.2⟩

theorem checkPresence_eq_ok_iff {l : Layout} {flavor : Flavor} :
    l.checkPresence flavor = .ok () ↔
      l.readCounter.isSome = flavor.hasReadCounter ∧
        l.writeReserve.isSome = flavor.hasReservation := by
  unfold checkPresence
  split
  · simp_all
  · split
    · simp_all
    · simp_all

theorem check_eq_ok_iff {l : Layout} {flavor : Flavor} {size align : Nat} :
    l.check flavor size align = .ok () ↔
      l.checkPresence flavor = .ok () ∧ (∀ p ∈ l.pieces align, p.check size = .ok ()) ∧
        (l.pieces align).Pairwise fun p q => p.range.Apart q.range := by
  rw [check, check_bind_eq_ok_iff, check_bind_eq_ok_iff, checkPieces_eq_ok_iff,
    checkOverlaps_eq_ok_iff]

/-- Elements have an alignment, so validating a layout is checking it. -/
theorem validate_eq {l : Layout} {flavor : Flavor} {size align : Nat} (pos : 0 < align) :
    l.validate flavor size align =
      (l.check flavor size align).mapError fun fault =>
        .error (.invalidDescriptor (.layout fault)) :=
  if_neg (Nat.ne_of_gt pos)

/-! ## Plans -/

theorem dvd_alignUp (value alignment : Nat) : alignment ∣ alignUp value alignment :=
  Nat.dvd_mul_left alignment _

theorem le_alignUp (value : Nat) {alignment : Nat} (pos : 0 < alignment) :
    value ≤ alignUp value alignment := by
  have split := Nat.div_add_mod (value + (alignment - 1)) alignment
  have small := Nat.mod_lt (value + (alignment - 1)) pos
  rw [Nat.mul_comm] at split
  unfold alignUp
  omega

/-- A plan that is made is the one that the limits do not forbid. -/
theorem plan_eq_ok {r : Request} {l : Layout} (ok : plan r = .ok l) :
    0 < r.quantumSize ∧ 0 < r.quantumCount ∧
      let read := place r.flavor.hasReadCounter counterSize 0
      let reserve := place r.flavor.hasReservation counterSize (read.2 + cacheLine)
      let flag := place r.eventFlag flagSize reserve.2
      let data : Grantor :=
        ⟨alignUp flag.2 (max r.quantumAlign cacheLine), r.quantumSize * r.quantumCount⟩
      l = {
        readCounter := read.1
        writeCounter := ⟨read.2, counterSize⟩
        writeReserve := reserve.1
        eventFlag := flag.1
        data
        size := data.stop } := by
  unfold plan at ok
  split at ok
  · cases ok
  · split at ok
    · cases ok
    · split at ok
      · cases ok
      · simp only at ok
        split at ok
        · cases ok
        · split at ok
          · cases ok
          · cases ok
            exact ⟨by omega, by omega, rfl⟩

/-- The slots of a plan are as many as were asked for. -/
theorem plan_shape {r : Request} {l : Layout} (ok : plan r = .ok l) :
    0 < r.quantumSize ∧ 0 < r.quantumCount ∧ r.quantumSize * r.quantumCount = l.data.extent := by
  obtain ⟨size, count, rfl⟩ := plan_eq_ok ok
  exact ⟨size, count, rfl⟩

/-- The words of a plan have no more room than they need. -/
theorem plan_words {r : Request} {l : Layout} (ok : plan r = .ok l) {g : Grantor}
    (mem : some g ∈ [l.readCounter, l.writeReserve, l.eventFlag]) : g.extent ≤ counterSize := by
  have word {wanted : Bool} {extent offset : Nat}
      (placed : some g = (place wanted extent offset).1) : g.extent = extent := by
    unfold place at placed
    split at placed <;> cases placed
    rfl
  obtain ⟨-, -, rfl⟩ := plan_eq_ok ok
  simp only [List.mem_cons, List.not_mem_nil, or_false] at mem
  rcases mem with mem | mem | mem
  · exact Nat.le_of_eq (word mem)
  · exact Nat.le_of_eq (word mem)
  · exact Nat.le_trans (Nat.le_of_eq (word mem)) (by decide)

/-- A plan passes the check of a peer that is handed its layout, if the
element's alignment agrees with the cache line. -/
theorem check_plan {r : Request} {l : Layout} (ok : plan r = .ok l)
    (agrees : r.quantumAlign ∣ max r.quantumAlign cacheLine) :
    l.check r.flavor l.size r.quantumAlign = .ok () := by
  have pos : 0 < max r.quantumAlign cacheLine :=
    Nat.lt_of_lt_of_le (by decide) (Nat.le_max_right ..)
  have aligned := fun offset => Nat.dvd_trans agrees (dvd_alignUp offset _)
  have after := fun offset => le_alignUp offset pos
  obtain ⟨-, -, rfl⟩ := plan_eq_ok ok
  dsimp only
  rw [check_eq_ok_iff, checkPresence_eq_ok_iff]
  generalize max r.quantumAlign cacheLine = alignment at aligned after ⊢
  -- which words there are decides where the slots begin
  cases r.flavor <;> cases r.eventFlag <;>
    simp [pieces, word, place, Piece.check_eq_ok_iff, Flavor.hasReadCounter,
      Flavor.hasReservation, aligned, Grantor.Apart, Grantor.stop, counterSize, flagSize,
      cacheLine]
  · have room := after 128
    omega
  · have room := after 192
    omega
  · have room := after 128
    omega
  · have room := after 192
    omega

/-- Every range of a layout is that of a piece. -/
theorem exists_range {l : Layout} {g : Grantor} (quantumAlign : Nat)
    (mem : some g ∈
      [some l.writeCounter, some l.data, l.readCounter, l.writeReserve, l.eventFlag]) :
    ∃ p ∈ l.pieces quantumAlign, p.range = g := by
  simp only [List.mem_cons, List.not_mem_nil, or_false, Option.some.injEq] at mem
  rcases mem with rfl | rfl | mem | mem | mem
  · exact ⟨⟨.writeCounter, l.writeCounter, counterSize, counterSize⟩, by simp [pieces, word], rfl⟩
  · exact ⟨⟨.data, l.data, l.data.extent, quantumAlign⟩, by simp [pieces], rfl⟩
  · exact ⟨⟨.readCounter, g, counterSize, counterSize⟩, by simp [pieces, word, ← mem], rfl⟩
  · exact ⟨⟨.writeReservation, g, counterSize, counterSize⟩, by simp [pieces, word, ← mem], rfl⟩
  · exact ⟨⟨.eventFlag, g, flagSize, flagSize⟩, by simp [pieces, word, ← mem], rfl⟩

end Layout

/-! ## Placed pieces -/

/-- The alignment of a piece. -/
def Part.alignment (quantumAlign : Nat) : Part → Nat
  | writeCounter | readCounter | writeReservation => counterSize
  | eventFlag => flagSize
  | data => quantumAlign

namespace Descriptor

/-- The bytes of a piece that handles access. A range may be larger than the
word in it; the slots fill theirs. -/
def place? (d : Descriptor) : Part → Option Grantor
  | .writeCounter => some ⟨d.writeCounter.offset, counterSize⟩
  | .readCounter => d.readCounter.map fun g => ⟨g.offset, counterSize⟩
  | .writeReservation => d.writeReserve.map fun g => ⟨g.offset, counterSize⟩
  | .eventFlag => d.eventFlag.map fun g => ⟨g.offset, flagSize⟩
  | .data => some ⟨d.data.offset, d.quantumSize * d.quantumCount⟩

/-- The pieces that the flavor needs are there, and they lie in a region of
`size` bytes without getting into each other's way. -/
structure Placed (d : Descriptor) (quantumAlign size : Nat) : Prop where
  size_pos : 0 < d.quantumSize
  count_pos : 0 < d.quantumCount
  readCounter_isSome : d.readCounter.isSome = d.flavor.hasReadCounter
  writeReserve_isSome : d.writeReserve.isSome = d.flavor.hasReservation
  inside : ∀ {part g}, d.place? part = some g → g.stop ≤ size
  aligned : ∀ {part g}, d.place? part = some g → part.alignment quantumAlign ∣ g.offset
  apart : ∀ {p q g h}, p ≠ q → d.place? p = some g → d.place? q = some h → g.Apart h

/-- What handles access of a piece belongs to a piece that is checked. -/
theorem exists_piece {d : Descriptor} (quantumAlign : Nat) {part : Part} {g : Grantor}
    (extent : d.quantumSize * d.quantumCount = d.data.extent) (place : d.place? part = some g) :
    ∃ p ∈ d.layout.pieces quantumAlign, p.part = part ∧ p.range.offset = g.offset ∧
      p.least = g.extent ∧ p.alignment = part.alignment quantumAlign := by
  cases part with
  | writeCounter =>
    simp only [place?, Option.some.injEq] at place
    subst place
    exact ⟨⟨.writeCounter, d.writeCounter, counterSize, counterSize⟩,
      by simp [Layout.pieces, Layout.word, layout], rfl, rfl, rfl, rfl⟩
  | readCounter =>
    simp only [place?, Option.map_eq_some_iff] at place
    obtain ⟨r, hr, rfl⟩ := place
    exact ⟨⟨.readCounter, r, counterSize, counterSize⟩,
      by simp [Layout.pieces, Layout.word, layout, hr], rfl, rfl, rfl, rfl⟩
  | writeReservation =>
    simp only [place?, Option.map_eq_some_iff] at place
    obtain ⟨r, hr, rfl⟩ := place
    exact ⟨⟨.writeReservation, r, counterSize, counterSize⟩,
      by simp [Layout.pieces, Layout.word, layout, hr], rfl, rfl, rfl, rfl⟩
  | eventFlag =>
    simp only [place?, Option.map_eq_some_iff] at place
    obtain ⟨r, hr, rfl⟩ := place
    exact ⟨⟨.eventFlag, r, flagSize, flagSize⟩,
      by simp [Layout.pieces, Layout.word, layout, hr], rfl, rfl, rfl, rfl⟩
  | data =>
    simp only [place?, Option.some.injEq] at place
    subst place
    exact ⟨⟨.data, d.data, d.data.extent, quantumAlign⟩,
      by simp [Layout.pieces, layout], rfl, rfl, extent.symm, rfl⟩

theorem checkShape_eq_ok_iff {d : Descriptor} :
    d.checkShape = .ok () ↔
      d.name.isEmpty = false ∧ 0 < d.quantumSize ∧ 0 < d.quantumCount ∧
        d.quantumSize * d.quantumCount = d.data.extent := by
  unfold checkShape
  split
  · simp_all
  · split
    · simp only [reduceCtorEq, false_iff]
      omega
    · split
      · simp_all
      · simp_all
        omega

theorem check_eq_ok_iff {d : Descriptor} {quantumAlign : Nat} :
    d.check quantumAlign = .ok () ↔
      d.checkShape = .ok () ∧
        d.layout.check d.flavor d.regionSize quantumAlign = .ok () := by
  rw [check, check_bind_eq_ok_iff, mapError_eq_ok_iff]

/-- The same for a descriptor. -/
theorem validate_eq {d : Descriptor} {quantumAlign : Nat} (pos : 0 < quantumAlign) :
    d.validate quantumAlign =
      (d.check quantumAlign).mapError fun fault => .error (.invalidDescriptor fault) := by
  unfold validate check
  rw [Layout.validate_eq pos]
  cases d.checkShape with
  | error fault => rfl
  | ok _ => cases d.layout.check d.flavor d.regionSize quantumAlign <;> rfl

/-- A layout that passes its check places the pieces. -/
theorem placed_of_layout {d : Descriptor} {quantumAlign : Nat} (size_pos : 0 < d.quantumSize)
    (count_pos : 0 < d.quantumCount) (extent : d.quantumSize * d.quantumCount = d.data.extent)
    (layout : d.layout.check d.flavor d.regionSize quantumAlign = .ok ()) :
    d.Placed quantumAlign d.regionSize := by
  obtain ⟨presence, pieces, apart⟩ := Layout.check_eq_ok_iff.mp layout
  obtain ⟨read, reserve⟩ := Layout.checkPresence_eq_ok_iff.mp presence
  have symmetric : Std.Symm fun p q : Layout.Piece => p.range.Apart q.range :=
    ⟨fun _ _ apart => apart.symm⟩
  constructor
  · exact size_pos
  · exact count_pos
  · exact read
  · exact reserve
  · intro part g place
    obtain ⟨p, hp, -, offset, least, -⟩ := exists_piece quantumAlign extent place
    obtain ⟨stop, room, -⟩ := Layout.Piece.check_eq_ok_iff.mp (pieces p hp)
    unfold Grantor.stop at *
    omega
  · intro part g place
    obtain ⟨p, hp, -, offset, -, alignment⟩ := exists_piece quantumAlign extent place
    obtain ⟨-, -, aligned⟩ := Layout.Piece.check_eq_ok_iff.mp (pieces p hp)
    rw [← offset, ← alignment]
    exact aligned
  · intro a b g h ne placeA placeB
    obtain ⟨p, hp, partP, offsetP, leastP, -⟩ :=
      exists_piece quantumAlign extent placeA
    obtain ⟨q, hq, partQ, offsetQ, leastQ, -⟩ :=
      exists_piece quantumAlign extent placeB
    have differ : p ≠ q := by
      intro same
      rw [same, partQ] at partP
      exact ne partP.symm
    have far : p.range.Apart q.range := apart.forall hp hq differ
    obtain ⟨-, roomP, -⟩ := Layout.Piece.check_eq_ok_iff.mp (pieces p hp)
    obtain ⟨-, roomQ, -⟩ := Layout.Piece.check_eq_ok_iff.mp (pieces q hq)
    unfold Grantor.Apart Grantor.stop at *
    omega

/-- A descriptor that passes its check is placed, whatever is in it. -/
theorem placed_of_check {d : Descriptor} {quantumAlign : Nat} (ok : d.check quantumAlign = .ok ()) :
    d.Placed quantumAlign d.regionSize := by
  obtain ⟨shape, layout⟩ := check_eq_ok_iff.mp ok
  obtain ⟨-, size_pos, count_pos, extent⟩ := checkShape_eq_ok_iff.mp shape
  exact placed_of_layout size_pos count_pos extent layout

/-- What fits a region fits a larger one. -/
theorem Placed.mono {d : Descriptor} {quantumAlign size size' : Nat}
    (placed : d.Placed quantumAlign size) (le : size ≤ size') : d.Placed quantumAlign size' :=
  { placed with inside := fun place => Nat.le_trans (placed.inside place) le }

end Descriptor

end SharedQueue
