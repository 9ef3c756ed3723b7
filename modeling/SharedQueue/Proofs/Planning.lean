/-
SharedQueue.Proofs.Planning — plans can be made, are valid, and waste nothing.

* `Layout.planOnWords` — the plan, step by step in the arithmetic of words. The
  end of the words is rounded up by masking bits out; `alignUpOnWords?_eq` says
  that this comes to the same as dividing and multiplying.
* `Request.dataOffset` — where the slots begin, told without walking through the
  pieces. `plan_isOk_iff` decides with it which requests can be granted.
* `Layout.Fits` — what is promised of a plan: peers accept it as it is and with
  no byte less, and no two of its pieces meet in a cache line.
* `planning` — plans are made whenever the numbers allow it, and all of them fit.

The rounding needs a power of two, and so does the answer to the peer: a smaller
power divides a larger one, so slots that begin at a multiple of the largest
alignment suit all the others.
-/
import SharedQueue.Proofs.Attaching
import SharedQueue.Proofs.Validation

namespace SharedQueue

/-! ## Rounding up with a mask -/

namespace Words

/-- A difference that nobody looks after. -/
def sub (a b : Nat) : Except Trap Nat := if b ≤ a then .ok (a - b) else .error .overflow

/-- The word that has the bits that `a` has not. -/
def complement (a : Nat) : Nat := wordLimit - 1 - a

theorem testBit_complement {a : Nat} (word : a < wordLimit) (i : Nat) :
    (complement a).testBit i = (decide (i < 64) && !a.testBit i) := by
  have shape : complement a = 2 ^ 64 - (a + 1) := by
    change 2 ^ 64 - 1 - a = _
    omega
  rw [shape, Nat.testBit_two_pow_sub_succ word]

/-- Masking the lowest bits out rounds down. -/
theorem and_complement {v k : Nat} (word : v < wordLimit) (few : k ≤ 64) :
    v &&& complement (2 ^ k - 1) = v / 2 ^ k * 2 ^ k := by
  have low : 2 ^ k - 1 < wordLimit := by
    have le := Nat.pow_le_pow_right (by decide : 0 < 2) few
    have pos := Nat.two_pow_pos k
    change _ < 2 ^ 64
    omega
  apply Nat.eq_of_testBit_eq
  intro i
  rw [Nat.testBit_and, testBit_complement low, Nat.testBit_two_pow_sub_one,
    Nat.testBit_mul_two_pow]
  by_cases high : k ≤ i
  · have same : (v / 2 ^ k).testBit (i - k) = v.testBit i := by
      rw [Nat.testBit_div_two_pow, Nat.sub_add_cancel high]
    rw [same]
    by_cases inside : i < 64
    · simp [high, inside, Nat.not_lt.mpr high]
    · -- a word has no bits there
      have none : v.testBit i = false :=
        Nat.testBit_lt_two_pow (Nat.lt_of_lt_of_le word
          (Nat.pow_le_pow_right (by decide : 0 < 2) (Nat.le_of_not_lt inside)))
      simp [none]
  · simp [high, Nat.lt_of_not_le high]

end Words

namespace Layout

/-- `alignUp`, done on words. -/
def alignUpOnWords? (value alignment : Nat) : Except Trap (Option Nat) := do
  let low ← Words.sub alignment 1
  return (Words.add? value low).map fun sum => sum &&& Words.complement low

theorem alignUpOnWords?_eq {value alignment k : Nat} (power : alignment = 2 ^ k) (few : k ≤ 64) :
    alignUpOnWords? value alignment =
      .ok (if value + (alignment - 1) < wordLimit then some (alignUp value alignment)
        else none) := by
  have pos : 1 ≤ alignment := power ▸ Nat.two_pow_pos k
  have started : alignUpOnWords? value alignment =
      .ok ((Words.add? value (alignment - 1)).map (· &&& Words.complement (alignment - 1))) := by
    unfold alignUpOnWords? Words.sub
    rw [if_pos pos]
    rfl
  rw [started]
  unfold Words.add?
  by_cases fits : value + (alignment - 1) < wordLimit
  · rw [if_pos fits, if_pos fits]
    subst power
    exact congrArg (fun sum => Except.ok (some sum)) (Words.and_complement fits few)
  · rw [if_neg fits, if_neg fits]
    rfl

theorem isLeast_alignUp {value alignment : Nat} (pos : 0 < alignment) :
    IsLeast {n | value ≤ n ∧ alignment ∣ n} (alignUp value alignment) := by
  refine ⟨⟨le_alignUp value pos, dvd_alignUp ..⟩, ?_⟩
  rintro _ ⟨le, m, rfl⟩
  unfold alignUp
  have quotient : (value + (alignment - 1)) / alignment ≤ m := by
    apply Nat.le_of_lt_succ
    rw [Nat.div_lt_iff_lt_mul pos, Nat.succ_mul, Nat.mul_comm m]
    omega
  calc (value + (alignment - 1)) / alignment * alignment
      ≤ m * alignment := Nat.mul_le_mul_right alignment quotient
    _ = alignment * m := Nat.mul_comm ..

/-- Of two powers of two, the smaller one divides the larger one. -/
theorem dvd_of_isPowerOfTwo {a b : Nat} (power : a.isPowerOfTwo) (power' : b.isPowerOfTwo)
    (le : a ≤ b) : a ∣ b := by
  obtain ⟨i, rfl⟩ := power
  obtain ⟨j, rfl⟩ := power'
  exact Nat.pow_dvd_pow 2 ((Nat.pow_le_pow_iff_right (by decide)).mp le)

/-- The cache line takes part in the choice of the alignment, so its size has to
be a power of two as well. -/
theorem isPowerOfTwo_max {a : Nat} (power : a.isPowerOfTwo) :
    (max a cacheLine).isPowerOfTwo := by
  rcases Nat.le_total a cacheLine with small | large
  · rw [Nat.max_eq_right small]
    exact ⟨6, rfl⟩
  · rw [Nat.max_eq_left large]
    exact power

/-! ## The plan on words -/

/-- `place`, done on words. -/
def placeOnWords (wanted : Bool) (extent offset : Nat) : Except Trap (Option Grantor × Nat) :=
  if wanted then do
    let next ← Words.add offset cacheLine
    return (some ⟨offset, extent⟩, next)
  else
    return (none, offset)

/-- `plan`, done on words. -/
def planOnWords (r : Request) : Risky ConfigFault Layout :=
  if r.quantumSize = 0 then
    throw .zeroSizedQuanta
  else if r.quantumCount = 0 then
    throw .zeroCount
  else
    match Words.mul? r.quantumSize r.quantumCount with
    | none => throw (.extentOverflow r.quantumCount r.quantumSize)
    | some extent => do
      let (readCounter, afterRead) ← placeOnWords r.flavor.hasReadCounter counterSize 0
      let afterWrite ← Words.add afterRead cacheLine
      let (writeReserve, afterReserve) ←
        placeOnWords r.flavor.hasReservation counterSize afterWrite
      let (eventFlag, afterFlag) ← placeOnWords r.eventFlag flagSize afterReserve
      match ← alignUpOnWords? afterFlag (max r.quantumAlign cacheLine) with
      | none => throw .layoutOverflow
      | some offset =>
        match Words.add? offset extent with
        | none => throw .layoutOverflow
        | some size =>
          return {
            readCounter, writeReserve, eventFlag, size
            writeCounter := ⟨afterRead, counterSize⟩
            data := ⟨offset, extent⟩ }

/-- The cache lines of the words: a write counter, a second word that depends on
the flavor, and perhaps a flag. -/
def Request.lines (r : Request) : Nat := if r.eventFlag then 3 else 2

/-- Where the slots begin. -/
def Request.dataOffset (r : Request) : Nat :=
  alignUp (cacheLine * r.lines) (max r.quantumAlign cacheLine)

variable {r : Request} {l : Layout}

/-- The lines are handed out one after the other. -/
theorem place_lines (r : Request) :
    let read := place r.flavor.hasReadCounter counterSize 0
    let reserve := place r.flavor.hasReservation counterSize (read.2 + cacheLine)
    (place r.eventFlag flagSize reserve.2).2 = cacheLine * r.lines := by
  obtain ⟨flavor, quantumSize, quantumAlign, quantumCount, eventFlag⟩ := r
  cases flavor <;> cases eventFlag <;> rfl

theorem placeOnWords_eq {wanted : Bool} {extent offset : Nat}
    (room : offset + cacheLine < wordLimit) :
    placeOnWords wanted extent offset = .ok (place wanted extent offset) := by
  unfold placeOnWords place Words.add
  rw [if_pos room]
  cases wanted <;> rfl

theorem place_le {wanted : Bool} {extent offset : Nat} :
    (place wanted extent offset).2 ≤ offset + cacheLine := by
  cases wanted <;> simp [place]

theorem lift_ok_bind {ε α β : Type} (a : α) (f : α → Risky ε β) :
    (liftM (.ok a : Except Trap α) : Risky ε α) >>= f = f a := rfl

/-- There are only a few lines to walk over, so no sum on the way has a carry. -/
theorem planOnWords_eq (power : r.quantumAlign.isPowerOfTwo) (few : r.quantumAlign ≤ 2 ^ 63) :
    (planOnWords r).run = .ok (plan r) := by
  obtain ⟨k, shape⟩ := isPowerOfTwo_max power
  have small : k ≤ 64 := by
    have le : 2 ^ k ≤ 2 ^ 63 := shape ▸ Nat.max_le.mpr ⟨few, by decide⟩
    exact Nat.le_succ_of_le ((Nat.pow_le_pow_iff_right (by decide)).mp le)
  unfold planOnWords plan
  split
  · rfl
  split
  · rfl
  unfold Words.mul?
  by_cases counted : r.quantumSize * r.quantumCount < wordLimit
  · rw [if_pos counted, if_neg (Nat.not_le.mpr counted)]
    have room {n : Nat} (near : n ≤ 4 * cacheLine) : n < wordLimit :=
      Nat.lt_of_le_of_lt near (by decide)
    -- the pieces one by one, each with what is left of the way before it
    have first : (place r.flavor.hasReadCounter counterSize 0).2 ≤ 0 + cacheLine := place_le
    rw [placeOnWords_eq (room (by decide))]
    generalize place r.flavor.hasReadCounter counterSize 0 = read at first
    obtain ⟨readCounter, afterRead⟩ := read
    have next : Words.add afterRead cacheLine = .ok (afterRead + cacheLine) :=
      if_pos (room (by omega))
    have second : (place r.flavor.hasReservation counterSize (afterRead + cacheLine)).2 ≤
        afterRead + cacheLine + cacheLine := place_le
    have placed : placeOnWords r.flavor.hasReservation counterSize (afterRead + cacheLine) =
        .ok (place r.flavor.hasReservation counterSize (afterRead + cacheLine)) :=
      placeOnWords_eq (room (by omega))
    simp only [lift_ok_bind, next, placed]
    generalize place r.flavor.hasReservation counterSize _ = reserve at second
    obtain ⟨writeReserve, afterReserve⟩ := reserve
    have placed : placeOnWords r.eventFlag flagSize afterReserve =
        .ok (place r.eventFlag flagSize afterReserve) := placeOnWords_eq (room (by omega))
    simp only [lift_ok_bind, placed]
    obtain ⟨eventFlag, afterFlag⟩ := place r.eventFlag flagSize afterReserve
    simp only [lift_ok_bind, alignUpOnWords?_eq shape small]
    by_cases reached : afterFlag + (max r.quantumAlign cacheLine - 1) < wordLimit
    · rw [if_pos reached, if_neg (Nat.not_le.mpr reached)]
      generalize alignUp afterFlag _ = offset
      unfold Words.add? Grantor.stop
      dsimp only
      by_cases ends : offset + r.quantumSize * r.quantumCount < wordLimit
      · rw [if_pos ends, if_neg (Nat.not_le.mpr ends)]
        rfl
      · rw [if_neg ends, if_pos (Nat.le_of_not_lt ends)]
        rfl
    · rw [if_neg reached, if_pos (Nat.le_of_not_lt reached)]
      rfl
  · rw [if_neg counted, if_pos (Nat.le_of_not_lt counted)]
    rfl

/-! ## Which plans are made, and what they are like -/

/-- The largest alignment leaves room to round up, so only the slots can be too
much for a word. -/
theorem plan_isOk_iff (few : r.quantumAlign ≤ 2 ^ 63) :
    (∃ l, plan r = .ok l) ↔
      0 < r.quantumSize ∧ 0 < r.quantumCount ∧ r.quantumSize * r.quantumCount < wordLimit ∧
        r.dataOffset + r.quantumSize * r.quantumCount < wordLimit := by
  have lines := place_lines r
  have rounds : cacheLine * r.lines + (max r.quantumAlign cacheLine - 1) < wordLimit := by
    have near : cacheLine * r.lines ≤ 192 := by
      unfold Request.lines
      split <;> decide
    have limit : wordLimit = 2 ^ 64 := rfl
    unfold cacheLine at *
    omega
  unfold plan Request.dataOffset
  simp only at lines ⊢
  rw [lines]
  split_ifs with size count extent reach far
  · exact ⟨nofun, fun fits => absurd fits.1 (by omega)⟩
  · exact ⟨nofun, fun fits => absurd fits.2.1 (by omega)⟩
  · exact ⟨nofun, fun fits => absurd fits.2.2.1 (Nat.not_lt.mpr extent)⟩
  · exact absurd rounds (Nat.not_lt.mpr reach)
  · exact ⟨nofun, fun fits => absurd fits.2.2.2 (Nat.not_lt.mpr far)⟩
  · refine ⟨fun _ => ⟨?_, ?_, Nat.lt_of_not_le extent, Nat.lt_of_not_le far⟩, fun _ => ⟨_, rfl⟩⟩
    · exact Nat.pos_of_ne_zero size
    · exact Nat.pos_of_ne_zero count

/-- The slots of a plan are where they are expected, and nothing comes after
them. -/
theorem plan_data (ok : plan r = .ok l) :
    l.data = ⟨r.dataOffset, r.quantumSize * r.quantumCount⟩ ∧ l.size = l.data.stop := by
  have lines := place_lines r
  obtain ⟨-, -, rfl⟩ := plan_eq_ok ok
  dsimp only at lines ⊢
  rw [lines]
  exact ⟨rfl, rfl⟩

theorem dvd_place {wanted : Bool} {extent offset : Nat} {g : Grantor} (dvd : cacheLine ∣ offset)
    (there : (place wanted extent offset).1 = some g) : cacheLine ∣ g.offset := by
  cases wanted with
  | false => cases there
  | true =>
    cases there
    exact dvd

theorem dvd_after {wanted : Bool} {extent offset : Nat} (dvd : cacheLine ∣ offset) :
    cacheLine ∣ (place wanted extent offset).2 := by
  cases wanted with
  | false => exact dvd
  | true => exact Nat.dvd_add dvd (Nat.dvd_refl _)

/-- Every piece of a plan begins at a cache line. -/
theorem cacheLine_dvd_plan (ok : plan r = .ok l) (power : r.quantumAlign.isPowerOfTwo)
    {part : Part} {g : Grantor} (there : l.range? part = some g) : cacheLine ∣ g.offset := by
  have slots : cacheLine ∣ r.dataOffset :=
    Nat.dvd_trans (dvd_of_isPowerOfTwo ⟨6, rfl⟩ (isPowerOfTwo_max power) (Nat.le_max_right ..))
      (dvd_alignUp ..)
  have data := (plan_data ok).1
  have read : cacheLine ∣ (place r.flavor.hasReadCounter counterSize 0).2 :=
    dvd_after (Nat.dvd_zero _)
  have write := Nat.dvd_add read (Nat.dvd_refl _)
  obtain ⟨-, -, shape⟩ := plan_eq_ok ok
  cases part with
  | readCounter => exact dvd_place (Nat.dvd_zero _) (shape ▸ there)
  | writeCounter =>
    cases there
    exact shape ▸ read
  | writeReservation => exact dvd_place write (shape ▸ there)
  | eventFlag => exact dvd_place (dvd_after write) (shape ▸ there)
  | data =>
    cases there
    exact data ▸ slots

/-- If every piece of a good layout begins at a cache line, then no two of them
meet in one. -/
theorem WellFormed.line_ne {flavor : Flavor} {size align : Nat}
    (well : l.WellFormed flavor size align)
    (starts : ∀ {part g}, l.range? part = some g → cacheLine ∣ g.offset) {p q : Part}
    {g h : Grantor} {x y : Nat} (differ : p ≠ q) (thereP : l.range? p = some g)
    (thereQ : l.range? q = some h) (covers : g.Covers x) (covers' : h.Covers y) :
    x / cacheLine ≠ y / cacheLine := by
  intro same
  have startP := starts thereP
  have startQ := starts thereQ
  -- the later one of the two would begin inside the other
  have both : g.Covers (max g.offset h.offset) ∧ h.Covers (max g.offset h.offset) := by
    unfold Grantor.Covers cacheLine at *
    omega
  exact differ (well.disjoint thereP thereQ both.1 both.2)

/-- A region that ends before the slots do is too small, whatever alignment the
elements may have. -/
theorem validate_small {s : Nat} (flavor : Flavor) (align : Nat) (small : s < l.data.stop) :
    ∃ fault, l.validate flavor s align = .error (.error (.invalidDescriptor fault)) := by
  have refused (align : Nat) : ∃ fault, checkPieces s (l.pieces align) = .error fault := by
    cases checked : checkPieces s (l.pieces align) with
    | error fault => exact ⟨fault, rfl⟩
    | ok _ =>
      have data := checkPieces_eq_ok_iff.mp checked (piece align .data l.data)
        (mem_pieces.mpr ⟨.data, l.data, rfl, rfl⟩)
      exact absurd small (Nat.not_lt.mpr (Piece.check_eq_ok_iff.mp data).1)
  unfold validate check
  cases l.checkPresence flavor with
  | error fault =>
    refine ⟨.layout fault, ?_⟩
    split <;> rfl
  | ok _ =>
    split
    · obtain ⟨fault, refused⟩ := refused 1
      rw [refused]
      exact ⟨.layout fault, rfl⟩
    · obtain ⟨fault, refused⟩ := refused align
      rw [refused]
      exact ⟨.layout fault, rfl⟩

/-- A flavor is told by its read counter, and that is looked at first. -/
theorem validate_foreign {flavor flavor' : Flavor} (s align : Nat)
    (native : l.readCounter.isSome = flavor.hasReadCounter) (differ : flavor' ≠ flavor) :
    l.validate flavor' s align = .error (.error (.invalidDescriptor
      (.layout (.readCounterPresence flavor' l.readCounter.isSome)))) := by
  have absent : l.readCounter.isSome ≠ flavor'.hasReadCounter := by
    rw [native]
    cases flavor <;> cases flavor' <;> first | exact absurd rfl differ | decide
  have presence : l.checkPresence flavor' =
      .error (.readCounterPresence flavor' l.readCounter.isSome) := if_pos absent
  unfold validate check
  rw [presence]
  split <;> rfl

/-- What is promised of a plan that is made. -/
structure Fits (l : Layout) (r : Request) : Prop where
  /-- The slots have the room that they need and no more. -/
  slots : l.data = ⟨r.dataOffset, r.quantumSize * r.quantumCount⟩
  /-- They begin as soon as the words and the alignment allow it. -/
  start : IsLeast {n | cacheLine * r.lines ≤ n ∧ max r.quantumAlign cacheLine ∣ n} l.data.offset
  counted : l.size < wordLimit
  accepted : ∀ {a}, a.isPowerOfTwo → a ≤ max r.quantumAlign cacheLine →
    l.validate r.flavor l.size a = .ok ()
  /-- No byte can be spared. -/
  refused : ∀ {s} (a), s < l.size →
    ∃ fault, l.validate r.flavor s a = .error (.error (.invalidDescriptor fault))
  foreign : ∀ {flavor} (s a), flavor ≠ r.flavor →
    ∃ fault, l.validate flavor s a = .error (.error (.invalidDescriptor fault))
  apart : ∀ {p q g h x y}, p ≠ q → l.range? p = some g → l.range? q = some h →
    g.Covers x → h.Covers y → x / cacheLine ≠ y / cacheLine
  described : ∀ {name a}, name ≠ "" → a.isPowerOfTwo → a ≤ max r.quantumAlign cacheLine →
    (Descriptor.ofLayout name r.flavor r.quantumSize r.quantumCount l).validate a = .ok ()

/-- Elements of a smaller alignment are served as well. -/
theorem check_smaller (ok : plan r = .ok l) (power : r.quantumAlign.isPowerOfTwo) {a : Nat}
    (power' : a.isPowerOfTwo) (le : a ≤ max r.quantumAlign cacheLine) :
    l.check r.flavor l.size a = .ok () := by
  have most := isPowerOfTwo_max power
  have own := check_plan ok (dvd_of_isPowerOfTwo power most (Nat.le_max_left ..))
  refine check_realign own (Nat.dvd_trans (dvd_of_isPowerOfTwo power' most le) ?_)
  rw [(plan_data ok).1]
  exact dvd_alignUp ..

theorem fits_of_plan (ok : plan r = .ok l) (power : r.quantumAlign.isPowerOfTwo)
    (few : r.quantumAlign ≤ 2 ^ 63) : l.Fits r := by
  obtain ⟨data, size⟩ := plan_data ok
  obtain ⟨size_pos, count_pos, extent⟩ := plan_shape ok
  have checked {a : Nat} (power' : a.isPowerOfTwo) (le : a ≤ max r.quantumAlign cacheLine) :=
    check_smaller ok power power' le
  have own := checked power (Nat.le_max_left ..)
  have slots : 0 < l.data.extent := extent ▸ Nat.mul_pos size_pos count_pos
  have presence := checkPresence_eq_ok_iff.mp (check_eq_ok_iff.mp own).1
  have positive {a : Nat} (power' : a.isPowerOfTwo) : 0 < a := Nat.pos_of_isPowerOfTwo power'
  constructor
  · exact data
  · rw [data]
    exact isLeast_alignUp (positive (isPowerOfTwo_max power))
  · rw [size, data]
    exact ((plan_isOk_iff few).mp ⟨l, ok⟩).2.2.2
  · intro a power' le
    rw [validate_eq (positive power'), mapError_eq_ok_iff]
    exact checked power' le
  · intro s a small
    exact validate_small r.flavor a (size ▸ small)
  · intro flavor s a differ
    exact ⟨_, validate_foreign s a presence.1 differ⟩
  · intro p q g h x y
    exact ((check_eq_ok_iff_wellFormed slots).mp own).line_ne (cacheLine_dvd_plan ok power)
  · intro name a named power' le
    rw [Descriptor.validate_eq (positive power'), mapError_eq_ok_iff, Descriptor.check_eq_ok_iff,
      Descriptor.checkShape_eq_ok_iff]
    refine ⟨⟨?_, size_pos, count_pos, extent⟩, checked power' le⟩
    rw [Bool.eq_false_iff, ne_eq, String.isEmpty_iff]
    exact named

/-- Plans are made whenever a word can count the bytes of the slots and those
before them, with no carry on the way, and they are valid and tight. -/
theorem planning {r : Request} (power : r.quantumAlign.isPowerOfTwo)
    (few : r.quantumAlign ≤ 2 ^ 63) :
    (planOnWords r).run = .ok (plan r) ∧
      ((∃ l, plan r = .ok l) ↔
        0 < r.quantumSize ∧ 0 < r.quantumCount ∧ r.quantumSize * r.quantumCount < wordLimit ∧
          r.dataOffset + r.quantumSize * r.quantumCount < wordLimit) ∧
      ∀ l, plan r = .ok l → l.Fits r :=
  ⟨planOnWords_eq power few, plan_isOk_iff few, fun _ ok => fits_of_plan ok power few⟩

/-- A queue of single bytes with a flag, aligned to half of all that a word can
count. -/
def Request.vast (quantumCount : Nat) : Request where
  flavor := .unsynchronized
  quantumSize := 1
  quantumAlign := 2 ^ 63
  quantumCount := quantumCount
  eventFlag := true

/-- The slots begin at the alignment, so half of the bytes are left for them. One
less than that is a plan, which is good for all alignments up to the largest one,
and with all of them the end is out of sight. -/
theorem planning_vast :
    (∃ l, plan (.vast (2 ^ 63 - 1)) = .ok l ∧ l.size = 2 ^ 64 - 1 ∧
        l.validate .unsynchronized l.size (2 ^ 63) = .ok () ∧
        l.validate .unsynchronized l.size 4096 = .ok () ∧
        ∃ fault, l.validate .unsynchronized (l.size - 1) 1 =
          .error (.error (.invalidDescriptor fault))) ∧
      ¬ ∃ l, plan (.vast (2 ^ 63)) = .ok l := by
  have power : (2 ^ 63).isPowerOfTwo := ⟨63, rfl⟩
  have most : 2 ^ 63 ≤ max (2 ^ 63) cacheLine := Nat.le_max_left ..
  obtain ⟨-, made, fits⟩ := planning (r := .vast (2 ^ 63 - 1)) power (Nat.le_refl _)
  obtain ⟨-, made', -⟩ := planning (r := .vast (2 ^ 63)) power (Nat.le_refl _)
  constructor
  · obtain ⟨l, ok⟩ := made.mpr (by decide)
    have fits := fits l ok
    have size : l.size = 2 ^ 64 - 1 := by
      rw [(plan_data ok).2, fits.slots]
      decide
    refine ⟨l, ok, size, fits.accepted power most, ?_, fits.refused 1 (by omega)⟩
    exact fits.accepted ⟨12, rfl⟩ (Nat.le_trans (by decide) most)
  · rw [made']
    decide

end Layout

end SharedQueue
