/-
SharedQueue.Proofs.Validation — which layouts and descriptors are accepted.

* `Layout.WellFormed` — what a layout has to be like, in terms of the bytes of
  its pieces. `check_eq_ok_iff_wellFormed` says that the check accepts these
  layouts and no others.
* `Trap`, `Words` — arithmetic on 64-bit words, which may have no result.
* `Layout.checkOnWords`, `Descriptor.checkOnWords` — the checks, step by step in
  that arithmetic. `checkOnWords_eq` says that they come to the same verdict.
* `Layout.Judged`, `Descriptor.Judged`, `validation_exact` — what comes of a
  validation.

The numbers come from a peer, so a range may end where no word can tell. The
first walk looks at every end with a sum that is looked after; the second one
adds up the same numbers without a second look. It can, because nobody comes to
it with a range that does not end in the region.
-/
import SharedQueue.Proofs.Placement

namespace SharedQueue

/-! ## What is accepted -/

/-- Ranges that are not empty are apart if they have no byte in common. -/
theorem Grantor.apart_iff {g h : Grantor} (some : 0 < g.extent) (some' : 0 < h.extent) :
    g.Apart h ↔ ∀ a, g.Covers a → ¬ h.Covers a := by
  constructor
  · intro apart a
    exact apart.not_covers
  · intro clear
    -- where the later one begins they would meet
    have clear := clear (max g.offset h.offset)
    unfold Grantor.Covers at clear
    unfold Grantor.Apart
    unfold Grantor.stop at *
    omega

/-- The room that a piece needs. Slots need no more than their range has. -/
def Part.room : Part → Nat
  | .writeCounter | .readCounter | .writeReservation => counterSize
  | .eventFlag => flagSize
  | .data => 0

namespace Layout

/-- The range of a piece, if the piece is present. -/
def range? (l : Layout) : Part → Option Grantor
  | .writeCounter => some l.writeCounter
  | .readCounter => l.readCounter
  | .writeReservation => l.writeReserve
  | .eventFlag => l.eventFlag
  | .data => some l.data

/-- A layout as it should be: it has the words of the flavor, its pieces end
inside the region, with their room and their alignment, and no byte belongs to
two of them. -/
structure WellFormed (l : Layout) (flavor : Flavor) (regionSize quantumAlign : Nat) : Prop where
  readCounter : l.readCounter.isSome = true ↔ flavor = .synchronized
  writeReserve : l.writeReserve.isSome = true ↔ flavor = .unsynchronized
  inside : ∀ {part g}, l.range? part = some g → g.offset + g.extent ≤ regionSize
  room : ∀ {part g}, l.range? part = some g → part.room ≤ g.extent
  aligned : ∀ {part g}, l.range? part = some g → part.alignment quantumAlign ∣ g.offset
  disjoint : ∀ {p q g h a}, l.range? p = some g → l.range? q = some h →
    g.Covers a → h.Covers a → p = q

variable {l : Layout} {flavor : Flavor} {size align : Nat}

theorem mem_word {part : Part} {extent : Nat} {range : Option Grantor} {p : Piece} :
    p ∈ word part extent range ↔ ∃ g, range = some g ∧ p = ⟨part, g, extent, extent⟩ := by
  cases range <;> simp [word]

/-- The piece that is checked for a range. -/
def piece (quantumAlign : Nat) (part : Part) (g : Grantor) : Piece where
  part := part
  range := g
  least := match part with
    | .data => g.extent
    | _ => part.room
  alignment := part.alignment quantumAlign

/-- The pieces that are checked are those of the ranges that are there. -/
theorem mem_pieces {p : Piece} :
    p ∈ l.pieces align ↔ ∃ part g, l.range? part = some g ∧ p = piece align part g := by
  simp only [pieces, List.mem_append, mem_word, List.mem_singleton]
  constructor
  · rintro ((((⟨g, there, rfl⟩ | ⟨g, there, rfl⟩) | ⟨g, there, rfl⟩) | ⟨g, there, rfl⟩) | rfl)
    · exact ⟨.writeCounter, g, there, rfl⟩
    · exact ⟨.readCounter, g, there, rfl⟩
    · exact ⟨.writeReservation, g, there, rfl⟩
    · exact ⟨.eventFlag, g, there, rfl⟩
    · exact ⟨.data, l.data, rfl, rfl⟩
  · rintro ⟨part, g, there, rfl⟩
    cases part with
    | writeCounter => exact .inl (.inl (.inl (.inl ⟨g, there, rfl⟩)))
    | readCounter => exact .inl (.inl (.inl (.inr ⟨g, there, rfl⟩)))
    | writeReservation => exact .inl (.inl (.inr ⟨g, there, rfl⟩))
    | eventFlag => exact .inl (.inr ⟨g, there, rfl⟩)
    | data =>
      cases there
      exact .inr rfl

/-- No piece is listed twice. -/
theorem pairwise_part (l : Layout) (align : Nat) :
    (l.pieces align).Pairwise fun p q => p.part ≠ q.part := by
  obtain ⟨readCounter, writeCounter, writeReserve, eventFlag, data, size⟩ := l
  cases readCounter <;> cases writeReserve <;> cases eventFlag <;> simp [pieces, word]

theorem piece_check_eq_ok_iff {part : Part} {g : Grantor} :
    (piece align part g).check size = .ok () ↔
      g.offset + g.extent ≤ size ∧ part.room ≤ g.extent ∧ part.alignment align ∣ g.offset := by
  rw [Piece.check_eq_ok_iff]
  cases part with
  | data => simp [piece, Part.room, Grantor.stop]
  | writeCounter | readCounter | writeReservation | eventFlag => exact Iff.rfl

/-- A piece with slots or a word in it is not empty. -/
theorem extent_pos {part : Part} {g : Grantor} (slots : 0 < l.data.extent)
    (there : l.range? part = some g) (room : part.room ≤ g.extent) : 0 < g.extent := by
  cases part with
  | data =>
    cases there
    exact slots
  | writeCounter | readCounter | writeReservation | eventFlag =>
    exact Nat.lt_of_lt_of_le (by decide) room

theorem presence_iff :
    l.checkPresence flavor = .ok () ↔
      (l.readCounter.isSome = true ↔ flavor = .synchronized) ∧
        (l.writeReserve.isSome = true ↔ flavor = .unsynchronized) := by
  rw [checkPresence_eq_ok_iff]
  cases flavor <;> simp [Flavor.hasReadCounter, Flavor.hasReservation]

/-- The check accepts the layouts that are as they should be. -/
theorem check_eq_ok_iff_wellFormed (slots : 0 < l.data.extent) :
    l.check flavor size align = .ok () ↔ l.WellFormed flavor size align := by
  rw [check_eq_ok_iff, presence_iff]
  constructor
  · rintro ⟨⟨read, reserve⟩, sound, apart⟩
    have sound {part g} (there : l.range? part = some g) :=
      piece_check_eq_ok_iff.mp (sound (piece align part g) (mem_pieces.mpr ⟨part, g, there, rfl⟩))
    refine ⟨read, reserve, fun there => (sound there).1, fun there => (sound there).2.1,
      fun there => (sound there).2.2, ?_⟩
    intro p q g h a thereP thereQ covers covers'
    by_contra ne
    have symmetric : Std.Symm fun p q : Piece => p.range.Apart q.range :=
      ⟨fun _ _ apart => apart.symm⟩
    have differ : piece align p g ≠ piece align q h := fun same => ne (congrArg Piece.part same)
    have clear : g.Apart h := apart.forall (mem_pieces.mpr ⟨p, g, thereP, rfl⟩)
      (mem_pieces.mpr ⟨q, h, thereQ, rfl⟩) differ
    exact clear.not_covers covers covers'
  · intro well
    refine ⟨⟨well.readCounter, well.writeReserve⟩, ?_, ?_⟩
    · intro p mem
      obtain ⟨part, g, there, rfl⟩ := mem_pieces.mp mem
      exact piece_check_eq_ok_iff.mpr ⟨well.inside there, well.room there, well.aligned there⟩
    · refine (pairwise_part l align).imp_of_mem ?_
      intro p q memP memQ ne
      obtain ⟨part, g, thereP, rfl⟩ := mem_pieces.mp memP
      obtain ⟨part', h, thereQ, rfl⟩ := mem_pieces.mp memQ
      have some := extent_pos slots thereP (well.room thereP)
      have some' := extent_pos slots thereQ (well.room thereQ)
      refine (Grantor.apart_iff some some').mpr ?_
      intro a covers covers'
      exact ne (well.disjoint thereP thereQ covers covers')

end Layout

/-! ## Arithmetic on words -/

/-- Why arithmetic on words has no result. -/
inductive Trap
  | overflow
  | zeroDivisor
deriving DecidableEq, Repr

namespace Words

/-- A sum that is looked after. -/
def add? (a b : Nat) : Option Nat := if a + b < wordLimit then some (a + b) else none

/-- A product that is looked after. -/
def mul? (a b : Nat) : Option Nat := if a * b < wordLimit then some (a * b) else none

/-- A sum that nobody looks after. -/
def add (a b : Nat) : Except Trap Nat :=
  if a + b < wordLimit then .ok (a + b) else .error .overflow

def mod (a b : Nat) : Except Trap Nat := if b = 0 then .error .zeroDivisor else .ok (a % b)

end Words

/-- A check that may trap before it comes to a verdict. -/
abbrev Risky (ε : Type) := ExceptT ε (Except Trap)

/-- A verdict that was come to without a trap. -/
def untrapped {ε : Type} (verdict : Except ε Unit) : Risky ε Unit := ExceptT.mk (.ok verdict)

theorem untrapped_bind {ε : Type} (x : Except ε Unit) (f : Unit → Except ε Unit) :
    (untrapped x >>= fun u => untrapped (f u)) = untrapped (x >>= f) := by
  cases x <;> rfl

namespace Grantor

/-- The range ends inside the region. -/
def endsWithin (g : Grantor) (regionSize : Nat) : Bool :=
  match Words.add? g.offset g.extent with
  | some stop => stop ≤ regionSize
  | none => false

/-- Each range begins before the other one ends. The second end is not added up
if the first comparison has failed. -/
def overlapsOnWords (g h : Grantor) : Except Trap Bool := do
  let stop ← Words.add h.offset h.extent
  if g.offset < stop then
    let stop ← Words.add g.offset g.extent
    return h.offset < stop
  else
    return false

variable {g h : Grantor} {size : Nat}

theorem endsWithin_eq (counted : size < wordLimit) :
    g.endsWithin size = decide (g.stop ≤ size) := by
  unfold endsWithin Words.add? stop
  by_cases fits : g.offset + g.extent < wordLimit
  · rw [if_pos fits]
  · have far : ¬ g.offset + g.extent ≤ size := by omega
    rw [if_neg fits, decide_eq_false far]

theorem overlapsOnWords_eq (fits : g.stop < wordLimit) (fits' : h.stop < wordLimit) :
    g.overlapsOnWords h = .ok (g.overlaps h) := by
  unfold stop at fits fits'
  unfold overlapsOnWords overlaps Words.add stop
  rw [if_pos fits, if_pos fits']
  by_cases before : g.offset < h.offset + h.extent
  · simp [before, bind, Except.bind, pure, Except.pure]
  · simp [before, bind, Except.bind, pure, Except.pure]

end Grantor

/-! ## The checks on words -/

namespace Layout

def Piece.checkOnWords (regionSize : Nat) (p : Piece) : Risky LayoutFault Unit :=
  if p.range.endsWithin regionSize = false then
    throw (.outside p.part p.range regionSize)
  else if p.range.extent < p.least then
    throw (.short p.part p.range.extent p.least)
  else do
    let rest ← Words.mod p.range.offset p.alignment
    if rest ≠ 0 then
      throw (.misaligned p.part p.range.offset p.alignment)

def checkPiecesOnWords (regionSize : Nat) : List Piece → Risky LayoutFault Unit
  | [] => pure ()
  | p :: rest => do
    p.checkOnWords regionSize
    checkPiecesOnWords regionSize rest

def firstOverlapOnWords? (p : Piece) : List Piece → Except Trap (Option Piece)
  | [] => return none
  | q :: rest => do
    let hit ← p.range.overlapsOnWords q.range
    if hit then return some q else firstOverlapOnWords? p rest

def checkOverlapsOnWords : List Piece → Risky LayoutFault Unit
  | [] => pure ()
  | p :: rest => do
    match ← firstOverlapOnWords? p rest with
    | some q => throw (.overlap p.part q.part)
    | none => checkOverlapsOnWords rest

/-- `check`, done on words. -/
def checkOnWords (l : Layout) (flavor : Flavor) (regionSize quantumAlign : Nat) :
    Risky LayoutFault Unit := do
  untrapped (l.checkPresence flavor)
  checkPiecesOnWords regionSize (l.pieces quantumAlign)
  checkOverlapsOnWords (l.pieces quantumAlign)

variable {l : Layout} {flavor : Flavor} {size align : Nat} {p : Piece} {pieces : List Piece}

theorem Piece.checkOnWords_eq (counted : size < wordLimit) (pos : 0 < p.alignment) :
    p.checkOnWords size = untrapped (p.check size) := by
  unfold checkOnWords check Words.mod
  rw [Grantor.endsWithin_eq counted, if_neg (Nat.ne_of_gt pos)]
  by_cases inside : p.range.stop ≤ size
  · rw [decide_eq_true inside, if_neg (by decide), if_neg (Nat.not_lt.mpr inside)]
    by_cases short : p.range.extent < p.least
    · rw [if_pos short, if_pos short]
      rfl
    · rw [if_neg short, if_neg short]
      by_cases aligned : p.range.offset % p.alignment = 0
      · rw [if_neg (not_not.mpr aligned), aligned]
        rfl
      · rw [if_pos aligned]
        exact if_pos aligned
  · rw [decide_eq_false inside, if_pos rfl, if_pos (Nat.lt_of_not_le inside)]
    rfl

theorem checkPiecesOnWords_eq (counted : size < wordLimit) (pos : ∀ p ∈ pieces, 0 < p.alignment) :
    checkPiecesOnWords size pieces = untrapped (checkPieces size pieces) := by
  induction pieces with
  | nil => rfl
  | cons p rest ih =>
    rw [List.forall_mem_cons] at pos
    rw [checkPiecesOnWords, Piece.checkOnWords_eq counted pos.1, ih pos.2]
    exact untrapped_bind ..

theorem firstOverlapOnWords?_eq (fits : p.range.stop < wordLimit)
    (all : ∀ q ∈ pieces, q.range.stop < wordLimit) :
    firstOverlapOnWords? p pieces = .ok (firstOverlap? p pieces) := by
  induction pieces with
  | nil => rfl
  | cons q rest ih =>
    rw [List.forall_mem_cons] at all
    have later := ih all.2
    unfold firstOverlap? at later ⊢
    rw [firstOverlapOnWords?, Grantor.overlapsOnWords_eq fits all.1, List.find?_cons, later]
    cases p.range.overlaps q.range <;> rfl

/-- If every range ends where a word can tell, no sum of the second walk
overflows. -/
theorem checkOverlapsOnWords_eq (all : ∀ p ∈ pieces, p.range.stop < wordLimit) :
    checkOverlapsOnWords pieces = untrapped (checkOverlaps pieces) := by
  induction pieces with
  | nil => rfl
  | cons p rest ih =>
    rw [List.forall_mem_cons] at all
    rw [checkOverlapsOnWords, checkOverlaps, firstOverlapOnWords?_eq all.1 all.2, ih all.2]
    cases firstOverlap? p rest <;> rfl

theorem alignment_pos (pos : 0 < align) : ∀ p ∈ l.pieces align, 0 < p.alignment := by
  intro p mem
  obtain ⟨part, g, -, rfl⟩ := mem_pieces.mp mem
  cases part with
  | data => exact pos
  | eventFlag => exact (by decide : 0 < flagSize)
  | writeCounter | readCounter | writeReservation => exact (by decide : 0 < counterSize)

/-- The check on words does not trap. The second walk is only taken if the first
one has found that all ranges end inside the region. -/
theorem checkOnWords_eq (counted : size < wordLimit) (pos : 0 < align) :
    l.checkOnWords flavor size align = untrapped (l.check flavor size align) := by
  have overlaps : ∀ u, checkPieces size (l.pieces align) = .ok u →
      checkOverlapsOnWords (l.pieces align) = untrapped (checkOverlaps (l.pieces align)) := by
    intro u passed
    apply checkOverlapsOnWords_eq
    intro p mem
    have sound := checkPieces_eq_ok_iff.mp passed p mem
    exact Nat.lt_of_le_of_lt (Piece.check_eq_ok_iff.mp sound).1 counted
  unfold checkOnWords check
  rw [checkPiecesOnWords_eq counted (alignment_pos pos)]
  cases l.checkPresence flavor with
  | error fault => rfl
  | ok _ =>
    cases passed : checkPieces size (l.pieces align) with
    | error fault => rfl
    | ok u =>
      rw [overlaps u passed]
      rfl

end Layout

namespace Descriptor

/-- `checkShape`, done on words. -/
def checkShapeOnWords (d : Descriptor) : Except DescriptorFault Unit :=
  if d.name.isEmpty then .error .emptyName
  else if d.quantumSize = 0 ∨ d.quantumCount = 0 then
    .error (.degenerateShape d.quantumCount d.quantumSize)
  else if Words.mul? d.quantumSize d.quantumCount ≠ some d.data.extent then
    .error (.extentMismatch d.data.extent d.quantumCount d.quantumSize)
  else .ok ()

/-- `check`, done on words. -/
def checkOnWords (d : Descriptor) (quantumAlign : Nat) : Risky DescriptorFault Unit := do
  untrapped d.checkShapeOnWords
  (d.layout.checkOnWords d.flavor d.regionSize quantumAlign).adapt .layout

variable {d : Descriptor} {quantumAlign : Nat}

theorem checkShapeOnWords_eq (counted : d.data.extent < wordLimit) :
    d.checkShapeOnWords = d.checkShape := by
  have same : Words.mul? d.quantumSize d.quantumCount ≠ some d.data.extent ↔
      d.quantumSize * d.quantumCount ≠ d.data.extent := by
    unfold Words.mul?
    split
    · rw [ne_eq, Option.some.injEq]
    · simp only [ne_eq, reduceCtorEq, not_false_eq_true, true_iff]
      omega
  unfold checkShapeOnWords checkShape
  simp only [same]

theorem checkOnWords_eq (counted : d.data.extent < wordLimit) (counted' : d.regionSize < wordLimit)
    (pos : 0 < quantumAlign) : d.checkOnWords quantumAlign = untrapped (d.check quantumAlign) := by
  unfold checkOnWords check
  rw [checkShapeOnWords_eq counted, Layout.checkOnWords_eq counted' pos]
  cases d.checkShape with
  | error fault => rfl
  | ok _ => cases d.layout.check d.flavor d.regionSize quantumAlign <;> rfl

end Descriptor

/-! ## What comes of a validation -/

/-- What comes of validating a layout. -/
structure Layout.Judged (l : Layout) (flavor : Flavor) (regionSize quantumAlign : Nat) : Prop where
  /-- Done on words, the check comes to the verdict that is told. -/
  safe : ∃ verdict, l.checkOnWords flavor regionSize quantumAlign = untrapped verdict ∧
    l.validate flavor regionSize quantumAlign =
      verdict.mapError fun fault => .error (.invalidDescriptor (.layout fault))
  accepted : l.validate flavor regionSize quantumAlign = .ok () ↔
    l.WellFormed flavor regionSize quantumAlign
  refused : ¬ l.WellFormed flavor regionSize quantumAlign →
    ∃ fault, l.validate flavor regionSize quantumAlign = .error (.error (.invalidDescriptor fault))

/-- A descriptor as it should be: the region has a name, there is at least one
quantum, and the quanta fill the slots of a layout that is as it should be. -/
structure Descriptor.WellFormed (d : Descriptor) (quantumAlign : Nat) : Prop where
  named : d.name ≠ ""
  size_pos : 0 < d.quantumSize
  count_pos : 0 < d.quantumCount
  extent : d.quantumSize * d.quantumCount = d.data.extent
  layout : d.layout.WellFormed d.flavor d.regionSize quantumAlign

/-- What comes of validating a descriptor. -/
structure Descriptor.Judged (d : Descriptor) (quantumAlign : Nat) : Prop where
  safe : ∃ verdict, d.checkOnWords quantumAlign = untrapped verdict ∧
    d.validate quantumAlign = verdict.mapError fun fault => .error (.invalidDescriptor fault)
  accepted : d.validate quantumAlign = .ok () ↔ d.WellFormed quantumAlign
  refused : ¬ d.WellFormed quantumAlign →
    ∃ fault, d.validate quantumAlign = .error (.error (.invalidDescriptor fault))

theorem Descriptor.check_eq_ok_iff_wellFormed {d : Descriptor} {quantumAlign : Nat} :
    d.check quantumAlign = .ok () ↔ d.WellFormed quantumAlign := by
  rw [check_eq_ok_iff, checkShape_eq_ok_iff]
  constructor
  · rintro ⟨⟨named, size_pos, count_pos, extent⟩, layout⟩
    have slots : 0 < d.layout.data.extent := by
      rw [← Nat.ne_zero_iff_zero_lt] at *
      exact extent ▸ Nat.mul_ne_zero size_pos count_pos
    refine ⟨?_, size_pos, count_pos, extent, (Layout.check_eq_ok_iff_wellFormed slots).mp layout⟩
    intro empty
    rw [empty] at named
    exact absurd named (by decide)
  · rintro ⟨named, size_pos, count_pos, extent, layout⟩
    have slots : 0 < d.layout.data.extent := extent ▸ Nat.mul_pos size_pos count_pos
    refine ⟨⟨?_, size_pos, count_pos, extent⟩, (Layout.check_eq_ok_iff_wellFormed slots).mpr layout⟩
    rw [Bool.eq_false_iff, ne_eq, String.isEmpty_iff]
    exact named

/-- Validation accepts what is as it should be and tells what is wrong with
everything else, whatever numbers a peer has put in: no sum or product on the way
goes beyond a word unnoticed. -/
theorem validation_exact {quantumAlign : Nat} (pos : 0 < quantumAlign) :
    (∀ (l : Layout) (flavor : Flavor) {regionSize : Nat}, regionSize < wordLimit →
      0 < l.data.extent → l.Judged flavor regionSize quantumAlign) ∧
    ∀ d : Descriptor, d.regionSize < wordLimit → d.data.extent < wordLimit →
      d.Judged quantumAlign := by
  constructor
  · intro l flavor regionSize counted slots
    have validate : l.validate flavor regionSize quantumAlign =
        (l.check flavor regionSize quantumAlign).mapError fun fault =>
          .error (.invalidDescriptor (.layout fault)) := Layout.validate_eq pos
    refine ⟨⟨_, Layout.checkOnWords_eq counted pos, validate⟩, ?_, ?_⟩
    · rw [validate, mapError_eq_ok_iff]
      exact Layout.check_eq_ok_iff_wellFormed slots
    · intro ill
      rw [← Layout.check_eq_ok_iff_wellFormed slots] at ill
      rw [validate]
      cases checked : l.check flavor regionSize quantumAlign with
      | ok _ => exact absurd checked ill
      | error fault => exact ⟨.layout fault, rfl⟩
  · intro d counted slots
    have validate := Descriptor.validate_eq (d := d) pos
    refine ⟨⟨_, Descriptor.checkOnWords_eq slots counted pos, validate⟩, ?_, ?_⟩
    · rw [validate, mapError_eq_ok_iff]
      exact Descriptor.check_eq_ok_iff_wellFormed
    · intro ill
      rw [← Descriptor.check_eq_ok_iff_wellFormed] at ill
      rw [validate]
      cases checked : d.check quantumAlign with
      | ok _ => exact absurd checked ill
      | error fault => exact ⟨fault, rfl⟩

/-- A layout with its slots right below the end of what a word can count. -/
def Layout.brim (extent : Nat) : Layout where
  readCounter := some ⟨8, 8⟩
  writeCounter := ⟨0, 8⟩
  writeReserve := none
  eventFlag := some ⟨16, 4⟩
  data := ⟨wordLimit - 8, extent⟩
  size := wordLimit - 1

/-- Seven slots fit there. Sixteen would end at byte 8 if the sum were not looked
after, and then they would be well inside the region. -/
theorem validation_exact_brim :
    (Layout.brim 7).WellFormed .synchronized (wordLimit - 1) 8 ∧
      ¬ (Layout.brim 16).WellFormed .synchronized (wordLimit - 1) 8 ∧
      (Descriptor.ofLayout "brim" .synchronized 1 7 (Layout.brim 7)).WellFormed 8 := by
  obtain ⟨layouts, descriptors⟩ := validation_exact (by decide : 0 < 8)
  have counted : wordLimit - 1 < wordLimit := by decide
  have seven := layouts (Layout.brim 7) .synchronized counted (by decide)
  have sixteen := layouts (Layout.brim 16) .synchronized counted (by decide)
  have descriptor := descriptors (Descriptor.ofLayout "brim" .synchronized 1 7 (Layout.brim 7))
    counted (by decide)
  refine ⟨seven.accepted.mp rfl, ?_, descriptor.accepted.mp rfl⟩
  intro well
  have refused : (Layout.brim 16).check .synchronized (wordLimit - 1) 8 =
      .error (.outside .data ⟨wordLimit - 8, 16⟩ (wordLimit - 1)) := rfl
  have accepted := sixteen.accepted.mpr well
  rw [Layout.validate_eq (by decide), refused] at accepted
  cases accepted

end SharedQueue
