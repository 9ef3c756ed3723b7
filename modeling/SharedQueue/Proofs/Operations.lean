/-
SharedQueue.Proofs.Operations — the single operations, in terms of positions.

* `RingView` — what all handles on a queue see alike: the two shared counters,
  the reservation, and the quantum in the slot of each position.
* `view_publish`, `view_reserve`, `view_release`, `view_storeSlot`,
  `view_fill` — what an access does to the view; raising and clearing bits
  does nothing to it.
* `beginWrite_eq_ok`, `set_eq_ok`, `copyIn_eq_ok`, `beginRead_eq_ok`,
  `get_eq_ok`, `copyOut_eq_ok` — what has to be the case when an operation
  succeeds, and what it leaves.
* `view_beginWrite` — how far the reservation of an unsynchronized queue goes.
* `beginRead_eq_error`, `beginRead_eq_overflow`, `commitRead_synchronized`,
  `commitRead_unsynchronized`, `commitRead_eq_error` — where a read leaves the
  cursor.

Positions are words here and natural numbers in the view. As long as no
position reaches the end of the words the two count alike
(`distance_of_le`, `Transaction.toNat_stop`).
-/
import SharedQueue.Proofs.Ring

namespace SharedQueue

/-! ## Words as numbers -/

theorem toNat_max (a b : UInt64) : (max a b).toNat = max a.toNat b.toNat := by
  show (if a ≤ b then b else a).toNat = _
  by_cases le : a ≤ b
  · rw [if_pos le, Nat.max_eq_right (UInt64.le_iff_toNat_le.mp le)]
  · have ge : b.toNat ≤ a.toNat := by
      have lt : ¬ a.toNat ≤ b.toNat := fun below => le (UInt64.le_iff_toNat_le.mpr below)
      omega
    rw [if_neg le, Nat.max_eq_left ge]

theorem distance_of_le {ahead behind : UInt64} (le : behind.toNat ≤ ahead.toNat) :
    distance ahead behind = ahead.toNat - behind.toNat :=
  UInt64.toNat_sub_of_le ahead behind (UInt64.le_iff_toNat_le.mpr le)

theorem Transaction.toNat_stop {tx : Transaction} (fits : tx.pos.toNat + tx.count < wordLimit) :
    tx.stop.toNat = tx.pos.toNat + tx.count := by
  have small : tx.count < 2 ^ 64 := Nat.lt_of_le_of_lt (Nat.le_add_left _ _) fits
  unfold Transaction.stop
  rw [UInt64.toNat_add, UInt64.toNat_ofNat', Nat.mod_eq_of_lt small]
  exact Nat.mod_eq_of_lt fits

/-! ## The view -/

/-- What all handles on a queue see alike. -/
@[ext]
structure RingView (t : ElementType) where
  written : Nat
  read : Nat
  reserved : Nat
  /-- The quantum in the slot of a position. -/
  quantum : Nat → t.Value

namespace RingView

variable {t : ElementType}

/-- The quanta of `count` positions. -/
def stretch (v : RingView t) (p count : Nat) : List t.Value :=
  (List.range count).map fun i => v.quantum (p + i)

@[simp] theorem length_stretch (v : RingView t) (p count : Nat) :
    (v.stretch p count).length = count := by
  simp [stretch]

@[simp] theorem getElem_stretch (v : RingView t) (p count i : Nat)
    (hi : i < (v.stretch p count).length) : (v.stretch p count)[i] = v.quantum (p + i) := by
  simp [stretch]

/-- Setting the slot of one place sets that place of a stretch, and no other
one, if the stretch fits the ring. -/
theorem stretch_set (v : RingView t) {capacity p count place : Nat} (quantum : t.Value)
    (fits : count ≤ capacity) (inside : place < count) :
    (v.stretch p count).set place quantum =
      stretch { v with quantum := fun p' =>
        if (p + place) % capacity = p' % capacity then quantum else v.quantum p' } p count := by
  apply List.ext_getElem
  · simp
  · intro i hi hi'
    have small : i < count := by simpa using hi'
    rw [List.getElem_set, getElem_stretch, getElem_stretch]
    rcases Nat.lt_trichotomy place i with before | same | after
    · have other : (p + place) % capacity ≠ (p + i) % capacity :=
        mod_ne_of_near (by omega) (by omega)
      rw [if_neg (Nat.ne_of_lt before)]
      exact (if_neg other).symm
    · subst same
      rw [if_pos rfl]
      exact (if_pos rfl).symm
    · have other : (p + i) % capacity ≠ (p + place) % capacity :=
        mod_ne_of_near (by omega) (by omega)
      rw [if_neg (Nat.ne_of_gt after)]
      exact (if_neg other.symm).symm

end RingView

namespace Queue

variable {t : ElementType} {q q' : Queue t} {m m' : Memory} {tx : Transaction} {count : Nat}

/-- The shared read counter, if there is one. -/
def sharedRead (q : Queue t) (m : Memory) : UInt64 :=
  match q.descriptor.readCounter with
  | some g => m.load64 g.offset
  | none => 0

/-- What all handles on the queue see in its memory. -/
def view (q : Queue t) (m : Memory) : RingView t where
  written := (q.writePos m).toNat
  read := (q.sharedRead m).toNat
  reserved := (q.reservation m).toNat
  quantum := q.quantumAt m

theorem quanta_eq (q : Queue t) (m : Memory) (p count : Nat) :
    q.quanta m p count = (q.view m).stretch p count := rfl

theorem view_congr (same : q.descriptor = q'.descriptor) (m : Memory) : q.view m = q'.view m := by
  cases q
  cases q'
  cases same
  rfl

theorem Sound.readPos_eq (sound : q.Sound) (flavor : q.flavor = .synchronized) (m : Memory) :
    q.readPos m = q.sharedRead m := by
  have suits := sound.cursor
  unfold readPos sharedRead
  cases cursor : q.cursor with
  | shared offset =>
    rw [cursor] at suits
    obtain ⟨-, g, read, rfl⟩ := suits
    rw [read]
    rfl
  | own pos =>
    rw [cursor] at suits
    have flavor' : q.flavor = .unsynchronized := suits
    rw [flavor] at flavor'
    cases flavor'

theorem sharedRead_of_only {part : Part} (sound : q.Sound) (only : q.descriptor.Only part m m')
    (ne : part ≠ .readCounter) : q.sharedRead m' = q.sharedRead m := by
  unfold sharedRead
  cases read : q.descriptor.readCounter with
  | none => rfl
  | some g =>
    have place : q.descriptor.place? .readCounter = some ⟨g.offset, counterSize⟩ := by
      simp [Descriptor.place?, read]
    exact load64_of_only sound only ne.symm place

/-- What changes the flag word only changes nothing in view. -/
theorem view_of_only_eventFlag (sound : q.Sound) (only : q.descriptor.Only .eventFlag m m') :
    q.view m' = q.view m := by
  apply RingView.ext
  · exact congrArg UInt64.toNat (writePos_of_only sound only (by decide))
  · exact congrArg UInt64.toNat (sharedRead_of_only sound only (by decide))
  · exact congrArg UInt64.toNat (reservation_of_only sound only (by decide))
  · exact funext (quantumAt_of_only sound only (by decide))

/-- What changes slots only changes quanta only. -/
theorem view_of_only_data (sound : q.Sound) (only : q.descriptor.Only .data m m') :
    q.view m' = { q.view m with quantum := q.quantumAt m' } := by
  apply RingView.ext
  · exact congrArg UInt64.toNat (writePos_of_only sound only (by decide))
  · exact congrArg UInt64.toNat (sharedRead_of_only sound only (by decide))
  · exact congrArg UInt64.toNat (reservation_of_only sound only (by decide))
  · rfl

/-! ## What an access does to the view -/

theorem view_notify (sound : q.Sound) (m : Memory) (mask : UInt32) :
    q.view (q.notify m mask) = q.view m :=
  view_of_only_eventFlag sound (notify_only q m mask)

theorem view_publish (sound : q.Sound) (m : Memory) (pos : UInt64) :
    q.view (q.publish m pos) = { q.view m with written := pos.toNat } := by
  have only := publish_only q m pos
  apply RingView.ext
  · exact congrArg UInt64.toNat (Memory.load64_store64 m _ pos)
  · exact congrArg UInt64.toNat (sharedRead_of_only sound only (by decide))
  · exact congrArg UInt64.toNat (reservation_of_only sound only (by decide))
  · exact funext (quantumAt_of_only sound only (by decide))

theorem view_reserve (sound : q.Sound) (flavor : q.flavor = .unsynchronized) (m : Memory)
    (stop : UInt64) :
    q.view (q.reserve m stop) =
      { q.view m with reserved := max (q.view m).reserved stop.toNat } := by
  have only := reserve_only q m stop
  apply RingView.ext
  · exact congrArg UInt64.toNat (writePos_of_only sound only (by decide))
  · exact congrArg UInt64.toNat (sharedRead_of_only sound only (by decide))
  · show (q.reservation _).toNat = max (q.reservation m).toNat stop.toNat
    have announced := sound.placed.writeReserve_isSome
    have flavor' : q.descriptor.flavor = .unsynchronized := flavor
    rw [flavor'] at announced
    obtain ⟨g, reserve⟩ := Option.isSome_iff_exists.mp announced
    simp only [reservation, Queue.reserve, reserve]
    rw [Memory.load64_store64, toNat_max]
  · exact funext (quantumAt_of_only sound only (by decide))

/-- Only the reservation of an unsynchronized queue is ever raised. -/
theorem reserve_of_synchronized (sound : q.Sound) (flavor : q.flavor = .synchronized) (m : Memory)
    (stop : UInt64) : q.reserve m stop = m := by
  have announced := sound.placed.writeReserve_isSome
  have flavor' : q.descriptor.flavor = .synchronized := flavor
  rw [flavor'] at announced
  have none := Option.not_isSome_iff_eq_none.mp (by rw [announced]; decide)
  simp only [reserve, none]

theorem release_of_own {own : UInt64} (cursor : q.cursor = .own own) (m : Memory) (pos : UInt64) :
    q.release m pos = ({ q with cursor := .own pos }, m) := by
  simp only [release, Cursor.store, cursor]

theorem release_of_shared {offset : Nat} (cursor : q.cursor = .shared offset) (m : Memory)
    (pos : UInt64) : (q.release m pos).1 = q := by
  cases q with
  | mk descriptor region own =>
    simp only at cursor
    subst cursor
    rfl

theorem Sound.cursor_shared (sound : q.Sound) (flavor : q.flavor = .synchronized) :
    ∃ g, q.descriptor.readCounter = some g ∧ q.cursor = .shared g.offset := by
  have suits := sound.cursor
  cases cursor : q.cursor with
  | shared offset =>
    rw [cursor] at suits
    obtain ⟨-, g, read, rfl⟩ := suits
    exact ⟨g, read, rfl⟩
  | own pos =>
    rw [cursor] at suits
    have flavor' : q.flavor = .unsynchronized := suits
    rw [flavor] at flavor'
    cases flavor'

theorem Sound.cursor_own (sound : q.Sound) (flavor : q.flavor = .unsynchronized) :
    ∃ pos, q.cursor = .own pos := by
  have suits := sound.cursor
  cases cursor : q.cursor with
  | shared offset =>
    rw [cursor] at suits
    obtain ⟨flavor', -⟩ := suits
    have clash := flavor.symm.trans flavor'
    cases clash
  | own pos => exact ⟨pos, rfl⟩

theorem view_release (sound : q.Sound) (flavor : q.flavor = .synchronized) (m : Memory)
    (pos : UInt64) :
    q.view (q.release m pos).2 = { q.view m with read := pos.toNat } := by
  have only := release_only sound m pos
  obtain ⟨g, read, cursor⟩ := sound.cursor_shared flavor
  apply RingView.ext
  · exact congrArg UInt64.toNat (writePos_of_only sound only (by decide))
  · show (q.sharedRead _).toNat = pos.toNat
    simp only [sharedRead, read, release, Cursor.store, cursor]
    rw [Memory.load64_store64]
  · exact congrArg UInt64.toNat (reservation_of_only sound only (by decide))
  · exact funext (quantumAt_of_only sound only (by decide))

/-! ## Writing -/

theorem checkWrite_eq_ok {flavor : Flavor} {capacity : Nat} {writePos readPos : UInt64}
    (ok : flavor.checkWrite capacity writePos readPos count = .ok ()) :
    count ≤ capacity ∧
      (flavor = .synchronized → count ≤ Flavor.availableToWrite capacity writePos readPos) := by
  unfold Flavor.checkWrite at ok
  obtain ⟨fits, ok⟩ := check_bind_eq_ok_iff.mp ok
  unfold Flavor.checkCapacity at fits
  split at fits
  · cases fits
  · rename_i small
    refine ⟨Nat.le_of_not_lt small, ?_⟩
    rintro rfl
    dsimp only at ok
    split at ok
    · cases ok
    · rename_i room
      exact Nat.le_of_not_lt room

/-- A write that is opened begins at the write position and fits the ring; the
slots are announced before any of them is touched. -/
theorem beginWrite_eq_ok (ok : q.beginWrite m count = .ok (tx, m')) :
    tx = ⟨q.writePos m, count⟩ ∧ count ≤ q.capacity ∧
      (q.flavor = .synchronized → count ≤ q.availableToWrite m) ∧
      m' = if count = 0 then m else q.reserve m tx.stop := by
  unfold beginWrite at ok
  obtain ⟨checked, ok⟩ := check_bind_eq_ok_iff.mp ok
  obtain ⟨fits, room⟩ := checkWrite_eq_ok checked
  obtain ⟨rfl, rfl⟩ := Prod.mk.inj (Except.ok.inj ok)
  exact ⟨rfl, fits, room, rfl⟩

/-- Writing never reports an overrun. -/
theorem beginWrite_ne_overflow {lag : Nat} {told : UInt64} :
    q.beginWrite m count ≠ .error (.overflow lag told) := by
  unfold beginWrite Flavor.checkWrite Flavor.checkCapacity
  cases q.flavor with
  | synchronized =>
    dsimp only
    split
    · simp [bind, Except.bind]
    · split <;> simp [bind, Except.bind, pure, Except.pure]
  | unsynchronized =>
    dsimp only
    split <;> simp [bind, Except.bind, pure, Except.pure]

/-- A write that is opened in an unsynchronized queue raises the reservation to
its end, if it is not there already. -/
theorem view_beginWrite (sound : q.Sound) (flavor : q.flavor = .unsynchronized)
    (announced : (q.view m).written ≤ (q.view m).reserved)
    (begun : q.beginWrite m count = .ok (tx, m')) (below : tx.pos.toNat + count < wordLimit) :
    q.view m' =
      { q.view m with reserved := max (q.view m).reserved ((q.view m).written + count) } := by
  obtain ⟨rfl, -, -, rfl⟩ := beginWrite_eq_ok begun
  by_cases none : count = 0
  · rw [if_pos none, none, Nat.add_zero, Nat.max_eq_left announced]
  · rw [if_neg none, view_reserve sound flavor, Transaction.toNat_stop below]
    rfl

theorem set_eq_ok {i : Nat} {v : t.Value} (fits : tx.count ≤ q.capacity)
    (ok : q.set m tx i v = .ok m') :
    i < tx.count ∧ m' = q.storeSlot m ((tx.pos.toNat + i) % q.capacity) v := by
  unfold set at ok
  split at ok
  · rename_i inside
    refine ⟨inside, ?_⟩
    rw [← Except.ok.inj ok, runs, Runs.slot_of tx.pos fits inside]
  · cases ok

theorem copyIn_eq_ok {data : List t.Value} (ok : q.copyIn m tx data = .ok m') :
    data.length = tx.count ∧ m' = q.fill m tx.pos data := by
  unfold copyIn at ok
  split at ok
  · rename_i same
    exact ⟨same, (Except.ok.inj ok).symm⟩
  · cases ok

/-- Filling slots changes slots only. -/
theorem fill_only (sound : q.Sound) (m : Memory) (pos : UInt64) {data : List t.Value}
    (fits : data.length ≤ q.capacity) : q.descriptor.Only .data m (q.fill m pos data) := by
  have small : pos.toNat % q.capacity < q.capacity := Nat.mod_lt _ sound.capacity_pos
  have first : q.descriptor.Only .data m (q.storeSlots m (pos.toNat % q.capacity)
      (data.take (min data.length (q.capacity - pos.toNat % q.capacity)))) := by
    apply storeSlots_only sound
    rw [List.length_take]
    omega
  refine first.trans (storeSlots_only sound _ ?_)
  simp only [runs, Runs.of, List.length_drop]
  omega

/-- One slot gets a new quantum; positions a ring apart share the slot. -/
theorem view_storeSlot (sound : q.Sound) (m : Memory) (p : Nat) (v : t.Value) :
    q.view (q.storeSlot m (p % q.capacity) v) =
      { q.view m with quantum := fun p' =>
          if p % q.capacity = p' % q.capacity then v else (q.view m).quantum p' } := by
  have only := storeSlot_only sound m (Nat.mod_lt p sound.capacity_pos) v
  rw [view_of_only_data sound only]
  have quanta := funext (quantumAt_storeSlot q m p · v)
  rw [quanta]
  rfl

theorem view_fill (sound : q.Sound) (m : Memory) (pos : UInt64) {data : List t.Value}
    (fits : data.length ≤ q.capacity) :
    q.view (q.fill m pos data) = { q.view m with quantum := q.quantumAt (q.fill m pos data) } :=
  view_of_only_data sound (fill_only sound m pos fits)

theorem stretch_fill (q : Queue t) (m : Memory) (pos : UInt64) {data : List t.Value}
    (fits : data.length ≤ q.capacity) :
    data = (q.view (q.fill m pos data)).stretch pos.toNat data.length := by
  apply List.ext_getElem
  · rw [RingView.length_stretch]
  · intro i hi hi'
    rw [RingView.getElem_stretch]
    exact (quantumAt_fill q m pos fits hi).symm

theorem view_commitWrite (sound : q.Sound) (m : Memory) (some : tx.count ≠ 0) :
    q.view (q.commitWrite m tx) = { q.view m with written := tx.stop.toNat } := by
  rw [commitWrite, if_neg some, view_notify sound, view_publish sound]

/-! ## Reading -/

theorem follow_readPos (q : Queue t) (m : Memory) : q.follow (q.readPos m) = q := by
  cases q with
  | mk descriptor region cursor => cases cursor <;> rfl

theorem follow_of_own {own : UInt64} (cursor : q.cursor = .own own) (pos : UInt64) :
    q.follow pos = { q with cursor := .own pos } := by
  unfold follow Cursor.follow
  rw [cursor]

/-- A read that is opened begins at the cursor and asks for published quanta
only; a private reader has not been overrun. -/
theorem beginRead_eq_ok (opened : q.beginRead m count = (.ok tx, q')) :
    q' = q ∧ tx = ⟨q.readPos m, count⟩ ∧ count ≤ q.capacity ∧ count ≤ q.availableToRead m ∧
      (q.flavor = .unsynchronized → q.availableToRead m ≤ q.capacity) := by
  unfold beginRead Flavor.checkRead at opened
  dsimp only at opened
  split at opened
  · cases (Prod.mk.inj opened).1
  · rename_i fits
    split at opened
    · cases (Prod.mk.inj opened).1
    · rename_i near
      split at opened
      · cases (Prod.mk.inj opened).1
      · rename_i enough
        obtain ⟨left, right⟩ := Prod.mk.inj opened
        refine ⟨right.symm.trans (follow_readPos q m), (Except.ok.inj left).symm,
          Nat.le_of_not_lt fits, Nat.le_of_not_lt enough, ?_⟩
        intro flavor
        exact Nat.le_of_not_lt fun far => near ⟨flavor, far⟩

/-- A read that is refused leaves the cursor where it was, unless it reports
an overrun: then a private cursor goes to the write position. -/
theorem beginRead_eq_error {e : Error} (refused : q.beginRead m count = (.error e, q')) :
    (q' = q ∧ ∀ lag pos, e ≠ .overflow lag pos) ∨
      (q.flavor = .unsynchronized ∧ q' = q.follow (q.writePos m) ∧
        ∃ lag, e = .overflow lag (q.writePos m)) := by
  unfold beginRead Flavor.checkRead at refused
  dsimp only at refused
  split at refused
  · obtain ⟨left, right⟩ := Prod.mk.inj refused
    refine .inl ⟨right.symm.trans (follow_readPos q m), ?_⟩
    intro lag pos overflow
    rw [← Except.error.inj left] at overflow
    cases overflow
  · split at refused
    · rename_i far
      obtain ⟨left, right⟩ := Prod.mk.inj refused
      exact .inr ⟨far.1, right.symm, _, (Except.error.inj left).symm⟩
    · split at refused
      · obtain ⟨left, right⟩ := Prod.mk.inj refused
        refine .inl ⟨right.symm.trans (follow_readPos q m), ?_⟩
        intro lag pos overflow
        rw [← Except.error.inj left] at overflow
        cases overflow
      · cases (Prod.mk.inj refused).1

/-- An overrun is reported when more than a ring of quanta is unread. -/
theorem beginRead_eq_overflow {lag : Nat} {told : UInt64}
    (refused : q.beginRead m count = (.error (.overflow lag told), q')) :
    q.flavor = .unsynchronized ∧ q.capacity < q.availableToRead m ∧
      q' = q.follow (q.writePos m) := by
  unfold beginRead Flavor.checkRead at refused
  dsimp only at refused
  split at refused
  · cases (Prod.mk.inj refused).1
  · split at refused
    · rename_i far
      exact ⟨far.1, far.2, (Prod.mk.inj refused).2.symm⟩
    · split at refused
      · cases (Prod.mk.inj refused).1
      · cases (Prod.mk.inj refused).1

theorem get_eq_ok {i : Nat} {v : t.Value} (fits : tx.count ≤ q.capacity)
    (ok : q.get m tx i = .ok v) : i < tx.count ∧ v = q.quantumAt m (tx.pos.toNat + i) := by
  unfold get at ok
  split at ok
  · rename_i inside
    refine ⟨inside, ?_⟩
    rw [← Except.ok.inj ok, runs, Runs.slot_of tx.pos fits inside]
    rfl
  · cases ok

theorem copyOut_eq_ok {length : Nat} {values : List t.Value} (fits : tx.count ≤ q.capacity)
    (ok : q.copyOut m tx length = .ok values) :
    length = tx.count ∧ values = q.quanta m tx.pos.toNat tx.count := by
  unfold copyOut at ok
  split at ok
  · rename_i same
    exact ⟨same, by rw [← Except.ok.inj ok, take_eq q m tx.pos fits]⟩
  · cases ok

/-- A synchronized read is never refused at its commit. -/
theorem commitRead_synchronized (sound : q.Sound) (flavor : q.flavor = .synchronized)
    (some : tx.count ≠ 0) :
    q.commitRead m tx = (.ok (), q, q.notify (q.release m tx.stop).2 notFull) := by
  obtain ⟨g, read, cursor⟩ := sound.cursor_shared flavor
  have same := release_of_shared cursor m tx.stop
  unfold commitRead
  rw [if_neg some, flavor]
  dsimp only [Flavor.checkCommit]
  rw [same]

/-- An unsynchronized read is refused at its commit if slots of it may have
been written since: the reservation is what tells. -/
theorem commitRead_unsynchronized (sound : q.Sound) (flavor : q.flavor = .unsynchronized)
    (some : tx.count ≠ 0) :
    q.commitRead m tx =
      if q.capacity < distance (max (q.reservation m) (q.writePos m)) tx.pos then
        (.error (.overflow (distance (max (q.reservation m) (q.writePos m)) tx.pos)
          (q.writePos m)), q.follow (q.writePos m), m)
      else (.ok (), q.follow tx.stop, q.notify m notFull) := by
  obtain ⟨own, cursor⟩ := sound.cursor_own flavor
  have announced := sound.placed.writeReserve_isSome
  have flavor' : q.descriptor.flavor = .unsynchronized := flavor
  rw [flavor'] at announced
  obtain ⟨g, reserve⟩ := Option.isSome_iff_exists.mp announced
  have reserved : max (q.reserved m (q.writePos m)) (q.writePos m)
      = max (q.reservation m) (q.writePos m) := by
    apply UInt64.toNat_inj.mp
    simp only [Queue.reserved, reservation, reserve, toNat_max]
    omega
  unfold commitRead
  rw [if_neg some, flavor]
  dsimp only [Flavor.checkCommit]
  rw [reserved]
  by_cases far : q.capacity < distance (max (q.reservation m) (q.writePos m)) tx.pos
  · rw [if_pos far, if_pos far]
    rfl
  · rw [if_neg far, if_neg far, release_of_own cursor, follow_of_own cursor tx.stop]
    rfl

/-- What a commit reports is an overrun, and leaves the cursor at the write
position. -/
theorem commitRead_eq_error (sound : q.Sound) (flavor : q.flavor = .unsynchronized) {e : Error}
    (refused : q.commitRead m tx = (.error e, q', m')) :
    q' = q.follow (q.writePos m) ∧ m' = m ∧ tx.count ≠ 0 ∧
      ∃ lag, e = .overflow lag (q.writePos m) := by
  by_cases none : tx.count = 0
  · rw [commitRead, if_pos none] at refused
    cases (Prod.mk.inj refused).1
  · rw [commitRead_unsynchronized sound flavor none] at refused
    split at refused
    · obtain ⟨overflow, rest⟩ := Prod.mk.inj refused
      obtain ⟨rfl, rfl⟩ := Prod.mk.inj rest
      exact ⟨rfl, rfl, none, _, (Except.error.inj overflow).symm⟩
    · cases (Prod.mk.inj refused).1

end Queue

end SharedQueue
