/-
SharedQueue.Proofs.Places — quanta one at a time, or all at once.

* `Runs.Splits` — the slots of the places of a transaction: there are as many as
  places, and run by run they come in the order of the places.
* `Queue.setAll`, `writeByPlaces`, `readByPlaces` — transactions place by place.
* `LastValues` — a sequence of settings after which each place holds its quantum
  of a batch, in whatever order, and however often it was set before.
* `Queue.PlaceByPlace`, `WholeByPlaces`, `places_agree` — both ways come to the
  same.

A place is turned into a slot by a look at the first run, and a batch is stored
as two blocks. What both are compared with is the position: the slot of a place
is the one of its position, and the place of a slot is found by counting around
the ring.
-/
import SharedQueue.Proofs.Contents
import SharedQueue.Proofs.Outcome

namespace SharedQueue

/-! ## Slots -/

/-- How a stretch of positions is split into runs. -/
structure Runs.Splits (capacity : Nat) (pos : UInt64) (count : Nat) : Prop where
  slot : ∀ {i}, i < count → (Runs.of capacity pos count).slot i = (pos.toNat + i) % capacity
  distinct : ∀ {i j}, i < count → j < count →
    (Runs.of capacity pos count).slot i = (Runs.of capacity pos count).slot j → i = j
  total : (Runs.of capacity pos count).first + (Runs.of capacity pos count).second = count
  inside : (Runs.of capacity pos count).start + (Runs.of capacity pos count).first ≤ capacity
  /-- Place by place, the slots are those of the first run and then those of the
  second one. -/
  runs : (List.range count).map (Runs.of capacity pos count).slot =
    List.range' (Runs.of capacity pos count).start (Runs.of capacity pos count).first ++
      List.range (Runs.of capacity pos count).second

theorem Runs.splits {capacity count : Nat} (pos : UInt64) (pos_capacity : 0 < capacity)
    (fits : count ≤ capacity) : Runs.Splits capacity pos count := by
  have total : (Runs.of capacity pos count).first + (Runs.of capacity pos count).second =
      count := by
    unfold Runs.of
    dsimp only
    omega
  refine ⟨Runs.slot_of pos fits, ?_, total, (Runs.of_le pos pos_capacity fits).1, ?_⟩
  · intro i j hi hj same
    rw [Runs.slot_of pos fits hi, Runs.slot_of pos fits hj] at same
    rcases Nat.lt_trichotomy i j with before | same' | after
    · exact absurd same (mod_ne_of_near (by omega) (by omega))
    · exact same'
    · exact absurd same.symm (mod_ne_of_near (by omega) (by omega))
  · apply List.ext_getElem
    · simp [total]
    · intro i hi hi'
      simp only [List.getElem_map, List.getElem_range, List.getElem_append, List.length_range',
        List.getElem_range']
      unfold Runs.slot
      split <;> omega

/-! ## Place by place -/

/-- The settings leave in each place the quantum of the batch: the last one for
the place counts. -/
def LastValues {α : Type} (sets : List (Nat × α)) (data : List α) : Prop :=
  ∀ i, sets.reverse.lookup i = data[i]?

theorem LastValues.inside {α : Type} {sets : List (Nat × α)} {data : List α}
    (last : LastValues sets data) : ∀ set ∈ sets, set.1 < data.length := by
  intro set mem
  have told : (sets.reverse.lookup set.1).isSome = true :=
    List.lookup_isSome_iff.mpr ⟨set, List.mem_reverse.mpr mem, by simp⟩
  rw [last] at told
  simpa using told

namespace Queue

variable {t : ElementType} {q q' : Queue t} {m m' : Memory} {tx : Transaction}
  {data : List t.Value} {sets : List (Nat × t.Value)}

/-- Sets places, one after the other. -/
def setAll (q : Queue t) (m : Memory) (tx : Transaction) :
    List (Nat × t.Value) → Except Misuse Memory
  | [] => .ok m
  | (i, v) :: rest => do
    let m ← q.set m tx i v
    q.setAll m tx rest

/-- A write of `count` quanta whose places are set one after the other. -/
def writeByPlaces (q : Queue t) (m : Memory) (count : Nat) (sets : List (Nat × t.Value)) :
    Except Misuse (Except Error Unit × Memory) :=
  match q.beginWrite m count with
  | .error e => .ok (.error e, m)
  | .ok (tx, m) => do
    let m ← q.setAll m tx sets
    return (.ok (), q.commitWrite m tx)

/-- A read that looks at each place in turn. -/
def readByPlaces (q : Queue t) (m : Memory) (buffer : List t.Value) :
    Except Misuse (ReadOutcome t) :=
  match q.beginRead m buffer.length with
  | (.error e, q) => .ok ⟨.error e, buffer, q, m⟩
  | (.ok tx, q) => do
    let taken ← (List.range tx.count).mapM (q.get m tx)
    let (answer, q, m) := q.commitRead m tx
    return ⟨answer, taken, q, m⟩

theorem setAll_cons (q : Queue t) (m : Memory) (tx : Transaction) (i : Nat) (v : t.Value)
    (rest : List (Nat × t.Value)) :
    q.setAll m tx ((i, v) :: rest) = (q.set m tx i v).bind fun m => q.setAll m tx rest := rfl

/-- Settings of places that are there go through. -/
theorem setAll_of_inside (inside : ∀ set ∈ sets, set.1 < tx.count) :
    ∃ m', q.setAll m tx sets = .ok m' := by
  induction sets generalizing m with
  | nil => exact ⟨m, rfl⟩
  | cons set rest ih =>
    obtain ⟨i, v⟩ := set
    rw [List.forall_mem_cons] at inside
    rw [setAll_cons, Queue.set, if_pos inside.1]
    exact ih inside.2

/-- The settings that go through change the slots of the transaction. -/
theorem setAll_onlySlots (sound : q.Sound) (fits : tx.count ≤ q.capacity)
    (ok : q.setAll m tx sets = .ok m') :
    q.descriptor.OnlySlots (fun s => ∃ i < tx.count, (tx.pos.toNat + i) % q.capacity = s) m m' ∧
      q.descriptor.Only .data m m' := by
  induction sets generalizing m with
  | nil =>
    obtain rfl := Except.ok.inj ok
    exact ⟨.refl _ _ m, .refl _ _ m⟩
  | cons set rest ih =>
    obtain ⟨i, v⟩ := set
    rw [setAll_cons] at ok
    obtain ⟨m₁, stored, ok⟩ := bind_eq_ok_iff.mp ok
    obtain ⟨inside, rfl⟩ := set_eq_ok fits stored
    obtain ⟨later, later'⟩ := ih ok
    have small : (tx.pos.toNat + i) % q.capacity < q.capacity := Nat.mod_lt _ sound.capacity_pos
    exact ⟨(storeSlot_onlySlots sound m small v ⟨i, inside, rfl⟩).trans later,
      (storeSlot_only sound m small v).trans later'⟩

/-- A place has the slot that is as far around the ring. -/
theorem slot_eq_iff {capacity pos i s : Nat} (hi : i < capacity) (hs : s < capacity) :
    (pos + i) % capacity = s ↔ placeFrom capacity (pos % capacity) s = i := by
  constructor
  · rintro rfl
    exact placeFrom_mod pos hi
  · rintro rfl
    exact mod_placeFrom pos hs

/-- After all settings a slot holds the last quantum for its place. -/
theorem loadSlot_setAll (fits : tx.count ≤ q.capacity) (ok : q.setAll m tx sets = .ok m')
    {s : Nat} (hs : s < q.capacity) :
    q.loadSlot m' s =
      (sets.reverse.lookup (placeFrom q.capacity (tx.pos.toNat % q.capacity) s)).getD
        (q.loadSlot m s) := by
  induction sets generalizing m with
  | nil =>
    obtain rfl := Except.ok.inj ok
    rfl
  | cons set rest ih =>
    obtain ⟨i, v⟩ := set
    rw [setAll_cons] at ok
    obtain ⟨m₁, stored, ok⟩ := bind_eq_ok_iff.mp ok
    obtain ⟨inside, rfl⟩ := set_eq_ok fits stored
    -- this setting counts if no later one is for the same place
    rw [ih ok, loadSlot_storeSlot, List.reverse_cons, List.lookup_append]
    simp only [slot_eq_iff (Nat.lt_of_lt_of_le inside fits) hs]
    cases rest.reverse.lookup (placeFrom q.capacity (tx.pos.toNat % q.capacity) s) with
    | some _ => rfl
    | none =>
      by_cases here : placeFrom q.capacity (tx.pos.toNat % q.capacity) s = i
      · simp [here]
      · have other : (placeFrom q.capacity (tx.pos.toNat % q.capacity) s == i) = false := by
          simpa using here
        simp [List.lookup_cons, here, other]

/-! ## The same bytes -/

/-- Settings after which every place holds its quantum of the batch have made the
same of the memory as the batch at once. -/
theorem sameBytes_setAll (sound : q.Sound) (fits : tx.count ≤ q.capacity)
    (length : data.length = tx.count) (last : LastValues sets data)
    (ok : q.setAll m tx sets = .ok m') : m'.SameBytes (q.fill m tx.pos data) := by
  have fits' : data.length ≤ q.capacity := by omega
  apply sameBytes_of_slots sound (setAll_onlySlots sound fits ok).2 (fill_only sound m tx.pos fits')
  intro s hs
  rw [loadSlot_fill q m tx.pos fits' hs, loadSlot_setAll fits ok hs, last]

/-! ## Looking at each place -/

theorem mapM_eq_ok {α β ε : Type} {f : α → Except ε β} {g : α → β} {l : List α}
    (all : ∀ x ∈ l, f x = .ok (g x)) : l.mapM f = .ok (l.map g) := by
  induction l with
  | nil => rfl
  | cons x rest ih =>
    rw [List.forall_mem_cons] at all
    rw [List.mapM_cons, all.1, ih all.2]
    rfl

theorem mapM_get (q : Queue t) (m : Memory) (fits : tx.count ≤ q.capacity) :
    (List.range tx.count).mapM (q.get m tx) = .ok (q.take m tx.pos tx.count) := by
  rw [take_eq q m tx.pos fits]
  apply mapM_eq_ok
  intro i mem
  have inside : i < tx.count := List.mem_range.mp mem
  rw [get, if_pos inside, runs, Runs.slot_of tx.pos fits inside]
  rfl

/-! ## Both ways -/

/-- The steps of a transaction: place by place they do what is done at once. -/
structure PlaceByPlace (q : Queue t) (m : Memory) (tx : Transaction) : Prop where
  /-- The last quantum that was set for a place is the one in its slot. -/
  setsHold : ∀ {sets m'}, q.setAll m tx sets = .ok m' → ∀ i < tx.count,
    q.loadSlot m' ((tx.pos.toNat + i) % q.capacity) =
      (sets.reverse.lookup i).getD (q.loadSlot m ((tx.pos.toNat + i) % q.capacity))
  copyHolds : ∀ {data m'}, q.copyIn m tx data = .ok m' → ∀ (i : Nat) (hi : i < data.length),
    q.loadSlot m' ((tx.pos.toNat + i) % q.capacity) = data[i]
  fills : ∀ {data sets}, data.length = tx.count → LastValues sets data →
    ∃ m₁ m₂, q.setAll m tx sets = .ok m₁ ∧ q.copyIn m tx data = .ok m₂ ∧ m₁.SameBytes m₂
  setsKeep : ∀ {sets m'}, q.setAll m tx sets = .ok m' → q.descriptor.OnlySlots
    (fun s => ∃ i < tx.count, (tx.pos.toNat + i) % q.capacity = s) m m'
  copyKeeps : ∀ {data m'}, q.copyIn m tx data = .ok m' → q.descriptor.OnlySlots
    (fun s => ∃ i < tx.count, (tx.pos.toNat + i) % q.capacity = s) m m'
  looks : ∃ values, q.copyOut m tx tx.count = .ok values ∧
    (List.range tx.count).mapM (q.get m tx) = .ok values ∧
    values = (List.range tx.count).map fun i => q.loadSlot m ((tx.pos.toNat + i) % q.capacity)

/-- Whole transactions: place by place they do what a batch does. -/
structure WholeByPlaces (q : Queue t) (m : Memory) : Prop where
  write : ∀ {data sets}, data ≠ [] → LastValues sets data →
    ∃ m', q.writeByPlaces m data.length sets = .ok ((q.write m data).1, m') ∧
      m'.SameBytes (q.write m data).2
  read : ∀ {buffer}, buffer ≠ [] → q.readByPlaces m buffer = .ok (q.read m buffer)

theorem placeByPlace (sound : q.Sound) (m : Memory) (fits : tx.count ≤ q.capacity) :
    q.PlaceByPlace m tx := by
  have near {i : Nat} (hi : i < tx.count) :
      placeFrom q.capacity (tx.pos.toNat % q.capacity) ((tx.pos.toNat + i) % q.capacity) = i :=
    placeFrom_mod tx.pos.toNat (Nat.lt_of_lt_of_le hi fits)
  have small (p : Nat) : p % q.capacity < q.capacity := Nat.mod_lt p sound.capacity_pos
  refine ⟨?_, ?_, ?_, fun ok => (setAll_onlySlots sound fits ok).1, ?_, ?_⟩
  · intro sets m' ok i hi
    rw [loadSlot_setAll fits ok (small _), near hi]
  · intro data m' ok i hi
    obtain ⟨length, rfl⟩ := copyIn_eq_ok ok
    rw [loadSlot_fill q m tx.pos (length ▸ fits) (small _), near (length ▸ hi),
      List.getElem?_eq_getElem hi, Option.getD_some]
  · intro data sets length last
    have inside := last.inside
    rw [length] at inside
    obtain ⟨m₁, ok⟩ := setAll_of_inside (q := q) (m := m) inside
    exact ⟨m₁, q.fill m tx.pos data, ok, if_pos length, sameBytes_setAll sound fits length last ok⟩
  · intro data m' ok
    obtain ⟨length, rfl⟩ := copyIn_eq_ok ok
    rw [← length]
    apply fill_onlySlots sound m tx.pos (by omega)
    intro i hi
    exact ⟨i, hi, rfl⟩
  · refine ⟨q.take m tx.pos tx.count, if_pos rfl, mapM_get q m fits, ?_⟩
    exact take_eq q m tx.pos fits

theorem write_by_places (sound : q.Sound) (m : Memory) (some : data ≠ [])
    (last : LastValues sets data) :
    ∃ m', q.writeByPlaces m data.length sets = .ok ((q.write m data).1, m') ∧
      m'.SameBytes (q.write m data).2 := by
  cases begun : q.beginWrite m data.length with
  | error e =>
    rw [write_of_refused some begun]
    refine ⟨m, ?_, .refl m⟩
    rw [writeByPlaces, begun]
  | ok opened =>
    obtain ⟨tx, m₁⟩ := opened
    rw [write_of_begun some begun]
    obtain ⟨rfl, fits, -⟩ := beginWrite_eq_ok begun
    have inside : ∀ set ∈ sets, set.1 < (Transaction.mk (q.writePos m) data.length).count :=
      last.inside
    obtain ⟨m₂, ok⟩ := setAll_of_inside (q := q) (m := m₁) inside
    refine ⟨q.commitWrite m₂ ⟨q.writePos m, data.length⟩, ?_, ?_⟩
    · rw [writeByPlaces, begun]
      dsimp only
      rw [ok]
      rfl
    · exact sameBytes_commitWrite q (sameBytes_setAll sound fits rfl last ok) _

theorem read_by_places (q : Queue t) (m : Memory) {buffer : List t.Value} (some : buffer ≠ []) :
    q.readByPlaces m buffer = .ok (q.read m buffer) := by
  rcases begun : q.beginRead m buffer.length with ⟨answer, q'⟩
  unfold readByPlaces
  rw [begun]
  cases answer with
  | error e => rw [read_of_refused some begun]
  | ok tx =>
    rw [read_of_begun some begun]
    obtain ⟨rfl, rfl, fits, -⟩ := beginRead_eq_ok begun
    dsimp only
    rw [mapM_get q' m fits]
    rfl

end Queue

/-- One at a time or all at once: the quanta come to the same slots, and from
them. -/
theorem places_agree :
    (∀ {capacity count : Nat} (pos : UInt64), 0 < capacity → count ≤ capacity →
      Runs.Splits capacity pos count) ∧
    ∀ {t : ElementType} {q : Queue t}, q.Sound → ∀ m : Memory,
      (∀ {tx : Transaction}, tx.count ≤ q.capacity → q.PlaceByPlace m tx) ∧ q.WholeByPlaces m := by
  refine ⟨fun pos => Runs.splits pos, ?_⟩
  intro t q sound m
  refine ⟨Queue.placeByPlace sound m, Queue.write_by_places sound m, ?_⟩
  exact Queue.read_by_places q m

/-- A memory in which three quanta were written and read, so that the next ones go
around the end of the ring. -/
def turned : Memory := ((Memory.blank 132).store64 64 3).store64 0 3

/-- Three quanta, from the last one to the first one, which is set twice. -/
def backwards : List (Nat × ElementType.Value (.primitive .u8)) :=
  [(2, byteQuantum 9), (0, byteQuantum 1), (1, byteQuantum 8), (0, byteQuantum 7)]

theorem places_agree_turned :
    Runs.of 4 3 3 = ⟨3, 1, 2⟩ ∧ Runs.Splits 4 3 3 ∧
      (∃ m', (fourBytes .synchronized).setAll turned ⟨3, 3⟩ backwards = .ok m' ∧
        (fourBytes .synchronized).loadSlot m' 3 = byteQuantum 7) ∧
      (∃ m', (fourBytes .synchronized).writeByPlaces turned 3 backwards = .ok (.ok (), m') ∧
        m'.SameBytes ((fourBytes .synchronized).write turned ([7, 8, 9].map byteQuantum)).2) ∧
      (fourBytes .synchronized).readByPlaces turned [byteQuantum 0] =
        .ok ((fourBytes .synchronized).read turned [byteQuantum 0]) := by
  obtain ⟨splits, agree⟩ := places_agree
  obtain ⟨places, whole⟩ := agree (Queue.sound_of_create (create_fourBytes .synchronized)) turned
  have last : LastValues backwards ([7, 8, 9].map byteQuantum)
    | 0 | 1 | 2 => rfl
    | i + 3 => by simp [backwards, List.lookup_cons]
  have inside : (⟨3, 3⟩ : Transaction).count ≤ (fourBytes .synchronized).capacity := by decide
  obtain ⟨m', -, ok, -⟩ := (places inside).fills rfl last
  exact ⟨rfl, splits 3 (by decide) (by decide),
    ⟨m', ok, (places inside).setsHold ok 0 (by decide)⟩,
    whole.write (List.cons_ne_nil _ _) last, whole.read (List.cons_ne_nil _ _)⟩

end SharedQueue
