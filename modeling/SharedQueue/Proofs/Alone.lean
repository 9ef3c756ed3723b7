/-
SharedQueue.Proofs.Alone — one party while nobody else does anything.

* `alone` — what has become of the party after so many steps. A clock tells when
  each step is taken; sleeps end as late or as early as the clock says.
* `EndsAt` — the end that a party comes to; there is only one.
* `Ends` — the end that a party comes to without looking at the clock;
  `Ends.alone` says that it comes to it by every clock.
* `Circles` — a party that can only be ended by its deadline. `Circles.ends` says
  that it is, since it never walks far without looking at the clock, and that it
  leaves what it keeps.
* `Store.Same` — stores that no access can tell from each other. A party that
  circles makes the same accesses over and over, so this is what it keeps.
-/
import Mathlib.Order.Monotone.Basic
import SharedQueue.Proofs.Among
import SharedQueue.Proofs.Contents
import SharedQueue.Proofs.Locality
import SharedQueue.Proofs.Traffic

namespace SharedQueue

variable {σ ρ : Type}

/-! ## A run without others -/

/-- The store and the move that a party has come to after some steps. It begins
with the move `first`, and its `n`-th step is taken at the instant `clock n`. -/
def alone (step : Instant → Store → σ → Store × Move σ ρ) (clock : Nat → Instant) (s : Store)
    (first : Move σ ρ) : Nat → Store × Move σ ρ
  | 0 => (s, first)
  | n + 1 =>
    let (s, move) := alone step clock s first n
    match move.next? with
    | some state => step (clock n) s state
    | none => (s, move)

section Run

variable {step : Instant → Store → σ → Store × Move σ ρ} {clock : Nat → Instant} {s₀ s s' : Store}
  {first move : Move σ ρ} {state : σ} {result : ρ} {n : Nat}

theorem alone_succ (here : alone step clock s₀ first n = (s, move))
    (next : move.next? = some state) :
    alone step clock s₀ first (n + 1) = step (clock n) s state := by
  rw [alone, here]
  dsimp only
  rw [next]

/-- Whoever has finished stays finished. -/
theorem alone_finished (here : alone step clock s₀ first n = (s, .finish result)) (k : Nat) :
    alone step clock s₀ first (n + k) = (s, .finish result) := by
  induction k with
  | zero => exact here
  | succ k ih =>
    rw [Nat.add_succ, alone, ih]
    rfl

/-- The party comes to an end. -/
def EndsAt (step : Instant → Store → σ → Store × Move σ ρ) (clock : Nat → Instant) (s₀ : Store)
    (first : Move σ ρ) (result : ρ) (s : Store) : Prop :=
  ∃ n, alone step clock s₀ first n = (s, .finish result)

/-- There is only one end. -/
theorem EndsAt.unique {result' : ρ} (ends : EndsAt step clock s₀ first result s)
    (ends' : EndsAt step clock s₀ first result' s') : result' = result ∧ s' = s := by
  obtain ⟨n, here⟩ := ends
  obtain ⟨n', there⟩ := ends'
  have later := alone_finished here n'
  rw [Nat.add_comm, alone_finished there n] at later
  obtain ⟨store, moves⟩ := Prod.mk.inj later
  exact ⟨Move.finish.inj moves, store⟩

theorem EndsAt.existsUnique (ends : EndsAt step clock s₀ first result s) :
    ∃! last : ρ × Store, EndsAt step clock s₀ first last.1 last.2 := by
  refine ⟨(result, s), ends, fun last ends' => ?_⟩
  obtain ⟨answer, store⟩ := ends.unique ends'
  exact Prod.ext answer store

/-- From this state the party comes to an end, and time does not matter. -/
inductive Ends (step : Instant → Store → σ → Store × Move σ ρ) (result : ρ) (s' : Store) :
    Store → σ → Prop
  | last {s : Store} {state : σ} (last : ∀ now, step now s state = (s', .finish result)) :
    Ends step result s' s state
  | on {s s₁ : Store} {state next : σ} {move : Move σ ρ}
    (here : ∀ now, step now s state = (s₁, move)) (goes : move.next? = some next)
    (rest : Ends step result s' s₁ next) : Ends step result s' s state

theorem Ends.go {next : σ} (here : ∀ now, step now s state = (s', .go next)) {s'' : Store}
    (rest : Ends step result s'' s' next) : Ends step result s'' s state :=
  .on here rfl rest

theorem Ends.signal {next : σ} {w : FlagWord} {mask : UInt32}
    (here : ∀ now, step now s state = (s', .signal w mask next)) {s'' : Store}
    (rest : Ends step result s'' s' next) : Ends step result s'' s state :=
  .on here rfl rest

theorem Ends.alone (ends : Ends step result s' s state)
    (here : alone step clock s₀ first n = (s, move)) (next : move.next? = some state) :
    EndsAt step clock s₀ first result s' := by
  induction ends generalizing n move with
  | last last => exact ⟨n + 1, (alone_succ here next).trans (last _)⟩
  | on step goes rest ih => exact ih ((alone_succ here next).trans (step _)) goes

/-! ## Circles -/

theorem Deadline.expired_mono {d : Deadline} {now now' : Instant} (expired : d.expired now = true)
    (later : now ≤ now') : d.expired now' = true := by
  cases d with
  | none => cases expired
  | some wake =>
    unfold Deadline.expired at *
    rw [decide_eq_true_eq] at *
    exact Nat.le_trans expired later

/-- The steps keep something of store and state, they lower the rank until it is
zero, and then the party looks at the clock. -/
structure Circles (step : Instant → Store → σ → Store × Move σ ρ) (deadline : Deadline) (result : ρ)
    (Keeps : Store → σ → Prop) (rank : σ → Nat) : Prop where
  on : ∀ {s state} now, Keeps s state → rank state ≠ 0 → ∃ s' move next,
    step now s state = (s', move) ∧ move.next? = some next ∧ Keeps s' next ∧
      rank next < rank state
  ends : ∀ {s state} now, Keeps s state → rank state = 0 → deadline.expired now = true →
    step now s state = (s, .finish result)
  again : ∀ {s state} now, Keeps s state → rank state = 0 → deadline.expired now = false →
    ∃ move next, step now s state = (s, move) ∧ move.next? = some next ∧ Keeps s next

namespace Circles

variable {deadline : Deadline} {Keeps : Store → σ → Prop} {rank : σ → Nat}

/-- As long as it has not ended the party goes on circling. -/
theorem goes_on (circles : Circles step deadline result Keeps rank)
    (here : alone step clock s₀ first n = (s, move)) (next : move.next? = some state)
    (keeps : Keeps s state) (k : Nat) :
    (∃ s' state', Keeps s' state' ∧ EndsAt step clock s₀ first result s') ∨
      ∃ s' move' state', alone step clock s₀ first (n + k) = (s', move') ∧
        move'.next? = some state' ∧ Keeps s' state' := by
  induction k with
  | zero => exact .inr ⟨s, move, state, here, next, keeps⟩
  | succ k ih =>
    rcases ih with ended | ⟨s', move', state', there, next', keeps'⟩
    · exact .inl ended
    have onward := alone_succ there next'
    by_cases far : rank state' = 0
    · cases expired : deadline.expired (clock (n + k)) with
      | true =>
        exact .inl ⟨s', state', keeps', n + k + 1,
          onward.trans (circles.ends _ keeps' far expired)⟩
      | false =>
        obtain ⟨move, next, taken, goes, keeps⟩ := circles.again _ keeps' far expired
        exact .inr ⟨s', move, next, onward.trans taken, goes, keeps⟩
    · obtain ⟨s'', move, next, taken, goes, keeps, -⟩ := circles.on (clock (n + k)) keeps' far
      exact .inr ⟨s'', move, next, onward.trans taken, goes, keeps⟩

/-- Once the deadline has passed the next look at the clock is the last one. -/
theorem ends_late (circles : Circles step deadline result Keeps rank) (monotone : Monotone clock)
    (here : alone step clock s₀ first n = (s, move)) (next : move.next? = some state)
    (keeps : Keeps s state) (late : deadline.expired (clock n) = true) :
    ∃ s' state', Keeps s' state' ∧ EndsAt step clock s₀ first result s' := by
  induction left : rank state using Nat.strongRecOn generalizing n s move state with
  | ind r ih =>
    have onward := alone_succ here next
    by_cases far : rank state = 0
    · exact ⟨s, state, keeps, n + 1, onward.trans (circles.ends _ keeps far late)⟩
    · obtain ⟨s', move', state', taken, goes, keeps', less⟩ := circles.on (clock n) keeps far
      exact ih _ (left ▸ less) (onward.trans taken) goes keeps'
        (Deadline.expired_mono late (monotone (Nat.le_succ n))) rfl

theorem ends_at (circles : Circles step deadline result Keeps rank) (monotone : Monotone clock)
    {last : Nat} (reached : deadline.expired (clock last) = true)
    (here : alone step clock s₀ first n = (s, move)) (next : move.next? = some state)
    (keeps : Keeps s state) :
    ∃ s' state', Keeps s' state' ∧ EndsAt step clock s₀ first result s' := by
  rcases circles.goes_on here next keeps last with ended | ⟨s', move', state', there, goes, keeps'⟩
  · exact ended
  · exact circles.ends_late monotone there goes keeps'
      (Deadline.expired_mono reached (monotone (Nat.le_add_left last n)))

end Circles

end Run

/-! ## Stores that are the same -/

/-- The stores have the same names, and the same bytes in their memories. -/
structure Store.Same (s s' : Store) : Prop where
  names_eq : s'.names = s.names
  madeUp_eq : s'.madeUp = s.madeUp
  size_eq : s'.memories.size = s.memories.size
  memory : ∀ id, (s.memory id).SameBytes (s'.memory id)

namespace Memory.SameBytes

variable {m m' m'' : Memory}

theorem trans (first : m.SameBytes m') (second : m'.SameBytes m'') : m.SameBytes m'' :=
  ⟨second.size_eq.trans first.size_eq, fun a => (second.byte_eq a).trans (first.byte_eq a)⟩

/-- No handle can tell the memories apart. -/
theorem agree (same : m.SameBytes m') (d : Descriptor) : d.AgreeUpTo 0 m m' :=
  ⟨fun _ _ _ => same.byte_eq _, fun _ => by simp⟩

theorem clear (same : m.SameBytes m') (offset : Nat) (mask : UInt32) :
    (EventFlag.clear m offset mask).SameBytes (EventFlag.clear m' offset mask) := by
  unfold EventFlag.clear EventFlag.bits
  rw [same.load32_eq]
  exact same.setBytes ..

/-- Clearing bits that are clear changes nothing. -/
theorem clear_clear (m : Memory) (offset : Nat) (mask : UInt32) :
    (EventFlag.clear m offset mask).SameBytes
      (EventFlag.clear (EventFlag.clear m offset mask) offset mask) := by
  have word : EventFlag.bits m offset &&& ~~~mask &&& ~~~mask =
      EventFlag.bits m offset &&& ~~~mask := by
    rw [UInt32.and_assoc, UInt32.and_self]
  have twice : EventFlag.clear (EventFlag.clear m offset mask) offset mask =
      (EventFlag.clear m offset mask).store32 offset (EventFlag.bits m offset &&& ~~~mask) := by
    rw [EventFlag.clear, EventFlag.bits_clear, word]
  rw [twice]
  refine ⟨by simp [EventFlag.clear, Memory.store32, Memory.storeNat], ?_⟩
  intro a
  unfold EventFlag.clear Memory.store32 Memory.storeNat
  rw [Memory.byte_setBytes (m.setBytes ..), Memory.byte_setBytes m]
  split
  · cases (Bytes.ofNat 4 (EventFlag.bits m offset &&& ~~~mask).toNat)[a - offset]? <;> rfl
  · rfl

end Memory.SameBytes

namespace Store.Same

variable {s s' s'' : Store}

theorem refl (s : Store) : s.Same s := ⟨rfl, rfl, rfl, fun _ => .refl _⟩

theorem trans (first : s.Same s') (second : s'.Same s'') : s.Same s'' :=
  ⟨second.names_eq.trans first.names_eq, second.madeUp_eq.trans first.madeUp_eq,
    second.size_eq.trans first.size_eq, fun id => (first.memory id).trans (second.memory id)⟩

/-- The same change to a memory of both. -/
theorem update (same : s.Same s') {id : MemoryId} {f f' : Memory → Memory}
    (changed : (f (s.memory id)).SameBytes (f' (s'.memory id))) :
    (s.update id f).Same (s'.update id f') := by
  refine ⟨same.names_eq, same.madeUp_eq, ?_, ?_⟩
  · rw [Store.size_update, Store.size_update, same.size_eq]
  · intro other
    unfold Store.update
    by_cases one : other = id
    · subst one
      by_cases mapped : other < s.memories.size
      · rw [Store.memory_setMemory mapped, Store.memory_setMemory (same.size_eq ▸ mapped)]
        exact changed
      · have outside : ¬ other < s'.memories.size := same.size_eq ▸ mapped
        unfold Store.memory Store.setMemory
        rw [Array.setIfInBounds_eq_of_size_le (Nat.le_of_not_lt mapped),
          Array.setIfInBounds_eq_of_size_le (Nat.le_of_not_lt outside)]
        exact same.memory other
    · rw [Store.memory_setMemory_ne one, Store.memory_setMemory_ne one]
      exact same.memory other

theorem clearWord (same : s.Same s') (w : FlagWord) (mask : UInt32) :
    (s.clearWord w mask).Same (s'.clearWord w mask) :=
  same.update ((same.memory w.memory).clear ..)

end Store.Same

theorem Store.update_update {s : Store} {id : MemoryId} (mapped : id < s.memories.size)
    (f g : Memory → Memory) : (s.update id f).update id g = s.update id fun m => g (f m) := by
  unfold Store.update
  rw [Store.memory_setMemory mapped, Store.setMemory_setMemory]

/-- A memory that is not there cannot be changed. -/
theorem Store.update_of_unmapped {s : Store} {id : MemoryId} (absent : s.memories.size ≤ id)
    (f : Memory → Memory) : s.update id f = s := by
  unfold Store.update Store.setMemory
  rw [Array.setIfInBounds_eq_of_size_le absent]

/-- Clearing bits of a word once more changes nothing. -/
theorem Store.clearWord_clearWord (s : Store) (w : FlagWord) (mask : UInt32) :
    (s.clearWord w mask).Same ((s.clearWord w mask).clearWord w mask) := by
  unfold Store.clearWord
  by_cases mapped : w.memory < s.memories.size
  · rw [Store.update_update mapped]
    exact (Store.Same.refl s).update (.clear_clear ..)
  · rw [Store.update_of_unmapped (Nat.le_of_not_lt mapped),
      Store.update_of_unmapped (Nat.le_of_not_lt mapped)]
    exact .refl s

end SharedQueue
