/-
SharedQueue.Proofs.Counters — the counters of a synchronized queue stay within
a ring of each other.

* `Traffic.After` — what comes of a state by any number of steps.
* `Ledger.Grows`, `grows_of_after` — what was published or consumed stays so.
  The counters count it (`consumed_prefix` rests on the same fact), so they
  never go back.
* `covers_of_reachable` — every handle maps the whole region.
* `counters_seen` — what the handles make of the counters: their subtractions
  neither wrap nor saturate.
* `counters_apart` — the invariant as a whole.

How many quanta a write may place is checked when it is opened, and the
counter moves when it is committed. In between, the other counter can only
have moved away; that the bound survives is part of `fifo_kept`.
-/
import Mathlib.Logic.Relation
import SharedQueue.Proofs.Fifo

namespace SharedQueue

/-! ## What was done stays done -/

/-- More may have been published and consumed since. -/
structure Ledger.Grows {t : ElementType} (l l' : Ledger t) : Prop where
  published : l.published <+: l'.published
  consumed : l.consumed <+: l'.consumed

namespace Ledger

variable {t : ElementType} {l l' l'' : Ledger t}

theorem Grows.refl (l : Ledger t) : l.Grows l := ⟨List.prefix_refl _, List.prefix_refl _⟩

theorem Grows.trans (first : l.Grows l') (second : l'.Grows l'') : l.Grows l'' :=
  ⟨first.published.trans second.published, first.consumed.trans second.consumed⟩

theorem grows_record (l : Ledger t) (x : Member t) (m : Memory) (r : Client.Request t)
    (reply : Client.Reply t) : l.Grows (l.record x m r reply) := by
  unfold record
  split <;> constructor <;> simp

end Ledger

namespace Traffic

variable {t : ElementType} {home : Queue t} {w w' : Traffic t}

/-- What comes of a state by any number of steps. -/
def After (home : Queue t) : Traffic t → Traffic t → Prop := Relation.ReflTransGen (Step home)

theorem reachable_of_after (reach : Reachable home w) (after : After home w w') :
    Reachable home w' := by
  induction after with
  | refl => exact reach
  | tail _ step ih => exact ih.next step

theorem Step.grows (step : Step home w w') : w.ledger.Grows w'.ledger := by
  cases step with
  | attach k q free ok => exact .refl _
  | drop k x here idle => exact .refl _
  | serve k x r here admits => exact Ledger.grows_record ..

theorem grows_of_after (after : After home w w') : w.ledger.Grows w'.ledger := by
  induction after with
  | refl => exact .refl _
  | tail _ step ih => exact ih.trans step.grows

/-- A handle maps all that its descriptor speaks of. -/
theorem covers_of_reachable (reach : Reachable home w) {k : Nat} {x : Member t}
    (here : w.members k = some x) :
    x.client.queue.descriptor.regionSize ≤ x.client.queue.region.size := by
  induction reach generalizing k x with
  | start ok =>
    obtain ⟨-, rfl⟩ := member_begin here
    obtain ⟨layout, -, made, descriptor, -⟩ := Queue.create_eq_ok ok
    obtain ⟨-, size, -⟩ := Store.create_eq_ok made
    show home.descriptor.regionSize ≤ home.region.size
    rw [descriptor, size]
    exact Nat.le_refl _
  | @next w w' _ step ih =>
    cases step with
    | attach j q free ok =>
      rcases member_update here with ⟨-, new⟩ | ⟨-, before⟩
      · obtain ⟨-, -, -, -, room, descriptor, -⟩ := Queue.attach_eq_ok ok
        obtain rfl := Option.some.inj new
        show q.descriptor.regionSize ≤ q.region.size
        rw [descriptor]
        exact room
      · exact ih before
    | drop j y there idle => exact ih (member_leave here).2
    | serve j y r there admits =>
      rcases member_serve here with ⟨-, client⟩ | ⟨-, before⟩
      · have continues := Client.step_continues y.client (w.memory home) r
        rw [client, continues.descriptor_eq, continues.region_eq]
        exact ih there
      · exact ih before

end Traffic

/-! ## What a handle computes from the counters -/

namespace Queue

variable {t : ElementType} {q : Queue t} {m : Memory}

section Synchronized

variable (sound : q.Sound) (flavor : q.flavor = .synchronized)
  (behind : (q.view m).read ≤ (q.view m).written)

include sound flavor behind

theorem availableToRead_eq : q.availableToRead m = (q.view m).written - (q.view m).read := by
  rw [availableToRead, Flavor.availableToRead, sound.readPos_eq flavor]
  exact distance_of_le behind

theorem availableToWrite_eq :
    q.availableToWrite m = q.capacity - ((q.view m).written - (q.view m).read) := by
  rw [← availableToRead_eq sound flavor behind]
  rfl

theorem isValid_eq_true (covers : q.descriptor.regionSize ≤ q.region.size)
    (room : (q.view m).written ≤ (q.view m).read + q.capacity) : q.isValid m = true := by
  have below : q.readPos m ≤ q.writePos m := by
    rw [UInt64.le_iff_toNat_le, sound.readPos_eq flavor]
    exact behind
  have near : (q.writePos m).toNat - (q.readPos m).toNat ≤ q.capacity := by
    rw [sound.readPos_eq flavor]
    exact Nat.sub_le_iff_le_add'.mpr room
  simp [isValid, covers, below, near]

end Synchronized

end Queue

namespace Traffic

variable {t : ElementType} {home : Queue t} {w w' : Traffic t}

section Synchronized

variable (reach : Reachable home w) (flavor : home.flavor = .synchronized)

include reach flavor

/-- The counters count what was published and what was consumed. -/
theorem counts_of_reachable :
    w.ledger.Balanced (w.view home) home.capacity ∧
      (home.readPos (w.memory home)).toNat = (w.view home).read ∧
      w.ledger.consumed.length = (w.view home).read := by
  have holds := holds_reachable fifo_kept reach flavor
  have balanced : w.ledger.Balanced (w.view home) home.capacity := holds.ledger
  refine ⟨balanced, congrArg UInt64.toNat (holds.regular.sound.readPos_eq flavor _), ?_⟩
  rw [balanced.consumed, List.length_take, balanced.published]
  exact Nat.min_eq_left balanced.read_le

theorem counters_onward (after : After home w w') :
    (home.readPos (w.memory home)).toNat ≤ (home.readPos (w'.memory home)).toNat ∧
      (home.writePos (w.memory home)).toNat ≤ (home.writePos (w'.memory home)).toNat := by
  obtain ⟨balanced, read, consumed⟩ := counts_of_reachable reach flavor
  obtain ⟨balanced', read', consumed'⟩ :=
    counts_of_reachable (reachable_of_after reach after) flavor
  have grows := grows_of_after after
  constructor
  · rw [read, read', ← consumed, ← consumed']
    exact grows.consumed.length_le
  · have longer := grows.published.length_le
    rw [balanced.published, balanced'.published] at longer
    exact longer

/-- A handle's own reading of the counters. -/
theorem counters_seen {k : Nat} {x : Member t} (here : w.members k = some x) :
    x.client.queue.isValid (w.memory home) = true ∧
      x.client.queue.availableToRead (w.memory home) = (w.view home).written - (w.view home).read ∧
      x.client.queue.availableToWrite (w.memory home)
        + x.client.queue.availableToRead (w.memory home) = home.capacity := by
  have regular := (holds_reachable fifo_kept reach flavor).regular
  have sound := (regular.ready here).sound
  have flavor' := (regular.flavor_eq here).trans flavor
  have view : x.client.queue.view (w.memory home) = w.view home := regular.view_desk here
  have capacity := regular.capacity_eq here
  obtain ⟨balanced, -, -⟩ := counts_of_reachable reach flavor
  have room := balanced.room
  have behind : (x.client.queue.view (w.memory home)).read
      ≤ (x.client.queue.view (w.memory home)).written := by
    rw [view]
    exact balanced.read_le
  have unread := Queue.availableToRead_eq sound flavor' behind
  have free := Queue.availableToWrite_eq sound flavor' behind
  rw [view] at unread free
  refine ⟨Queue.isValid_eq_true sound flavor' behind (covers_of_reachable reach here) ?_, unread,
    ?_⟩
  · rw [view, capacity]
    exact room
  · rw [free, unread, capacity]
    omega

end Synchronized

/-- In a synchronized queue the read counter is at most the write counter, and
at most the capacity behind it. Neither goes back. Every handle finds the
queue valid, and what it reports to be free and to be unread is the capacity
together. -/
theorem counters_apart (reach : Reachable home w) (flavor : home.flavor = .synchronized) :
    (home.readPos (w.memory home)).toNat ≤ (home.writePos (w.memory home)).toNat ∧
      (home.writePos (w.memory home)).toNat
        ≤ (home.readPos (w.memory home)).toNat + home.capacity ∧
      (∀ {w'}, After home w w' →
        (home.readPos (w.memory home)).toNat ≤ (home.readPos (w'.memory home)).toNat ∧
          (home.writePos (w.memory home)).toNat ≤ (home.writePos (w'.memory home)).toNat) ∧
      ∀ {k x}, w.members k = some x →
        x.client.queue.isValid (w.memory home) = true ∧
          x.client.queue.availableToRead (w.memory home)
            = (home.writePos (w.memory home)).toNat - (home.readPos (w.memory home)).toNat ∧
          x.client.queue.availableToWrite (w.memory home)
            + x.client.queue.availableToRead (w.memory home) = home.capacity := by
  obtain ⟨balanced, read, -⟩ := counts_of_reachable reach flavor
  rw [read]
  refine ⟨balanced.read_le, balanced.room, ?_, ?_⟩
  · intro w' after
    rw [← read]
    exact counters_onward reach flavor after
  · intro k x here
    exact counters_seen reach flavor here

theorem counters_apart_fourBytes :
    ∃ (w : Traffic (.primitive .u8)) (x : Member (.primitive .u8)),
      Reachable (fourBytes .synchronized) w ∧ w.members 0 = some x ∧
      x.client.queue.isValid (w.memory (fourBytes .synchronized)) = true ∧
      x.client.queue.availableToRead (w.memory (fourBytes .synchronized)) = 2 ∧
      x.client.queue.availableToWrite (w.memory (fourBytes .synchronized)) + 2 = 4 := by
  have reach := reachable_fourBytes .synchronized (by decide : [7, 8].length ≤ 4)
  obtain ⟨-, -, -, handles⟩ := counters_apart reach rfl
  obtain ⟨valid, unread, whole⟩ := handles (k := 0) rfl
  exact ⟨_, _, reach, rfl, valid, unread, whole⟩

end Traffic

end SharedQueue
