/-
SharedQueue.Proofs.Among — one party among others who may do anything.

* `Among` — a run of one party. Between any two of its steps the others change
  the store in any way that is granted to them, and a sleep ends at any time,
  for whatever reason. The run keeps a log of what the party's own steps did to
  a memory.
* `Among.stands` — what holds at the beginning and is kept by the party's own
  steps holds throughout, if it speaks only of the log and of where the party
  stands: then it does not matter what the others do.
* `Linked`, `Among.linked` — if the others leave something as it is, then the
  steps of the log lead from its value at the beginning to its value at the end.
-/
import SharedQueue.Proofs.Joining
import SharedQueue.Schedule

namespace SharedQueue

variable {σ ρ α : Type}

/-- What a party goes on with, at once or when its sleep ends. -/
def Move.next? : Move σ ρ → Option σ
  | .go next => some next
  | .signal _ _ next => some next
  | .park _ _ _ next => some next
  | .pause _ next => some next
  | .finish _ => none

/-- What single steps did to a memory: how each found it and left it. -/
abbrev Log := List (Memory × Memory)

/-- A run of the party that takes the given steps and has begun with the move
`first`: the log of its steps, and the store and the move that it has come to. -/
inductive Among (look : Store → Memory) (others : Store → Store → Prop)
    (step : Instant → Store → σ → Store × Move σ ρ) (s₀ : Store) (first : Move σ ρ) :
    Log → Store → Move σ ρ → Prop
  | start : Among look others step s₀ first [] s₀ first
  | others {log : Log} {s s' : Store} {move : Move σ ρ}
    (before : Among look others step s₀ first log s move) (change : others s s') :
    Among look others step s₀ first log s' move
  | own {log : Log} {s : Store} {move : Move σ ρ} {state : σ}
    (before : Among look others step s₀ first log s move) (next : move.next? = some state)
    (now : Instant) :
    Among look others step s₀ first (log ++ [(look s, look (step now s state).1)])
      (step now s state).1 (step now s state).2

namespace Among

variable {look : Store → Memory} {others : Store → Store → Prop}
  {step : Instant → Store → σ → Store × Move σ ρ} {s₀ s : Store} {first move : Move σ ρ} {log : Log}

/-- Whoever has finished stays finished. -/
theorem of_finish {result : ρ} (among : Among look others step s₀ (.finish result) log s move) :
    log = [] ∧ move = .finish result := by
  induction among with
  | start => exact ⟨rfl, rfl⟩
  | others before change ih => exact ih
  | own before next now ih =>
    obtain ⟨-, rfl⟩ := ih
    cases next

theorem finished {result result' : ρ}
    (among : Among look others step s₀ (.finish result) log s (.finish result')) :
    log = [] ∧ result' = result := by
  obtain ⟨empty, same⟩ := among.of_finish
  exact ⟨empty, Move.finish.inj same⟩

/-- Memories are only ever added. -/
theorem mapped {id : MemoryId} (grows : ∀ s s', others s s' → s.memories.size ≤ s'.memories.size)
    (keeps : ∀ now s state, (step now s state).1.memories.size = s.memories.size)
    (among : Among look others step s₀ first log s move) (there : id < s₀.memories.size) :
    id < s.memories.size := by
  induction among with
  | start => exact there
  | others before change ih => exact Nat.lt_of_lt_of_le ih (grows _ _ change)
  | own before next now ih => simpa [keeps] using ih

theorem stands {Stands : Log → Move σ ρ → Prop} {id : MemoryId}
    (grows : ∀ s s', others s s' → s.memories.size ≤ s'.memories.size)
    (keeps : ∀ now s state, (step now s state).1.memories.size = s.memories.size)
    (there : id < s₀.memories.size) (begun : Stands [] first)
    (onward : ∀ {log s move state} now, id < s.memories.size → Stands log move →
      move.next? = some state →
      Stands (log ++ [(look s, look (step now s state).1)]) (step now s state).2)
    (among : Among look others step s₀ first log s move) : Stands log move := by
  induction among with
  | start => exact begun
  | others before change ih => exact ih
  | own before next now ih => exact onward now (before.mapped grows keeps there) ih next

end Among

/-! ## What the steps lead to -/

/-- The steps of the log lead from one value to another, if nothing happens to
it between them. -/
def Linked (value : Memory → α) : α → Log → α → Prop
  | a, [], b => a = b
  | a, (m, m') :: rest, b => a = value m ∧ Linked value (value m') rest b

namespace Linked

variable {value : Memory → α} {a b : α} {log log' : Log} {m m' : Memory}

theorem append (left : Linked value a log b) {c : α} (right : Linked value b log' c) :
    Linked value a (log ++ log') c := by
  induction log generalizing a with
  | nil =>
    cases left
    exact right
  | cons entry rest ih => exact ⟨left.1, ih left.2⟩

theorem exists_of_append (linked : Linked value a (log ++ log') b) :
    ∃ c, Linked value a log c ∧ Linked value c log' b := by
  induction log generalizing a with
  | nil => exact ⟨a, rfl, linked⟩
  | cons entry rest ih =>
    obtain ⟨c, left, right⟩ := ih linked.2
    exact ⟨c, ⟨linked.1, left⟩, right⟩

/-- Steps that leave the value as it is lead nowhere else. -/
theorem eq_of_still (still : ∀ entry ∈ log, value entry.2 = value entry.1)
    (linked : Linked value a log b) : a = b := by
  induction log generalizing a with
  | nil => exact linked
  | cons entry rest ih =>
    obtain ⟨here, later⟩ := linked
    rw [here, ← still entry (by simp)]
    exact ih (fun e mem => still e (by simp [mem])) later

end Linked

theorem Among.linked {look : Store → Memory} {others : Store → Store → Prop}
    {step : Instant → Store → σ → Store × Move σ ρ} {s₀ s : Store} {first move : Move σ ρ}
    {log : Log} (value : Memory → α)
    (keep : ∀ s s', others s s' → value (look s') = value (look s))
    (among : Among look others step s₀ first log s move) :
    Linked value (value (look s₀)) log (value (look s)) := by
  induction among with
  | start => exact rfl
  | others before change ih => rwa [keep _ _ change]
  | own before next now ih => exact ih.append ⟨rfl, rfl⟩

end SharedQueue
