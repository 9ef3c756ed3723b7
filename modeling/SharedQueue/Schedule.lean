/-
SharedQueue.Schedule — several parties acting on one world.

A party is a program cut into atomic steps. A step changes the world and
says how the party goes on: at once, asleep on a flag word until it is
signalled or a time comes, pausing until a time, or finished. It can also
let other parties begin, and wait for them.

* `Move` — how a party goes on by itself; `Turn` — a move, or a fork.
* `Party` — where a party stands.
* `Deadline` — a time that ends a wait, or none. A timeout of zero, and one
  that no clock will ever reach, mean no deadline.
* `Scene.tick`, `Scene.run` — one fair schedule out of the many possible
  ones: a party runs until it sleeps, pauses or finishes, and then the next
  one has its turn. Every step takes a microsecond, and when nobody can run
  the clock goes on to the first time that someone waits for.

What holds for every schedule is a matter of the steps alone; the schedule
here only fixes one of the outcomes.
-/
import SharedQueue.EventFlag

namespace SharedQueue

/-! ## Time -/

/-- A point in time, in nanoseconds. -/
abbrev Instant := Nat

/-- A length of time, in nanoseconds. -/
abbrev Duration := Nat

def nanosPerMilli : Nat := 1000000
def nanosPerSecond : Nat := 1000000000

/-- A length of time in milliseconds. -/
def milliseconds (n : Nat) : Duration := n * nanosPerMilli

/-- The clock counts seconds in 63 bits. -/
def clockLimit : Instant := (1 <<< 63) * nanosPerSecond

/-- The time that ends a wait, if anything does. -/
abbrev Deadline := Option Instant

/-- The deadline of a call that starts now. -/
def Deadline.after (now : Instant) (timeout : Option Duration) : Deadline :=
  match timeout with
  | none => none
  | some d => if d = 0 ∨ clockLimit ≤ now + d then none else some (now + d)

/-- The deadline is not ahead any more. -/
def Deadline.expired (d : Deadline) (now : Instant) : Bool :=
  match d with
  | none => false
  | some t => t ≤ now

/-! ## Steps -/

/-- How a party goes on after a step. -/
inductive Move (σ ρ : Type)
  /-- At once. -/
  | go (next : σ)
  /-- At once, after waking those who sleep on the word for any bit of the
  mask. -/
  | signal (word : FlagWord) (mask : UInt32) (next : σ)
  /-- Asleep on the word, for the bits of the mask. -/
  | park (word : FlagWord) (mask : UInt32) (wake : Deadline) (next : σ)
  /-- Not before the given time. -/
  | pause (wake : Instant) (next : σ)
  | finish (result : ρ)

/-- A step of a part as a step of the whole: what the part goes on with is
put into its place, and when the part finishes the whole decides how to go
on. -/
def Move.within {ω σ τ ρ κ : Type} (world : ω) (move : Move σ ρ) (place : σ → τ)
    (done : ρ → ω × Move τ κ) : ω × Move τ κ :=
  match move with
  | .go next => (world, .go (place next))
  | .signal word mask next => (world, .signal word mask (place next))
  | .park word mask wake next => (world, .park word mask wake (place next))
  | .pause wake next => (world, .pause wake (place next))
  | .finish result => done result

/-- What a party does when it is its turn. -/
inductive Turn (σ ρ : Type)
  | move (move : Move σ ρ)
  /-- Other parties begin, none of them before its time. The party itself
  goes on with their results, in the same order, when all have finished. -/
  | fork (others : List (Instant × σ)) (resume : List ρ → σ)

/-- A turn of a part as a turn of the whole. Parties that a part lets begin
stand beside the whole, not inside it. -/
def Turn.within {ω σ ρ : Type} (world : ω) (turn : Turn σ ρ) (place : σ → σ)
    (done : ρ → ω × Move σ ρ) : ω × Turn σ ρ :=
  match turn with
  | .move m =>
    let (world, m) := m.within world place done
    (world, .move m)
  | .fork others resume => (world, .fork others fun results => place (resume results))

/-- Where a party stands. -/
inductive Party (σ ρ : Type)
  | ready (state : σ)
  | parked (word : FlagWord) (mask : UInt32) (wake : Deadline) (state : σ)
  | pausing (wake : Instant) (state : σ)
  /-- Waiting for `count` parties, from the one with the number `first` on. -/
  | joining (first count : Nat) (resume : List ρ → σ)
  | finished (result : ρ)

namespace Party

variable {σ ρ : Type}

/-- Where a party stands after a move. -/
def ofMove : Move σ ρ → Party σ ρ
  | .go next => ready next
  | .signal _ _ next => ready next
  | .park word mask wake next => parked word mask wake next
  | .pause wake next => pausing wake next
  | .finish result => finished result

/-- Where a party stands after a turn, and those that begin with it, the
first of which gets the number `next`. -/
def ofTurn (next : Nat) : Turn σ ρ → Party σ ρ × List (Party σ ρ)
  | .move m => (ofMove m, [])
  | .fork others resume =>
    (joining next others.length resume, others.map fun (wake, state) => pausing wake state)

/-- The time up to which a party does nothing by itself. -/
def wake? : Party σ ρ → Option Instant
  | ready _ => none
  | parked _ _ wake _ => wake
  | pausing wake _ => some wake
  | joining .. => none
  | finished _ => none

/-- A party whose time has come goes on. -/
def atTime (now : Instant) : Party σ ρ → Party σ ρ
  | parked word mask wake state =>
    if Deadline.expired wake now then ready state else parked word mask wake state
  | pausing wake state => if wake ≤ now then ready state else pausing wake state
  | p => p

/-- A sleeper hears the signals of its word that share a bit with its mask. -/
def hear (word : FlagWord) (mask : UInt32) : Party σ ρ → Party σ ρ
  | parked own bits wake state =>
    if own = word ∧ bits &&& mask ≠ 0 then ready state else parked own bits wake state
  | p => p

def result? : Party σ ρ → Option ρ
  | finished result => some result
  | _ => none

/-- A party that waits for others goes on when all of them have finished. -/
def gather (parties : List (Party σ ρ)) : Party σ ρ → Party σ ρ
  | joining first count resume =>
    match ((parties.drop first).take count).mapM result? with
    | some results => ready (resume results)
    | none => joining first count resume
  | p => p

end Party

/-! ## Scenes -/

/-- A world, the parties that act on it, and whose turn it is. -/
structure Scene (ω σ ρ : Type) where
  now : Instant
  world : ω
  parties : List (Party σ ρ)
  turn : Nat

namespace Scene

variable {ω σ ρ : Type}

/-- The time that an atomic step takes. -/
def stepTime : Duration := 1000

/-- The first party that can run, beginning with the one whose turn it is. -/
def next? (c : Scene ω σ ρ) : Option (Nat × σ) :=
  let n := c.parties.length
  (List.range n).findSome? fun i =>
    match c.parties[(c.turn + i) % n]? with
    | some (.ready state) => some ((c.turn + i) % n, state)
    | _ => none

/-- What a turn means for the other parties. -/
def spread (turn : Turn σ ρ) (p : Party σ ρ) : Party σ ρ :=
  match turn with
  | .move (.signal word mask _) => p.hear word mask
  | _ => p

/-- The earliest time that someone waits for. -/
def earliest? (parties : List (Party σ ρ)) : Option Instant :=
  parties.foldl (fun best p =>
    match best, p.wake? with
    | none, wake => wake
    | best, none => best
    | some a, some b => some (min a b)) none

/-- The parties that can go on by now are ready. -/
def settle (c : Scene ω σ ρ) : Scene ω σ ρ :=
  { c with parties := c.parties.map fun p => (p.atTime c.now).gather c.parties }

/-- One step of the party whose turn it is, or of the clock. Nothing is left
to do when nobody can run and nobody waits for a time. -/
def tick (step : Instant → ω → σ → ω × Turn σ ρ) (c : Scene ω σ ρ) : Option (Scene ω σ ρ) :=
  let c := c.settle
  match c.next? with
  | some (i, state) =>
    let (world, turn) := step c.now c.world state
    let (party, others) := Party.ofTurn c.parties.length turn
    some {
      now := c.now + stepTime
      world
      parties := (c.parties.map (spread turn)).set i party ++ others
      turn := i }
  | none => (earliest? c.parties).map fun wake => { c with now := max c.now wake }

/-- Ticks until nothing is left to do, at most `budget` times. -/
def run (step : Instant → ω → σ → ω × Turn σ ρ) : (budget : Nat) → Scene ω σ ρ → Scene ω σ ρ
  | 0, c => c
  | budget + 1, c =>
    match c.tick step with
    | none => c
    | some c => run step budget c

/-- The scene in which some parties begin, the first of them now. -/
def start (world : ω) (parties : List (Party σ ρ)) : Scene ω σ ρ := ⟨0, world, parties, 0⟩

/-- More ticks than parties take that come to an end. -/
def budget : Nat := 1 <<< 26

end Scene

end SharedQueue
