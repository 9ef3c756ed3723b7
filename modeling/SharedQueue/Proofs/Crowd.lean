/-
SharedQueue.Proofs.Crowd — any number of parties on one flag word.

* `Caller` — a party, the call that it makes, and the word that the call found
  when it raised or cleared bits.
* `Crowd` — a store and its callers; `Crowd.Step` — one of them begins a call,
  takes one step of it, or is woken by the clock or for no reason. Steps come
  in any order.
* `Caller.Fits` — what holds of one caller by itself: whoever is about to sleep
  saw none of its bits, and whoever is about to wake the others found one of
  its bits clear.
* `FlagCall.Touch` — what one step of a call can do to the word.
* `Crowd.Guarded` — the invariant: for every bit that a sleeper waits for and
  that is set, some caller still owes the wakeup.
* `Crowd.sleeper_not_stranded` — so it is in every reachable state.

The rule that spares a waker the wakeup when its bits were all set before rests
on this: a bit that is set while somebody sleeps on it was raised after the
sleep began, and then it was clear.
-/
import SharedQueue.Call.Flag
import SharedQueue.Proofs.Calls

namespace SharedQueue

/-! ## Bits of a word -/

/-- The bit of a word. -/
def bitOf (w : UInt32) (b : Nat) : Bool := w.toNat.testBit b

@[simp] theorem bitOf_zero (b : Nat) : bitOf 0 b = false := by
  simp [bitOf]

@[simp] theorem bitOf_or (v w : UInt32) (b : Nat) :
    bitOf (v ||| w) b = (bitOf v b || bitOf w b) := by
  simp [bitOf]

@[simp] theorem bitOf_and (v w : UInt32) (b : Nat) :
    bitOf (v &&& w) b = (bitOf v b && bitOf w b) := by
  simp [bitOf]

theorem and_ne_zero_of_bitOf {v w : UInt32} {b : Nat} (left : bitOf v b = true)
    (right : bitOf w b = true) : v &&& w ≠ 0 := by
  intro disjoint
  have both : bitOf (v &&& w) b = true := by simp [left, right]
  simp [disjoint] at both

/-- Raising bits of which one was clear is followed by waking. -/
theorem EventFlag.signals_of_bitOf {before mask : UInt32} {b : Nat} (bit : bitOf mask b = true)
    (clear : bitOf before b = false) : EventFlag.signals before mask = true := by
  unfold EventFlag.signals
  rw [bne_iff_ne]
  intro all
  have both : bitOf (before &&& mask) b = true := by rw [all, bit]
  simp [clear] at both

/-! ## Callers -/

/-- A party that makes one call after the other on a flag word. -/
structure Caller where
  /-- The call that it makes, or made last. -/
  call : FlagCall
  party : Party FlagPoint FlagCall.Answer
  /-- The word as the call found it when it raised or cleared bits. -/
  found : UInt32

namespace Caller

/-- A caller begins a call. -/
def begin (c : Caller) (call : FlagCall) : Caller :=
  { c with call, party := .ofMove call.start }

/-- The caller after a step of its call, which saw the word. -/
def advance (c : Caller) (p : FlagPoint) (bits : UInt32) (move : Move FlagPoint FlagCall.Answer) :
    Caller :=
  { c with party := .ofMove move, found := if p = .begin then bits else c.found }

/-- The caller after a step of another one. -/
def hear (c : Caller) (move : Move FlagPoint FlagCall.Answer) : Caller :=
  { c with party := move.heard c.party }

/-- What holds of a caller by itself. -/
def Fits (w : FlagWord) (c : Caller) : Prop :=
  match c.party with
  | .ready (.expire seen) | .ready (.park seen) =>
    ∃ mask deadline consume, c.call = .wait mask deadline consume ∧ seen &&& mask = 0
  | .ready .signal => ∃ mask, c.call = .wake mask ∧ EventFlag.signals c.found mask = true
  | .parked word mask _ p =>
    word = w ∧ p = .look ∧ ∃ deadline consume, c.call = .wait mask deadline consume
  | _ => True

/-- The caller has raised the bit among others, found that one of them was
clear, and has not yet woken the sleepers. -/
def Owes (c : Caller) (b : Nat) : Prop :=
  c.party = .ready .signal ∧ ∃ mask, c.call = .wake mask ∧ bitOf mask b = true ∧
    EventFlag.signals c.found mask = true

variable {w : FlagWord} {c : Caller} {b : Nat}

theorem fits_begin (w : FlagWord) (c : Caller) (call : FlagCall) : (c.begin call).Fits w := by
  cases call <;> simp only [begin, FlagCall.start] <;> (try split) <;> trivial

theorem not_parked_begin (c : Caller) (call : FlagCall) {word : FlagWord} {mask : UInt32}
    {wake : Deadline} {p : FlagPoint} : (c.begin call).party ≠ .parked word mask wake p := by
  cases call <;> simp only [begin, FlagCall.start] <;> (try split) <;> nofun

theorem Fits.hear (fits : c.Fits w) (move : Move FlagPoint FlagCall.Answer) :
    (c.hear move).Fits w := by
  obtain ⟨call, party, found⟩ := c
  cases move with
  | signal word mask next =>
    cases party with
    | parked own bits wake p =>
      obtain ⟨rfl, rfl, waits⟩ := fits
      show Fits own ⟨call, if _ then _ else _, found⟩
      split
      · trivial
      · exact ⟨rfl, rfl, waits⟩
    | _ => exact fits
  | _ => exact fits

theorem Owes.hear (owes : c.Owes b) (move : Move FlagPoint FlagCall.Answer) :
    (c.hear move).Owes b := by
  obtain ⟨ready, rest⟩ := owes
  refine ⟨?_, rest⟩
  simp only [Caller.hear, ready]
  cases move <;> rfl

/-- Whoever sleeps after the step of another one has slept before, and has not
been woken by it. -/
theorem parked_of_hear {move : Move FlagPoint FlagCall.Answer} {word : FlagWord} {mask : UInt32}
    {wake : Deadline} {p : FlagPoint} (asleep : (c.hear move).party = .parked word mask wake p) :
    c.party = .parked word mask wake p ∧
      ∀ m next, move = .signal word m next → mask &&& m = 0 := by
  obtain ⟨call, party, found⟩ := c
  cases move with
  | signal place m next =>
    cases party with
    | parked own bits until_ q =>
      simp only [hear, Move.heard, Party.hear] at asleep
      split at asleep
      · cases asleep
      · rename_i quiet
        cases asleep
        refine ⟨rfl, ?_⟩
        rintro m next ⟨⟩
        simpa using quiet
    | _ => cases asleep
  | _ => exact ⟨asleep, nofun⟩

end Caller

/-! ## Steps of a call -/

namespace FlagCall

/-- What a step can do to the word, given the bits that it had: nothing unless
it raises or clears bits. -/
inductive Touch (w : FlagWord) (bits : UInt32) :
    FlagCall → FlagPoint → UInt32 → Move FlagPoint Answer → Prop
  | raise (mask : UInt32) : Touch w bits (.wake mask) .begin (bits ||| mask)
      (if EventFlag.signals bits mask then .go .signal else .finish (.ok none))
  | signal (mask : UInt32) : Touch w bits (.wake mask) .signal bits (.signal w mask .done)
  | clear (mask : UInt32) (p : FlagPoint) : Touch w bits (.clear mask) p (bits &&& ~~~mask)
      (.finish (.ok (some (bits &&& mask))))
  | miss {mask : UInt32} (deadline : Deadline) (consume : Bool) (unset : bits &&& mask = 0) :
      Touch w bits (.wait mask deadline consume) .look bits (.go (.expire bits))
  | stay {mask : UInt32} (deadline : Deadline) (consume : Bool) (seen : UInt32) :
      Touch w bits (.wait mask deadline consume) (.expire seen) bits (.go (.park seen))
  | sleep {mask : UInt32} (deadline : Deadline) (consume : Bool) :
      Touch w bits (.wait mask deadline consume) (.park bits) bits (.park w mask deadline .look)
  | consume {mask : UInt32} (deadline : Deadline) (consume : Bool) (seen : UInt32) :
      Touch w bits (.wait mask deadline consume) (.consume seen) (bits &&& ~~~(seen &&& mask))
        (.finish (.ok (some seen)))
  /-- Looks again, is done, or gives up. -/
  | rest {call : FlagCall} {p : FlagPoint} (quiet : ∀ mask, call = .wake mask → p ≠ .signal)
      {move : Move FlagPoint Answer}
      (calm : move = .go .look ∨ (∃ seen, move = .go (.consume seen)) ∨
        ∃ answer, move = .finish answer) : Touch w bits call p bits move

theorem touch (call : FlagCall) {w : FlagWord} {s : Store} (mapped : w.memory < s.memories.size)
    (now : Instant) (p : FlagPoint) :
    Touch w (s.wordBits w) call p ((call.step w now s p).1.wordBits w) (call.step w now s p).2 := by
  have raised := Store.wordBits_raiseWord mapped
  have cleared := Store.wordBits_clearWord mapped
  cases call with
  | wake mask =>
    cases p with
    | begin => simpa only [step, raised] using .raise mask
    | signal => exact .signal mask
    | _ => exact .rest (by simp) (.inr (.inr ⟨_, rfl⟩))
  | clear mask =>
    cases p <;> simpa only [step, cleared] using .clear mask _
  | wait mask deadline consume =>
    cases p with
    | look =>
      simp only [step]
      split
      · rename_i unset
        exact .miss deadline consume unset
      · split
        · exact .rest (by simp) (.inr (.inl ⟨_, rfl⟩))
        · exact .rest (by simp) (.inr (.inr ⟨_, rfl⟩))
    | expire seen =>
      simp only [step]
      split
      · exact .rest (by simp) (.inr (.inr ⟨_, rfl⟩))
      · exact .stay deadline consume seen
    | park seen =>
      simp only [step]
      split
      · rename_i same
        subst same
        exact .sleep deadline consume
      · exact .rest (by simp) (.inl rfl)
    | consume seen => simpa only [step, cleared] using .consume deadline consume seen
    | _ => exact .rest (by simp) (.inl rfl)

theorem size_step (call : FlagCall) (w : FlagWord) (now : Instant) (s : Store) (p : FlagPoint) :
    (call.step w now s p).1.memories.size = s.memories.size := by
  cases call <;> cases p <;> simp [step]

end FlagCall

namespace Caller

variable {w : FlagWord} {c : Caller} {b : Nat} {p : FlagPoint} {bits bits' : UInt32}
  {move : Move FlagPoint FlagCall.Answer}

theorem fits_advance (fits : c.Fits w) (ready : c.party = .ready p)
    (touch : FlagCall.Touch w bits c.call p bits' move) : (c.advance p bits move).Fits w := by
  obtain ⟨call, party, found⟩ := c
  simp only at ready touch
  subst ready
  cases touch with
  | raise mask =>
    simp only [advance]
    split
    · rename_i signals
      exact ⟨mask, rfl, by simpa using signals⟩
    · trivial
  | miss deadline consume unset => exact ⟨_, deadline, consume, rfl, unset⟩
  | stay deadline consume seen => exact fits
  | sleep deadline consume => exact ⟨rfl, rfl, deadline, consume, rfl⟩
  | rest quiet calm =>
    obtain rfl | ⟨seen, rfl⟩ | ⟨answer, rfl⟩ := calm <;> trivial
  | _ => trivial

/-- A bit that is set after a step was set before, or the one who raised it
owes the wakeup. -/
theorem owes_of_raised (touch : FlagCall.Touch w bits c.call p bits' move)
    (clear : bitOf bits b = false) (set : bitOf bits' b = true) :
    (c.advance p bits move).Owes b := by
  obtain ⟨call, party, found⟩ := c
  cases touch with
  | raise mask =>
    have bit : bitOf mask b = true := by simpa [clear] using set
    have signals := EventFlag.signals_of_bitOf bit clear
    simp only [advance, signals]
    exact ⟨rfl, mask, rfl, bit, by simpa using signals⟩
  | clear mask | consume deadline consume seen => simp [clear] at set
  | _ => simp [clear] at set

/-- Whoever owes a wakeup wakes the sleepers with its next step. -/
theorem Owes.signals (owes : c.Owes b) (ready : c.party = .ready p)
    (touch : FlagCall.Touch w bits c.call p bits' move) :
    ∃ mask, move = .signal w mask .done ∧ bitOf mask b = true := by
  obtain ⟨signalling, mask, call, bit, -⟩ := owes
  obtain ⟨own, party, found⟩ := c
  simp only at ready signalling call touch
  subst call
  subst ready
  cases signalling
  cases touch with
  | signal => exact ⟨mask, rfl, bit⟩
  | rest quiet calm => exact absurd rfl (quiet mask rfl)

/-- Whoever falls asleep sees none of its bits at that moment. -/
theorem unset_of_sleep (fits : c.Fits w) (ready : c.party = .ready p)
    (touch : FlagCall.Touch w bits c.call p bits' move) {word : FlagWord} {mask : UInt32}
    {wake : Deadline} {next : FlagPoint}
    (asleep : (c.advance p bits move).party = .parked word mask wake next) :
    bits' &&& mask = 0 := by
  obtain ⟨call, party, found⟩ := c
  simp only at ready touch
  subst ready
  cases touch with
  | raise mask =>
    simp only [advance] at asleep
    split at asleep <;> cases asleep
  | sleep deadline consume =>
    obtain ⟨mask, deadline, consume, same, unset⟩ := fits
    cases same
    cases asleep
    exact unset
  | rest quiet calm =>
    obtain rfl | ⟨seen, rfl⟩ | ⟨answer, rfl⟩ := calm <;> cases asleep
  | _ => cases asleep

end Caller

/-! ## The crowd -/

/-- A store, and callers on a flag word in it. -/
structure Crowd (ι : Type) where
  store : Store
  callers : ι → Caller

namespace Crowd

variable {ι : Type} [DecidableEq ι] {w : FlagWord} {s : Store} {c c' : Crowd ι} {i : ι}

/-- One step of a caller. -/
def act (w : FlagWord) (c : Crowd ι) (i : ι) (now : Instant) (p : FlagPoint) : Crowd ι :=
  let next := (c.callers i).call.step w now c.store p
  { store := next.1
    callers := fun j =>
      if j = i then (c.callers i).advance p (c.store.wordBits w) next.2
      else (c.callers j).hear next.2 }

/-- A caller is replaced. -/
def put (c : Crowd ι) (i : ι) (caller : Caller) : Crowd ι :=
  { c with callers := Function.update c.callers i caller }

/-- A caller begins a call. -/
def begin (c : Crowd ι) (i : ι) (call : FlagCall) : Crowd ι := c.put i ((c.callers i).begin call)

/-- One step. A sleeper may wake up at any time. -/
inductive Step (w : FlagWord) (c : Crowd ι) : Crowd ι → Prop
  | begin {i : ι} {answer : FlagCall.Answer} (between : (c.callers i).party = .finished answer)
    (call : FlagCall) : Step w c (c.begin i call)
  | act {i : ι} {p : FlagPoint} (ready : (c.callers i).party = .ready p) (now : Instant) :
    Step w c (c.act w i now p)
  | rouse {i : ι} {word : FlagWord} {mask : UInt32} {wake : Deadline} {p : FlagPoint}
    (asleep : (c.callers i).party = .parked word mask wake p) :
    Step w c (c.put i { c.callers i with party := .ready p })

/-- Nobody has begun. -/
def start (s : Store) : Crowd ι := ⟨s, fun _ => ⟨.clear 0, .finished (.ok none), 0⟩⟩

/-- What comes of callers on the word. -/
inductive Reachable (w : FlagWord) (s : Store) : Crowd ι → Prop
  | start : Reachable w s (start s)
  | next {c c' : Crowd ι} (before : Reachable w s c) (step : Step w c c') : Reachable w s c'

/-- For every bit that a sleeper waits for and that is set, somebody owes the
wakeup. -/
def Guarded (w : FlagWord) (c : Crowd ι) : Prop :=
  ∀ i {word mask wake p}, (c.callers i).party = .parked word mask wake p →
    ∀ b, bitOf mask b = true → bitOf (c.store.wordBits w) b = true → ∃ j, (c.callers j).Owes b

/-- The word is there, everybody stands where it is expected, and no sleeper is
forgotten. -/
structure Holds (w : FlagWord) (c : Crowd ι) : Prop where
  mapped : w.memory < c.store.memories.size
  fits : ∀ i, (c.callers i).Fits w
  guarded : c.Guarded w

omit [DecidableEq ι] in
theorem holds_start (mapped : w.memory < s.memories.size) : Holds w (start s : Crowd ι) :=
  ⟨mapped, fun _ => trivial, nofun⟩

/-- A caller that neither sleeps nor owed anything is replaced by one that does
not sleep. -/
theorem Holds.put (holds : c.Holds w) {caller : Caller} (fits : caller.Fits w)
    (awake : ∀ {word mask wake p}, caller.party ≠ .parked word mask wake p)
    (free : (c.callers i).party ≠ .ready .signal) : (c.put i caller).Holds w := by
  refine ⟨holds.mapped, fun j => ?_, fun j word mask wake p asleep b bit set => ?_⟩
  · by_cases same : j = i
    · subst same
      simpa [Crowd.put] using fits
    · simpa [Crowd.put, same] using holds.fits j
  · have other : j ≠ i := by
      rintro rfl
      simp only [Crowd.put, Function.update_self] at asleep
      exact awake asleep
    simp only [Crowd.put, Function.update_of_ne other] at asleep
    obtain ⟨k, owes⟩ := holds.guarded j asleep b bit set
    have still : k ≠ i := by
      rintro rfl
      exact free owes.1
    exact ⟨k, by simpa [Crowd.put, still] using owes⟩

theorem Holds.act (holds : c.Holds w) {p : FlagPoint} (ready : (c.callers i).party = .ready p)
    (now : Instant) : (c.act w i now p).Holds w := by
  have touch := (c.callers i).call.touch holds.mapped now p
  have size := (c.callers i).call.size_step w now c.store p
  unfold Crowd.act
  -- from here on only what `touch` says about the step counts
  generalize (c.callers i).call.step w now c.store p = next at touch size
  refine ⟨?_, fun j => ?_, fun j word mask wake q asleep b bit set => ?_⟩
  · rw [size]
    exact holds.mapped
  · dsimp only
    split
    · exact Caller.fits_advance (holds.fits i) ready touch
    · exact (holds.fits j).hear _
  · dsimp only at asleep set ⊢
    cases before : bitOf (c.store.wordBits w) b with
    | false => exact ⟨i, by simpa using Caller.owes_of_raised touch before set⟩
    | true =>
      by_cases same : j = i
      · -- it has just fallen asleep, so the bit was clear
        rw [if_pos same] at asleep
        have unset := Caller.unset_of_sleep (holds.fits i) ready touch asleep
        exact absurd unset (and_ne_zero_of_bitOf set bit)
      · rw [if_neg same] at asleep
        obtain ⟨slept, unheard⟩ := Caller.parked_of_hear asleep
        obtain ⟨k, owes⟩ := holds.guarded j slept b bit before
        by_cases waker : k = i
        · -- the one who owed the wakeup has paid, so the sleeper is awake
          subst waker
          obtain ⟨m, signal, shared⟩ := owes.signals ready touch
          have fits := holds.fits j
          simp only [Caller.Fits, slept] at fits
          have apart := unheard m .done (by rw [signal, fits.1])
          exact absurd apart (and_ne_zero_of_bitOf bit shared)
        · exact ⟨k, by simpa [waker] using owes.hear next.2⟩

theorem Holds.step (holds : c.Holds w) (step : Step w c c') : c'.Holds w := by
  cases step with
  | begin between call =>
    exact holds.put (Caller.fits_begin ..) (Caller.not_parked_begin _ call) (by simp [between])
  | act ready now => exact holds.act ready now
  | @rouse i word mask wake p asleep =>
    have fits := holds.fits i
    simp only [Caller.Fits, asleep] at fits
    obtain ⟨-, rfl, -⟩ := fits
    exact holds.put trivial nofun (by simp [asleep])

theorem holds_reachable (mapped : w.memory < s.memories.size) (reach : Reachable w s c) :
    c.Holds w := by
  induction reach with
  | start => exact holds_start mapped
  | next before step ih => exact ih.step step

/-! ## No sleeper is stranded -/

/-- Whoever owes a sleeper the wakeup pays with its next step. -/
theorem Holds.woken (holds : c.Holds w) {j : ι} {word : FlagWord} {mask : UInt32} {wake : Deadline}
    {p : FlagPoint} {b : Nat} (asleep : (c.callers i).party = .parked word mask wake p)
    (bit : bitOf mask b = true) (owes : (c.callers j).Owes b) (now : Instant) :
    ((c.act w j now .signal).callers i).party = .ready .look := by
  have other : i ≠ j := by
    rintro rfl
    rw [owes.1] at asleep
    cases asleep
  have fits := holds.fits i
  simp only [Caller.Fits, asleep] at fits
  obtain ⟨rfl, rfl, -⟩ := fits
  obtain ⟨m, signal, shared⟩ :=
    owes.signals owes.1 ((c.callers j).call.touch holds.mapped now .signal)
  simp only [Crowd.act, if_neg other, Caller.hear, signal, asleep, Move.heard, Party.hear]
  rw [if_pos ⟨trivial, and_ne_zero_of_bitOf bit shared⟩]

/-- No sleeper is stranded. While a caller sleeps in a call that waits for the
bits of `mask`, and one of them is set, another caller whose mask has the bit
has raised it, found one of its bits clear, and has yet to wake the sleepers;
its next step wakes this one. -/
theorem sleeper_not_stranded (mapped : w.memory < s.memories.size) (reach : Reachable w s c)
    {mask : UInt32} {deadline wake : Deadline} {consume : Bool} {word : FlagWord} {p : FlagPoint}
    {m : UInt32} (call : (c.callers i).call = .wait mask deadline consume)
    (asleep : (c.callers i).party = .parked word m wake p) {b : Nat} (bit : bitOf mask b = true)
    (set : bitOf (c.store.wordBits w) b = true) :
    ∃ j mask', (c.callers j).call = .wake mask' ∧ bitOf mask' b = true ∧
      (c.callers j).party = .ready .signal ∧
      EventFlag.signals (c.callers j).found mask' = true ∧
      ∀ now, ((c.act w j now .signal).callers i).party = .ready .look := by
  have holds := holds_reachable mapped reach
  have fits := holds.fits i
  simp only [Caller.Fits, asleep] at fits
  obtain ⟨-, -, _, _, same⟩ := fits
  obtain ⟨rfl, -, -⟩ := FlagCall.wait.inj (call.symm.trans same)
  obtain ⟨j, owes⟩ := holds.guarded i asleep b bit set
  obtain ⟨signalling, mask', wakes, shared, signals⟩ := owes
  exact ⟨j, mask', wakes, shared, signalling, signals,
    holds.woken asleep bit ⟨signalling, mask', wakes, shared, signals⟩⟩

/-- A flag word in a memory of its own. -/
def loneWord : FlagWord := ⟨0, 0⟩

/-- The store with nothing in it but that word. -/
def loneStore : Store := ⟨#[.blank 4], [("flag", 0)], 0⟩

/-- One party has set bit 1, the other sleeps until bit 0 is set, and now the
first has raised both. -/
def halfWoken : Crowd Bool :=
  (start loneStore).begin true (.wake 2)
    |>.act loneWord true 0 .begin
    |>.act loneWord true 0 .signal
    |>.act loneWord true 0 .done
    |>.begin false (.wait 1 none true)
    |>.act loneWord false 0 .look
    |>.act loneWord false 0 (.expire 2)
    |>.act loneWord false 0 (.park 2)
    |>.begin true (.wake 3)
    |>.act loneWord true 0 .begin

theorem reachable_halfWoken : Reachable loneWord loneStore halfWoken := by
  have between : Party.finished (.ok none) = (.finished (.ok none) : Party FlagPoint FlagCall.Answer) :=
    rfl
  unfold halfWoken
  refine .next ?_ (.act rfl 0)
  refine .next ?_ (.begin between _)
  iterate 3 refine .next ?_ (.act rfl 0)
  refine .next ?_ (.begin between _)
  iterate 3 refine .next ?_ (.act rfl 0)
  exact .next .start (.begin between _)

theorem sleeper_not_stranded_halfWoken :
    (halfWoken.callers false).call = .wait 1 none true ∧
      (halfWoken.callers false).party = .parked loneWord 1 none .look ∧
      bitOf (halfWoken.store.wordBits loneWord) 0 = true ∧
      ∃ j mask', (halfWoken.callers j).call = .wake mask' ∧ bitOf mask' 0 = true ∧
        (halfWoken.callers j).party = .ready .signal ∧
        EventFlag.signals (halfWoken.callers j).found mask' = true ∧
        ∀ now, ((halfWoken.act loneWord j now .signal).callers false).party = .ready .look := by
  have mapped : loneWord.memory < loneStore.memories.size := by decide
  have call : (halfWoken.callers false).call = .wait 1 none true := rfl
  have asleep : (halfWoken.callers false).party = .parked loneWord 1 none .look := rfl
  have set : bitOf (halfWoken.store.wordBits loneWord) 0 = true := rfl
  exact ⟨call, asleep, set,
    sleeper_not_stranded mapped reachable_halfWoken call asleep (by decide) set⟩

end Crowd

end SharedQueue
