/-
SharedQueue.Proofs.Sleep — falling asleep and waking up, apart from any queue.

Two parties share a flag word and a counter each. Either waits for one bit
of the word and raises the other one after it moved its counter, and either
sleeps only if what it needs is not there.

* `Phase` — where a party stands, as far as sleeping and waking go.
* `Stride` — what one step of a party can do to the words and its phase.
* `Guarded` — the invariant: a sleeper that could go on is about to be woken,
  and the phases that lead to the sleep prepare for it. It speaks of one
  sleeper and one waker, so two of it hold of two parties.
* `Guarded.own_stride`, `Guarded.other_stride` — it is kept by the steps of
  the one who may sleep, and by those of the one who wakes.
-/
import SharedQueue.EventFlag

namespace SharedQueue

/-! ## Bits of a flag word -/

/-- A bit to wait for and a bit to raise. -/
structure TwoBits (wait notify : UInt32) : Prop where
  /-- A word has the bit or has it not. -/
  whole : ∀ w, w &&& notify = 0 ∨ w &&& notify = notify
  notify_ne_zero : notify ≠ 0
  /-- Clearing the one leaves the other. -/
  beside : ~~~wait &&& notify = notify

namespace TwoBits

variable {wait notify : UInt32}

theorem clear_notify (bits : TwoBits wait notify) (w : UInt32) :
    (w &&& ~~~wait) &&& notify = w &&& notify := by
  rw [UInt32.and_assoc, bits.beside]

theorem raise_notify (bits : TwoBits wait notify) (w : UInt32) :
    (w ||| notify) &&& notify ≠ 0 := by
  rw [or_and_distrib, UInt32.and_self]
  rcases bits.whole w with clear | set
  · rw [clear, UInt32.zero_or]
    exact bits.notify_ne_zero
  · rw [set, UInt32.or_self]
    exact bits.notify_ne_zero

/-- Raising a single bit is followed by waking if the bit was clear. -/
theorem signals_iff (bits : TwoBits wait notify) (w : UInt32) :
    EventFlag.signals w notify = true ↔ w &&& notify = 0 := by
  unfold EventFlag.signals
  rw [bne_iff_ne]
  rcases bits.whole w with clear | set
  · rw [clear]
    simp [bits.notify_ne_zero.symm]
  · rw [set]
    simp [bits.notify_ne_zero]

end TwoBits

theorem and_eq_of_twoPow {mask : UInt32} {i : Nat} (bit : mask.toBitVec = BitVec.twoPow 32 i)
    (w : UInt32) : w &&& mask = 0 ∨ w &&& mask = mask := by
  have cut := BitVec.and_twoPow w.toBitVec i
  rw [← bit] at cut
  split at cut
  · exact .inr (UInt32.toBitVec_inj.mp cut)
  · exact .inl (UInt32.toBitVec_inj.mp cut)

/-- A writer waits for room and announces data. -/
theorem twoBits_writer : TwoBits notFull notEmpty where
  whole := and_eq_of_twoPow (i := 1) (by decide)
  notify_ne_zero := by decide
  beside := by decide

/-- A reader waits for data and announces room. -/
theorem twoBits_reader : TwoBits notEmpty notFull where
  whole := and_eq_of_twoPow (i := 0) (by decide)
  notify_ne_zero := by decide
  beside := by decide

/-! ## Steps -/

/-- Where a party stands. -/
inductive Phase
  /-- Nowhere near the flag, or about to try again. -/
  | busy
  /-- The counter was moved, the bit not yet raised. -/
  | raising
  /-- The bit was clear and is raised, the sleepers not yet woken. -/
  | signalling
  /-- The same after the bit was raised once more. -/
  | resignalling
  /-- The word was seen without the bit. -/
  | looked (seen : UInt32)
  /-- And then the other party's counter was seen. -/
  | counted (seen : UInt32) (other : UInt64)
  /-- There was too little: before comparing the word and sleeping. -/
  | parking (seen : UInt32)
  | asleep
deriving DecidableEq

/-- The shared words, as one of the parties looks at them. -/
structure Sight where
  bits : UInt32
  own : UInt64
  other : UInt64

namespace Sight

/-- The same words for the other party. -/
def swap (v : Sight) : Sight := ⟨v.bits, v.other, v.own⟩

end Sight

namespace Phase

/-- Where a party stands after a step of the other one, which may have woken
the sleepers. -/
def hear (signal : Bool) : Phase → Phase
  | asleep => if signal then busy else asleep
  | p => p

/-- Between having moved the counter and having woken the sleepers. -/
def announcing : Phase → Bool
  | raising | signalling | resignalling => true
  | _ => false

@[simp] theorem hear_false (p : Phase) : p.hear false = p := by
  cases p <;> rfl

end Phase

/-- One step of a party, which waits for one bit and raises the other, and
has enough or not depending on the two counters. The last value says whether
the step wakes the sleepers. -/
inductive Stride (wait notify : UInt32) (enough : UInt64 → UInt64 → Prop) (v : Sight) :
    Phase → Sight → Phase → Bool → Prop
  | move (own : UInt64) : Stride wait notify enough v .busy { v with own } .raising false
  | raise : Stride wait notify enough v .raising { v with bits := v.bits ||| notify }
      (if EventFlag.signals v.bits notify then .signalling else .busy) false
  | signal : Stride wait notify enough v .signalling v .busy true
  | raiseAgain : Stride wait notify enough v .busy { v with bits := v.bits ||| notify }
      (if EventFlag.signals v.bits notify then .resignalling else .busy) false
  | signalAgain : Stride wait notify enough v .resignalling v .busy true
  | clear : Stride wait notify enough v .busy { v with bits := v.bits &&& ~~~wait } .busy false
  | look (unset : v.bits &&& wait = 0) :
      Stride wait notify enough v .busy v (.looked v.bits) false
  /-- Sees its own counter, which nobody else moves. -/
  | reckon (seen : UInt32) : Stride wait notify enough v (.looked seen) v (.looked seen) false
  | count (seen : UInt32) :
      Stride wait notify enough v (.looked seen) v (.counted seen v.other) false
  /-- Decides with the counter that was seen before. -/
  | judge (seen : UInt32) (other : UInt64) (short : ¬ enough v.own other) :
      Stride wait notify enough v (.counted seen other) v (.parking seen) false
  /-- Sees the counter and decides at once. -/
  | judgeNow (seen : UInt32) (short : ¬ enough v.own v.other) :
      Stride wait notify enough v (.looked seen) v (.parking seen) false
  | sleep : Stride wait notify enough v (.parking v.bits) v .asleep false
  /-- Works on, tries again, gives up, or wakes up. -/
  | back (p : Phase) (quiet : p.announcing = false) : Stride wait notify enough v p v .busy false

/-- Nobody moves the other one's counter. -/
theorem Stride.other_eq {wait notify : UInt32} {enough : UInt64 → UInt64 → Prop} {v v' : Sight}
    {p p' : Phase} {signal : Bool} (stride : Stride wait notify enough v p v' p' signal) :
    v'.other = v.other := by
  cases stride <;> rfl

/-! ## The invariant -/

/-- Whoever waits for the bit sleeps only if it has too little, or the other
one is about to wake it. The other one can be relied on to do so as long as
the bit is clear: raising it is then followed by waking. -/
def Guarded (wait : UInt32) (enough : UInt64 → UInt64 → Prop) (v : Sight) :
    (sleeper waker : Phase) → Prop
  | .busy, _ | .raising, _ | .signalling, _ | .resignalling, _ => True
  | .looked seen, _ => seen &&& wait = 0
  | .counted seen other, waker =>
    seen &&& wait = 0 ∧ (other = v.other ∨ v.bits &&& wait ≠ 0 ∨ waker = .raising)
  | .parking seen, waker =>
    seen &&& wait = 0 ∧ (enough v.own v.other → v.bits &&& wait ≠ 0 ∨ waker = .raising)
  | .asleep, waker =>
    (enough v.own v.other → waker = .raising ∨ waker = .signalling) ∧
      (v.bits &&& wait ≠ 0 → waker = .signalling ∨ waker = .resignalling)

namespace Guarded

variable {wait notify : UInt32} {enough enough' : UInt64 → UInt64 → Prop} {v v' : Sight}
  {p p' q q' : Phase} {signal : Bool}

/-- A step of the one who may sleep. -/
theorem own_stride (guarded : Guarded wait enough v p q)
    (stride : Stride wait notify enough v p v' p' signal) :
    Guarded wait enough v' p' (q.hear signal) := by
  cases stride with
  | raise => split <;> trivial
  | raiseAgain => split <;> trivial
  | move | signal | signalAgain | clear | back => trivial
  | look unset => exact unset
  | reckon seen => exact guarded
  | count seen => exact ⟨guarded, .inl rfl⟩
  | judge seen other short =>
    obtain ⟨unset, known⟩ := guarded
    rw [Phase.hear_false]
    refine ⟨unset, fun able => ?_⟩
    rcases known with same | late
    · subst same
      exact absurd able short
    · exact late
  | judgeNow seen short => exact ⟨guarded, fun able => absurd able short⟩
  | sleep =>
    -- the word is the one that was seen, so the bit is clear at this moment
    obtain ⟨unset, late⟩ := guarded
    rw [Phase.hear_false]
    refine ⟨fun able => ?_, fun set => absurd unset set⟩
    rcases late able with set | raising
    · exact absurd unset set
    · exact .inl raising

/-- Nothing changes for the sleeper: neither the bit that it waits for, nor the
counters, and the other party is not in the middle of an announcement. -/
theorem of_quiet (guarded : Guarded wait enough v p q) (quiet : q.announcing = false)
    (bit : v'.bits &&& wait = v.bits &&& wait) (own : v'.own = v.own)
    (other : v'.other = v.other) : Guarded wait enough v' p q' := by
  have calm : q ≠ .raising ∧ q ≠ .signalling ∧ q ≠ .resignalling := by
    refine ⟨?_, ?_, ?_⟩ <;> rintro rfl <;> cases quiet
  obtain ⟨noRaise, noSignal, noResignal⟩ := calm
  cases p with
  | looked seen => exact guarded
  | counted seen counter =>
    simp only [Guarded, noRaise, or_false] at guarded
    simp only [Guarded, bit, other]
    exact ⟨guarded.1, guarded.2.imp_right .inl⟩
  | parking seen =>
    simp only [Guarded, noRaise, or_false] at guarded
    simp only [Guarded, bit, own, other]
    exact ⟨guarded.1, fun able => .inl (guarded.2 able)⟩
  | asleep =>
    simp only [Guarded, noRaise, noSignal, noResignal, or_false, imp_false] at guarded
    simp only [Guarded, bit, own, other]
    exact ⟨fun able => absurd able guarded.1, fun set => absurd set guarded.2⟩
  | _ => trivial

/-- The sleepers are woken. -/
theorem of_signal (guarded : Guarded wait enough v p q) (done : q ≠ .raising) :
    Guarded wait enough v (p.hear true) .busy := by
  cases p with
  | looked seen => exact guarded
  | counted seen counter =>
    simp only [Guarded, done, or_false] at guarded
    exact ⟨guarded.1, guarded.2.imp_right .inl⟩
  | parking seen =>
    simp only [Guarded, done, or_false] at guarded
    exact ⟨guarded.1, fun able => .inl (guarded.2 able)⟩
  | _ => trivial

/-- The bit is raised. From now on nobody falls asleep, and if someone sleeps,
then the bit was clear. -/
theorem of_raise (bits : TwoBits wait notify) {again : Phase}
    (guarded : Guarded notify enough v p q)
    (calm : q ≠ .signalling ∧ q ≠ .resignalling)
    (goes : v.bits &&& notify = 0 →
      again = .signalling ∨ q ≠ .raising ∧ again = .resignalling) :
    Guarded notify enough { v with bits := v.bits ||| notify } p again := by
  have set := bits.raise_notify v.bits
  cases p with
  | looked seen => exact guarded
  | counted seen counter => exact ⟨guarded.1, .inr (.inl set)⟩
  | parking seen => exact ⟨guarded.1, fun _ => .inl set⟩
  | asleep =>
    obtain ⟨noSignal, noResignal⟩ := calm
    simp only [Guarded, noSignal, noResignal, or_false, imp_false, Decidable.not_not] at guarded
    obtain ⟨announced, clear⟩ := guarded
    rcases goes clear with signalling | ⟨noRaise, resignalling⟩
    · exact ⟨fun _ => .inr signalling, fun _ => .inl signalling⟩
    · exact ⟨fun able => absurd (announced able) noRaise, fun _ => .inr resignalling⟩
  | _ => trivial

/-- A step of the one who wakes. -/
theorem other_stride (bits : TwoBits wait notify)
    (guarded : Guarded notify enough' v.swap q p)
    (stride : Stride wait notify enough v p v' p' signal) :
    Guarded notify enough' v'.swap (q.hear signal) p' := by
  cases stride with
  | move own =>
    -- whoever sleeps has not been raised for, so the raising to come will wake it
    rw [Phase.hear_false]
    cases q with
    | looked seen => exact guarded
    | counted seen counter => exact ⟨guarded.1, .inr (.inr rfl)⟩
    | parking seen => exact ⟨guarded.1, fun _ => .inr rfl⟩
    | asleep =>
      have clear : ¬ v.swap.bits &&& notify ≠ 0 := by simpa [Guarded] using guarded.2
      exact ⟨fun _ => .inl rfl, fun set => absurd set clear⟩
    | _ => trivial
  | raise =>
    rw [Phase.hear_false]
    refine guarded.of_raise bits (by simp) fun clear => .inl ?_
    exact if_pos ((bits.signals_iff _).mpr clear)
  | raiseAgain =>
    rw [Phase.hear_false]
    refine guarded.of_raise bits (by simp) fun clear => .inr ⟨by simp, ?_⟩
    exact if_pos ((bits.signals_iff _).mpr clear)
  | signal => exact guarded.of_signal (by simp)
  | signalAgain => exact guarded.of_signal (by simp)
  | clear =>
    rw [Phase.hear_false]
    exact guarded.of_quiet rfl (bits.clear_notify _) rfl rfl
  | look | reckon | count | judge | judgeNow | sleep =>
    rw [Phase.hear_false]
    exact guarded.of_quiet rfl rfl rfl rfl
  | back p quiet =>
    rw [Phase.hear_false]
    exact guarded.of_quiet quiet rfl rfl rfl

end Guarded

end SharedQueue
